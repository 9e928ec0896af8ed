/-
  UserPlane.Proofs.Pool.Grants
  ────────────────────────────
  **NOTHING IS HANDED OUT TWICE.**

  The numbers that a cursor has out and those that it got back are the numbers
  from its first up to its next, each once (`Cursor.Issued`).  So no number is
  held twice, and as all numbers of a pool fit the width of what they stand
  for, no address is held by two keys, and no tunnel id by two rules.

      Pools.Sound            what the pools have out, they have out once
      Pools.HoldsIp          a key holds an address
      Pools.HoldsTeid        a rule of a key holds a tunnel id
      Pools.Grows            handing out takes nothing from anybody
-/
import UserPlane.Proofs.Pool

namespace UserPlane

/-! ## §1. Cursors. -/

namespace Cursor

/-- The numbers that are out and those that came back are all from the first up
to the next, each once. -/
structure Issued (c : Cursor) (first : Nat) (out : Multiset Nat) : Prop where
  all : out + (c.released : Multiset Nat) = (List.range' first (c.next - first) : Multiset Nat)
  first_le : first ≤ c.next
  next_le : c.next ≤ max first c.stop

variable {c c' : Cursor} {first n : Nat} {out : Multiset Nat}

theorem Issued.nodup (h : c.Issued first out) : out.Nodup := by
  have hall : (out + (c.released : Multiset Nat)).Nodup := by
    rw [h.all]
    exact Multiset.coe_nodup.mpr List.nodup_range'
  exact (Multiset.nodup_add.mp hall).1

theorem Issued.lt_stop (h : c.Issued first out) (hn : n ∈ out) : n < c.stop := by
  have hmem : n ∈ out + (c.released : Multiset Nat) := Multiset.mem_add.mpr (.inl hn)
  rw [h.all, Multiset.mem_coe, List.mem_range'_1] at hmem
  have hnext := h.next_le
  omega

theorem issued_new (first stop : Nat) : ({ next := first, stop } : Cursor).Issued first 0 where
  all := by simp
  first_le := Nat.le_refl first
  next_le := Nat.le_max_left first stop

theorem Issued.take? (h : c.Issued first out) (htake : c.take? = some (n, c')) :
    c'.Issued first (n ::ₘ out) ∧ c'.stop = c.stop := by
  obtain ⟨hall, hfirst, hnext⟩ := h
  unfold Cursor.take? at htake
  -- the next number, or once they are used up the one given back longest ago
  split at htake
  · next hlt =>
    cases htake
    refine ⟨⟨?_, Nat.le_succ_of_le hfirst, Nat.le_trans hlt (Nat.le_max_right _ _)⟩, rfl⟩
    have hrange : List.range' first (c.next + 1 - first)
        = List.range' first (c.next - first) ++ [c.next] := by
      rw [Nat.succ_sub hfirst, List.range'_1_concat, Nat.add_sub_cancel' hfirst]
    rw [Multiset.cons_add, hall, hrange, ← Multiset.coe_add, Multiset.coe_singleton, add_comm,
      Multiset.singleton_add]
  · split at htake
    · cases htake
    · next rest hreleased =>
      cases htake
      refine ⟨⟨?_, hfirst, hnext⟩, rfl⟩
      rw [← hall, hreleased, ← Multiset.cons_coe, Multiset.cons_add, Multiset.add_cons]

theorem Issued.giveBack (h : c.Issued first (n ::ₘ out)) : (c.giveBack n).Issued first out where
  all := by
    show out + ((c.released ++ [n] : List Nat) : Multiset Nat) = _
    rw [← Multiset.coe_add, Multiset.coe_singleton, add_comm (c.released : Multiset Nat),
      Multiset.singleton_add, Multiset.add_cons, ← Multiset.cons_add]
    exact h.all
  first_le := h.first_le
  next_le := h.next_le

theorem Issued.foldl_giveBack (l : List Nat) (h : c.Issued first ((l : Multiset Nat) + out)) :
    (l.foldl Cursor.giveBack c).Issued first out := by
  induction l generalizing c with
  | nil => simpa using h
  | cons n l ih =>
    rw [← Multiset.cons_coe, Multiset.cons_add] at h
    exact ih h.giveBack

theorem stop_foldl_giveBack (l : List Nat) (c : Cursor) : (l.foldl giveBack c).stop = c.stop := by
  induction l generalizing c with
  | nil => rfl
  | cons n l ih => exact ih (c.giveBack n)

end Cursor

/-! ## §2. Addresses. -/

namespace AddressPool

variable {w : Nat} {p p' : AddressPool w} {key k k' : UInt64} {x y : BitVec w}

/-- The offsets that are held. -/
def out (p : AddressPool w) : Multiset Nat := p.held.total fun _ offset => {offset}

/-- A key holds an address. -/
def Holds (p : AddressPool w) (key : UInt64) (x : BitVec w) : Prop :=
  (p.held.get? key).map p.address = some x

/-- Of the offsets of its network a pool has none out twice. -/
structure Sound (p : AddressPool w) : Prop where
  issued : p.offsets.Issued (offsetsOf p.network.hostBits).next p.out
  stop : p.offsets.stop = (offsetsOf p.network.hostBits).stop

theorem sound_ofNetwork (n : Network w) : (ofNetwork n).Sound := ⟨Cursor.issued_new _ _, rfl⟩

/-- The offsets of a network fit the width of its addresses. -/
theorem Sound.stop_le (h : p.Sound) : p.offsets.stop ≤ 2 ^ w := by
  rw [h.stop]
  calc networkSize p.network.hostBits
      ≤ 1 <<< p.network.hostBits := Nat.min_le_left _ _
    _ = 2 ^ p.network.hostBits := Nat.one_shiftLeft _
    _ ≤ 2 ^ w := Nat.pow_le_pow_right Nat.two_pos (Nat.sub_le _ _)

theorem address_injective (p : AddressPool w) {i j : Nat} (hi : i < 2 ^ w) (hj : j < 2 ^ w)
    (h : p.address i = p.address j) : i = j := by
  have hnat := congrArg BitVec.toNat ((BitVec.add_right_inj _).mp h)
  rwa [BitVec.toNat_ofNat, BitVec.toNat_ofNat, Nat.mod_eq_of_lt hi, Nat.mod_eq_of_lt hj] at hnat

theorem Sound.lt_of_held (h : p.Sound) {offset : Nat} (hheld : p.held.get? key = some offset) :
    offset < 2 ^ w := by
  have hmem : offset ∈ p.out :=
    (Table.mem_total _ _ _).mpr ⟨key, offset, hheld, Multiset.mem_singleton_self _⟩
  exact Nat.lt_of_lt_of_le (h.issued.lt_stop hmem) h.stop_le

/-- **No address is held by two keys.** -/
theorem Sound.holds_unique (h : p.Sound) (hk : p.Holds k x) (hk' : p.Holds k' x) : k = k' := by
  obtain ⟨i, hi, hx⟩ := Option.map_eq_some_iff.mp hk
  obtain ⟨j, hj, hx'⟩ := Option.map_eq_some_iff.mp hk'
  obtain rfl : i = j :=
    p.address_injective (h.lt_of_held hi) (h.lt_of_held hj) (hx.trans hx'.symm)
  exact Table.key_unique_of_nodup_total h.issued.nodup hi hj (Multiset.mem_singleton_self _)
    (Multiset.mem_singleton_self _)

/-- What is handed out is held from then on, and nobody loses anything. -/
theorem holds_allocate (h : p.allocate key = some (x, p')) :
    p'.Holds key x ∧ ∀ k y, p.Holds k y → p'.Holds k y := by
  unfold allocate at h
  split at h
  · next offset hsome =>
    cases h
    exact ⟨by simp [Holds, hsome], fun _ _ hk => hk⟩
  · next hnone =>
    obtain ⟨⟨offset, offsets⟩, -, heq⟩ := Option.map_eq_some_iff.mp h
    cases heq
    constructor
    · show ((p.held.insert key offset).get? key).map p.address = _
      rw [Table.get?_insert, if_pos rfl]
      rfl
    · intro k y hk
      show ((p.held.insert key offset).get? k).map p.address = _
      -- the key that is given something held nothing before
      have hne : k ≠ key := by
        rintro rfl
        simp [Holds, hnone] at hk
      rw [Table.get?_insert, if_neg hne]
      exact hk

theorem Sound.allocate (h : p.Sound) (hallocate : p.allocate key = some (x, p')) : p'.Sound := by
  unfold AddressPool.allocate at hallocate
  split at hallocate
  · cases hallocate
    exact h
  · next hnone =>
    obtain ⟨⟨offset, offsets⟩, htake, heq⟩ := Option.map_eq_some_iff.mp hallocate
    cases heq
    obtain ⟨hissued, hstop⟩ := h.issued.take? htake
    refine ⟨?_, hstop.trans h.stop⟩
    show offsets.Issued _ ((p.held.insert key offset).total fun _ offset => {offset})
    rw [Table.total_insert_of_none _ _ hnone, Multiset.singleton_add]
    exact hissued

theorem network_release (p : AddressPool w) (key : UInt64) :
    (p.release key).network = p.network := by
  unfold release
  split <;> rfl

theorem holds_release (hne : k ≠ key) (hk : p.Holds k x) : (p.release key).Holds k x := by
  have haddress : (p.release key).address = p.address := by
    funext offset
    unfold address
    rw [network_release]
  unfold Holds
  rw [held_release, haddress, Table.get?_erase, if_neg hne]
  exact hk

theorem Sound.release (h : p.Sound) (key : UInt64) : (p.release key).Sound := by
  unfold AddressPool.release
  split
  · next offset hheld =>
    refine ⟨Cursor.Issued.giveBack ?_, h.stop⟩
    show p.offsets.Issued _ (offset ::ₘ (p.held.erase key).total fun _ offset => {offset})
    have hout : p.out = {offset} + (p.held.erase key).total fun _ offset => {offset} :=
      Table.total_of_get? _ hheld
    rw [← Multiset.singleton_add, ← hout]
    exact h.issued
  · exact h

end AddressPool

/-! ## §3. Tunnel ids. -/

namespace TeidPool

variable {p p' : TeidPool} {key k k' : UInt64} {rule r r' : UInt16} {n : Nat}

/-- The tunnel ids that are held. -/
def out (p : TeidPool) : Multiset Nat := p.held.total fun _ t => t.total fun _ n => {n}

/-- A rule of a key holds a tunnel id. -/
def Holds (p : TeidPool) (key : UInt64) (rule : UInt16) (n : Nat) : Prop :=
  (p.heldBy key).get? rule = some n

/-- A pool has no tunnel id out twice, and all of them fit 32 bits. -/
structure Sound (p : TeidPool) : Prop where
  issued : p.ids.Issued 1 p.out
  stop_le : p.ids.stop ≤ UInt32.size

theorem sound_make {size : Nat} (h : size < UInt32.size) : (make size).Sound :=
  ⟨Cursor.issued_new _ _, by
    show 1 + size ≤ UInt32.size
    omega⟩

theorem Holds.held (h : p.Holds key rule n) :
    ∃ t, p.held.get? key = some t ∧ t.get? rule = some n := by
  unfold Holds heldBy at h
  cases hkey : p.held.get? key with
  | none =>
    rw [hkey] at h
    cases h
  | some t =>
    rw [hkey] at h
    exact ⟨t, rfl, h⟩

theorem Sound.lt_of_holds (h : p.Sound) (hholds : p.Holds key rule n) : n < UInt32.size := by
  obtain ⟨t, ht, hn⟩ := hholds.held
  have hmem : n ∈ p.out := (Table.mem_total _ _ _).mpr ⟨key, t, ht,
    (Table.mem_total _ _ _).mpr ⟨rule, n, hn, Multiset.mem_singleton_self _⟩⟩
  exact Nat.lt_of_lt_of_le (h.issued.lt_stop hmem) h.stop_le

/-- **No tunnel id is held by two rules**, be it of one key or of two. -/
theorem Sound.holds_unique (h : p.Sound) (hk : p.Holds k r n) (hk' : p.Holds k' r' n) :
    k = k' ∧ r = r' := by
  obtain ⟨t, ht, hn⟩ := hk.held
  obtain ⟨t', ht', hn'⟩ := hk'.held
  have hmem {t : Table UInt16 Nat} {r : UInt16} (hn : t.get? r = some n) :
      n ∈ t.total fun _ n => ({n} : Multiset Nat) :=
    (Table.mem_total _ _ _).mpr ⟨r, n, hn, Multiset.mem_singleton_self _⟩
  obtain rfl : k = k' :=
    Table.key_unique_of_nodup_total h.issued.nodup ht ht' (hmem hn) (hmem hn')
  cases ht.symm.trans ht'
  have hnodup : (t.total fun _ n => ({n} : Multiset Nat)).Nodup :=
    Table.nodup_of_nodup_total (f := fun _ (t : Table UInt16 Nat) => t.total fun _ n => {n})
      h.issued.nodup ht
  exact ⟨rfl, Table.key_unique_of_nodup_total hnodup hn hn' (Multiset.mem_singleton_self _)
    (Multiset.mem_singleton_self _)⟩

/-- What one key holds, and what the others hold. -/
theorem out_eq (p : TeidPool) (key : UInt64) :
    p.out = ((p.heldBy key).total fun _ n => {n})
      + (p.held.erase key).total fun _ t => t.total fun _ n => {n} := by
  unfold out heldBy
  cases h : p.held.get? key with
  | none =>
    rw [Table.erase_of_get?_none h]
    exact (zero_add _).symm
  | some t => exact Table.total_of_get? _ h

theorem heldBy_insert (ids : Cursor) (held : Table UInt64 (Table UInt16 Nat)) (key k : UInt64)
    (t : Table UInt16 Nat) :
    heldBy ⟨ids, held.insert key t⟩ k = if k = key then t else heldBy ⟨ids, held⟩ k := by
  unfold heldBy
  rw [Table.get?_insert]
  split <;> rfl

/-- What is handed out is held from then on, and nobody loses anything. -/
theorem holds_allocate (h : p.allocate key rule = some (n, p')) :
    p'.Holds key rule n ∧ ∀ k r m, p.Holds k r m → p'.Holds k r m := by
  unfold allocate at h
  split at h
  · next hsome =>
    cases h
    exact ⟨hsome, fun _ _ _ hk => hk⟩
  · next hnone =>
    obtain ⟨⟨m, ids⟩, -, heq⟩ := Option.map_eq_some_iff.mp h
    cases heq
    unfold Holds
    constructor
    · rw [heldBy_insert, if_pos rfl, Table.get?_insert, if_pos rfl]
    · intro k r m hk
      rw [heldBy_insert]
      split
      · next hkey =>
        -- the rule that is given something held nothing before
        subst hkey
        have hne : r ≠ rule := by
          rintro rfl
          rw [hnone] at hk
          cases hk
        rwa [Table.get?_insert, if_neg hne]
      · exact hk

theorem Sound.allocate (h : p.Sound) (hallocate : p.allocate key rule = some (n, p')) :
    p'.Sound := by
  unfold TeidPool.allocate at hallocate
  split at hallocate
  · cases hallocate
    exact h
  · next hnone =>
    obtain ⟨⟨m, ids⟩, htake, heq⟩ := Option.map_eq_some_iff.mp hallocate
    cases heq
    obtain ⟨hissued, hstop⟩ := h.issued.take? htake
    refine ⟨?_, hstop ▸ h.stop_le⟩
    show ids.Issued 1 ((p.held.insert key ((p.heldBy key).insert rule n)).total
      fun _ t => t.total fun _ n => {n})
    rw [Table.total_insert, Table.total_insert_of_none _ _ hnone, add_assoc, ← out_eq,
      Multiset.singleton_add]
    exact hissued

theorem holds_release (hne : k ≠ key) (hk : p.Holds k rule n) : (p.release key).Holds k rule n := by
  unfold Holds heldBy release
  rw [Table.get?_erase, if_neg hne]
  exact hk

theorem Sound.release (h : p.Sound) (key : UInt64) : (p.release key).Sound := by
  refine ⟨Cursor.Issued.foldl_giveBack _ ?_, (Cursor.stop_foldl_giveBack _ _).trans_le h.stop_le⟩
  -- in whatever order they go back, they are what the key held
  have hvalues : (((p.heldBy key).values.mergeSort : List Nat) : Multiset Nat)
      = (p.heldBy key).total fun _ n => {n} := by
    rw [Multiset.coe_eq_coe.mpr (List.mergeSort_perm _ _), Table.total_singleton]
  rw [hvalues]
  show p.ids.Issued 1 (_ + (p.held.erase key).total fun _ t => t.total fun _ n => {n})
  rw [← out_eq]
  exact h.issued

end TeidPool

/-! ## §4. All pools. -/

namespace Pools

variable {p p' p'' : Pools} {key k k' : UInt64} {rule r r' : UInt16} {ip : Ip} {teid : UInt32}

/-- A key holds an address. -/
def HoldsIp (p : Pools) (key : UInt64) : Ip → Prop
  | .v4 a => p.ipv4.Holds key a.bits
  | .v6 a => ∃ pool, p.ipv6 = some pool ∧ pool.Holds key a.bits

/-- A rule of a key holds a tunnel id. -/
def HoldsTeid (p : Pools) (key : UInt64) (rule : UInt16) (teid : UInt32) : Prop :=
  ∃ n, p.teids.Holds key rule n ∧ UInt32.ofNat n = teid

/-- What the pools have out, they have out once. -/
structure Sound (p : Pools) : Prop where
  ipv4 : p.ipv4.Sound
  ipv6 : ∀ pool, p.ipv6 = some pool → pool.Sound
  teids : p.teids.Sound

theorem sound_make (ipv4 : Network 32) (ipv6 : Option (Network 128)) (teids : UInt32) :
    (make ipv4 ipv6 teids.toNat).Sound where
  ipv4 := AddressPool.sound_ofNetwork ipv4
  ipv6 pool h := by
    obtain ⟨n, -, rfl⟩ := Option.map_eq_some_iff.mp h
    exact AddressPool.sound_ofNetwork n
  teids := TeidPool.sound_make teids.toNat_lt

/-- **No address is held by two keys.** -/
theorem Sound.holdsIp_unique (h : p.Sound) (hk : p.HoldsIp k ip) (hk' : p.HoldsIp k' ip) :
    k = k' := by
  cases ip with
  | v4 a => exact h.ipv4.holds_unique hk hk'
  | v6 a =>
    obtain ⟨pool, hpool, hk⟩ := hk
    obtain ⟨pool', hpool', hk'⟩ := hk'
    cases hpool.symm.trans hpool'
    exact (h.ipv6 pool hpool).holds_unique hk hk'

/-- **No tunnel id is held by two rules**, be it of one key or of two. -/
theorem Sound.holdsTeid_unique (h : p.Sound) (hk : p.HoldsTeid k r teid)
    (hk' : p.HoldsTeid k' r' teid) : k = k' ∧ r = r' := by
  obtain ⟨n, hn, hteid⟩ := hk
  obtain ⟨n', hn', hteid'⟩ := hk'
  have hnat := congrArg UInt32.toNat (hteid.trans hteid'.symm)
  rw [UInt32.toNat_ofNat_of_lt' (h.teids.lt_of_holds hn),
    UInt32.toNat_ofNat_of_lt' (h.teids.lt_of_holds hn')] at hnat
  subst hnat
  exact h.teids.holds_unique hn hn'

/-! ## §5. From one state of the pools to another. -/

/-- A key still holds what it held. -/
structure Kept (p p' : Pools) (key : UInt64) : Prop where
  ip : ∀ ip, p.HoldsIp key ip → p'.HoldsIp key ip
  teid : ∀ rule teid, p.HoldsTeid key rule teid → p'.HoldsTeid key rule teid

theorem Kept.refl (p : Pools) (key : UInt64) : p.Kept p key := ⟨fun _ => id, fun _ _ => id⟩

theorem Kept.trans (h : p.Kept p' key) (h' : p'.Kept p'' key) : p.Kept p'' key :=
  ⟨fun ip hip => h'.ip ip (h.ip ip hip), fun r t ht => h'.teid r t (h.teid r t ht)⟩

/-- Nothing is out twice if nothing was before, and everybody still holds what
they held. -/
structure Grows (p p' : Pools) : Prop where
  sound : p.Sound → p'.Sound
  kept : ∀ key, p.Kept p' key

theorem Grows.refl (p : Pools) : p.Grows p := ⟨id, Kept.refl p⟩

theorem Grows.trans (h : p.Grows p') (h' : p'.Grows p'') : p.Grows p'' :=
  ⟨fun hp => h'.sound (h.sound hp), fun key => (h.kept key).trans (h'.kept key)⟩

theorem grows_allocateIpv4 {a : Ipv4} (h : p.allocateIpv4 key = .ok (a, p')) :
    p.Grows p' ∧ p'.HoldsIp key (.v4 a) := by
  unfold allocateIpv4 at h
  split at h
  · next hsome =>
    cases h
    obtain ⟨hholds, hkept⟩ := AddressPool.holds_allocate hsome
    refine ⟨⟨fun hp => ⟨hp.ipv4.allocate hsome, hp.ipv6, hp.teids⟩, fun k => ⟨?_, fun _ _ => id⟩⟩,
      hholds⟩
    intro ip hip
    cases ip with
    | v4 a => exact hkept k _ hip
    | v6 a => exact hip
  · cases h

theorem grows_allocateIpv6 {a : Ipv6} (h : p.allocateIpv6 key = .ok (a, p')) :
    p.Grows p' ∧ p'.HoldsIp key (.v6 a) := by
  unfold allocateIpv6 at h
  split at h
  · cases h
  · next pool hpool =>
    split at h
    · next pool' hsome =>
      cases h
      obtain ⟨hholds, hkept⟩ := AddressPool.holds_allocate hsome
      refine ⟨⟨fun hp => ⟨hp.ipv4, ?_, hp.teids⟩, fun k => ⟨?_, fun _ _ => id⟩⟩,
        pool', rfl, hholds⟩
      · intro pool'' heq
        cases heq
        exact (hp.ipv6 pool hpool).allocate hsome
      · intro ip hip
        cases ip with
        | v4 a => exact hip
        | v6 a =>
          obtain ⟨pool₀, hpool₀, hip⟩ := hip
          cases hpool₀.symm.trans hpool
          exact ⟨pool', rfl, hkept k _ hip⟩
    · cases h

theorem grows_allocateTeid (h : p.allocateTeid key rule = .ok (teid, p')) :
    p.Grows p' ∧ p'.HoldsTeid key rule teid := by
  unfold allocateTeid at h
  split at h
  · next n teids hsome =>
    cases h
    obtain ⟨hholds, hkept⟩ := TeidPool.holds_allocate hsome
    refine ⟨⟨fun hp => ⟨hp.ipv4, hp.ipv6, hp.teids.allocate hsome⟩, fun k => ⟨?_, ?_⟩⟩,
      n, hholds, rfl⟩
    · intro ip hip
      cases ip <;> exact hip
    · rintro r t ⟨m, hm, ht⟩
      exact ⟨m, hkept k r m hm, ht⟩
  · cases h

theorem Sound.releaseAll (h : p.Sound) (key : UInt64) : (p.releaseAll key).Sound where
  ipv4 := h.ipv4.release key
  ipv6 pool hpool := by
    obtain ⟨pool₀, hpool₀, rfl⟩ := Option.map_eq_some_iff.mp hpool
    exact (h.ipv6 pool₀ hpool₀).release key
  teids := h.teids.release key

/-- A key that gives all back takes nothing from the others. -/
theorem kept_releaseAll (p : Pools) (hne : k ≠ key) : p.Kept (p.releaseAll key) k := by
  constructor
  · intro ip hip
    cases ip with
    | v4 a => exact AddressPool.holds_release hne hip
    | v6 a =>
      obtain ⟨pool, hpool, hip⟩ := hip
      refine ⟨pool.release key, ?_, AddressPool.holds_release hne hip⟩
      show p.ipv6.map _ = _
      rw [hpool]
      rfl
  · rintro r t ⟨n, hn, ht⟩
    exact ⟨n, TeidPool.holds_release hne hn, ht⟩

theorem Sound.foldl_releaseAll (keys : List UInt64) (h : p.Sound) :
    (keys.foldl Pools.releaseAll p).Sound := by
  induction keys generalizing p with
  | nil => exact h
  | cons k keys ih => exact ih (h.releaseAll k)

theorem kept_foldl_releaseAll (keys : List UInt64) (p : Pools) (hne : ∀ k' ∈ keys, k ≠ k') :
    p.Kept (keys.foldl Pools.releaseAll p) k := by
  induction keys generalizing p with
  | nil => exact .refl p k
  | cons k' keys ih =>
    exact (kept_releaseAll p (hne k' List.mem_cons_self)).trans
      (ih _ fun k'' hk'' => hne k'' (List.mem_cons_of_mem k' hk''))

end Pools

end UserPlane
