/-
  UserPlane.Proofs.Pool.Conservation
  ──────────────────────────────────
  **NOTHING GETS LOST.**

  At any time a number of a pool is in one place only: somebody holds it, or
  it came back and waits, or it was never handed out.  Nothing else is in
  these places, whatever the pools were asked before.

      Pools.after                 the pools after a list of calls
      AddressPool.Conserved       an address is in one place, and of the network
      TeidPool.Conserved          a tunnel id is in one place, and of the range
      Pools.conserved_after       so it is after any calls
-/
import UserPlane.Proofs.Address.Network
import UserPlane.Proofs.Pool.Grants

namespace UserPlane

/-! ## §1. Cursors. -/

namespace Cursor

/-- The numbers that were never handed out. -/
def untouched (c : Cursor) : List Nat := List.range' c.next (c.stop - c.next)

theorem left_eq (c : Cursor) : c.left = (c.released ++ c.untouched).length := by
  show (c.stop - c.next) + c.released.length = _
  rw [List.length_append, Nat.add_comm]
  show _ = c.released.length + (List.range' c.next (c.stop - c.next)).length
  rw [List.length_range']

/-- What is out, what came back and what was never handed out is all there
is. -/
theorem Issued.parts {c : Cursor} {first : Nat} {out : Multiset Nat} (h : c.Issued first out)
    (hle : first ≤ c.stop) :
    out + (c.released : Multiset Nat) + (c.untouched : Multiset Nat)
      = (List.range' first (c.stop - first) : Multiset Nat) := by
  have hnext : c.next ≤ c.stop := (Nat.max_eq_right hle) ▸ h.next_le
  have hfirst := h.first_le
  -- the row ends where the untouched numbers begin
  have hrow : List.range' first (c.stop - first)
      = List.range' first (c.next - first) ++ c.untouched := by
    have hlength : c.stop - first = (c.next - first) + (c.stop - c.next) := by omega
    rw [hlength, ← List.range'_append_1, Nat.add_sub_cancel' hfirst]
    rfl
  rw [h.all, hrow, ← Multiset.coe_add]

/-- No more comes back than was handed out. -/
theorem Issued.left_le {c : Cursor} {first : Nat} {out : Multiset Nat} (h : c.Issued first out) :
    c.left ≤ c.stop := by
  have hcard := congrArg Multiset.card h.all
  rw [Multiset.card_add, Multiset.coe_card, Multiset.coe_card, List.length_range'] at hcard
  have hfirst := h.first_le
  have hnext := h.next_le
  show (c.stop - c.next) + c.released.length ≤ c.stop
  omega

/-- Where nothing can be handed out, nothing is left. -/
theorem left_of_take?_none {c : Cursor} (h : c.take? = none) : c.left = 0 := by
  unfold take? at h
  split at h
  · cases h
  · next hnext =>
    split at h
    · next hreleased =>
      show (c.stop - c.next) + c.released.length = 0
      rw [hreleased, List.length_nil]
      omega
    · cases h

theorem stop_take? {c c' : Cursor} {n : Nat} (h : c.take? = some (n, c')) : c'.stop = c.stop := by
  unfold take? at h
  split at h
  · cases h
    rfl
  · split at h
    · cases h
    · cases h
      rfl

end Cursor

/-! ## §2. Addresses. -/

namespace AddressPool

variable {w : Nat} {n : Network w} {p p' : AddressPool w} {key : UInt64} {x : BitVec w}

/-- All offsets that a pool has somewhere: those held, those that came back and
those never handed out. -/
def stock (p : AddressPool w) : List Nat :=
  p.held.values ++ p.offsets.released ++ p.offsets.untouched

/-- Each offset of the network is in one place, with one owner at most, and
leads to an address of the network. -/
structure Conserved (n : Network w) (p : AddressPool w) : Prop where
  network : p.network = n
  nodup : p.stock.Nodup
  stock : p.stock.Perm n.offsets
  owner : ∀ k k' x, p.Holds k x → p.Holds k' x → k = k'
  count : p.held.size + p.offsets.left = n.offsets.length
  fits : ∀ offset ∈ p.stock, n.first.toNat + offset < 2 ^ w
  inside : ∀ offset ∈ p.stock, n.Contains (p.address offset)
  proper : 1 < n.hostBits → ∀ offset ∈ p.stock, p.address offset ≠ n.first

theorem out_eq_values (p : AddressPool w) : p.out = (p.held.values : Multiset Nat) :=
  p.held.total_singleton

theorem Sound.stock_perm (h : p.Sound) : p.stock.Perm p.network.offsets := by
  have hparts := h.issued.parts (h.stop ▸ Network.offsetsOf_next_le _)
  rw [out_eq_values, Multiset.coe_add, Multiset.coe_add, h.stop] at hparts
  rw [Network.offsets_eq]
  exact Multiset.coe_eq_coe.mp hparts

theorem Sound.conserved (h : p.Sound) (hmade : p.network.WellMade) : p.Conserved p.network := by
  have hperm := h.stock_perm
  have hbound {offset : Nat} (hmem : offset ∈ p.stock) : offset < 2 ^ p.network.hostBits
      ∧ (1 < p.network.hostBits → offset ≠ 0) ∧ offset + 1 < 2 ^ 128 :=
    Network.mem_offsets.mp (hperm.mem_iff.mp hmem)
  refine ⟨rfl, hperm.nodup_iff.mpr p.network.nodup_offsets, hperm,
    fun k k' x => h.holds_unique, ?count, ?fits, ?inside, ?proper⟩
  case count =>
    have hlength : p.held.values.length = p.held.size := List.length_map _
    have hstock := hperm.length_eq
    unfold AddressPool.stock at hstock
    rw [List.append_assoc, List.length_append, hlength, ← Cursor.left_eq] at hstock
    exact hstock
  case fits =>
    intro offset hmem
    exact hmade.add_lt (hbound hmem).1
  case inside =>
    intro offset hmem
    exact hmade.contains (hbound hmem).1
  case proper =>
    intro hhost offset hmem
    exact hmade.add_ne_first (hbound hmem).1 ((hbound hmem).2.1 hhost)

/-- What is handed out is the address at an offset of the pool. -/
theorem mem_stock_of_allocate (h : p.allocate key = some (x, p')) :
    ∃ offset ∈ p'.stock, x = p'.address offset := by
  obtain ⟨offset, hheld, hx⟩ := Option.map_eq_some_iff.mp (holds_allocate h).1
  refine ⟨offset, ?_, hx.symm⟩
  exact List.mem_append_left _ (List.mem_append_left _ ((Table.mem_values_iff _ _).mpr ⟨key, hheld⟩))

/-- Where no address is handed out, none is left and the key holds none. -/
theorem left_of_allocate_none (h : p.allocate key = none) :
    p.offsets.left = 0 ∧ p.held.get? key = none := by
  unfold allocate at h
  split at h
  · cases h
  · next hnone => exact ⟨Cursor.left_of_take?_none (Option.map_eq_none_iff.mp h), hnone⟩

theorem network_allocate (h : p.allocate key = some (x, p')) : p'.network = p.network := by
  unfold allocate at h
  split at h
  · cases h
    rfl
  · obtain ⟨⟨offset, offsets⟩, -, heq⟩ := Option.map_eq_some_iff.mp h
    cases heq
    rfl

end AddressPool

/-! ## §3. Tunnel ids. -/

namespace TeidPool

variable {size n : Nat} {p p' : TeidPool} {key : UInt64} {rule : UInt16}

/-- The tunnel ids that are held, key by key. -/
def heldIds (p : TeidPool) : List Nat := (p.held.values.map Table.values).flatten

/-- All tunnel ids that a pool has somewhere: those held, those that came back
and those never handed out. -/
def stock (p : TeidPool) : List Nat := p.heldIds ++ p.ids.released ++ p.ids.untouched

/-- Each tunnel id from one to `size` is in one place, with one owner at
most. -/
structure Conserved (size : Nat) (p : TeidPool) : Prop where
  nodup : p.stock.Nodup
  stock : p.stock.Perm (List.range' 1 size)
  owner : ∀ k k' r r' n, p.Holds k r n → p.Holds k' r' n → k = k' ∧ r = r'
  count : (p.held.total fun _ t => t.size) + p.ids.left = size
  inside : ∀ n ∈ p.stock, 1 ≤ n ∧ n ≤ size

theorem out_eq_heldIds (p : TeidPool) : p.out = (p.heldIds : Multiset Nat) := by
  show (p.held.total fun _ t => t.total fun _ n => ({n} : Multiset Nat)) = _
  simp only [Table.total_singleton]
  rw [← Table.sum_values]
  show ((p.held.values).map fun t => (t.values : Multiset Nat)).sum = _
  unfold heldIds
  induction p.held.values with
  | nil => rfl
  | cons t ts ih =>
    rw [List.map_cons, List.sum_cons, ih, List.map_cons, List.flatten_cons, Multiset.coe_add]

theorem length_heldIds (p : TeidPool) : p.heldIds.length = p.held.total fun _ t => t.size := by
  rw [← Table.sum_values]
  unfold heldIds
  rw [List.length_flatten, List.map_map]
  congr 1
  exact List.map_congr_left fun t _ => List.length_map _

theorem Sound.conserved (h : p.Sound) (hstop : p.ids.stop = 1 + size) : p.Conserved size := by
  have hperm : p.stock.Perm (List.range' 1 size) := by
    have hparts := h.issued.parts (hstop ▸ Nat.le_add_right 1 size)
    rw [out_eq_heldIds, Multiset.coe_add, Multiset.coe_add, hstop, Nat.add_sub_cancel_left]
      at hparts
    exact Multiset.coe_eq_coe.mp hparts
  refine ⟨hperm.nodup_iff.mpr List.nodup_range', hperm, fun k k' r r' n => h.holds_unique,
    ?count, ?inside⟩
  case count =>
    have hstock := hperm.length_eq
    unfold TeidPool.stock at hstock
    rw [List.append_assoc, List.length_append, length_heldIds, ← Cursor.left_eq,
      List.length_range'] at hstock
    exact hstock
  case inside =>
    intro n hmem
    have hrange := List.mem_range'_1.mp (hperm.mem_iff.mp hmem)
    omega

/-- What is handed out is a tunnel id of the pool. -/
theorem mem_stock_of_allocate (h : p.allocate key rule = some (n, p')) : n ∈ p'.stock := by
  obtain ⟨t, ht, hn⟩ := (holds_allocate h).1.held
  refine List.mem_append_left _ (List.mem_append_left _ (List.mem_flatten.mpr ⟨t.values, ?_, ?_⟩))
  · exact List.mem_map.mpr ⟨t, (Table.mem_values_iff _ _).mpr ⟨key, ht⟩, rfl⟩
  · exact (Table.mem_values_iff _ _).mpr ⟨rule, hn⟩

/-- Where no tunnel id is handed out, none is left and the rule holds none. -/
theorem left_of_allocate_none (h : p.allocate key rule = none) :
    p.ids.left = 0 ∧ (p.heldBy key).get? rule = none := by
  unfold allocate at h
  split at h
  · cases h
  · next hnone => exact ⟨Cursor.left_of_take?_none (Option.map_eq_none_iff.mp h), hnone⟩

theorem stop_allocate (h : p.allocate key rule = some (n, p')) : p'.ids.stop = p.ids.stop := by
  unfold allocate at h
  split at h
  · cases h
    rfl
  · obtain ⟨⟨m, ids⟩, htake, heq⟩ := Option.map_eq_some_iff.mp h
    cases heq
    exact Cursor.stop_take? htake

theorem stop_release (p : TeidPool) (key : UInt64) : (p.release key).ids.stop = p.ids.stop :=
  Cursor.stop_foldl_giveBack _ _

end TeidPool

/-! ## §4. Calls. -/

/-- What the pools can be asked for. -/
inductive PoolCall where
  | allocateIpv4 (session : UInt64)
  | allocateIpv6 (session : UInt64)
  | allocateTeid (session : UInt64) (rule : UInt16)
  | releaseIp (session : UInt64)
  | releaseTeid (session : UInt64)
  deriving DecidableEq, Repr

/-- What the pools answer. -/
inductive PoolAnswer where
  | ipv4 (result : Except PoolError Ipv4)
  | ipv6 (result : Except PoolError Ipv6)
  | teid (result : Except PoolError UInt32)
  | done

namespace Pools

variable {p p' : Pools} {key : UInt64} {rule : UInt16}

/-! What an allocation from the pools is made of. -/

theorem allocateIpv4_ok {a : Ipv4} (h : p.allocateIpv4 key = .ok (a, p')) :
    ∃ pool, p.ipv4.allocate key = some (a.bits, pool) ∧ p' = { p with ipv4 := pool } := by
  unfold allocateIpv4 at h
  split at h
  · next hsome =>
    cases h
    exact ⟨_, hsome, rfl⟩
  · cases h

theorem allocateIpv4_error {e : PoolError} (h : p.allocateIpv4 key = .error e) :
    p.ipv4.allocate key = none := by
  unfold allocateIpv4 at h
  split at h
  · cases h
  · next hnone => exact hnone

theorem allocateIpv6_ok {a : Ipv6} (h : p.allocateIpv6 key = .ok (a, p')) :
    ∃ pool pool', p.ipv6 = some pool ∧ pool.allocate key = some (a.bits, pool')
      ∧ p' = { p with ipv6 := some pool' } := by
  unfold allocateIpv6 at h
  split at h
  · cases h
  · next hpool =>
    split at h
    · next hsome =>
      cases h
      exact ⟨_, _, hpool, hsome, rfl⟩
    · cases h

theorem allocateIpv6_error {e : PoolError} {pool : AddressPool 128}
    (h : p.allocateIpv6 key = .error e) (hpool : p.ipv6 = some pool) :
    pool.allocate key = none := by
  unfold allocateIpv6 at h
  rw [hpool] at h
  simp only at h
  split at h
  · cases h
  · next hnone => exact hnone

theorem allocateTeid_ok {teid : UInt32} (h : p.allocateTeid key rule = .ok (teid, p')) :
    ∃ n teids, p.teids.allocate key rule = some (n, teids) ∧ teid = UInt32.ofNat n
      ∧ p' = { p with teids } := by
  unfold allocateTeid at h
  split at h
  · next hsome =>
    cases h
    exact ⟨_, _, hsome, rfl, rfl⟩
  · cases h

theorem allocateTeid_error {e : PoolError} (h : p.allocateTeid key rule = .error e) :
    p.teids.allocate key rule = none := by
  unfold allocateTeid at h
  split at h
  · cases h
  · next hnone => exact hnone

/-- The answer to a call, and the pools after it.  A call that fails changes
nothing. -/
def serve (p : Pools) : PoolCall → PoolAnswer × Pools
  | .allocateIpv4 session =>
    match p.allocateIpv4 session with
    | .ok (a, p') => (.ipv4 (.ok a), p')
    | .error e => (.ipv4 (.error e), p)
  | .allocateIpv6 session =>
    match p.allocateIpv6 session with
    | .ok (a, p') => (.ipv6 (.ok a), p')
    | .error e => (.ipv6 (.error e), p)
  | .allocateTeid session rule =>
    match p.allocateTeid session rule with
    | .ok (teid, p') => (.teid (.ok teid), p')
    | .error e => (.teid (.error e), p)
  | .releaseIp session => (.done, p.releaseIp session)
  | .releaseTeid session => (.done, p.releaseTeid session)

/-- The pools after some calls. -/
def after (p : Pools) (calls : List PoolCall) : Pools :=
  calls.foldl (fun p call => (p.serve call).2) p

theorem Sound.releaseIp (h : p.Sound) (key : UInt64) : (p.releaseIp key).Sound where
  ipv4 := h.ipv4.release key
  ipv6 pool hpool := by
    obtain ⟨pool₀, hpool₀, rfl⟩ := Option.map_eq_some_iff.mp hpool
    exact (h.ipv6 pool₀ hpool₀).release key
  teids := h.teids

theorem Sound.releaseTeid (h : p.Sound) (key : UInt64) : (p.releaseTeid key).Sound :=
  ⟨h.ipv4, h.ipv6, h.teids.release key⟩

/-- The pools of these networks and this many tunnel ids, at any time. -/
structure Stocked (n4 : Network 32) (n6 : Option (Network 128)) (size : UInt32)
    (p : Pools) : Prop where
  sound : p.Sound
  ipv4 : p.ipv4.network = n4
  ipv6 : p.ipv6.map (·.network) = n6
  teids : p.teids.ids.stop = 1 + size.toNat

variable {n4 : Network 32} {n6 : Option (Network 128)} {size : UInt32}

theorem stocked_make (n4 : Network 32) (n6 : Option (Network 128)) (size : UInt32) :
    (make n4 n6 size.toNat).Stocked n4 n6 size where
  sound := sound_make n4 n6 size
  ipv4 := rfl
  ipv6 := by
    show (n6.map AddressPool.ofNetwork).map (·.network) = n6
    cases n6 <;> rfl
  teids := rfl

theorem Stocked.allocateIpv4 {a : Ipv4} (h : p.Stocked n4 n6 size)
    (hallocate : p.allocateIpv4 key = .ok (a, p')) : p'.Stocked n4 n6 size := by
  have hsound := (grows_allocateIpv4 hallocate).1.sound h.sound
  obtain ⟨pool, hsome, rfl⟩ := allocateIpv4_ok hallocate
  exact ⟨hsound, (AddressPool.network_allocate hsome).trans h.ipv4, h.ipv6, h.teids⟩

theorem Stocked.allocateIpv6 {a : Ipv6} (h : p.Stocked n4 n6 size)
    (hallocate : p.allocateIpv6 key = .ok (a, p')) : p'.Stocked n4 n6 size := by
  have hsound := (grows_allocateIpv6 hallocate).1.sound h.sound
  obtain ⟨pool, pool', hpool, hsome, rfl⟩ := allocateIpv6_ok hallocate
  have hnetwork := h.ipv6
  rw [hpool, Option.map_some, ← AddressPool.network_allocate hsome] at hnetwork
  exact ⟨hsound, h.ipv4, hnetwork, h.teids⟩

theorem Stocked.allocateTeid {teid : UInt32} (h : p.Stocked n4 n6 size)
    (hallocate : p.allocateTeid key rule = .ok (teid, p')) : p'.Stocked n4 n6 size := by
  have hsound := (grows_allocateTeid hallocate).1.sound h.sound
  obtain ⟨n, teids, hsome, -, rfl⟩ := allocateTeid_ok hallocate
  exact ⟨hsound, h.ipv4, h.ipv6, (TeidPool.stop_allocate hsome).trans h.teids⟩

theorem Stocked.releaseIp (h : p.Stocked n4 n6 size) (key : UInt64) :
    (p.releaseIp key).Stocked n4 n6 size where
  sound := h.sound.releaseIp key
  ipv4 := (AddressPool.network_release p.ipv4 key).trans h.ipv4
  ipv6 := by
    show (p.ipv6.map (·.release key)).map (·.network) = n6
    rw [Option.map_map, ← h.ipv6]
    exact Option.map_congr fun pool _ => AddressPool.network_release pool key
  teids := h.teids

theorem Stocked.releaseTeid (h : p.Stocked n4 n6 size) (key : UInt64) :
    (p.releaseTeid key).Stocked n4 n6 size :=
  ⟨h.sound.releaseTeid key, h.ipv4, h.ipv6, (TeidPool.stop_release p.teids key).trans h.teids⟩

/-- One call keeps the pools what they are. -/
theorem Stocked.serve (h : p.Stocked n4 n6 size) (call : PoolCall) :
    (p.serve call).2.Stocked n4 n6 size := by
  cases call with
  | allocateIpv4 session =>
    simp only [Pools.serve]
    split
    · next hallocate => exact h.allocateIpv4 hallocate
    · exact h
  | allocateIpv6 session =>
    simp only [Pools.serve]
    split
    · next hallocate => exact h.allocateIpv6 hallocate
    · exact h
  | allocateTeid session rule =>
    simp only [Pools.serve]
    split
    · next hallocate => exact h.allocateTeid hallocate
    · exact h
  | releaseIp session => exact h.releaseIp session
  | releaseTeid session => exact h.releaseTeid session

/-- So any calls do. -/
theorem Stocked.after (h : p.Stocked n4 n6 size) (calls : List PoolCall) :
    (p.after calls).Stocked n4 n6 size := by
  induction calls generalizing p with
  | nil => exact h
  | cons call calls ih => exact ih (h.serve call)

/-! ## §5. Conservation. -/

/-- What the pools are worth at any time: nothing is lost or doubled, what is
handed out is of the pool, and nothing is refused while there is some left. -/
structure Conserved (n4 : Network 32) (n6 : Option (Network 128)) (size : UInt32)
    (p : Pools) : Prop where
  ipv4 : p.ipv4.Conserved n4
  ipv6 : Option.Rel AddressPool.Conserved n6 p.ipv6
  teids : p.teids.Conserved size.toNat
  freeIpv4 : p.ipv4.held.size + p.freeIpv4 = n4.offsets.length
  freeTeids : (p.teids.held.total fun _ t => t.size) + p.freeTeids = size.toNat
  grantIpv4 : ∀ key a p', p.allocateIpv4 key = .ok (a, p') →
    n4.Contains a.bits ∧ (1 < n4.hostBits → a.bits ≠ n4.first)
  grantIpv6 : ∀ key a p', p.allocateIpv6 key = .ok (a, p') → ∃ n ∈ n6,
    n.Contains a.bits ∧ (1 < n.hostBits → a.bits ≠ n.first)
  grantTeid : ∀ key rule teid p', p.allocateTeid key rule = .ok (teid, p') →
    1 ≤ teid ∧ teid ≤ size
  refuseIpv4 : ∀ key e, p.allocateIpv4 key = .error e →
    p.freeIpv4 = 0 ∧ p.ipv4.held.get? key = none
  refuseIpv6 : ∀ key e, p.allocateIpv6 key = .error e → ∀ pool ∈ p.ipv6,
    pool.offsets.left = 0 ∧ pool.held.get? key = none
  refuseTeid : ∀ key rule e, p.allocateTeid key rule = .error e →
    p.freeTeids = 0 ∧ (p.teids.heldBy key).get? rule = none

/-- The count of free IPv4 addresses is never cut off. -/
theorem Sound.freeIpv4_eq_left (h : p.Sound) : p.freeIpv4 = p.ipv4.offsets.left := by
  have hleft := h.ipv4.issued.left_le.trans h.ipv4.stop_le
  show p.ipv4.offsets.remaining = _
  rw [Cursor.remaining_eq]
  exact Nat.min_eq_left (hleft.trans (by decide))

/-- The count of free tunnel ids is never cut off. -/
theorem Sound.freeTeids_eq_left (h : p.Sound) : p.freeTeids = p.teids.ids.left := by
  have hleft := h.teids.issued.left_le.trans h.teids.stop_le
  show p.teids.ids.remaining = _
  rw [Cursor.remaining_eq]
  exact Nat.min_eq_left (hleft.trans (by decide))

theorem grantIpv4_of_conserved {a : Ipv4} (hallocate : p.allocateIpv4 key = .ok (a, p'))
    (h : p'.ipv4.Conserved n4) :
    n4.Contains a.bits ∧ (1 < n4.hostBits → a.bits ≠ n4.first) := by
  obtain ⟨pool, hsome, rfl⟩ := allocateIpv4_ok hallocate
  obtain ⟨offset, hmem, hbits⟩ := AddressPool.mem_stock_of_allocate hsome
  rw [hbits]
  exact ⟨h.inside offset hmem, fun hhost => h.proper hhost offset hmem⟩

theorem grantIpv6_of_conserved {a : Ipv6} (hallocate : p.allocateIpv6 key = .ok (a, p'))
    (h : Option.Rel AddressPool.Conserved n6 p'.ipv6) : ∃ n ∈ n6,
    n.Contains a.bits ∧ (1 < n.hostBits → a.bits ≠ n.first) := by
  obtain ⟨pool, pool', -, hsome, rfl⟩ := allocateIpv6_ok hallocate
  cases h with
  | some hpool =>
    obtain ⟨offset, hmem, hbits⟩ := AddressPool.mem_stock_of_allocate hsome
    rw [hbits]
    exact ⟨_, rfl, hpool.inside offset hmem, fun hhost => hpool.proper hhost offset hmem⟩

theorem grantTeid_of_conserved {teid : UInt32}
    (hallocate : p.allocateTeid key rule = .ok (teid, p'))
    (h : p'.teids.Conserved size.toNat) : 1 ≤ teid ∧ teid ≤ size := by
  obtain ⟨n, teids, hsome, rfl, rfl⟩ := allocateTeid_ok hallocate
  obtain ⟨hone, hsize⟩ := h.inside n (TeidPool.mem_stock_of_allocate hsome)
  have hnat : (UInt32.ofNat n).toNat = n :=
    UInt32.toNat_ofNat_of_lt' (Nat.lt_of_le_of_lt hsize size.toNat_lt)
  rw [UInt32.le_iff_toNat_le, UInt32.le_iff_toNat_le, hnat]
  exact ⟨hone, hsize⟩

theorem Stocked.conserved_ipv4 (h : p.Stocked n4 n6 size) (hn4 : n4.WellMade) :
    p.ipv4.Conserved n4 := by
  obtain rfl := h.ipv4
  exact h.sound.ipv4.conserved hn4

theorem Stocked.conserved_ipv6 (h : p.Stocked n4 n6 size) (hn6 : ∀ n ∈ n6, n.WellMade) :
    Option.Rel AddressPool.Conserved n6 p.ipv6 := by
  obtain rfl := h.ipv6
  cases hpool : p.ipv6 with
  | none => exact .none
  | some pool =>
    rw [hpool] at hn6
    exact .some ((h.sound.ipv6 pool hpool).conserved (hn6 _ rfl))

theorem Stocked.conserved_teids (h : p.Stocked n4 n6 size) :
    p.teids.Conserved size.toNat :=
  h.sound.teids.conserved h.teids

theorem Stocked.conserved (h : p.Stocked n4 n6 size) (hn4 : n4.WellMade)
    (hn6 : ∀ n ∈ n6, n.WellMade) : p.Conserved n4 n6 size where
  ipv4 := h.conserved_ipv4 hn4
  ipv6 := h.conserved_ipv6 hn6
  teids := h.conserved_teids
  freeIpv4 := by
    rw [h.sound.freeIpv4_eq_left]
    exact (h.conserved_ipv4 hn4).count
  freeTeids := by
    rw [h.sound.freeTeids_eq_left]
    exact h.conserved_teids.count
  grantIpv4 key a p' hallocate :=
    grantIpv4_of_conserved hallocate ((h.allocateIpv4 hallocate).conserved_ipv4 hn4)
  grantIpv6 key a p' hallocate :=
    grantIpv6_of_conserved hallocate ((h.allocateIpv6 hallocate).conserved_ipv6 hn6)
  grantTeid key rule teid p' hallocate :=
    grantTeid_of_conserved hallocate (h.allocateTeid hallocate).conserved_teids
  refuseIpv4 key e hallocate := by
    rw [h.sound.freeIpv4_eq_left]
    exact AddressPool.left_of_allocate_none (allocateIpv4_error hallocate)
  refuseIpv6 key e hallocate pool hpool :=
    AddressPool.left_of_allocate_none (allocateIpv6_error hallocate hpool)
  refuseTeid key rule e hallocate := by
    rw [h.sound.freeTeids_eq_left]
    exact TeidPool.left_of_allocate_none (allocateTeid_error hallocate)

/-- **NOTHING GETS LOST.**  After any calls each address and each tunnel id is in
one place: held by one key or rule, given back, or never handed out. -/
theorem conserved_after (n4 : Network 32) (n6 : Option (Network 128)) (size : UInt32)
    (hn4 : n4.WellMade) (hn6 : ∀ n ∈ n6, n.WellMade) (calls : List PoolCall) :
    ((make n4 n6 size.toNat).after calls).Conserved n4 n6 size :=
  ((stocked_make n4 n6 size).after calls).conserved hn4 hn6

/-- Two keys ask a network of two host bits and all of IPv6, and one of them
gives back what it holds. -/
theorem conserved_after_return :
    let n4 : Network 32 := ⟨0x0A000000#32, 30⟩
    let n6 : Network 128 := ⟨0, 0⟩
    (n4.WellMade ∧ n6.WellMade ∧ n4.offsets = [1, 2, 3]) ∧
      ((make n4 (some n6) (3 : UInt32).toNat).after
        [.allocateIpv4 1, .allocateIpv4 2, .allocateIpv6 2, .allocateTeid 1 7, .allocateTeid 2 7,
          .releaseIp 1, .releaseTeid 1]).Conserved n4 (some n6) 3 := by
  have hn4 : (⟨0x0A000000#32, 30⟩ : Network 32).WellMade := rfl
  have hn6 : (⟨0, 0⟩ : Network 128).WellMade := rfl
  refine ⟨⟨hn4, hn6, by decide⟩, conserved_after _ _ _ hn4 ?_ _⟩
  intro n hn
  cases hn
  exact hn6

end Pools

end UserPlane
