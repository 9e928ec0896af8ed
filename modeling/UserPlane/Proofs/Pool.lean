/-
  UserPlane.Proofs.Pool
  ─────────────────────
  **WHOSE POOLS ARE WHOSE, AND HOW MUCH IS IN THEM.**

  A pool's capacity is what can still be handed out together with what is
  held.  Nothing changes it: what is handed out is held from then on, and what
  is given back can be handed out again.

  Whatever is done in the name of one key leaves the rest as it was
  (`Pools.rest`): what the other keys hold, and the capacities.
-/
import UserPlane.Pool
import UserPlane.Proofs.Table

namespace UserPlane

/-! ## §1. Cursors. -/

namespace Cursor

/-- How many numbers can be handed out. -/
def left (c : Cursor) : Nat := (c.stop - c.next) + c.released.length

theorem left_take? {c c' : Cursor} {n : Nat} (h : c.take? = some (n, c')) :
    c'.left + 1 = c.left := by
  unfold take? at h
  -- a number that was never handed out, or else the one given back longest ago
  split at h
  · next hlt =>
    cases h
    show (c.stop - (c.next + 1)) + c.released.length + 1 = (c.stop - c.next) + c.released.length
    omega
  · split at h
    · cases h
    · next n rest hrest =>
      cases h
      show (c.stop - c.next) + rest.length + 1 = (c.stop - c.next) + c.released.length
      rw [hrest, List.length_cons]
      omega

theorem left_giveBack (c : Cursor) (n : Nat) : (c.giveBack n).left = c.left + 1 := by
  show (c.stop - c.next) + (c.released ++ [n]).length = (c.stop - c.next) + c.released.length + 1
  rw [List.length_append, List.length_singleton]
  omega

theorem left_foldl_giveBack (l : List Nat) (c : Cursor) :
    (l.foldl giveBack c).left = c.left + l.length := by
  induction l generalizing c with
  | nil => rfl
  | cons n l ih =>
    rw [List.foldl_cons, ih, left_giveBack, List.length_cons]
    omega

/-- The count that is shown depends only on how many numbers there are. -/
theorem remaining_eq (c : Cursor) : c.remaining = min c.left ceiling := by
  unfold remaining left
  omega

end Cursor

/-! ## §2. Addresses. -/

namespace AddressPool

variable {w : Nat} {p p' : AddressPool w} {key : UInt64}

/-- The addresses that can be handed out and those that are held. -/
def capacity (p : AddressPool w) : Nat := p.offsets.left + p.held.total fun _ _ => 1

theorem allocate_spec {x : BitVec w} (h : p.allocate key = some (x, p')) :
    p'.held.erase key = p.held.erase key ∧ p'.capacity = p.capacity := by
  unfold allocate at h
  -- a key that holds an address is given the same again
  split at h
  · cases h
    exact ⟨rfl, rfl⟩
  · next hnone =>
    obtain ⟨⟨offset, offsets⟩, htake, heq⟩ := Option.map_eq_some_iff.mp h
    cases heq
    refine ⟨Table.erase_insert _ _ _, ?_⟩
    show offsets.left + (p.held.insert key offset).total (fun _ _ => 1)
      = p.offsets.left + p.held.total fun _ _ => 1
    rw [Table.total_insert_of_none _ _ hnone, ← Cursor.left_take? htake]
    omega

theorem held_release (p : AddressPool w) (key : UInt64) :
    (p.release key).held = p.held.erase key := by
  unfold release
  split
  · rfl
  · next hnone => exact (Table.erase_of_get?_none hnone).symm

theorem capacity_release (p : AddressPool w) (key : UInt64) :
    (p.release key).capacity = p.capacity := by
  unfold release
  split
  · next offset hheld =>
    show (p.offsets.giveBack offset).left + (p.held.erase key).total (fun _ _ => 1)
      = p.offsets.left + p.held.total fun _ _ => 1
    rw [Cursor.left_giveBack, Table.total_of_get? _ hheld]
    omega
  · rfl

end AddressPool

/-! ## §3. Tunnel ids. -/

namespace TeidPool

variable {p p' : TeidPool} {key : UInt64}

/-- The tunnel ids that can be handed out and those that are held. -/
def capacity (p : TeidPool) : Nat := p.ids.left + p.held.total fun _ t => t.size

/-- What one key holds, and what the others hold. -/
theorem total_held (p : TeidPool) (key : UInt64) :
    (p.held.total fun _ t => t.size)
      = (p.heldBy key).size + (p.held.erase key).total fun _ t => t.size := by
  unfold heldBy
  cases h : p.held.get? key with
  | none =>
    rw [Table.erase_of_get?_none h]
    exact (Nat.zero_add _).symm
  | some t => exact Table.total_of_get? (fun _ t => t.size) h

theorem allocate_spec {rule : UInt16} {teid : Nat} (h : p.allocate key rule = some (teid, p')) :
    p'.held.erase key = p.held.erase key ∧ p'.capacity = p.capacity := by
  unfold allocate at h
  -- a rule that has a tunnel id is given the same again
  split at h
  · cases h
    exact ⟨rfl, rfl⟩
  · next hnone =>
    obtain ⟨⟨n, ids⟩, htake, heq⟩ := Option.map_eq_some_iff.mp h
    cases heq
    refine ⟨Table.erase_insert _ _ _, ?_⟩
    show ids.left + (p.held.insert key ((p.heldBy key).insert rule teid)).total (fun _ t => t.size)
      = p.ids.left + p.held.total fun _ t => t.size
    rw [Table.total_insert, Table.size_insert_of_none _ hnone, total_held p key,
      ← Cursor.left_take? htake]
    omega

theorem capacity_release (p : TeidPool) (key : UInt64) :
    (p.release key).capacity = p.capacity := by
  show (((p.heldBy key).values.mergeSort).foldl Cursor.giveBack p.ids).left
      + (p.held.erase key).total (fun _ t => t.size) = p.ids.left + p.held.total fun _ t => t.size
  -- all that the key holds goes back, in whatever order
  have hlength : (p.heldBy key).values.length = (p.heldBy key).size := List.length_map _
  rw [Cursor.left_foldl_giveBack, List.length_mergeSort, hlength, total_held p key]
  omega

end TeidPool

/-! ## §4. All pools. -/

namespace Pools

/-- The IPv6 addresses that are held. -/
def heldIpv6 (p : Pools) : Table UInt64 Nat := (p.ipv6.map (·.held)).getD .empty

/-- A key under which a pool records something. -/
def Busy (p : Pools) (key : UInt64) : Prop :=
  p.ipv4.held.contains key ∨ p.heldIpv6.contains key ∨ p.teids.held.contains key

/-- What the pools have, apart from what one key holds of them. -/
structure Rest where
  ipv4 : Table UInt64 Nat
  ipv6 : Table UInt64 Nat
  teids : Table UInt64 (Table UInt16 Nat)
  ipv4Capacity : Nat
  teidCapacity : Nat

/-- What is not a key's own. -/
def rest (p : Pools) (key : UInt64) : Rest where
  ipv4 := p.ipv4.held.erase key
  ipv6 := p.heldIpv6.erase key
  teids := p.teids.held.erase key
  ipv4Capacity := p.ipv4.capacity
  teidCapacity := p.teids.capacity

variable {p p' : Pools} {key key' : UInt64}

theorem rest_allocateIpv4 {x : Ipv4} (h : p.allocateIpv4 key = .ok (x, p')) :
    p'.rest key = p.rest key := by
  unfold allocateIpv4 at h
  split at h
  · next hsome =>
    cases h
    obtain ⟨hheld, hcapacity⟩ := AddressPool.allocate_spec hsome
    simp [rest, heldIpv6, hheld, hcapacity]
  · cases h

theorem rest_allocateIpv6 {x : Ipv6} (h : p.allocateIpv6 key = .ok (x, p')) :
    p'.rest key = p.rest key := by
  unfold allocateIpv6 at h
  split at h
  · cases h
  · next pool hpool =>
    split at h
    · next hsome =>
      cases h
      obtain ⟨hheld, -⟩ := AddressPool.allocate_spec hsome
      simp [rest, heldIpv6, hpool, hheld]
    · cases h

theorem rest_allocateTeid {rule : UInt16} {x : UInt32}
    (h : p.allocateTeid key rule = .ok (x, p')) : p'.rest key = p.rest key := by
  unfold allocateTeid at h
  split at h
  · next hsome =>
    cases h
    obtain ⟨hheld, hcapacity⟩ := TeidPool.allocate_spec hsome
    simp [rest, heldIpv6, hheld, hcapacity]
  · cases h

/-- What is busy under another key depends on the rest only. -/
theorem busy_iff_of_rest (h : p'.rest key = p.rest key) (hne : key' ≠ key) :
    p'.Busy key' ↔ p.Busy key' := by
  have hipv4 : p'.ipv4.held.erase key = p.ipv4.held.erase key := congrArg Rest.ipv4 h
  have hipv6 : p'.heldIpv6.erase key = p.heldIpv6.erase key := congrArg Rest.ipv6 h
  have hteids : p'.teids.held.erase key = p.teids.held.erase key := congrArg Rest.teids h
  unfold Busy
  rw [← Table.contains_erase_of_ne p'.ipv4.held hne, ← Table.contains_erase_of_ne p'.heldIpv6 hne,
    ← Table.contains_erase_of_ne p'.teids.held hne, hipv4, hipv6, hteids,
    Table.contains_erase_of_ne _ hne, Table.contains_erase_of_ne _ hne,
    Table.contains_erase_of_ne _ hne]

/-- What the pools record under a key. -/
def holdings (p : Pools) (key : UInt64) : Option Nat × Option Nat × Option (Table UInt16 Nat) :=
  (p.ipv4.held.get? key, p.heldIpv6.get? key, p.teids.held.get? key)

/-- What is recorded under another key depends on the rest only. -/
theorem holdings_of_rest (h : p'.rest key = p.rest key) (hne : key' ≠ key) :
    p'.holdings key' = p.holdings key' := by
  have hipv4 : p'.ipv4.held.erase key = p.ipv4.held.erase key := congrArg Rest.ipv4 h
  have hipv6 : p'.heldIpv6.erase key = p.heldIpv6.erase key := congrArg Rest.ipv6 h
  have hteids : p'.teids.held.erase key = p.teids.held.erase key := congrArg Rest.teids h
  have hget {α : Type} {t t' : Table UInt64 α} (heq : t'.erase key = t.erase key) :
      t'.get? key' = t.get? key' := by
    have hkept := congrArg (·.get? key') heq
    simpa only [Table.get?_erase, if_neg hne] using hkept
  unfold holdings
  rw [hget hipv4, hget hipv6, hget hteids]

/-! ## §5. Giving all back. -/

/-- The pools after a key has given back all that it holds. -/
def releaseAll (p : Pools) (key : UInt64) : Pools := (p.releaseIp key).releaseTeid key

theorem heldIpv6_releaseAll (p : Pools) (key : UInt64) :
    (p.releaseAll key).heldIpv6 = p.heldIpv6.erase key := by
  unfold heldIpv6 releaseAll releaseTeid releaseIp
  cases p.ipv6 with
  | none => rfl
  | some pool => exact AddressPool.held_release pool key

/-- Giving all back leaves the rest as it was. -/
theorem rest_releaseAll (p : Pools) (key : UInt64) : (p.releaseAll key).rest key = p.rest key := by
  have hipv4 : (p.releaseAll key).ipv4.held.erase key = p.ipv4.held.erase key := by
    show (p.ipv4.release key).held.erase key = p.ipv4.held.erase key
    rw [AddressPool.held_release, Table.erase_erase]
  have hteids : (p.releaseAll key).teids.held.erase key = p.teids.held.erase key :=
    Table.erase_erase p.teids.held key
  have hipv4Capacity : (p.releaseAll key).ipv4.capacity = p.ipv4.capacity :=
    AddressPool.capacity_release p.ipv4 key
  have hteidCapacity : (p.releaseAll key).teids.capacity = p.teids.capacity :=
    TeidPool.capacity_release p.teids key
  simp [rest, heldIpv6_releaseAll, hipv4, hteids, hipv4Capacity, hteidCapacity]

/-- A key that has given back all holds nothing; what the others hold stays. -/
theorem busy_releaseAll (p : Pools) (key key' : UInt64) :
    (p.releaseAll key).Busy key' ↔ key' ≠ key ∧ p.Busy key' := by
  have hipv4 : (p.releaseAll key).ipv4.held = p.ipv4.held.erase key :=
    AddressPool.held_release p.ipv4 key
  have hteids : (p.releaseAll key).teids.held = p.teids.held.erase key := rfl
  unfold Busy
  rw [hipv4, heldIpv6_releaseAll, hteids, Table.contains_erase, Table.contains_erase,
    Table.contains_erase]
  tauto

/-- A key that holds nothing gives nothing back. -/
theorem releaseAll_of_idle (hidle : ¬ p.Busy key) : p.releaseAll key = p := by
  unfold Busy at hidle
  push Not at hidle
  obtain ⟨hipv4, hipv6, hteids⟩ := hidle
  have hipv4Pool : p.ipv4.release key = p.ipv4 := by
    rw [AddressPool.release, Table.get?_of_not_contains hipv4]
  have hipv6Pool : p.ipv6.map (·.release key) = p.ipv6 := by
    cases hpool : p.ipv6 with
    | none => rfl
    | some pool =>
      have hheld : ¬ pool.held.contains key = true := by simpa [heldIpv6, hpool] using hipv6
      rw [Option.map_some, AddressPool.release, Table.get?_of_not_contains hheld]
  have hnothing : ((Table.empty : Table UInt16 Nat).values.mergeSort) = [] := List.mergeSort_nil
  have hteidPool : p.teids.release key = p.teids := by
    rw [TeidPool.release, TeidPool.heldBy, Table.get?_of_not_contains hteids,
      Table.erase_of_not_contains hteids, Option.getD_none, hnothing]
    rfl
  unfold releaseAll releaseIp releaseTeid
  rw [hipv4Pool, hipv6Pool, hteidPool]

/-- Keys that give all back, one after the other, leave what the others hold. -/
theorem busy_foldl_releaseAll (keys : List UInt64) (hk : ∀ k ∈ keys, key ≠ k) :
    (keys.foldl releaseAll p).Busy key ↔ p.Busy key := by
  induction keys generalizing p with
  | nil => exact Iff.rfl
  | cons k keys ih =>
    rw [List.foldl_cons, ih fun k' hk' => hk k' (List.mem_cons_of_mem k hk'), busy_releaseAll]
    exact and_iff_right (hk k List.mem_cons_self)

end Pools

end UserPlane
