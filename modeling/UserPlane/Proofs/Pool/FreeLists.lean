/-
  UserPlane.Proofs.Pool.FreeLists
  ───────────────────────────────
  **POOLS AS LISTS OF WHAT IS FREE.**

  A manager that writes down all its addresses and tunnel ids before it hands
  out the first is easy to understand: what is asked for comes off the front
  of a list, what is given back goes to its end.  The pools do not write
  anything down, and yet no list of calls tells them from that manager.

      FreeLists                 the manager that writes everything down
      Pools.freeLists           what it would have written down by now
      Pools.freeLists_serve     one call on both
      Pools.reports_eq          any calls on both
-/
import UserPlane.Proofs.Pool.Conservation

namespace UserPlane

/-! ## §1. Free lists. -/

/-- Values in the order in which they are handed out, and the one that each key
holds. -/
structure FreeList (α : Type) where
  free : List α
  held : Table UInt64 α

namespace FreeList

variable {α : Type}

/-- A value for a key: the one it holds, else the head of the list. -/
def allocate (f : FreeList α) (key : UInt64) : Option (α × FreeList α) :=
  match f.held.get? key with
  | some x => some (x, f)
  | none =>
    match f.free with
    | [] => none
    | x :: rest => some (x, ⟨rest, f.held.insert key x⟩)

/-- What the key holds goes to the end of the list. -/
def release (f : FreeList α) (key : UInt64) : FreeList α :=
  match f.held.get? key with
  | some x => ⟨f.free ++ [x], f.held.erase key⟩
  | none => f

end FreeList

/-- Tunnel ids in the order in which they are handed out, and those that each
key holds, rule by rule. -/
structure FreeTeids where
  free : List UInt32
  held : Table UInt64 (Table UInt16 UInt32)

namespace FreeTeids

/-- The tunnel ids that a key holds, by rule. -/
def heldBy (f : FreeTeids) (key : UInt64) : Table UInt16 UInt32 := (f.held.get? key).getD .empty

/-- A tunnel id for a rule of a key: the one it holds, else the head of the
list. -/
def allocate (f : FreeTeids) (key : UInt64) (rule : UInt16) : Option (UInt32 × FreeTeids) :=
  match (f.heldBy key).get? rule with
  | some teid => some (teid, f)
  | none =>
    match f.free with
    | [] => none
    | teid :: rest => some (teid, ⟨rest, f.held.insert key ((f.heldBy key).insert rule teid)⟩)

/-- What the key holds goes to the end of the list, the least tunnel id first. -/
def release (f : FreeTeids) (key : UInt64) : FreeTeids :=
  ⟨f.free ++ (f.heldBy key).values.mergeSort, f.held.erase key⟩

end FreeTeids

/-- What a network has to hand out, in ascending order. -/
def Network.addresses {w : Nat} (n : Network w) : List (BitVec w) :=
  n.offsets.map fun offset => n.first + BitVec.ofNat w offset

theorem Network.WellMade.addresses_ascending {w : Nat} {n : Network w} (h : n.WellMade) :
    n.addresses.Pairwise (· < ·) := by
  have hoffsets : n.offsets.Pairwise (· < ·) := List.pairwise_lt_range.filter _
  refine List.pairwise_map.mpr (hoffsets.imp_of_mem fun hi hj hlt => ?_)
  rw [BitVec.lt_def, h.toNat_add (Network.mem_offsets.mp hi).1,
    h.toNat_add (Network.mem_offsets.mp hj).1]
  exact Nat.add_lt_add_left hlt _

example : (⟨0x0A3C0004#32, 30⟩ : Network 32).addresses
    = [0x0A3C0005#32, 0x0A3C0006#32, 0x0A3C0007#32] := by decide

/-- The manager that writes down all it has. -/
structure FreeLists where
  ipv4 : FreeList (BitVec 32)
  ipv6 : Option (FreeList (BitVec 128))
  teids : FreeTeids

namespace FreeLists

/-- The lists of these networks and of the tunnel ids from one on, before
anything is handed out. -/
def filled (n4 : Network 32) (n6 : Option (Network 128)) (size : UInt32) : FreeLists where
  ipv4 := ⟨n4.addresses, .empty⟩
  ipv6 := n6.map fun n => ⟨n.addresses, .empty⟩
  teids := ⟨(List.range' 1 size.toNat).map UInt32.ofNat, .empty⟩

/-- The answer to a call, and the lists after it. -/
def serve (f : FreeLists) : PoolCall → PoolAnswer × FreeLists
  | .allocateIpv4 session =>
    match f.ipv4.allocate session with
    | some (x, ipv4) => (.ipv4 (.ok ⟨x⟩), { f with ipv4 })
    | none => (.ipv4 (.error .noFreeIp), f)
  | .allocateIpv6 session =>
    match f.ipv6 with
    | none => (.ipv6 (.error .noIpv6Pool), f)
    | some pool =>
      match pool.allocate session with
      | some (x, pool) => (.ipv6 (.ok ⟨x⟩), { f with ipv6 := some pool })
      | none => (.ipv6 (.error .noFreeIp), f)
  | .allocateTeid session rule =>
    match f.teids.allocate session rule with
    | some (teid, teids) => (.teid (.ok teid), { f with teids })
    | none => (.teid (.error .noFreeTeid), f)
  | .releaseIp session =>
    (.done, { f with ipv4 := f.ipv4.release session, ipv6 := f.ipv6.map (·.release session) })
  | .releaseTeid session => (.done, { f with teids := f.teids.release session })

end FreeLists

/-! ## §2. What a caller sees. -/

/-- The answer to a call, and how much is free after it. -/
structure PoolReport where
  answer : PoolAnswer
  freeIpv4 : Nat
  freeTeids : Nat

/-- What the pools answer to one call after the other. -/
def Pools.reports (p : Pools) : List PoolCall → List PoolReport
  | [] => []
  | call :: calls =>
    let p' := (p.serve call).2
    ⟨(p.serve call).1, p'.freeIpv4, p'.freeTeids⟩ :: p'.reports calls

/-- What the lists answer to one call after the other. -/
def FreeLists.reports (f : FreeLists) : List PoolCall → List PoolReport
  | [] => []
  | call :: calls =>
    let f' := (f.serve call).2
    ⟨(f.serve call).1, f'.ipv4.free.length, f'.teids.free.length⟩ :: f'.reports calls

/-! ## §3. Cursors as lists. -/

namespace Cursor

/-- The numbers in the order in which they will be handed out. -/
def queue (c : Cursor) : List Nat := c.untouched ++ c.released

theorem length_queue (c : Cursor) : c.queue.length = c.left := by
  unfold queue
  rw [left_eq, List.length_append, List.length_append, Nat.add_comm]

/-- What a cursor hands out is the head of its queue. -/
theorem queue_take? {c c' : Cursor} {n : Nat} (h : c.take? = some (n, c')) :
    c.queue = n :: c'.queue := by
  unfold take? at h
  split at h
  · next hlt =>
    cases h
    have hsucc : c.stop - c.next = (c.stop - (c.next + 1)) + 1 := by omega
    unfold queue untouched
    rw [hsucc, List.range'_succ, List.cons_append]
  · next hge =>
    split at h
    · cases h
    · next n rest hreleased =>
      cases h
      have hnone : c.stop - c.next = 0 := by omega
      unfold queue untouched
      rw [hnone, List.range'_zero, List.nil_append, hreleased]
      rfl

theorem queue_of_take?_none {c : Cursor} (h : c.take? = none) : c.queue = [] :=
  List.length_eq_zero_iff.mp ((length_queue c).trans (left_of_take?_none h))

theorem queue_foldl_giveBack (l : List Nat) (c : Cursor) :
    (l.foldl giveBack c).queue = c.queue ++ l := by
  induction l generalizing c with
  | nil => exact (List.append_nil _).symm
  | cons n l ih =>
    have hone : (c.giveBack n).queue = c.queue ++ [n] := (List.append_assoc _ _ _).symm
    rw [List.foldl_cons, ih, hone, List.append_assoc]
    rfl

end Cursor

/-! ## §4. Addresses. -/

namespace AddressPool

variable {w : Nat}

/-- The list that a pool stands for. -/
def freeList (p : AddressPool w) : FreeList (BitVec w) :=
  ⟨p.offsets.queue.map p.address, p.held.map p.address⟩

theorem freeList_ofNetwork (n : Network w) : (ofNetwork n).freeList = ⟨n.addresses, .empty⟩ := by
  have hqueue : (offsetsOf n.hostBits).queue = n.offsets := by
    rw [Network.offsets_eq]
    exact List.append_nil _
  show (⟨(offsetsOf n.hostBits).queue.map (ofNetwork n).address, _⟩ : FreeList (BitVec w)) = _
  rw [hqueue]
  rfl

/-- The list hands out what the pool does. -/
theorem freeList_allocate (p : AddressPool w) (key : UInt64) :
    p.freeList.allocate key = (p.allocate key).map fun (x, p') => (x, p'.freeList) := by
  have hget : p.freeList.held.get? key = (p.held.get? key).map p.address :=
    Table.get?_map _ _ _
  unfold AddressPool.allocate FreeList.allocate
  rw [hget]
  cases hheld : p.held.get? key with
  | some offset => rfl
  | none =>
    cases htake : p.offsets.take? with
    | none =>
      have hfree : p.freeList.free = [] := by
        show p.offsets.queue.map p.address = []
        rw [Cursor.queue_of_take?_none htake, List.map_nil]
      simp [hfree]
    | some taken =>
      obtain ⟨offset, offsets⟩ := taken
      have hfree : p.freeList.free = p.address offset :: offsets.queue.map p.address := by
        show p.offsets.queue.map p.address = _
        rw [Cursor.queue_take? htake, List.map_cons]
      have hinsert : (p.held.insert key offset).map p.address
          = p.freeList.held.insert key (p.address offset) := Table.map_insert _ _ _ _
      simp only [Option.map_none, hfree, Option.map_some, ← hinsert]
      rfl

/-- The list takes back what the pool does. -/
theorem freeList_release (p : AddressPool w) (key : UInt64) :
    (p.release key).freeList = p.freeList.release key := by
  have hget : p.freeList.held.get? key = (p.held.get? key).map p.address :=
    Table.get?_map _ _ _
  unfold AddressPool.release FreeList.release
  rw [hget]
  cases hheld : p.held.get? key with
  | none => rfl
  | some offset =>
    have hfree : (p.offsets.giveBack offset).queue.map p.address
        = p.freeList.free ++ [p.address offset] := by
      have hqueue := Cursor.queue_foldl_giveBack [offset] p.offsets
      rw [List.foldl_cons, List.foldl_nil] at hqueue
      rw [hqueue, List.map_append]
      rfl
    show (⟨(p.offsets.giveBack offset).queue.map p.address, (p.held.erase key).map p.address⟩ :
      FreeList (BitVec w)) = _
    rw [hfree, Table.map_erase]
    rfl

end AddressPool

/-! ## §5. Tunnel ids. -/

namespace TeidPool

variable {p : TeidPool}

/-- The list that a pool stands for. -/
def freeTeids (p : TeidPool) : FreeTeids :=
  ⟨p.ids.queue.map UInt32.ofNat, p.held.map (·.map UInt32.ofNat)⟩

theorem freeTeids_make (size : Nat) :
    (make size).freeTeids = ⟨(List.range' 1 size).map UInt32.ofNat, .empty⟩ := by
  have hqueue : (make size).ids.queue = List.range' 1 size := by
    show List.range' 1 (1 + size - 1) ++ [] = _
    rw [List.append_nil, Nat.add_sub_cancel_left]
  unfold freeTeids
  rw [hqueue]
  rfl

theorem heldBy_freeTeids (p : TeidPool) (key : UInt64) :
    p.freeTeids.heldBy key = (p.heldBy key).map UInt32.ofNat := by
  have hget : p.freeTeids.held.get? key = (p.held.get? key).map (·.map UInt32.ofNat) :=
    Table.get?_map _ _ _
  unfold FreeTeids.heldBy heldBy
  rw [hget]
  cases p.held.get? key <;> rfl

/-- The list hands out what the pool does. -/
theorem freeTeids_allocate (p : TeidPool) (key : UInt64) (rule : UInt16) :
    p.freeTeids.allocate key rule
      = (p.allocate key rule).map fun (n, p') => (UInt32.ofNat n, p'.freeTeids) := by
  unfold TeidPool.allocate FreeTeids.allocate
  rw [heldBy_freeTeids, Table.get?_map]
  cases hheld : (p.heldBy key).get? rule with
  | some n => rfl
  | none =>
    cases htake : p.ids.take? with
    | none =>
      have hfree : p.freeTeids.free = [] := by
        show p.ids.queue.map UInt32.ofNat = []
        rw [Cursor.queue_of_take?_none htake, List.map_nil]
      simp [hfree]
    | some taken =>
      obtain ⟨n, ids⟩ := taken
      have hfree : p.freeTeids.free = UInt32.ofNat n :: ids.queue.map UInt32.ofNat := by
        show p.ids.queue.map UInt32.ofNat = _
        rw [Cursor.queue_take? htake, List.map_cons]
      have hinsert : (p.held.insert key ((p.heldBy key).insert rule n)).map (·.map UInt32.ofNat)
          = p.freeTeids.held.insert key
              (((p.heldBy key).map UInt32.ofNat).insert rule (UInt32.ofNat n)) := by
        rw [Table.map_insert, Table.map_insert]
        rfl
      simp only [Option.map_none, hfree, Option.map_some, ← hinsert]
      rfl

/-- The list takes back what the pool does, in the same order. -/
theorem Sound.freeTeids_release (h : p.Sound) (key : UInt64) :
    (p.release key).freeTeids = p.freeTeids.release key := by
  have hvalues : (p.freeTeids.heldBy key).values = (p.heldBy key).values.map UInt32.ofNat := by
    rw [heldBy_freeTeids]
    unfold Table.values Table.map
    rw [List.map_map, List.map_map]
    rfl
  -- as all of them fit 32 bits, they are in the same order as numbers
  have hsort : (p.freeTeids.heldBy key).values.mergeSort
      = (p.heldBy key).values.mergeSort.map UInt32.ofNat := by
    rw [hvalues]
    refine (List.map_mergeSort fun m hm n hn => ?_).symm
    have hlt {n : Nat} (hn : n ∈ (p.heldBy key).values) : n < UInt32.size := by
      obtain ⟨rule, hrule⟩ := (Table.mem_values_iff _ _).mp hn
      exact h.lt_of_holds hrule
    rw [decide_eq_decide, UInt32.le_iff_toNat_le, UInt32.toNat_ofNat_of_lt' (hlt hm),
      UInt32.toNat_ofNat_of_lt' (hlt hn)]
  show (⟨((p.heldBy key).values.mergeSort.foldl Cursor.giveBack p.ids).queue.map UInt32.ofNat,
    (p.held.erase key).map (·.map UInt32.ofNat)⟩ : FreeTeids) = _
  rw [Cursor.queue_foldl_giveBack, List.map_append, ← hsort, Table.map_erase]
  rfl

end TeidPool

/-! ## §6. All pools. -/

namespace Pools

variable {n4 : Network 32} {n6 : Option (Network 128)} {size : UInt32} {p : Pools}

/-- The lists that the pools stand for. -/
def freeLists (p : Pools) : FreeLists :=
  ⟨p.ipv4.freeList, p.ipv6.map (·.freeList), p.teids.freeTeids⟩

theorem freeLists_make (n4 : Network 32) (n6 : Option (Network 128)) (size : UInt32) :
    (make n4 n6 size.toNat).freeLists = .filled n4 n6 size := by
  have hipv6 : (n6.map AddressPool.ofNetwork).map (·.freeList)
      = n6.map fun n => (⟨n.addresses, .empty⟩ : FreeList (BitVec 128)) := by
    rw [Option.map_map]
    exact Option.map_congr fun n _ => AddressPool.freeList_ofNetwork n
  unfold freeLists make FreeLists.filled
  rw [AddressPool.freeList_ofNetwork, TeidPool.freeTeids_make, hipv6]

theorem Sound.freeIpv4_eq (h : p.Sound) : p.freeIpv4 = p.freeLists.ipv4.free.length := by
  rw [h.freeIpv4_eq_left, ← Cursor.length_queue]
  exact (List.length_map _).symm

theorem Sound.freeTeids_eq (h : p.Sound) : p.freeTeids = p.freeLists.teids.free.length := by
  rw [h.freeTeids_eq_left, ← Cursor.length_queue]
  exact (List.length_map _).symm

/-- **One call**: the lists answer as the pools do, and are what the pools stand
for again. -/
theorem Sound.freeLists_serve (h : p.Sound) (call : PoolCall) :
    p.freeLists.serve call = ((p.serve call).1, (p.serve call).2.freeLists) := by
  cases call with
  | allocateIpv4 session =>
    have hlist := p.ipv4.freeList_allocate session
    cases hpool : p.ipv4.allocate session <;>
      simp_all [FreeLists.serve, Pools.serve, allocateIpv4, freeLists]
  | allocateIpv6 session =>
    cases hipv6 : p.ipv6 with
    | none => simp [FreeLists.serve, Pools.serve, allocateIpv6, freeLists, hipv6]
    | some pool =>
      have hlist := pool.freeList_allocate session
      cases hpool : pool.allocate session <;>
        simp_all [FreeLists.serve, Pools.serve, allocateIpv6, freeLists]
  | allocateTeid session rule =>
    have hlist := p.teids.freeTeids_allocate session rule
    cases hpool : p.teids.allocate session rule <;>
      simp_all [FreeLists.serve, Pools.serve, allocateTeid, freeLists]
  | releaseIp session =>
    have hipv6 : (p.ipv6.map (·.freeList)).map (·.release session)
        = (p.ipv6.map (·.release session)).map (·.freeList) := by
      rw [Option.map_map, Option.map_map]
      exact Option.map_congr fun pool _ => (pool.freeList_release session).symm
    show (PoolAnswer.done, (⟨p.ipv4.freeList.release session,
      (p.ipv6.map (·.freeList)).map (·.release session), p.teids.freeTeids⟩ : FreeLists)) = _
    rw [hipv6, ← AddressPool.freeList_release]
    rfl
  | releaseTeid session =>
    show (PoolAnswer.done, (⟨p.ipv4.freeList, p.ipv6.map (·.freeList),
      p.teids.freeTeids.release session⟩ : FreeLists)) = _
    rw [← h.teids.freeTeids_release]
    rfl

/-- **Any calls**: answers and counts are the same. -/
theorem Stocked.reports_eq (h : p.Stocked n4 n6 size) (calls : List PoolCall) :
    p.reports calls = p.freeLists.reports calls := by
  induction calls generalizing p with
  | nil => rfl
  | cons call calls ih =>
    have hserve := h.serve call
    simp only [reports, FreeLists.reports, h.sound.freeLists_serve call]
    rw [ih hserve, hserve.sound.freeIpv4_eq, hserve.sound.freeTeids_eq]

/-- **POOLS AS LISTS OF WHAT IS FREE.**  No list of calls tells the pools from
lists that are filled up front. -/
theorem reports_eq_filled (n4 : Network 32) (n6 : Option (Network 128)) (size : UInt32)
    (calls : List PoolCall) :
    (make n4 n6 size.toNat).reports calls = (FreeLists.filled n4 n6 size).reports calls
      ∧ (make n4 n6 size.toNat).freeIpv4 = (FreeLists.filled n4 n6 size).ipv4.free.length
      ∧ (make n4 n6 size.toNat).freeTeids = (FreeLists.filled n4 n6 size).teids.free.length := by
  have hstocked := stocked_make n4 n6 size
  rw [← freeLists_make]
  exact ⟨hstocked.reports_eq calls, hstocked.sound.freeIpv4_eq, hstocked.sound.freeTeids_eq⟩

end Pools

end UserPlane
