/-
  UserPlane.Proofs.Pool.Returns
  ─────────────────────────────
  **KEYS GIVE BACK WHAT THEY HOLD IN ANY ORDER.**

  What is given back queues up behind what was given back before, so that the
  order of the keys shows in the order of the queue and nowhere else.  Two pools
  are `Alike` when they differ in that order only: the same is held, the same is
  free, and as much of it.  Giving back keeps pools alike, and so does giving
  back in another order (`Pools.returns_perm`).
-/
import Mathlib.Data.List.Perm.Basic
import UserPlane.Proofs.Pool

namespace UserPlane

/-! ## §1. Cursors. -/

namespace Cursor

/-- The cursors differ at most in the order of what was given back. -/
structure Alike (c c' : Cursor) : Prop where
  next : c.next = c'.next
  stop : c.stop = c'.stop
  released : c.released.Perm c'.released

variable {c c' c'' : Cursor}

theorem Alike.refl (c : Cursor) : c.Alike c := ⟨rfl, rfl, .refl _⟩

theorem Alike.trans (h : c.Alike c') (h' : c'.Alike c'') : c.Alike c'' :=
  ⟨h.next.trans h'.next, h.stop.trans h'.stop, h.released.trans h'.released⟩

/-- As much can be handed out. -/
theorem Alike.remaining (h : c.Alike c') : c.remaining = c'.remaining := by
  unfold Cursor.remaining
  rw [h.next, h.stop, h.released.length_eq]

theorem foldl_giveBack_eq (l : List Nat) (c : Cursor) :
    l.foldl giveBack c = { c with released := c.released ++ l } := by
  induction l generalizing c with
  | nil => simp
  | cons n l ih =>
    rw [List.foldl_cons, ih]
    simp [giveBack]

theorem Alike.giveBacks (h : c.Alike c') {l l' : List Nat} (hl : l.Perm l') :
    (l.foldl giveBack c).Alike (l'.foldl giveBack c') := by
  rw [foldl_giveBack_eq, foldl_giveBack_eq]
  exact ⟨h.next, h.stop, h.released.append hl⟩

end Cursor

/-! ## §2. Addresses. -/

namespace AddressPool

variable {w : Nat} {p p' p'' : AddressPool w}

/-- The pools differ at most in the order of what was given back. -/
structure Alike (p p' : AddressPool w) : Prop where
  network : p.network = p'.network
  held : p.held = p'.held
  offsets : p.offsets.Alike p'.offsets

theorem Alike.refl (p : AddressPool w) : p.Alike p := ⟨rfl, rfl, .refl _⟩

theorem Alike.trans (h : p.Alike p') (h' : p'.Alike p'') : p.Alike p'' :=
  ⟨h.network.trans h'.network, h.held.trans h'.held, h.offsets.trans h'.offsets⟩

theorem release_eq (p : AddressPool w) (key : UInt64) :
    p.release key = { p with
      offsets := (p.held.get? key).toList.foldl Cursor.giveBack p.offsets
      held := p.held.erase key } := by
  unfold release
  cases hheld : p.held.get? key with
  | some offset => rfl
  | none =>
    rw [Table.erase_of_get?_none hheld]
    rfl

theorem Alike.release (h : p.Alike p') (key : UInt64) : (p.release key).Alike (p'.release key) := by
  rw [release_eq, release_eq, h.held]
  exact ⟨h.network, rfl, h.offsets.giveBacks (.refl _)⟩

theorem release_comm (p : AddressPool w) (k k' : UInt64) :
    ((p.release k).release k').Alike ((p.release k').release k) := by
  by_cases hk : k = k'
  · rw [hk]
    exact .refl _
  · simp only [release_eq, Table.get?_erase, if_neg hk, if_neg (Ne.symm hk), ← List.foldl_append]
    exact ⟨rfl, Table.erase_comm _ _ _, (Cursor.Alike.refl _).giveBacks List.perm_append_comm⟩

end AddressPool

/-! ## §3. Tunnel ids. -/

namespace TeidPool

variable {p p' p'' : TeidPool}

/-- The pools differ at most in the order of what was given back. -/
structure Alike (p p' : TeidPool) : Prop where
  held : p.held = p'.held
  ids : p.ids.Alike p'.ids

theorem Alike.refl (p : TeidPool) : p.Alike p := ⟨rfl, .refl _⟩

theorem Alike.trans (h : p.Alike p') (h' : p'.Alike p'') : p.Alike p'' :=
  ⟨h.held.trans h'.held, h.ids.trans h'.ids⟩

theorem Alike.release (h : p.Alike p') (key : UInt64) : (p.release key).Alike (p'.release key) := by
  unfold TeidPool.release heldBy
  rw [h.held]
  exact ⟨rfl, h.ids.giveBacks (.refl _)⟩

/-- What another key holds stays when a key gives back its own. -/
theorem heldBy_release {k k' : UInt64} (h : k' ≠ k) (p : TeidPool) :
    (p.release k).heldBy k' = p.heldBy k' := by
  show ((p.held.erase k).get? k').getD .empty = _
  rw [Table.get?_erase, if_neg h]
  rfl

theorem release_comm (p : TeidPool) (k k' : UInt64) :
    ((p.release k).release k').Alike ((p.release k').release k) := by
  by_cases hk : k = k'
  · rw [hk]
    exact .refl _
  · refine ⟨Table.erase_comm _ _ _, ?_⟩
    show Cursor.Alike (List.foldl _ (List.foldl _ _ _) ((p.release k).heldBy k').values.mergeSort)
      (List.foldl _ (List.foldl _ _ _) ((p.release k').heldBy k).values.mergeSort)
    rw [heldBy_release (Ne.symm hk), heldBy_release hk, ← List.foldl_append, ← List.foldl_append]
    exact (Cursor.Alike.refl _).giveBacks List.perm_append_comm

end TeidPool

/-! ## §4. All pools. -/

namespace Pools

variable {p p' p'' : Pools}

/-- **The pools differ at most in the order of what was given back**: the same is
held, by the same keys. -/
structure Alike (p p' : Pools) : Prop where
  ipv4 : p.ipv4.Alike p'.ipv4
  ipv6 : Option.Rel AddressPool.Alike p.ipv6 p'.ipv6
  teids : p.teids.Alike p'.teids

theorem Alike.refl (p : Pools) : p.Alike p where
  ipv4 := .refl _
  ipv6 := by
    cases p.ipv6 with
    | none => exact .none
    | some pool => exact .some (.refl pool)
  teids := .refl _

theorem Alike.trans (h : p.Alike p') (h' : p'.Alike p'') : p.Alike p'' where
  ipv4 := h.ipv4.trans h'.ipv4
  ipv6 := by
    have hfirst := h.ipv6
    have hsecond := h'.ipv6
    revert hfirst hsecond
    generalize p.ipv6 = i
    generalize p'.ipv6 = i'
    generalize p''.ipv6 = i''
    rintro (hfirst | _)
    · rintro (hsecond | _)
      exact .some (hfirst.trans hsecond)
    · exact id
  teids := h.teids.trans h'.teids

theorem Alike.releaseAll (h : p.Alike p') (key : UInt64) :
    (p.releaseAll key).Alike (p'.releaseAll key) where
  ipv4 := h.ipv4.release key
  ipv6 := by
    have hipv6 := h.ipv6
    show Option.Rel _ (p.ipv6.map _) (p'.ipv6.map _)
    revert hipv6
    generalize p.ipv6 = i
    generalize p'.ipv6 = i'
    rintro (hpool | _)
    · exact .some (hpool.release key)
    · exact .none
  teids := h.teids.release key

theorem releaseAll_comm (p : Pools) (k k' : UInt64) :
    ((p.releaseAll k).releaseAll k').Alike ((p.releaseAll k').releaseAll k) where
  ipv4 := p.ipv4.release_comm k k'
  ipv6 := by
    show Option.Rel _ ((p.ipv6.map _).map _) ((p.ipv6.map _).map _)
    cases p.ipv6 with
    | none => exact .none
    | some pool => exact .some (pool.release_comm k k')
  teids := p.teids.release_comm k k'

theorem Alike.returns (h : p.Alike p') (keys : List UInt64) :
    (keys.foldl Pools.releaseAll p).Alike (keys.foldl Pools.releaseAll p') := by
  induction keys generalizing p p' with
  | nil => exact h
  | cons k keys ih => exact ih (h.releaseAll k)

/-- **Keys that give back all they hold** leave pools alike, in whatever order they
do it. -/
theorem returns_perm {keys keys' : List UInt64} (hperm : keys.Perm keys') (p : Pools) :
    (keys.foldl releaseAll p).Alike (keys'.foldl releaseAll p) := by
  -- along the swaps that lead from one order to the other
  induction hperm generalizing p with
  | nil => exact .refl p
  | cons k _ ih => exact ih (p.releaseAll k)
  | swap k k' keys => exact (p.releaseAll_comm k' k).returns keys
  | trans _ _ ih ih' => exact (ih p).trans (ih' p)

/-- As many addresses and tunnel ids are free. -/
theorem Alike.free (h : p.Alike p') :
    p.freeIpv4 = p'.freeIpv4 ∧ p.freeTeids = p'.freeTeids :=
  ⟨h.ipv4.offsets.remaining, h.teids.ids.remaining⟩

/-- A key that has given back all holds nothing, whoever else gives back. -/
theorem not_busy_returns {keys : List UInt64} {key : UInt64} (h : key ∈ keys) (p : Pools) :
    ¬ (keys.foldl releaseAll p).Busy key := by
  have hnever (keys : List UInt64) {p : Pools} (hidle : ¬ p.Busy key) :
      ¬ (keys.foldl releaseAll p).Busy key := by
    induction keys generalizing p with
    | nil => exact hidle
    | cons k keys ih => exact ih fun hbusy => hidle ((busy_releaseAll p k key).mp hbusy).2
  induction keys generalizing p with
  | nil => cases h
  | cons k keys ih =>
    rcases List.mem_cons.mp h with rfl | hmem
    · exact hnever keys fun hbusy => ((busy_releaseAll p key key).mp hbusy).1 rfl
    · exact ih hmem (p.releaseAll k)

end Pools

end UserPlane
