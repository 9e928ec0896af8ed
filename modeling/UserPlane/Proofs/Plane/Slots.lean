/-
  UserPlane.Proofs.Plane.Slots
  ────────────────────────────
  **WHAT A SET OF SLOTS HOLDS.**

  `Stocked s size stock` says that of `size` slots exactly those are in use
  that `stock` names, each with the rule that `stock` has there, and that the
  tracker knows all the others to be free.  Every operation is described by
  what it adds to the stock or takes from it; whoever owns a part of the stock
  finds it untouched as long as the operations name other parts.
-/
import UserPlane.Plane.Slots
import UserPlane.Proofs.Plane.SlotTracker
import UserPlane.Proofs.Table

namespace UserPlane

namespace Table

variable {κ α β : Type} [DecidableEq κ]

/-- What the entries of a table have in slots, each its share. -/
def stock (share : β → Nat × α) (t : Table κ β) : Multiset (Nat × α) :=
  t.total fun _ x => {share x}

theorem stock_insert (share : β → Nat × α) (t : Table κ β) (id : κ) (x : β) :
    (t.insert id x).stock share = share x ::ₘ (t.erase id).stock share :=
  total_insert _ t id x

theorem stock_of_get? (share : β → Nat × α) {t : Table κ β} {id : κ} {x : β}
    (h : t.get? id = some x) : t.stock share = share x ::ₘ (t.erase id).stock share :=
  total_of_get? _ h

theorem mem_stock (share : β → Nat × α) (t : Table κ β) (p : Nat × α) :
    p ∈ t.stock share ↔ ∃ id x, t.get? id = some x ∧ share x = p := by
  unfold stock
  rw [mem_total]
  simp only [Multiset.mem_singleton, eq_comm]

end Table

namespace Slots

variable {α : Type}

/-- The slots in use, and the rules in them. -/
structure Stocked (s : Slots α) (size : Nat) (stock : Multiset (Nat × α)) : Prop where
  sized : s.tracker.Sized
  size_eq : s.tracker.size = size
  free_iff : ∀ slot, s.tracker.isFree slot = true ↔ slot < size ∧ s.get? slot = none
  below : ∀ slot a, s.get? slot = some a → slot < size
  pairs_eq : s.rules.pairs = stock

namespace Stocked

variable {s : Slots α} {size slot : Nat} {stock : Multiset (Nat × α)} {a b : α}

/-! ## §1. Reading the stock. -/

theorem mem_iff (h : s.Stocked size stock) : (slot, a) ∈ stock ↔ s.get? slot = some a := by
  rw [← h.pairs_eq]
  exact Table.mem_pairs s.rules slot a

theorem of_eq {stock' : Multiset (Nat × α)} (h : s.Stocked size stock) (heq : stock' = stock) :
    s.Stocked size stock' := by
  rwa [heq]

theorem nodup (h : s.Stocked size stock) : stock.Nodup := by
  rw [← h.pairs_eq]
  exact Table.nodup_pairs s.rules

theorem get? (h : s.Stocked size ((slot, a) ::ₘ stock)) : s.get? slot = some a :=
  h.mem_iff.mp (Multiset.mem_cons_self _ _)

/-- What is left of the stock without one slot. -/
theorem pairs_erase (h : s.Stocked size ((slot, a) ::ₘ stock)) :
    (s.rules.erase slot).pairs = stock := by
  have hsplit := Table.total_of_get? (fun k a => ({(k, a)} : Multiset (Nat × α))) h.get?
  have heq : (slot, a) ::ₘ stock = (slot, a) ::ₘ (s.rules.erase slot).pairs :=
    h.pairs_eq.symm.trans hsplit
  exact ((Multiset.cons_inj_right _).mp heq).symm

/-! ## §2. Operations. -/

/-- New slots hold nothing. -/
theorem make (size : Nat) : (Slots.make size : Slots α).Stocked size 0 where
  sized := SlotTracker.sized_make size
  size_eq := rfl
  free_iff slot := by
    show (SlotTracker.make size).isFree slot = true ↔ _
    rw [SlotTracker.isFree_make, decide_eq_true_iff]
    exact ⟨fun hlt => ⟨hlt, rfl⟩, fun h => h.1⟩
  below slot a h := by cases h
  pairs_eq := rfl

/-- **Installing** adds one rule, in a slot that held none. -/
theorem install {s' : Slots α} (h : s.Stocked size stock)
    (hinstall : s.install a = some (slot, s')) :
    s.get? slot = none ∧ s'.Stocked size ((slot, a) ::ₘ stock) := by
  obtain ⟨⟨k, tracker⟩, htake, heq⟩ := Option.map_eq_some_iff.mp hinstall
  cases heq
  -- the tracker hands out a slot that it knows to be free
  obtain ⟨hfree, hsize, hlen, hbits⟩ := SlotTracker.take?_spec htake
  obtain ⟨hlt, hnone⟩ := (h.free_iff slot).mp hfree
  have hget : ∀ j, (s.rules.insert slot a).get? j
      = if j = slot then some a else s.get? j := fun j => Table.get?_insert s.rules slot j a
  refine ⟨hnone, ?_, hsize.trans h.size_eq, ?_, ?_, ?_⟩
  · show tracker.words.length = (tracker.size + 63) / 64
    rw [hlen, hsize]
    exact h.sized
  · intro j
    show tracker.isFree j = true ↔ j < size ∧ (s.rules.insert slot a).get? j = none
    rw [hbits, hget, Bool.and_eq_true, h.free_iff, decide_eq_true_iff]
    by_cases hj : j = slot <;> simp [hj]
  · intro j b hj
    have hj' : (s.rules.insert slot a).get? j = some b := hj
    rw [hget] at hj'
    by_cases heq : j = slot
    · exact heq ▸ hlt
    · rw [if_neg heq] at hj'
      exact h.below j b hj'
  · show (s.rules.insert slot a).pairs = _
    rw [← h.pairs_eq]
    exact Table.total_insert_of_none _ a hnone

theorem contains (h : s.Stocked size ((slot, a) ::ₘ stock)) :
    s.rules.contains slot = true := by
  show (s.get? slot).isSome = true
  rw [h.get?]
  rfl

/-- **Replacing** changes one rule. -/
theorem replace (h : s.Stocked size ((slot, a) ::ₘ stock)) (b : α) :
    ∃ s', s.replace slot b = some s' ∧ s'.Stocked size ((slot, b) ::ₘ stock) := by
  refine ⟨⟨s.rules.insert slot b, s.tracker⟩, by rw [Slots.replace, if_pos h.contains], ?_⟩
  have hlt : slot < size := h.below slot a h.get?
  have hget : ∀ j, (s.rules.insert slot b).get? j
      = if j = slot then some b else s.get? j := fun j => Table.get?_insert s.rules slot j b
  -- the tracker stays as it is: the slot was in use, and is
  refine ⟨h.sized, h.size_eq, ?_, ?_, ?_⟩
  · intro j
    show s.tracker.isFree j = true ↔ j < size ∧ (s.rules.insert slot b).get? j = none
    rw [hget, h.free_iff]
    by_cases hj : j = slot
    · simp [hj, h.get?]
    · simp [hj]
  · intro j c hj
    have hj' : (s.rules.insert slot b).get? j = some c := hj
    rw [hget] at hj'
    by_cases heq : j = slot
    · exact heq ▸ hlt
    · rw [if_neg heq] at hj'
      exact h.below j c hj'
  · show (s.rules.insert slot b).pairs = _
    unfold Table.pairs
    rw [Table.total_insert]
    exact congrArg ((slot, b) ::ₘ ·) h.pairs_erase

/-- **Removing** takes one rule away and frees its slot. -/
theorem remove (h : s.Stocked size ((slot, a) ::ₘ stock)) :
    ∃ s', s.remove slot = some s' ∧ s'.Stocked size stock := by
  refine ⟨⟨s.rules.erase slot, s.tracker.release slot⟩,
    by rw [Slots.remove, if_pos h.contains], ?_⟩
  have hlt : slot < size := h.below slot a h.get?
  have hget : ∀ j, (s.rules.erase slot).get? j
      = if j = slot then none else s.get? j := Table.get?_erase s.rules slot
  -- the slot is empty now, and the tracker knows it to be free
  refine ⟨?_, (SlotTracker.size_release _ _).trans h.size_eq, ?_, ?_, h.pairs_erase⟩
  · show (s.tracker.release slot).words.length = ((s.tracker.release slot).size + 63) / 64
    rw [SlotTracker.length_release, SlotTracker.size_release]
    exact h.sized
  · intro j
    show (s.tracker.release slot).isFree j = true ↔ j < size ∧ (s.rules.erase slot).get? j = none
    rw [SlotTracker.isFree_release h.sized (h.size_eq ▸ hlt), hget, Bool.or_eq_true, h.free_iff,
      decide_eq_true_iff]
    by_cases hj : j = slot
    · simp [hj, hlt]
    · simp [hj]
  · intro j c hj
    have hj' : (s.rules.erase slot).get? j = some c := hj
    rw [hget] at hj'
    by_cases heq : j = slot
    · rw [if_pos heq] at hj'
      cases hj'
    · rw [if_neg heq] at hj'
      exact h.below j c hj'

/-! ## §3. Owners of a part of the stock. -/

variable {κ β : Type} [DecidableEq κ] {share : β → Nat × α} {t : Table κ β} {id : κ} {x : β}
  {others : Multiset (Nat × α)} {s' : Slots α}

/-- A new entry's rule is installed. -/
theorem create (h : s.Stocked size (t.stock share + others)) (hnone : t.get? id = none)
    (hinstall : s.install a = some (slot, s')) {y : β} (hy : share y = (slot, a)) :
    s'.Stocked size ((t.insert id y).stock share + others) := by
  obtain ⟨-, hs'⟩ := h.install hinstall
  rwa [Table.stock_insert, Table.erase_of_get?_none hnone, hy, Multiset.cons_add]

/-- An entry's rule is installed beside the one it replaces, which then goes. -/
theorem recreate (h : s.Stocked size (t.stock share + others)) (hsome : t.get? id = some x)
    (hinstall : s.install a = some (slot, s')) (y : β) (hy : share y = (slot, a)) :
    ∃ s'', s'.remove (share x).1 = some s''
      ∧ s''.Stocked size ((t.insert id y).stock share + others) := by
  obtain ⟨-, hs'⟩ := h.install hinstall
  rw [Table.stock_of_get? share hsome, Multiset.cons_add, Multiset.cons_swap] at hs'
  obtain ⟨s'', hremove, hs''⟩ := hs'.remove
  refine ⟨s'', hremove, ?_⟩
  rwa [Table.stock_insert, hy, Multiset.cons_add]

/-- An entry's rule is replaced where it is. -/
theorem update (h : s.Stocked size (t.stock share + others)) (hsome : t.get? id = some x)
    (y : β) (hy : share y = ((share x).1, a)) :
    ∃ s', s.replace (share x).1 a = some s'
      ∧ s'.Stocked size ((t.insert id y).stock share + others) := by
  rw [Table.stock_of_get? share hsome, Multiset.cons_add] at h
  obtain ⟨s', hreplace, hs'⟩ := h.replace a
  refine ⟨s', hreplace, ?_⟩
  rwa [Table.stock_insert, hy, Multiset.cons_add]

/-- An entry goes, and its rule with it. -/
theorem discard (h : s.Stocked size (t.stock share + others)) (hsome : t.get? id = some x) :
    ∃ s', s.remove (share x).1 = some s' ∧ s'.Stocked size ((t.erase id).stock share + others) := by
  rw [Table.stock_of_get? share hsome, Multiset.cons_add] at h
  exact h.remove

end Stocked

end Slots

end UserPlane
