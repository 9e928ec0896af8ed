/-
  UserPlane.Proofs.Session.Dismantling
  ────────────────────────────────────
  **SESSIONS ARE TAKEN DOWN IN ANY ORDER.**

  Taking a session down removes the entries under its detections and the rules
  in its slots; what is not there is passed over (`Session.plane_teardown`).
  Said that way it is three removals over lists, and removals commute: of
  entries of a table, and of rules in slots, whose bits are set one by one in
  the words of a tracker.  So the plane that is left by many sessions depends
  on which they are, not on their order (`Plane.without_perm`), and nothing is
  left in it that one of them had (`Plane.without_gone`).
-/
import Mathlib.Data.List.Basic
import Mathlib.Data.List.Perm.Basic
import UserPlane.Proofs.Session.Stock

namespace UserPlane

/-! ## §1. Removals commute. -/

namespace SlotTracker

theorem release_comm (t : SlotTracker) (i j : Nat) :
    (t.release i).release j = (t.release j).release i := by
  unfold release
  by_cases hi : i < t.size <;> by_cases hj : j < t.size
  · simp only [hi, hj, if_true]
    -- two bits of one word, or bits of two words
    by_cases hword : i / 64 = j / 64
    · rw [hword, List.modify_modify_eq, List.modify_modify_eq]
      congr 2
      funext w
      simp [BitVec.or_assoc, BitVec.or_comm (BitVec.twoPow 64 (i % 64))]
    · rw [List.modify_modify_ne _ _ _ hword]
  · simp only [hi, hj, if_true, if_false]
  · simp only [hi, hj, if_true, if_false]
  · simp only [hi, hj, if_false]

end SlotTracker

namespace Slots

variable {α : Type}

/-- The slots without the rule in one of them; an empty slot is passed over. -/
def drop (s : Slots α) (slot : Nat) : Slots α := (s.remove slot).getD s

theorem drop_eq (s : Slots α) (slot : Nat) :
    s.drop slot =
      if s.rules.contains slot then ⟨s.rules.erase slot, s.tracker.release slot⟩ else s := by
  unfold drop remove
  split <;> rfl

theorem drop_comm (s : Slots α) (i j : Nat) : (s.drop i).drop j = (s.drop j).drop i := by
  by_cases hij : i = j
  · rw [hij]
  · -- a slot is in use as before when another has been emptied
    have hkeptj : (s.rules.erase i).contains j = s.rules.contains j :=
      Table.contains_erase_of_ne s.rules (Ne.symm hij)
    have hkepti : (s.rules.erase j).contains i = s.rules.contains i :=
      Table.contains_erase_of_ne s.rules hij
    by_cases hi : s.rules.contains i = true <;> by_cases hj : s.rules.contains j = true <;>
      simp [drop_eq, hi, hj, hkepti, hkeptj, Table.erase_comm s.rules i j,
        SlotTracker.release_comm s.tracker i j]

instance : RightCommutative (drop : Slots α → Nat → Slots α) := ⟨drop_comm⟩

theorem rules_drop (s : Slots α) (slot : Nat) : (s.drop slot).rules = s.rules.erase slot := by
  rw [drop_eq]
  by_cases h : s.rules.contains slot = true
  · rw [if_pos h]
  · rw [if_neg h, Table.erase_of_not_contains h]

/-- After many removals none of the slots holds a rule. -/
theorem rules_foldl_drop (slots : List Nat) (s : Slots α) :
    (slots.foldl drop s).rules = slots.foldl Table.erase s.rules := by
  induction slots generalizing s with
  | nil => rfl
  | cons slot slots ih => rw [List.foldl_cons, ih, rules_drop, List.foldl_cons]

end Slots

/-! ## §2. What is left by a session. -/

namespace Session

/-- The slots of the session's forwarding rules. -/
def farSlots (s : Session) : List Nat := s.fars.values.map SessionFar.slot

/-- The slots of the session's QoS rules. -/
def qerSlots (s : Session) : List Nat := s.qers.values.map SessionQer.slot

end Session

namespace Plane

/-- The plane without the entries under some detections and the rules in some slots. -/
def strip (p : Plane) (ds : List Detection) (fars qers : List Nat) : Plane :=
  ⟨ds.foldl Table.erase p.pdrs, fars.foldl Slots.drop p.fars, qers.foldl Slots.drop p.qers⟩

theorem strip_strip (p : Plane) (ds ds' : List Detection) (fars fars' qers qers' : List Nat) :
    (p.strip ds fars qers).strip ds' fars' qers'
      = p.strip (ds ++ ds') (fars ++ fars') (qers ++ qers') := by
  simp [strip]

end Plane

namespace Teardown

theorem foldl_attempt_deletePdr (ds : List Detection) (t : Teardown) :
    (ds.foldl (fun t d => t.attempt (·.deletePdr d)) t).plane = t.plane.strip ds [] [] := by
  induction ds generalizing t with
  | nil => rfl
  | cons d ds ih =>
    rw [List.foldl_cons, ih, attempt_deletePdr]
    by_cases hthere : t.plane.pdrs.contains d = true
    · rw [if_pos hthere]
      rfl
    · -- there was nothing to be removed
      have hsame : t.plane.pdrs.erase d = t.plane.pdrs := Table.erase_of_not_contains hthere
      rw [if_neg hthere]
      show (⟨_, _, _⟩ : Plane) = ⟨ds.foldl Table.erase (t.plane.pdrs.erase d), _, _⟩
      rw [hsame]

theorem foldl_attempt_deleteFar (fars : List SessionFar) (t : Teardown) :
    (fars.foldl (fun t far => t.attempt (·.deleteFar far.slot)) t).plane
      = t.plane.strip [] (fars.map SessionFar.slot) [] := by
  induction fars generalizing t with
  | nil => rfl
  | cons far fars ih =>
    have hattempt : (t.attempt (·.deleteFar far.slot)).plane
        = { t.plane with fars := t.plane.fars.drop far.slot } := by
      cases hremove : t.plane.fars.remove far.slot <;>
        simp [attempt, Plane.deleteFar, Slots.drop, hremove]
    rw [List.foldl_cons, ih, hattempt]
    rfl

theorem foldl_attempt_deleteQer (qers : List SessionQer) (t : Teardown) :
    (qers.foldl (fun t qer => t.attempt (·.deleteQer qer.slot)) t).plane
      = t.plane.strip [] [] (qers.map SessionQer.slot) := by
  induction qers generalizing t with
  | nil => rfl
  | cons qer qers ih =>
    have hattempt : (t.attempt (·.deleteQer qer.slot)).plane
        = { t.plane with qers := t.plane.qers.drop qer.slot } := by
      cases hremove : t.plane.qers.remove qer.slot <;>
        simp [attempt, Plane.deleteQer, Slots.drop, hremove]
    rw [List.foldl_cons, ih, hattempt]
    rfl

end Teardown

/-- **Taking a session down** leaves the plane without its entries and rules,
whatever failed on the way. -/
theorem Session.plane_teardown (s : Session) (p : Plane) :
    (s.teardown p).plane = p.strip s.detections s.farSlots s.qerSlots := by
  unfold teardown
  dsimp only
  rw [Teardown.foldl_attempt_deleteQer, Teardown.foldl_attempt_deleteFar,
    Teardown.foldl_attempt_deletePdr, Plane.strip_strip, Plane.strip_strip]
  simp [farSlots, qerSlots]

/-! ## §3. What is left by many sessions. -/

namespace Plane

/-- The plane without anything of some sessions. -/
def without (p : Plane) (ss : List Session) : Plane :=
  p.strip (ss.flatMap Session.detections) (ss.flatMap Session.farSlots)
    (ss.flatMap Session.qerSlots)

/-- **Sessions that are taken down one after the other** leave the plane without
anything of them. -/
theorem foldl_teardown (ss : List Session) (p : Plane) :
    ss.foldl (fun p s => (s.teardown p).plane) p = p.without ss := by
  induction ss generalizing p with
  | nil => rfl
  | cons s ss ih =>
    rw [List.foldl_cons, ih, s.plane_teardown]
    exact strip_strip _ _ _ _ _ _ _

/-- **Their order does not matter.** -/
theorem without_perm {ss ss' : List Session} (h : ss.Perm ss') (p : Plane) :
    p.without ss = p.without ss' := by
  unfold without strip
  rw [(h.flatMap_right Session.detections).foldl_eq, (h.flatMap_right Session.farSlots).foldl_eq,
    (h.flatMap_right Session.qerSlots).foldl_eq]

/-- **Nothing of them is left.** -/
theorem without_gone {ss : List Session} {s : Session} (h : s ∈ ss) (p : Plane) :
    (∀ d ∈ s.detections, (p.without ss).pdrs.get? d = none)
      ∧ (∀ slot ∈ s.farSlots, (p.without ss).fars.get? slot = none)
      ∧ ∀ slot ∈ s.qerSlots, (p.without ss).qers.get? slot = none := by
  refine ⟨fun d hd => ?_, fun slot hslot => ?_, fun slot hslot => ?_⟩
  · have hmem : d ∈ ss.flatMap Session.detections := List.mem_flatMap.mpr ⟨s, h, hd⟩
    exact (Table.get?_foldl_erase _ _ d).trans (if_pos hmem)
  · have hmem : slot ∈ ss.flatMap Session.farSlots := List.mem_flatMap.mpr ⟨s, h, hslot⟩
    show ((ss.flatMap Session.farSlots).foldl Slots.drop p.fars).rules.get? slot = none
    rw [Slots.rules_foldl_drop, Table.get?_foldl_erase, if_pos hmem]
  · have hmem : slot ∈ ss.flatMap Session.qerSlots := List.mem_flatMap.mpr ⟨s, h, hslot⟩
    show ((ss.flatMap Session.qerSlots).foldl Slots.drop p.qers).rules.get? slot = none
    rw [Slots.rules_foldl_drop, Table.get?_foldl_erase, if_pos hmem]

end Plane

end UserPlane
