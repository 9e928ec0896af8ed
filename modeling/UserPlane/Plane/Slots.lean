/-
  UserPlane.Plane.Slots
  ─────────────────────
  **NUMBERED SLOTS AND WHAT IS IN THEM.**

  Rules that packets are sent to live in slots.  A new rule goes into the
  lowest free slot; a rule is replaced or removed by the number of its slot.
-/
import UserPlane.Plane.SlotTracker
import UserPlane.Table

namespace UserPlane

/-- The rules in the slots, and which slots are free. -/
structure Slots (α : Type) where
  rules : Table Nat α
  tracker : SlotTracker
  deriving DecidableEq, Repr

namespace Slots

variable {α : Type}

/-- `size` slots, all free. -/
def make (size : Nat) : Slots α := ⟨.empty, .make size⟩

/-- The rule in a slot. -/
def get? (s : Slots α) (slot : Nat) : Option α := s.rules.get? slot

/-- Puts a rule into the lowest free slot. -/
def install (s : Slots α) (a : α) : Option (Nat × Slots α) :=
  s.tracker.take?.map fun (slot, tracker) => (slot, ⟨s.rules.insert slot a, tracker⟩)

/-- Puts a rule in place of the one in a slot. -/
def replace (s : Slots α) (slot : Nat) (a : α) : Option (Slots α) :=
  if s.rules.contains slot then some { s with rules := s.rules.insert slot a } else none

/-- Removes the rule in a slot and frees the slot. -/
def remove (s : Slots α) (slot : Nat) : Option (Slots α) :=
  if s.rules.contains slot then some ⟨s.rules.erase slot, s.tracker.release slot⟩ else none

end Slots

end UserPlane
