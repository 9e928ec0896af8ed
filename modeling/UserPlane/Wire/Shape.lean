/-
  UserPlane.Wire.Shape
  ────────────────────
  **WHICH ELEMENTS A BODY IS MADE OF.**

  A shape says what a message body, or the value of an element that holds
  others, is made of.  Shapes are put together with `<$>` and `<*>` from six
  parts:

      required α    the last element of kind `α`, which has to be there
      optional α    the last element of kind `α`, if any
      firstOnly α   the first element of kind `α`, if any
      repeated α    every element of kind `α`, in order
      lenient α     the last element of kind `α`, if it can be read
      checked α     the same, telling a missing element from an unreadable one

  A body is read in one walk over its elements.  Each part has a slot (`Slots`),
  and an element that is met is put into the slot of the first part of its type
  (`meet`); elements of other types are passed over.  What is missing shows
  when the walk is over (`finish`).
-/
import UserPlane.Wire.Element

namespace UserPlane

/-! ## §1. Shapes. -/

/-- An element that may be absent or unreadable without spoiling its body. -/
inductive Checked (α : Type) where
  | missing
  | malformed
  | present (value : α)
  deriving DecidableEq, Repr

namespace Checked

/-- The value, if it is there and readable. -/
def value? {α : Type} : Checked α → Option α
  | present a => some a
  | _ => none

end Checked

/-- What a body is made of. -/
inductive Shape : Type → Type 1 where
  | const {α : Type} (a : α) : Shape α
  | ap {α β : Type} (f : Shape (α → β)) (s : Shape α) : Shape β
  | required (α : Type) [Element α] : Shape α
  | optional (α : Type) [Element α] : Shape (Option α)
  | firstOnly (α : Type) [Element α] : Shape (Option α)
  | repeated (α : Type) [Element α] : Shape (List α)
  | lenient (α : Type) [Element α] : Shape (Option α)
  | checked (α : Type) [Element α] : Shape (Checked α)

namespace Shape

instance : Applicative Shape where
  pure := const
  seq f s := ap f (s ())

/-- The types of the elements that it looks at. -/
def types : {α : Type} → Shape α → List UInt16
  | _, const _ => []
  | _, ap f s => f.types ++ s.types
  | _, required α | _, optional α | _, firstOnly α | _, repeated α | _, lenient α | _, checked α =>
    [Element.code α]

/-! ## §2. The walk over the elements. -/

/-- What is kept of the elements that were met: a slot for each part. -/
def Slots : {α : Type} → Shape α → Type
  | _, const _ => Unit
  | _, ap f s => f.Slots × s.Slots
  | _, required α | _, optional α | _, firstOnly α | _, lenient α => Option α
  | _, repeated α => Array α
  | _, checked α => Checked α

/-- Before any element. -/
def start : {α : Type} → (s : Shape α) → s.Slots
  | _, const _ => ()
  | _, ap f s => (f.start, s.start)
  | _, required _ | _, optional _ | _, firstOnly _ | _, lenient _ => none
  | _, repeated _ => #[]
  | _, checked _ => .missing

/-- An element of one of the types is put into its slot. -/
def meet (e : RawElement) : {α : Type} → (s : Shape α) → s.Slots → Decoded s.Slots
  | _, const _, _ => .ok ()
  | _, ap f s, slots =>
    if e.type ∈ f.types then return (← f.meet e slots.1, slots.2)
    else return (slots.1, ← s.meet e slots.2)
  | _, required _, _ | _, optional _, _ => return some (← Element.decode e.value)
  | _, firstOnly α, first => do
    -- a later element is read all the same, and may be refused
    let a ← Element.decode e.value
    return (first : Option α).or (some a)
  | _, repeated _, all => return all.push (← Element.decode e.value)
  | _, lenient _, _ => .ok (Element.decode e.value).toOption
  | _, checked _, _ =>
    match Element.decode e.value with
    | .ok a => .ok (.present a)
    | .error _ => .ok .malformed

/-- What is done on the walk: elements of other types are passed over. -/
def visit {α : Type} (s : Shape α) (e : RawElement) : StateT s.Slots Decoded Unit := do
  if e.type ∈ s.types then
    set (← s.meet e (← get))

/-- The value that the slots come to. -/
def finish : {α : Type} → (s : Shape α) → s.Slots → Decoded α
  | _, const a, _ => .ok a
  | _, ap f s, slots => do
    let g ← f.finish slots.1
    return g (← s.finish slots.2)
  | _, required α, last =>
    match (last : Option α) with
    | some a => .ok a
    | none => .error (.missing (Element.label α))
  | _, optional _, last => .ok last
  | _, firstOnly _, first => .ok first
  | _, repeated _, all => .ok all.toList
  | _, lenient _, last => .ok last
  | _, checked _, last => .ok last

/-- What a body of this shape stands for. -/
def decode {α : Type} (s : Shape α) (bs : Octets) : Decoded α := do
  let ((), slots) ← (forEachElement s.visit bs).run s.start
  s.finish slots

end Shape

end UserPlane
