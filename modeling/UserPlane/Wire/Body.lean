/-
  UserPlane.Wire.Body
  ───────────────────
  **VALUES THAT ARE RUNS OF ELEMENTS.**

  The body of a message is a run of elements, and so is the value of an
  element that groups others.  An instance of `Body` says which elements a
  value is written as, in order (`write`), and which it is read from (`shape`).
-/
import UserPlane.Wire.Shape

namespace UserPlane

/-! ## §1. Runs of elements. -/

/-- Elements in order, and whether every length in them can be worked out. -/
structure ElementRun where
  elements : List RawElement
  fits : Bool
  deriving DecidableEq, Repr

namespace ElementRun

instance : Append ElementRun where
  append r s := ⟨r.elements ++ s.elements, r.fits && s.fits⟩

/-- No element. -/
def empty : ElementRun := ⟨[], true⟩

/-- One value. -/
def one {α : Type} [Element α] (a : α) : ElementRun := ⟨[rawElement a], Element.fits a⟩

/-- A value that may be absent. -/
def maybe {α : Type} [Element α] (a : Option α) : ElementRun :=
  ⟨(a.map rawElement).toList, a.all Element.fits⟩

/-- Values one after the other. -/
def each {α : Type} [Element α] (as : List α) : ElementRun :=
  ⟨as.map rawElement, as.all Element.fits⟩

/-- The run in octets. -/
def octets (r : ElementRun) : Octets := RawElement.encodeAll r.elements

end ElementRun

/-! ## §2. Values written as runs. -/

/-- A kind of value that is written as a run of elements, and read by a shape
with one part for each type of element. -/
class Body (α : Type) where
  write : α → ElementRun
  shape : Shape α
  distinct : shape.types.Nodup := by decide

namespace Body

variable {α : Type} [Body α]

/-- The value in octets. -/
def octets (a : α) : Octets := (write a).octets

/-- The value in octets, unless a length in it cannot be worked out. -/
def octets? (a : α) : Option Octets := if (write a).fits then some (octets a) else none

/-- The value that octets stand for. -/
def decode (bs : Octets) : Decoded α := (shape : Shape α).decode bs

/-- The kind of element whose value is such a run; its length is filled in
when the run has been written. -/
@[reducible] def group (code : UInt16) (label : String) : Element α where
  code := code
  label := label
  payload := octets
  decode := decode
  fits a := lengthFits (octets a : Octets).length && (write a).fits

end Body

end UserPlane
