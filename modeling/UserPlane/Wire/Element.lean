/-
  UserPlane.Wire.Element
  ──────────────────────
  **INFORMATION ELEMENTS.**

  A message body is a run of information elements, each a 16-bit type, a
  16-bit length and that many octets of value:

      RawElement.encode   one element in octets
      RawElement.split    octets cut into elements, up to the first fault
      forEachElement      visits the elements in order, then meets the fault

  A kind of element that this library understands is an instance of `Element`:
  its type number, its name, and how its value is written and read.
-/
import UserPlane.Wire.Reader

namespace UserPlane

/-- An information element as it lies in a message. -/
structure RawElement where
  type : UInt16
  value : Octets
  deriving DecidableEq, Repr

namespace RawElement

/-- The element in octets; of the length, the low 16 bits are written. -/
def encode (e : RawElement) : Octets :=
  be16 e.type ++ Octets.ofNat 2 e.value.length ++ e.value

/-- Elements one after the other. -/
def encodeAll (es : List RawElement) : Octets := es.flatMap encode

/-- The elements that octets hold, up to the first place where no element is
whole, and what is wrong there. -/
def split : Octets → List RawElement × Option WireFault
  | [] => ([], none)
  | t₁ :: t₀ :: l₁ :: l₀ :: rest =>
    let type := UInt16.ofNat (Octets.toNat [t₁, t₀])
    let length := Octets.toNat [l₁, l₀]
    let value := rest.take length
    if value.length < length then
      ([], some (.elementOverrun type.toNat length rest.length))
    else
      let more := split (rest.drop length)
      (⟨type, value⟩ :: more.1, more.2)
  | short => ([], some (.elementHeader short.length))
termination_by bs => bs.length
decreasing_by
  simp only [List.length_drop, List.length_cons]
  omega

end RawElement

/-- Visits the elements of `bs` in order, and faults at the end if the octets
are not elements throughout. -/
def forEachElement {m : Type → Type} [Monad m] [MonadExceptOf WireFault m]
    (visit : RawElement → m Unit) (bs : Octets) : m Unit := do
  (RawElement.split bs).1.forM visit
  match (RawElement.split bs).2 with
  | none => pure ()
  | some fault => throw fault

/-! ## §1. Kinds of elements. -/

/-- A kind of element: its type number, the name it goes by, how its value is
written and read.  `fits` tells whether the lengths in its value can be
worked out; only an element that holds others, or a text, can fail it. -/
class Element (α : Type) where
  code : UInt16
  label : String
  payload : α → Octets
  decode : Octets → Decoded α
  fits : α → Bool := fun _ => true

/-- The element that carries a value. -/
def rawElement {α : Type} [Element α] (a : α) : RawElement :=
  ⟨Element.code α, Element.payload a⟩

/-- A value in octets, header included. -/
def Element.encode {α : Type} [Element α] (a : α) : Octets := (rawElement a).encode

/-- A value in octets, unless a length in it cannot be worked out. -/
def Element.encode? {α : Type} [Element α] (a : α) : Option Octets :=
  if Element.fits a then some (Element.encode a) else none

/-- Whether the length of a value of `size` octets can be worked out when it
is filled in afterwards: the size with the header is cut to 16 bits first, and
four is then taken off. -/
def lengthFits (size : Nat) : Bool := 4 ≤ (size + 4) % 65536

end UserPlane
