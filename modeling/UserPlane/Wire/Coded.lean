/-
  UserPlane.Wire.Coded
  ────────────────────
  **VALUES WRITTEN AS ONE OCTET.**

  A kind of value with finitely many members, each written as an octet of its
  own, is an instance of `Coded`.  `Coded.ofCode?` finds the member an octet
  stands for; `Coded.ofCode?_code` says it undoes the writing.
-/
import UserPlane.Wire.Fault
import UserPlane.Octets

namespace UserPlane

/-- A kind of value with finitely many members, each written as an octet. -/
class Coded (α : Type) where
  all : List α
  code : α → UInt8
  name : α → String
  find_code : ∀ a, (all.find? fun b => code b == code a) = some a

namespace Coded

variable {α : Type} [Coded α]

/-- The member that an octet stands for. -/
def ofCode? (c : UInt8) : Option α := (all : List α).find? fun a => code a == c

@[simp] theorem ofCode?_code (a : α) : ofCode? (code a) = some a := Coded.find_code a

/-- Only the octet of a member stands for it. -/
theorem code_of_ofCode? {c : UInt8} {a : α} (h : ofCode? c = some a) : code a = c := by
  simpa using List.find?_some h

/-- The member that an octet stands for, `kind` being what it should be. -/
def decode (kind : String) (c : UInt8) : Decoded α :=
  match ofCode? c with
  | some a => .ok a
  | none => .error (.unknownCode kind c.toNat)

@[simp] theorem decode_code (kind : String) (a : α) : decode kind (code a) = .ok a := by
  simp [decode]

end Coded

end UserPlane
