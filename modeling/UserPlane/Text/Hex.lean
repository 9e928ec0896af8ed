/-
  UserPlane.Text.Hex
  ──────────────────
  **OCTETS WRITTEN IN HEXADECIMAL.**

  Two lower-case digits for each octet, without anything in between.
-/
import UserPlane.Octets
import UserPlane.Text.Numeral

namespace UserPlane

namespace Octets

/-- Octets in hexadecimal. -/
def hex (bs : Octets) : String :=
  String.ofList <| bs.flatMap fun b =>
    [Numeral.digitChar (b.toNat / 16), Numeral.digitChar (b.toNat % 16)]

/-- The octets that pairs of digits spell. -/
def readHex? : List Char → Option Octets
  | [] => some []
  | a :: b :: rest => do
    let high ← Numeral.digitValue? 16 a
    let low ← Numeral.digitValue? 16 b
    return UInt8.ofNat (high * 16 + low) :: (← readHex? rest)
  | [_] => none

/-- The octets that a text spells. -/
def ofHex? (s : String) : Option Octets := readHex? s.toList

end Octets

end UserPlane
