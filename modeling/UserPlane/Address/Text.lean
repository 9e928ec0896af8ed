/-
  UserPlane.Address.Text
  ──────────────────────
  **INTERNET ADDRESSES IN WRITING.**

  An IPv4 address is its octets in decimal with points between them.  An IPv6
  address is its groups in hexadecimal with colons between them, the longest
  run of two or more zero groups (the first of equals) drawn together to `::`;
  an address that carries an IPv4 one under `::ffff:0:0/96` is written
  `::ffff:` and the IPv4 text.
-/
import UserPlane.Address.Ip
import UserPlane.Text.Numeral

namespace UserPlane

/-- Parts with `sep` between each and the next. -/
def joinWith (sep : Char) : List (List Char) → List Char
  | [] => []
  | [p] => p
  | p :: ps => p ++ sep :: joinWith sep ps

namespace Ipv4

/-- The address in writing, as characters. -/
def chars (a : Ipv4) : List Char :=
  joinWith '.' (a.octets.map fun b => Numeral.decimal b.toNat)

/-- The address in writing. -/
def text (a : Ipv4) : String := String.ofList a.chars

end Ipv4

/-- A stretch of a list: where it starts and how long it is. -/
structure Stretch where
  start : Nat
  length : Nat
  deriving DecidableEq, Repr

/-- The longest stretch of zeros, the first of equals.  `current` is the
stretch that ends just before position `i`, `best` the longest so far. -/
def longestZerosFrom (i : Nat) (current best : Stretch) : List Nat → Stretch
  | [] => best
  | g :: gs =>
    if g = 0 then
      let current := ⟨if current.length = 0 then i else current.start, current.length + 1⟩
      longestZerosFrom (i + 1) current (if best.length < current.length then current else best) gs
    else longestZerosFrom (i + 1) ⟨0, 0⟩ best gs

/-- The longest stretch of zeros in a list, the first of equals. -/
def longestZeros (gs : List Nat) : Stretch := longestZerosFrom 0 ⟨0, 0⟩ ⟨0, 0⟩ gs

namespace Ipv6

/-- The IPv4 address carried under `::ffff:0:0/96`. -/
def mapped? (a : Ipv6) : Option Ipv4 :=
  if a.bits.toNat >>> 32 = 0xFFFF then some ⟨BitVec.ofNat 32 a.bits.toNat⟩ else none

/-- Groups in hexadecimal with colons between them. -/
def groupChars (gs : List Nat) : List Char := joinWith ':' (gs.map Numeral.hex)

/-- The address in writing, as characters. -/
def chars (a : Ipv6) : List Char :=
  match a.mapped? with
  | some v4 => [':', ':', 'f', 'f', 'f', 'f', ':'] ++ v4.chars
  | none =>
    let zeros := longestZeros a.groups
    if 1 < zeros.length then
      groupChars (a.groups.take zeros.start) ++ [':', ':']
        ++ groupChars (a.groups.drop (zeros.start + zeros.length))
    else groupChars a.groups

/-- The address in writing. -/
def text (a : Ipv6) : String := String.ofList a.chars

end Ipv6

/-- The address in writing, as characters. -/
def Ip.chars : Ip → List Char
  | .v4 a => a.chars
  | .v6 a => a.chars

/-- The address in writing. -/
def Ip.text (a : Ip) : String := String.ofList a.chars

end UserPlane
