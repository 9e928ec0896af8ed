/-
  UserPlane.Address.Reading
  ─────────────────────────
  **READING INTERNET ADDRESSES.**

  The accepted writings of an IPv4 address are four decimal numbers up to 255
  without leading zeros, with points between them.  Those of an IPv6 address
  are eight groups of one to four hexadecimal digits with colons between them,
  where `::` may stand, once, for one or more zero groups and the last two
  groups may be written as an IPv4 address.

  Each reader takes what it can from the front of the text and hands on the
  rest; a text is an address when nothing is left over.
-/
import UserPlane.Address.Ip
import UserPlane.Text.Numeral

namespace UserPlane

/-- The rest of a text after the character `c` at its front. -/
def readChar? (c : Char) : List Char → Option (List Char)
  | [] => none
  | d :: ds => if d = c then some ds else none

/-- The longest stretch of digits at the front of a text, and the rest. -/
def spanDigits (base : Nat) (cs : List Char) : List Char × List Char :=
  (cs.takeWhile fun c => (Numeral.digitValue? base c).isSome,
   cs.dropWhile fun c => (Numeral.digitValue? base c).isSome)

/-- The number that digits spell. -/
def digitsValue (base : Nat) (ds : List Char) : Nat :=
  ds.foldl (fun acc c => acc * base + (Numeral.digitValue? base c).getD 0) 0

namespace Ipv4

/-- An octet in decimal: at most three digits, no leading zero. -/
def readOctet? (cs : List Char) : Option (Nat × List Char) :=
  let (ds, rest) := spanDigits 10 cs
  if ds = [] ∨ 3 < ds.length ∨ (1 < ds.length ∧ ds.head? = some '0') then none
  else if 255 < digitsValue 10 ds then none
  else some (digitsValue 10 ds, rest)

/-- An IPv4 address at the front of a text. -/
def read? (cs : List Char) : Option (Ipv4 × List Char) := do
  let (a, cs) ← readOctet? cs
  let (b, cs) ← readOctet? (← readChar? '.' cs)
  let (c, cs) ← readOctet? (← readChar? '.' cs)
  let (d, cs) ← readOctet? (← readChar? '.' cs)
  return (⟨BitVec.ofNat 32 (((a * 256 + b) * 256 + c) * 256 + d)⟩, cs)

/-- The IPv4 address that a whole text writes. -/
def ofText? (s : List Char) : Option Ipv4 :=
  match read? s with
  | some (a, []) => some a
  | _ => none

end Ipv4

namespace Ipv6

/-- A group: one to four hexadecimal digits. -/
def readGroup? (cs : List Char) : Option (Nat × List Char) :=
  let (ds, rest) := spanDigits 16 cs
  if ds = [] ∨ 4 < ds.length then none else some (digitsValue 16 ds, rest)

/-- What a run of groups came to: the groups, whether an IPv4 address ended
it, and the rest of the text. -/
structure Run where
  groups : List Nat
  endsInV4 : Bool
  rest : List Char
  deriving DecidableEq, Repr

/-- At most `room` groups at the front of a text, the first of them without a
colon before it.  An IPv4 address counts as two groups and ends the run; a
colon that no group follows is left in the rest. -/
def readRun (first : Bool) : Nat → List Char → Run
  | 0, cs => ⟨[], false, cs⟩
  | room + 1, cs =>
    let start := if first then some cs else readChar? ':' cs
    let v4 := if 1 ≤ room then start.bind Ipv4.read? else none
    match v4 with
    | some (a, rest) =>
      ⟨[a.bits.toNat / 65536, a.bits.toNat % 65536], true, rest⟩
    | none =>
      match start.bind readGroup? with
      | some (g, rest) =>
        let tail := readRun false room rest
        ⟨g :: tail.groups, tail.endsInV4, tail.rest⟩
      | none => ⟨[], false, cs⟩

/-- An IPv6 address at the front of a text. -/
def read? (cs : List Char) : Option (Ipv6 × List Char) :=
  let head := readRun true 8 cs
  if head.groups.length = 8 then some (ofGroups head.groups, head.rest)
  else if head.endsInV4 then none
  else do
    let cs ← readChar? ':' (← readChar? ':' head.rest)
    let tail := readRun true (7 - head.groups.length) cs
    let zeros := List.replicate (8 - head.groups.length - tail.groups.length) 0
    return (ofGroups (head.groups ++ zeros ++ tail.groups), tail.rest)

/-- The IPv6 address that a whole text writes. -/
def ofText? (s : List Char) : Option Ipv6 :=
  match read? s with
  | some (a, []) => some a
  | _ => none

end Ipv6

/-- The address of either kind that a whole text writes. -/
def Ip.ofText? (s : List Char) : Option Ip :=
  match Ipv4.read? s with
  | some (a, []) => some (.v4 a)
  | some (_, _ :: _) => none
  | none => (Ipv6.ofText? s).map .v6

end UserPlane
