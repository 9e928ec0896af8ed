/-
  UserPlane.Text.Numeral
  ──────────────────────
  **NUMERALS: TEXT OF NATURAL NUMBERS.**

  Printing writes a number in a base with the fewest digits, lower case past
  nine (`digits`).  Reading takes an optional plus sign and at least one
  decimal digit, and refuses a number above a limit; the digits are taken from
  the left, so of a bad digit and a number grown too large the one met first
  is reported.
-/
namespace UserPlane

/-- Why a text is no numeral of the wanted size. -/
inductive NumeralError where
  | empty
  | invalidDigit
  | tooLarge
  deriving DecidableEq, Repr

/-- The error in words. -/
def NumeralError.message : NumeralError → String
  | .empty => "cannot parse integer from empty string"
  | .invalidDigit => "invalid digit found in string"
  | .tooLarge => "number too large to fit in target type"

namespace Numeral

/-! ## §1. Printing. -/

/-- The digit of value `d`. -/
def digitChar (d : Nat) : Char :=
  if d < 10 then Char.ofNat (48 + d) else Char.ofNat (87 + d)

/-- The number in base `base + 2`, without leading zeros. -/
def digits (base : Nat) (n : Nat) : List Char :=
  if n < base + 2 then [digitChar n]
  else digits base (n / (base + 2)) ++ [digitChar (n % (base + 2))]
termination_by n
decreasing_by
  exact Nat.div_lt_self (by omega) (by omega)

/-- The number in base ten. -/
def decimal (n : Nat) : List Char := digits 8 n

/-- The number in base sixteen, lower case. -/
def hex (n : Nat) : List Char := digits 14 n

/-! ## §2. Reading. -/

/-- The value of a digit in a base up to sixteen. -/
def digitValue? (base : Nat) (c : Char) : Option Nat :=
  let v :=
    if '0' ≤ c ∧ c ≤ '9' then some (c.toNat - 48)
    else if 'a' ≤ c ∧ c ≤ 'z' then some (c.toNat - 87)
    else if 'A' ≤ c ∧ c ≤ 'Z' then some (c.toNat - 55)
    else none
  v.filter (· < base)

/-- Takes further digits into the number `acc`. -/
def readDigits (base limit : Nat) (acc : Nat) : List Char → Except NumeralError Nat
  | [] => .ok acc
  | c :: cs =>
    match digitValue? base c with
    | none => .error .invalidDigit
    | some d =>
      if acc * base + d > limit then .error .tooLarge
      else readDigits base limit (acc * base + d) cs

/-- A number in base `base` of at most `limit`, after an optional plus sign. -/
def read (base limit : Nat) : List Char → Except NumeralError Nat
  | [] => .error .empty
  | ['+'] => .error .invalidDigit
  | '+' :: cs => readDigits base limit 0 cs
  | cs => readDigits base limit 0 cs

/-- A decimal number of at most `limit`. -/
def readDecimal (limit : Nat) (cs : List Char) : Except NumeralError Nat := read 10 limit cs

end Numeral

end UserPlane
