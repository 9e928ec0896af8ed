/-
  UserPlane.BitField
  ──────────────────
  **NAMED RUNS OF BITS IN A WORD.**

  Flag octets and descriptor words are kept as the word itself; a `BitField`
  names the run of bits from `high` down to `low` (bit 0 is the least
  significant), and reads or overwrites that run.  Overwriting keeps only the
  bits of the new value that fit the run and leaves every other bit alone.
-/
namespace UserPlane

/-- A named run of bits, from `high` down to `low`. -/
structure BitField where
  name : String
  high : Nat
  low : Nat
  deriving DecidableEq, Repr

namespace BitField

/-- A field one bit wide. -/
def flag (name : String) (bit : Nat) : BitField := ⟨name, bit, bit⟩

/-- How many bits the field has. -/
def width (f : BitField) : Nat := f.high + 1 - f.low

/-- The value of one unit of the field in a word. -/
def unit (f : BitField) : Nat := 1 <<< f.low

/-- How many values the field can have. -/
def range (f : BitField) : Nat := 1 <<< f.width

/-- The value of the field in `word`. -/
def get (f : BitField) (word : Nat) : Nat := word / f.unit % f.range

/-- `word` with the field overwritten by the low bits of `value`. -/
def set (f : BitField) (word value : Nat) : Nat :=
  word - f.get word * f.unit + value % f.range * f.unit

/-- Whether any bit of the field is set in `word`. -/
def isSet (f : BitField) (word : Nat) : Bool := f.get word != 0

theorem one_shiftLeft_pos (n : Nat) : 0 < 1 <<< n := by
  rw [Nat.one_shiftLeft]
  exact Nat.pow_pos (by decide)

theorem unit_pos (f : BitField) : 0 < f.unit := one_shiftLeft_pos f.low

theorem range_pos (f : BitField) : 0 < f.range := one_shiftLeft_pos f.width

theorem get_lt (f : BitField) (word : Nat) : f.get word < f.range :=
  Nat.mod_lt _ f.range_pos

/-- A word is the bits above the field, the field, and the bits below it. -/
theorem split_word (f : BitField) (word : Nat) :
    word = (f.range * (word / f.unit / f.range) + f.get word) * f.unit + word % f.unit := by
  have hfield := Nat.div_add_mod (word / f.unit) f.range
  have hword := Nat.div_add_mod word f.unit
  rw [Nat.mul_comm] at hword
  unfold get
  rw [hfield, hword]

/-- Overwriting keeps the bits above and below the field. -/
theorem set_eq (f : BitField) (word value : Nat) :
    f.set word value =
      (f.range * (word / f.unit / f.range) + value % f.range) * f.unit + word % f.unit := by
  unfold set
  have hsplit := f.split_word word
  have h₁ := Nat.add_mul (f.range * (word / f.unit / f.range)) (f.get word) f.unit
  have h₂ := Nat.add_mul (f.range * (word / f.unit / f.range)) (value % f.range) f.unit
  omega

/-- Overwriting then reading gives the bits that fit. -/
theorem get_set (f : BitField) (word value : Nat) :
    f.get (f.set word value) = value % f.range := by
  rw [set_eq]
  unfold get
  -- the bits below the field fall away, then those above it
  rw [Nat.mul_comm, Nat.mul_add_div f.unit_pos, Nat.div_eq_of_lt (Nat.mod_lt _ f.unit_pos),
    Nat.add_zero, Nat.mul_add_mod, Nat.mod_mod]

end BitField

end UserPlane
