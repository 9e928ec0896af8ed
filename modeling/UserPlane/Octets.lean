/-
  UserPlane.Octets
  ────────────────
  **OCTET STRINGS AND BIG-ENDIAN NUMBERS.**

  What travels between two nodes is a list of octets.  A number on the wire is
  written most significant octet first in a fixed count of octets:

      Octets.ofNat n v   the low `n` octets of `v`
      Octets.toNat bs    the number the octets of `bs` spell

  The two undo each other: `toNat_ofNat` (what was written reads back, reduced
  to the width) and `ofNat_toNat` (octets are the writing, in their own count,
  of the number they spell).
-/
namespace UserPlane

/-- A string of octets, first octet first. -/
abbrev Octets := List UInt8

/-! ## §1. Big-endian numbers. -/

/-- How many numbers can be spelt in `n` octets. -/
def Octets.bound : Nat → Nat
  | 0 => 1
  | n + 1 => Octets.bound n * 256

/-- The low `n` octets of `v`, most significant first. -/
def Octets.ofNat : Nat → Nat → Octets
  | 0, _ => []
  | n + 1, v => UInt8.ofNat (v / Octets.bound n) :: Octets.ofNat n v

/-- The number that octets spell, the first being the most significant. -/
def Octets.toNat : Octets → Nat
  | [] => 0
  | b :: bs => b.toNat * Octets.bound bs.length + Octets.toNat bs

namespace Octets

theorem bound_succ (n : Nat) : bound (n + 1) = bound n * 256 := rfl

theorem bound_pos (n : Nat) : 0 < bound n := by
  induction n with
  | zero => decide
  | succ n ih =>
    rw [bound_succ]
    omega

@[simp] theorem length_ofNat (n v : Nat) : (ofNat n v).length = n := by
  induction n with
  | zero => rfl
  | succ n ih => simp [ofNat, ih]

/-- Octets spell a number that fits their count. -/
theorem toNat_lt (bs : Octets) : toNat bs < bound bs.length := by
  induction bs with
  | nil => exact bound_pos 0
  | cons b bs ih =>
    have hb : b.toNat + 1 ≤ 256 := b.toNat_lt
    calc toNat (b :: bs) < b.toNat * bound bs.length + bound bs.length := by
          simp only [toNat]; omega
      _ = (b.toNat + 1) * bound bs.length := (Nat.succ_mul _ _).symm
      _ ≤ 256 * bound bs.length := Nat.mul_le_mul_right _ hb
      _ = bound (b :: bs).length := by rw [List.length_cons, bound_succ, Nat.mul_comm]

/-- A written number reads back, reduced to the width it was given. -/
theorem toNat_ofNat (n v : Nat) : toNat (ofNat n v) = v % bound n := by
  induction n with
  | zero => exact (Nat.mod_one v).symm
  | succ n ih =>
    have hhead : (UInt8.ofNat (v / bound n)).toNat = v / bound n % 256 := by simp
    simp only [ofNat, toNat, length_ofNat, hhead, ih]
    rw [bound_succ, Nat.mod_mul, Nat.mul_comm, Nat.add_comm]

/-- Only the low octets of the number matter to its writing. -/
theorem ofNat_mul_add (n a v : Nat) : ofNat n (a * bound n + v) = ofNat n v := by
  induction n generalizing a with
  | zero => rfl
  | succ n ih =>
    have hp : 0 < bound n := bound_pos _
    have hsplit : a * bound (n + 1) + v = a * 256 * bound n + v := by
      rw [bound_succ, Nat.mul_assoc, Nat.mul_comm (bound n) 256]
    have hdiv : (a * 256 * bound n + v) / bound n = a * 256 + v / bound n := by
      rw [Nat.mul_comm, Nat.mul_add_div hp]
    have hhead : UInt8.ofNat (a * 256 + v / bound n) = UInt8.ofNat (v / bound n) := by
      apply UInt8.toNat_inj.mp
      simp
    rw [hsplit, ofNat, ofNat, hdiv, hhead, ih]

/-- Octets are the writing, in their own count, of the number they spell. -/
theorem ofNat_toNat (bs : Octets) : ofNat bs.length (toNat bs) = bs := by
  induction bs with
  | nil => rfl
  | cons b bs ih =>
    have hp : 0 < bound bs.length := bound_pos _
    have hhead : (b.toNat * bound bs.length + toNat bs) / bound bs.length = b.toNat := by
      rw [Nat.mul_comm, Nat.mul_add_div hp, Nat.div_eq_of_lt (toNat_lt bs), Nat.add_zero]
    simp only [List.length_cons, ofNat, toNat, hhead, ofNat_mul_add, ih]
    simp

end Octets

/-! ## §2. The widths in use. -/

/-- A 16-bit number in two octets. -/
def be16 (v : UInt16) : Octets := Octets.ofNat 2 v.toNat

/-- A 32-bit number in four octets. -/
def be32 (v : UInt32) : Octets := Octets.ofNat 4 v.toNat

/-- A 64-bit number in eight octets. -/
def be64 (v : UInt64) : Octets := Octets.ofNat 8 v.toNat

@[simp] theorem length_be16 (v : UInt16) : (be16 v).length = 2 := Octets.length_ofNat 2 _

@[simp] theorem length_be32 (v : UInt32) : (be32 v).length = 4 := Octets.length_ofNat 4 _

@[simp] theorem length_be64 (v : UInt64) : (be64 v).length = 8 := Octets.length_ofNat 8 _

@[simp] theorem toNat_be16 (v : UInt16) : Octets.toNat (be16 v) = v.toNat := by
  have h : v.toNat < 65536 := v.toNat_lt
  rw [be16, Octets.toNat_ofNat]
  exact Nat.mod_eq_of_lt h

@[simp] theorem toNat_be32 (v : UInt32) : Octets.toNat (be32 v) = v.toNat := by
  have h : v.toNat < 4294967296 := v.toNat_lt
  rw [be32, Octets.toNat_ofNat]
  exact Nat.mod_eq_of_lt h

@[simp] theorem toNat_be64 (v : UInt64) : Octets.toNat (be64 v) = v.toNat := by
  have h : v.toNat < 18446744073709551616 := v.toNat_lt
  rw [be64, Octets.toNat_ofNat]
  exact Nat.mod_eq_of_lt h

end UserPlane
