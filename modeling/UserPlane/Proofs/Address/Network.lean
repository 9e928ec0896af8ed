/-
  UserPlane.Proofs.Address.Network
  ────────────────────────────────
  **WHICH ADDRESSES A NETWORK HAS.**

  The first address of a network has zeros in all host bits.  So an offset
  that fits the host bits leads to an address of the network, and the sum of
  the two never leaves the width of the addresses.

      Network.Contains       an address starts with the bits of the network
      Network.offsets        the offsets that a pool of the network has
      WellMade.contains      an offset leads to an address of the network
      wellMade_ofText        every network that is read is well made
-/
import Mathlib.Algebra.Ring.Nat
import Mathlib.Data.List.Sort
import UserPlane.Pool

namespace UserPlane

namespace Network

variable {w : Nat} {n : Network w} {offset : Nat}

/-- The address starts with the bits of the network. -/
def Contains (n : Network w) (x : BitVec w) : Prop := around x n.length = n

/-- The first address and the length fit together. -/
def WellMade (n : Network w) : Prop := make? n.first n.length = .ok n

/-! ## §1. Where networks come from. -/

theorem wellMade_of_make? {first : BitVec w} {length : Nat} (h : make? first length = .ok n) :
    n.WellMade := by
  have hn : n = ⟨first, length⟩ := by
    unfold make? at h
    split at h
    · cases h
    · split at h
      · cases h
        rfl
      · cases h
  subst hn
  exact h

/-- Every network that is read is well made. -/
theorem wellMade_ofText {address? : List Char → Option (BitVec w)} {s : String}
    (h : ofText address? s = .ok n) : n.WellMade := by
  unfold ofText at h
  obtain ⟨⟨addr, length⟩, hsplit⟩ : ∃ pieces, splitLast '/' s.toList = pieces := ⟨_, rfl⟩
  rw [hsplit] at h
  cases haddr : address? addr with
  | none =>
    simp only [haddr] at h
    cases h
  | some first =>
    simp only [haddr] at h
    cases length with
    | none => exact wellMade_of_make? h
    | some digits =>
      cases hdigits : Numeral.readDecimal 255 digits with
      | error e =>
        simp only [hdigits] at h
        cases h
      | ok length =>
        simp only [hdigits] at h
        exact wellMade_of_make? h

/-! ## §2. Offsets. -/

theorem WellMade.length_le (h : n.WellMade) : n.length ≤ w := by
  unfold WellMade make? at h
  split at h
  · cases h
  · next hle => exact Nat.le_of_not_lt hle

theorem WellMade.first_and_mask (h : n.WellMade) : n.first &&& mask w n.length = n.first := by
  unfold WellMade make? at h
  split at h
  · cases h
  · split at h
    · next hmask => exact hmask
    · cases h

/-- What is left of an address without its host bits. -/
theorem toNat_and_mask (x : BitVec w) (length : Nat) :
    (x &&& mask w length).toNat = x.toNat / 2 ^ (w - length) * 2 ^ (w - length) := by
  have hle : x.toNat / 2 ^ (w - length) * 2 ^ (w - length) ≤ x.toNat := Nat.div_mul_le_self _ _
  unfold mask
  rw [← BitVec.shiftLeft_ushiftRight, BitVec.toNat_shiftLeft, BitVec.toNat_ushiftRight,
    Nat.shiftRight_eq_div_pow, Nat.shiftLeft_eq, Nat.mod_eq_of_lt (Nat.lt_of_le_of_lt hle x.isLt)]

/-- The first address is a multiple of the size of the network. -/
theorem WellMade.dvd (h : n.WellMade) : 2 ^ n.hostBits ∣ n.first.toNat := by
  have hfirst := congrArg BitVec.toNat h.first_and_mask
  rw [toNat_and_mask] at hfirst
  exact ⟨_, (hfirst.symm.trans (Nat.mul_comm _ _))⟩

/-- **No address of the network lies past the width.** -/
theorem WellMade.add_lt (h : n.WellMade) (ho : offset < 2 ^ n.hostBits) :
    n.first.toNat + offset < 2 ^ w := by
  obtain ⟨q, hq⟩ := h.dvd
  have hpow : 2 ^ w = 2 ^ n.hostBits * 2 ^ n.length := by
    rw [← Nat.pow_add]
    unfold hostBits
    rw [Nat.sub_add_cancel h.length_le]
  have hlt : n.first.toNat < 2 ^ n.hostBits * 2 ^ n.length := hpow ▸ n.first.isLt
  rw [hq] at hlt
  -- the network is one of the blocks of its size that fill the width
  have hblock : q + 1 ≤ 2 ^ n.length := Nat.lt_of_mul_lt_mul_left hlt
  calc n.first.toNat + offset
      < 2 ^ n.hostBits * q + 2 ^ n.hostBits := by
        rw [hq]
        exact Nat.add_lt_add_left ho _
    _ = 2 ^ n.hostBits * (q + 1) := (Nat.mul_succ _ _).symm
    _ ≤ 2 ^ n.hostBits * 2 ^ n.length := Nat.mul_le_mul_left _ hblock
    _ = 2 ^ w := hpow.symm

theorem WellMade.toNat_add (h : n.WellMade) (ho : offset < 2 ^ n.hostBits) :
    (n.first + BitVec.ofNat w offset).toNat = n.first.toNat + offset := by
  have hlt := h.add_lt ho
  rw [BitVec.toNat_add, BitVec.toNat_ofNat,
    Nat.mod_eq_of_lt (Nat.lt_of_le_of_lt (Nat.le_add_left _ _) hlt), Nat.mod_eq_of_lt hlt]

/-- **An offset that fits the host bits leads to an address of the network.** -/
theorem WellMade.contains (h : n.WellMade) (ho : offset < 2 ^ n.hostBits) :
    n.Contains (n.first + BitVec.ofNat w offset) := by
  obtain ⟨q, hq⟩ := h.dvd
  have hfirst : (n.first + BitVec.ofNat w offset) &&& mask w n.length = n.first := by
    apply BitVec.eq_of_toNat_eq
    rw [toNat_and_mask, h.toNat_add ho]
    show (n.first.toNat + offset) / 2 ^ n.hostBits * 2 ^ n.hostBits = n.first.toNat
    rw [hq, Nat.mul_add_div (Nat.two_pow_pos _), Nat.div_eq_of_lt ho, Nat.add_zero, Nat.mul_comm]
  unfold Contains around
  rw [hfirst]

theorem WellMade.add_ne_first (h : n.WellMade) (ho : offset < 2 ^ n.hostBits) (hne : offset ≠ 0) :
    n.first + BitVec.ofNat w offset ≠ n.first := by
  intro heq
  have hnat := congrArg BitVec.toNat heq
  rw [h.toNat_add ho] at hnat
  omega

/-! ## §3. What a pool has. -/

/-- The offsets of the addresses that are handed out: all of them, save the
first where there is more than one host bit, and save the last of all that 128
bits can write. -/
def offsets (n : Network w) : List Nat :=
  (List.range (2 ^ n.hostBits)).filter fun offset =>
    (1 < n.hostBits → offset ≠ 0) ∧ offset + 1 < 2 ^ 128

theorem mem_offsets : offset ∈ n.offsets ↔
    offset < 2 ^ n.hostBits ∧ (1 < n.hostBits → offset ≠ 0) ∧ offset + 1 < 2 ^ 128 := by
  unfold offsets
  rw [List.mem_filter, List.mem_range, decide_eq_true_iff]

/-- What a pool hands out starts within its network. -/
theorem offsetsOf_next_le (hostBits : Nat) :
    (AddressPool.offsetsOf hostBits).next ≤ (AddressPool.offsetsOf hostBits).stop := by
  have hsize : 1 ≤ AddressPool.networkSize hostBits := by
    unfold AddressPool.networkSize
    rw [Nat.one_shiftLeft]
    exact Nat.le_min.mpr ⟨Nat.one_le_two_pow, by decide⟩
  show (if 1 < hostBits then 1 else 0) ≤ AddressPool.networkSize hostBits
  split <;> omega

/-- The offsets stand in a row, from the first to the last. -/
theorem offsets_eq (n : Network w) :
    n.offsets = List.range' (AddressPool.offsetsOf n.hostBits).next
      ((AddressPool.offsetsOf n.hostBits).stop - (AddressPool.offsetsOf n.hostBits).next) := by
  refine List.Pairwise.eq_of_mem_iff (r := (· < ·)) (List.pairwise_lt_range.filter _)
    List.pairwise_lt_range' fun offset => ?_
  have hle := offsetsOf_next_le n.hostBits
  rw [mem_offsets, List.mem_range'_1, Nat.add_sub_cancel' hle]
  show _ ↔ (if 1 < n.hostBits then 1 else 0) ≤ offset ∧
    offset < min (1 <<< n.hostBits) (1 <<< 128 - 1)
  rw [Nat.one_shiftLeft, Nat.one_shiftLeft, Nat.lt_min]
  split <;> omega

theorem nodup_offsets (n : Network w) : n.offsets.Nodup := List.nodup_range.filter _

end Network

end UserPlane
