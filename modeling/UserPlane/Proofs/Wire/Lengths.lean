/-
  UserPlane.Proofs.Wire.Lengths
  ─────────────────────────────
  **LENGTHS THAT ARE FILLED IN AFTERWARDS.**

  An element that holds others, or a text, is written with zero for its length,
  and the length is filled in when the rest is there: the octets are counted,
  the count is cut to 16 bits, and four are taken off it for the header.  From a
  count that was cut to less than four they cannot be taken, and nothing is
  written.

      fillLength           fills the length in, if it can be worked out
      fillLength_unfilled  what comes of it: the element, or nothing
      ElementRun.octets?   a run is written one element after the other, if
                           every one of them can be
      FilledIn             a kind of element whose length is filled in
      FilledIn.encode?_eq_some_iff
                           what is written for a value of up to 65535 octets,
                           and that nothing is for the last four such lengths
-/
import UserPlane.Proofs.Wire.Visiting

namespace UserPlane

/-! ## §1. Filling in one length. -/

/-- An element that is written with zero for its length. -/
def unfilled (code : UInt16) (value : Octets) : Octets := be16 code ++ be16 0 ++ value

/-- Fills in the length of an element: the count of its octets is cut to 16 bits, and four are
taken off for the header, if they can be. -/
def fillLength (bs : Octets) : Option Octets :=
  let count := UInt16.ofNat bs.length
  if count < 4 then none else some (bs.take 2 ++ be16 (count - 4) ++ bs.drop 4)

/-- The number in the length field of an element. -/
def lengthField (bs : Octets) : Nat := Octets.toNat ((bs.drop 2).take 2)

/-- Of a number that is written, only the octets that are kept matter. -/
theorem Octets.ofNat_mod (n v : Nat) : ofNat n (v % bound n) = ofNat n v := by
  conv => rhs; rw [← Nat.div_add_mod' v (bound n), ofNat_mul_add]

/-- A number of 16 bits is written as the low 16 bits of any number it was cut from. -/
theorem be16_cut (n : Nat) : be16 (UInt16.ofNat n) = Octets.ofNat 2 n := by
  rw [be16, UInt16.toNat_ofNat']
  exact Octets.ofNat_mod 2 n

/-- What is left of the count without the header is the length, in 16 bits; it would be so
also where the four octets cannot be taken off. -/
theorem count_sub_four (n : Nat) : UInt16.ofNat (n + 4) - 4 = UInt16.ofNat n := by
  rw [UInt16.ofNat_add]
  exact UInt16.add_sub_cancel _ _

/-- The header cannot be taken off a count that was cut to less. -/
theorem count_lt_four_iff (n : Nat) : UInt16.ofNat (n + 4) < 4 ↔ lengthFits n = false := by
  have hcount : (UInt16.ofNat (n + 4)).toNat = (n + 4) % 65536 := UInt16.toNat_ofNat'
  have hfour : (4 : UInt16).toNat = 4 := rfl
  rw [UInt16.lt_iff_toNat_lt, hcount, hfour, lengthFits, decide_eq_false_iff_not]
  exact Nat.not_le.symm

/-- **A length that is filled in** is that of the value, unless the count of all octets is
cut to less than the header takes. -/
theorem fillLength_unfilled (code : UInt16) (value : Octets) :
    fillLength (unfilled code value)
      = if lengthFits value.length then some (RawElement.encode ⟨code, value⟩) else none := by
  have hlength : (unfilled code value).length = value.length + 4 := by
    simp [unfilled]
    omega
  unfold fillLength
  simp only [hlength, count_lt_four_iff]
  cases lengthFits value.length with
  | false => rfl
  | true =>
    rw [count_sub_four, be16_cut]
    rfl

/-- The length field of an element has the low 16 bits of the length. -/
theorem lengthField_encode (e : RawElement) :
    lengthField e.encode = e.value.length % 65536 := by
  have hfield : (e.encode.drop 2).take 2 = Octets.ofNat 2 e.value.length := rfl
  rw [lengthField, hfield, Octets.toNat_ofNat]
  rfl

/-- The element with its value is cut off whole, if a header can hold its length. -/
theorem RawElement.split_encode {e : RawElement} (h : e.value.length ≤ 65535) :
    split e.encode = ([e], none) := by
  have hempty : split [] = ([], none) := by rw [split]
  rw [← List.append_nil e.encode, split_encode_append [] (Nat.lt_succ_of_le h), hempty]

/-- **Of the lengths that a header can hold**, all but the last four can be worked out. -/
theorem lengthFits_iff {n : Nat} (h : n ≤ 65535) : lengthFits n = true ↔ n ≤ 65531 := by
  rw [lengthFits, decide_eq_true_eq]
  omega

/-! ## §2. Runs, element by element. -/

namespace ElementRun

/-- The run in octets, unless a length in it cannot be worked out. -/
def octets? (r : ElementRun) : Option Octets := if r.fits then some r.octets else none

theorem octets_append (r s : ElementRun) : (r ++ s).octets = r.octets ++ s.octets :=
  List.flatMap_append

/-- One run is written after the other, if both can be. -/
theorem octets?_append (r s : ElementRun) :
    (r ++ s).octets? = (do return (← r.octets?) ++ (← s.octets?)) := by
  have hfits : (r ++ s).fits = (r.fits && s.fits) := rfl
  unfold octets?
  rw [hfits, octets_append]
  cases r.fits <;> cases s.fits <;> rfl

variable {α : Type} [Element α]

theorem octets_one (a : α) : (one a).octets = Element.encode a := List.append_nil _

/-- The run of one value is written as the value is. -/
theorem octets?_one (a : α) : (one a).octets? = Element.encode? a := by
  show (if Element.fits a then some (one a).octets else none) = _
  rw [octets_one]
  rfl

end ElementRun

/-! ## §3. Kinds whose length is filled in. -/

/-- A kind of element that can be written whenever its value and its header can be counted
in 16 bits. -/
class Writable (α : Type) [Element α] : Prop where
  encode?_of_le : ∀ a : α, (Element.payload a).length ≤ 65531 →
    Element.encode? a = some (Element.encode a) := by intros; rfl

/-- **A kind of element whose length is filled in** when the value behind the header has been
written. -/
class FilledIn (α : Type) [Element α] where
  value? : α → Option Octets
  encode?_eq_fill : ∀ a : α, Element.encode? a =
    (value? a).bind fun value => fillLength (unfilled (Element.code α) value)
  value?_of_le : ∀ a : α, (Element.payload a).length ≤ 65535 →
    value? a = some (Element.payload a)

namespace FilledIn

variable {α : Type} [Element α] [FilledIn α] {a : α}

/-- A value whose length a header can hold is written, and its length is left to fill in. -/
theorem encode?_eq_fillLength (h : (Element.payload a).length ≤ 65535) :
    Element.encode? a = fillLength (unfilled (Element.code α) (Element.payload a)) := by
  rw [encode?_eq_fill, value?_of_le a h]
  rfl

/-- **The length is filled in** for all but the last four lengths that a header can hold. -/
theorem encode?_eq_some_iff (h : (Element.payload a).length ≤ 65535) {bs : Octets} :
    Element.encode? a = some bs
      ↔ (Element.payload a).length ≤ 65531 ∧ Element.encode a = bs := by
  rw [encode?_eq_fillLength h, fillLength_unfilled, ← lengthFits_iff h]
  cases lengthFits (Element.payload a).length with
  | false => simp
  | true =>
    rw [if_pos rfl, Option.some.injEq, and_iff_right rfl]
    rfl

instance (priority := low) writable : Writable α where
  encode?_of_le a h := (encode?_eq_some_iff (Nat.le_trans h (by decide))).mpr ⟨h, rfl⟩

end FilledIn

/-! ## §4. Groups. -/

/-- The run can be written if a header can hold its length. -/
def ElementRun.Completes (r : ElementRun) : Prop :=
  r.octets.length ≤ 65535 → r.octets? = some r.octets

namespace ElementRun.Completes

variable {α : Type} [Element α] [Writable α] {r s : ElementRun}

theorem append (hr : r.Completes) (hs : s.Completes) : (r ++ s).Completes := by
  intro h
  rw [octets_append, List.length_append] at h
  rw [octets?_append, hr (by omega), hs (by omega), octets_append]
  rfl

/-- A value in a run has its own header, which the header of the run counts too. -/
theorem one {a : α} : (ElementRun.one a).Completes := by
  intro h
  have hsize : (Element.encode a).length = (Element.payload a).length + 4 :=
    RawElement.length_encode (rawElement a)
  rw [octets_one, hsize] at h
  rw [octets?_one, octets_one]
  exact Writable.encode?_of_le a (by omega)

theorem maybe {a? : Option α} : (ElementRun.maybe a?).Completes := by
  cases a? with
  | none => exact fun _ => rfl
  | some a => exact one

end ElementRun.Completes

/-- **A group is written as a run** whose length is then filled in. -/
theorem Body.encode?_group {α : Type} [Body α] (code : UInt16) (label : String) (a : α) :
    @Element.encode? α (Body.group code label) a =
      (Body.write a).octets?.bind fun value => fillLength (unfilled code value) := by
  have hfits : @Element.fits α (Body.group code label) a
      = (lengthFits (Body.octets a).length && (Body.write a).fits) := rfl
  unfold Element.encode? ElementRun.octets?
  rw [hfits]
  cases (Body.write a).fits with
  | false => rw [Bool.and_false]; rfl
  | true => rw [Bool.and_true]; exact (fillLength_unfilled code (Body.octets a)).symm

/-- The elements of a run are short if a header can hold its length. -/
theorem short_of_le {r : ElementRun} (h : r.octets.length ≤ 65535) : Short r.elements := by
  intro e he
  have hle := RawElement.length_value_le he
  unfold ElementRun.octets at h
  rw [valueLimit]
  omega

/-- A well-formed group is read whenever a header can hold its length. -/
theorem LawfulBody.decode_of_le {α : Type} [Body α] [HasWellFormed α] [LawfulBody α] {a : α}
    (hwf : WellFormed a) (h : (Body.octets a).length ≤ 65535) :
    Body.decode (Body.octets a) = .ok a :=
  decode_of_short hwf (short_of_le h)

/-- A group whose run can be written has its length filled in. -/
@[reducible] def FilledIn.group {α : Type} [Body α] (code : UInt16) (label : String)
    (h : ∀ a : α, (Body.write a).Completes) : @FilledIn α (Body.group code label) :=
  letI : Element α := Body.group code label
  { value? := fun a => (Body.write a).octets?
    encode?_eq_fill := Body.encode?_group code label
    value?_of_le := h }

end UserPlane
