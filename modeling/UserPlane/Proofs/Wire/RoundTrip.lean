/-
  UserPlane.Proofs.Wire.RoundTrip
  ───────────────────────────────
  **WHAT IS WRITTEN READS BACK: THE LAWS OF READERS, ELEMENTS AND SHAPES.**

  A value that holds others is written as a run of elements and read by its
  shape.  Between the two stand the elements themselves:

      split_encodeAll    a run of elements is cut up into those elements
      Shape.Reads        a shape accepts a run and builds a value from it

  A run and a shape `Mirrors` each other when they are made of the same kinds of
  elements, so that the shape finds its part of any longer run.  The relation
  follows the way both are put together (`Mirrors.map`, `Mirrors.seq`), and has
  one law for each part of a shape (`Mirrors.required` and its like).

  Which values read back is part of their kind: `WellFormed` says which values
  are free of contradictions between what they announce and what they hold,
  `LawfulElement` that such a value reads back, and `LawfulBody` that the
  shape of a body reads what the body was written as.  A group is lawful when
  its body is (`LawfulBody.group`), so that nesting needs no argument of its own.
-/
import Mathlib.Data.List.Basic
import UserPlane.Proofs.Wire.Accumulation

namespace UserPlane

/-! ## §1. Readers one after the other. -/

namespace Reader

variable {α β : Type}

/-- A reader that reads a value from all octets makes that value of them. -/
theorem decode_of_run {r : Reader α} {bs : Octets} {a : α} (h : r.run bs = .ok (a, [])) :
    r.decode bs = .ok a := by
  simp only [Reader.decode, h]
  rfl

/-- After a reader that reads a value comes what is done with the value. -/
theorem run_then {r : Reader α} {k : α → Reader β} {bs rest : Octets} {a : α}
    (h : r.run bs = .ok (a, rest)) : (r >>= k).run bs = (k a).run rest := by
  rw [StateT.run_bind, h]
  rfl

/-- An octet that is there when its flag says so. -/
theorem run_present_u8 {there : Bool} {v : Option UInt8} {rest : Octets} (field : String)
    (h : there = v.isSome) :
    (present there (u8 field)).run (optionalBytes (fun b => [b]) v ++ rest) = .ok (v, rest) :=
  run_present h fun b rest => run_u8 field b rest

@[simp] theorem run_three (field : String) (t : UInt8 × UInt8 × UInt8) (rest : Octets) :
    (three field).run (octets3 t ++ rest) = .ok (t, rest) := by
  have htake := run_take field rest (show (octets3 t).length = 3 from rfl)
  exact run_then htake

theorem run_text (field : String) {s : String} (rest : Octets)
    (h : (Utf8.encode s).length < 65536) :
    (text field).run (textOctets s ++ rest) = .ok (s, rest) := by
  have hlength : UInt16.toNat (UInt16.ofNat (Utf8.encode s).length) = (Utf8.encode s).length := by
    rw [UInt16.toNat_ofNat']
    exact Nat.mod_eq_of_lt h
  have hbe : Octets.ofNat 2 (Utf8.encode s).length
      = be16 (UInt16.ofNat (Utf8.encode s).length) := by
    rw [be16, hlength]
  unfold text textOctets
  rw [List.append_assoc, hbe]
  refine (run_then (run_u16 field _ _)).trans ?_
  simp only [hlength]
  have henough : ¬ (Utf8.encode s ++ rest).length < (Utf8.encode s).length := by
    rw [List.length_append]
    omega
  refine (run_then (r := get) (a := Utf8.encode s ++ rest) rfl).trans ?_
  rw [if_neg henough]
  simp only [List.take_left, List.drop_left, Utf8.decode_encode]
  rfl

/-- A text that is there when its flag says so, and not too long to be counted. -/
theorem run_present_text {there : Bool} {v : Option String} {rest : Octets} (field : String)
    (h : there = v.isSome) (hlength : ∀ s ∈ v, (Utf8.encode s).length < 65536) :
    (present there (text field)).run (optionalBytes textOctets v ++ rest) = .ok (v, rest) := by
  subst h
  cases v with
  | none => rfl
  | some s => exact run_then (run_text field rest (hlength s rfl))

end Reader

/-! ## §2. Runs of elements. -/

namespace RawElement

/-- An element at the front of octets is cut off whole. -/
theorem split_encode_append {e : RawElement} (rest : Octets) (h : e.value.length < 65536) :
    split (e.encode ++ rest) = (e :: (split rest).1, (split rest).2) := by
  obtain ⟨type, value⟩ := e
  have hlength : Octets.toNat (Octets.ofNat 2 value.length) = value.length := by
    rw [Octets.toNat_ofNat]
    exact Nat.mod_eq_of_lt h
  have htype : UInt16.ofNat (Octets.toNat (be16 type)) = type := by simp
  -- the octets of both numbers, one by one, as the walk sees them
  rw [be16, Octets.ofNat, Octets.ofNat, Octets.ofNat] at htype
  rw [Octets.ofNat, Octets.ofNat, Octets.ofNat] at hlength
  show split (_ :: _ :: _ :: _ :: (value ++ rest)) = _
  rw [split, htype, hlength, List.take_left, List.drop_left, if_neg (Nat.lt_irrefl _)]

/-- **A run of elements is cut up into those elements.** -/
theorem split_encodeAll {es : List RawElement} (h : ∀ e ∈ es, e.value.length < 65536) :
    split (encodeAll es) = (es, none) := by
  induction es with
  | nil => simp [encodeAll, split]
  | cons e es ih =>
    have hrest : split (encodeAll es) = (es, none) := ih fun x hx => h x (by simp [hx])
    show split (e.encode ++ encodeAll es) = _
    rw [split_encode_append _ (h e (by simp)), hrest]

/-- An element takes its value and four octets of a run. -/
theorem length_value_le {es : List RawElement} {e : RawElement} (h : e ∈ es) :
    e.value.length + 4 ≤ (encodeAll es).length := by
  obtain ⟨before, behind, rfl⟩ := List.append_of_mem h
  simp [encodeAll, encode]
  omega

end RawElement

/-- A visit stops nowhere if it does not stop at any of the elements. -/
theorem forM_eq_ok_iff {visit : RawElement → Decoded Unit} {es : List RawElement} :
    es.forM visit = .ok () ↔ ∀ e ∈ es, visit e = .ok () := by
  induction es with
  | nil => simp [List.forM, pure, Except.pure]
  | cons e es ih =>
    show (do visit e; es.forM visit) = _ ↔ _
    rw [List.forall_mem_cons, ← ih]
    cases visit e <;> simp [bind, Except.bind]

/-- A visit that stops nowhere, of octets that are elements throughout. -/
theorem forEachElement_ok {visit : RawElement → Decoded Unit} {bs : Octets}
    {es : List RawElement} (hsplit : RawElement.split bs = (es, none))
    (h : ∀ e ∈ es, visit e = .ok ()) : forEachElement visit bs = .ok () := by
  unfold forEachElement
  rw [hsplit, forM_eq_ok_iff.mpr h]
  rfl

/-- What a run stands for as a body: refused elements are looked for, then the parts. -/
theorem Body.decode_encodeAll {α : Type} [Body α] {es : List RawElement}
    (h : ∀ e ∈ es, e.value.length < 65536) :
    (Body.decode (RawElement.encodeAll es) : Decoded α)
      = (do es.forM (Body.shape : Shape α).check; (Body.shape : Shape α).build es) := by
  rw [Body.decode, Shape.decode_eq Body.distinct]
  unfold forEachElement
  rw [RawElement.split_encodeAll h]
  cases hcheck : es.forM (Body.shape : Shape α).check with
  | error fault => rfl
  | ok u => rfl

theorem ElementRun.maybe_eq_each {α : Type} [Element α] (a? : Option α) :
    ElementRun.maybe a? = .each a?.toList := by
  cases a? <;> simp [ElementRun.maybe, ElementRun.each]

theorem ElementRun.one_eq_each {α : Type} [Element α] (a : α) : ElementRun.one a = .each [a] := by
  simp [ElementRun.one, ElementRun.each]

/-! ## §3. Kinds of values whose writing reads back. -/

/-- A kind of value, and which of its values are well formed. -/
class HasWellFormed (α : Type) where
  WellFormed : α → Prop := fun _ => True

export HasWellFormed (WellFormed)

/-- The octets that the value of an element may have: with the four octets of
its header they can still be counted in 16 bits. -/
def valueLimit : Nat := 65532

theorem lengthFits_of_lt {n : Nat} (h : n < valueLimit) : lengthFits n = true := by
  have hmod : (n + 4) % 65536 = n + 4 := Nat.mod_eq_of_lt (by rw [valueLimit] at h; omega)
  rw [lengthFits, hmod]
  simp

/-- A kind of element whose well-formed values can be written, and read back. -/
class LawfulElement (α : Type) [Element α] [HasWellFormed α] : Prop where
  decode_payload : ∀ a : α, WellFormed a → (Element.payload a).length < valueLimit →
    Element.decode (Element.payload a) = .ok a
  fits : ∀ a : α, WellFormed a → (Element.payload a).length < valueLimit →
    Element.fits a = true := by intros; rfl

/-- The elements of a run are short enough for their headers. -/
def Short (es : List RawElement) : Prop := ∀ e ∈ es, e.value.length < valueLimit

/-- So they are in a run that is not longer than a value may be. -/
theorem short_of_octets {r : ElementRun} (h : r.octets.length < valueLimit) :
    Short r.elements := by
  intro e he
  have hle := RawElement.length_value_le he
  unfold ElementRun.octets at h
  omega

/-! ## §4. What a shape reads. -/

/-- The shape accepts every element of the run, and builds `a` from it. -/
structure Shape.Reads {α : Type} (s : Shape α) (es : List RawElement) (a : α) : Prop where
  check : ∀ e ∈ es, s.check e = .ok ()
  build : s.build es = .ok a

namespace Shape

variable {α β : Type} {es : List RawElement}

theorem Reads.pure (a : α) : (Pure.pure a : Shape α).Reads es a := ⟨fun _ _ => rfl, rfl⟩

theorem Reads.seq {f : Shape (α → β)} {s : Shape α} {g : α → β} {a : α}
    (hf : f.Reads es g) (hs : s.Reads es a) : (f <*> s).Reads es (g a) where
  check e he := by
    show (do f.check e; s.check e) = _
    rw [hf.check e he]
    exact hs.check e he
  build := by
    show (do let g ← f.build es; return g (← s.build es)) = _
    rw [hf.build, hs.build]
    rfl

/-- What a shape reads from a run, it reads from the octets of the run. -/
theorem Reads.decode {s : Shape α} (hdistinct : s.types.Nodup) {a : α} (h : s.Reads es a)
    (hshort : Short es) : s.decode (RawElement.encodeAll es) = .ok a := by
  have hsplit : RawElement.split (RawElement.encodeAll es) = (es, none) :=
    RawElement.split_encodeAll fun e he => by
      have hlt := hshort e he
      rw [valueLimit] at hlt
      omega
  rw [Shape.decode_eq hdistinct, forEachElement_ok hsplit h.check, hsplit]
  exact h.build

end Shape

section Parts

variable {α : Type} [Element α] [HasWellFormed α] [LawfulElement α] {es : List RawElement}

/-- The elements of one kind are the writings of these well-formed values. -/
structure Holds (es : List RawElement) (as : List α) : Prop where
  elements : elementsOf α es = as.map rawElement
  wellFormed : ∀ a ∈ as, WellFormed a
  short : Short es

variable {as : List α}

theorem Holds.as? (h : Holds es as) {a : α} (ha : a ∈ as) :
    (rawElement a).as? α = some a := by
  have hmem : rawElement a ∈ elementsOf α es := h.elements ▸ List.mem_map_of_mem ha
  have hread := LawfulElement.decode_payload a (h.wellFormed a ha)
    (h.short _ (List.mem_filter.mp hmem).1)
  show (Element.decode (Element.payload a) : Decoded α).toOption = some a
  rw [hread]
  rfl

theorem Holds.refuse (h : Holds es as) {e : RawElement} (he : e ∈ es) :
    refuse α e = .ok () := by
  unfold UserPlane.refuse
  split
  · next htype =>
    have hmem : e ∈ as.map rawElement :=
      h.elements ▸ List.mem_filter.mpr ⟨he, by simpa using htype⟩
    obtain ⟨a, ha, rfl⟩ := List.mem_map.mp hmem
    have hread := LawfulElement.decode_payload a (h.wellFormed a ha) (h.short _ he)
    show (do let _ ← (Element.decode (Element.payload a) : Decoded α); _) = _
    rw [hread]
    rfl
  · rfl

theorem Holds.allOf (h : Holds es as) : allOf α es = as := by
  unfold UserPlane.allOf
  rw [h.elements, List.filterMap_map]
  exact (List.filterMap_congr fun a ha => h.as? ha).trans List.filterMap_some

variable {a? : Option α}

theorem Holds.lastOf (h : Holds es a?.toList) : lastOf α es = a? := by
  unfold UserPlane.lastOf
  rw [h.elements]
  cases a? with
  | none => rfl
  | some a => exact h.as? (by simp)

theorem Holds.firstOf (h : Holds es a?.toList) : firstOf α es = a? := by
  unfold UserPlane.firstOf
  rw [h.elements]
  cases a? with
  | none => rfl
  | some a => exact h.as? (by simp)

theorem Holds.lastChecked {c : Checked α} (h : Holds es c.value?.toList) (hc : c ≠ .malformed) :
    lastChecked α es = c := by
  unfold UserPlane.lastChecked
  rw [h.elements]
  cases c with
  | missing => rfl
  | malformed => exact absurd rfl hc
  | present a =>
    have has : (rawElement a).as? α = some a := h.as? (by simp [Checked.value?])
    simp [Checked.value?, has]

end Parts

/-! ## §5. Runs and shapes that mirror each other. -/

/-- **The run and the shape mirror each other**: the run is made of elements of
these kinds, it can be written, and from any elements of which it is the part
of these kinds the shape reads `a`. -/
structure Mirrors {α : Type} (kinds : List UInt16) (r : ElementRun) (s : Shape α) (a : α) :
    Prop where
  kinds_mem : ∀ e ∈ r.elements, e.type ∈ kinds
  fits : Short r.elements → r.fits = true
  reads : ∀ es, Short es → (es.filter fun e => e.type ∈ kinds) = r.elements → s.Reads es a

namespace Mirrors

variable {α β : Type} {kinds ks : List UInt16} {r t : ElementRun}

/-- Nothing is written, and nothing is needed. -/
theorem empty (a : α) : Mirrors [] .empty (pure a) a where
  kinds_mem := by simp [ElementRun.empty]
  fits _ := rfl
  reads _ _ _ := .pure a

/-- The value may be put into another. -/
theorem map {g : α → β} {s : Shape α} {a : α} (h : Mirrors kinds r s a) :
    Mirrors kinds r (g <$> s) (g a) where
  kinds_mem := h.kinds_mem
  fits := h.fits
  reads es hshort hes := .seq (.pure g) (h.reads es hshort hes)

/-- Elements of some kinds may be looked for among those of more kinds. -/
theorem filter_kinds {all : List UInt16} (es : List RawElement) (h : ∀ k ∈ kinds, k ∈ all) :
    (es.filter fun e => e.type ∈ kinds)
      = (es.filter fun e => e.type ∈ all).filter fun e => e.type ∈ kinds := by
  rw [List.filter_filter]
  refine List.filter_congr fun e _ => ?_
  by_cases he : e.type ∈ kinds <;> simp [he, h]

/-- One part after the other, if they have no kind in common. -/
theorem seq {f : Shape (α → β)} {s : Shape α} {g : α → β} {a : α}
    (hf : Mirrors kinds r f g) (hs : Mirrors ks t s a)
    (hdisjoint : (ks.all fun k => k ∉ kinds) = true := by decide) :
    Mirrors (kinds ++ ks) (r ++ t) (f <*> s) (g a) where
  kinds_mem e he := by
    rcases List.mem_append.mp he with he | he
    · exact List.mem_append.mpr (.inl (hf.kinds_mem e he))
    · exact List.mem_append.mpr (.inr (hs.kinds_mem e he))
  fits hshort := by
    have hr : r.fits = true := hf.fits fun e he => hshort e (List.mem_append.mpr (.inl he))
    have ht : t.fits = true := hs.fits fun e he => hshort e (List.mem_append.mpr (.inr he))
    show (r.fits && t.fits) = true
    rw [hr, ht]
    rfl
  reads es hshort hes := by
    have hes : (es.filter fun e => e.type ∈ kinds ++ ks) = r.elements ++ t.elements := hes
    have hdisjoint : ∀ k ∈ ks, k ∉ kinds := by simpa using hdisjoint
    -- each part of the run has all of its own kinds and none of the other's
    have hown₁ : (r.elements.filter fun e => e.type ∈ kinds) = r.elements :=
      List.filter_eq_self.mpr (by simpa using hf.kinds_mem)
    have hown₂ : (t.elements.filter fun e => e.type ∈ ks) = t.elements :=
      List.filter_eq_self.mpr (by simpa using hs.kinds_mem)
    have hother₁ : (r.elements.filter fun e => e.type ∈ ks) = [] :=
      List.filter_eq_nil_iff.mpr
        (by simpa using fun e he hk => hdisjoint e.type hk (hf.kinds_mem e he))
    have hother₂ : (t.elements.filter fun e => e.type ∈ kinds) = [] :=
      List.filter_eq_nil_iff.mpr
        (by simpa using fun e he => hdisjoint e.type (hs.kinds_mem e he))
    have hr : (es.filter fun e => e.type ∈ kinds) = r.elements := by
      rw [filter_kinds es fun k hk => List.mem_append.mpr (.inl hk), hes, List.filter_append,
        hown₁, hother₂, List.append_nil]
    have ht : (es.filter fun e => e.type ∈ ks) = t.elements := by
      rw [filter_kinds es fun k hk => List.mem_append.mpr (.inr hk), hes, List.filter_append,
        hother₁, hown₂, List.nil_append]
    exact .seq (hf.reads es hshort hr) (hs.reads es hshort ht)

/-! ## §6. What mirrors the parts of a shape. -/

variable [Element α] [HasWellFormed α] [LawfulElement α]

/-- Some values of one kind, read by a shape that is made for them. -/
theorem ofHolds {as : List α} {s : Shape β} {b : β} (hwf : ∀ a ∈ as, WellFormed a)
    (hreads : ∀ es, Holds es as → s.Reads es b) :
    Mirrors [Element.code α] (.each as) s b where
  kinds_mem := by simp [ElementRun.each, rawElement]
  fits hshort := List.all_eq_true.mpr fun a ha =>
    LawfulElement.fits a (hwf a ha) (hshort (rawElement a) (List.mem_map_of_mem ha))
  reads es hshort hes := by
    refine hreads es ⟨?_, hwf, hshort⟩
    simpa [elementsOf, ElementRun.each] using hes

theorem required {a : α} (hwf : WellFormed a := by trivial) :
    Mirrors [Element.code α] (.one a) (.required α) a := by
  rw [ElementRun.one_eq_each]
  exact ofHolds (by simpa using hwf) fun _ h =>
    ⟨fun _ he => h.refuse he, Shape.build_required.mpr (Holds.lastOf h)⟩

variable {a? : Option α}

theorem optional (hwf : ∀ a ∈ a?, WellFormed a := by intros; trivial) :
    Mirrors [Element.code α] (.maybe a?) (.optional α) a? := by
  rw [ElementRun.maybe_eq_each]
  exact ofHolds (by simpa using hwf) fun _ h =>
    ⟨fun _ he => h.refuse he, congrArg _ h.lastOf⟩

theorem firstOnly (hwf : ∀ a ∈ a?, WellFormed a := by intros; trivial) :
    Mirrors [Element.code α] (.maybe a?) (.firstOnly α) a? := by
  rw [ElementRun.maybe_eq_each]
  exact ofHolds (by simpa using hwf) fun _ h =>
    ⟨fun _ he => h.refuse he, congrArg _ h.firstOf⟩

theorem lenient (hwf : ∀ a ∈ a?, WellFormed a := by intros; trivial) :
    Mirrors [Element.code α] (.maybe a?) (.lenient α) a? := by
  rw [ElementRun.maybe_eq_each]
  exact ofHolds (by simpa using hwf) fun _ h => ⟨fun _ _ => rfl, congrArg _ h.lastOf⟩

theorem repeated {as : List α} (hwf : ∀ a ∈ as, WellFormed a := by intros; trivial) :
    Mirrors [Element.code α] (.each as) (.repeated α) as :=
  ofHolds hwf fun _ h => ⟨fun _ he => h.refuse he, congrArg _ h.allOf⟩

theorem checked {c : Checked α} (hc : c ≠ .malformed) (hwf : ∀ a ∈ c.value?, WellFormed a) :
    Mirrors [Element.code α] (.maybe c.value?) (.checked α) c := by
  rw [ElementRun.maybe_eq_each]
  exact ofHolds (by simpa using hwf) fun _ h =>
    ⟨fun _ _ => rfl, congrArg _ (h.lastChecked hc)⟩

end Mirrors

/-! ## §7. Bodies and groups. -/

/-- A kind of body whose shape mirrors what its well-formed values are written as. -/
class LawfulBody (α : Type) [Body α] [HasWellFormed α] : Prop where
  mirrors : ∀ a : α, WellFormed a → ∃ kinds, Mirrors kinds (Body.write a) Body.shape a

namespace LawfulBody

variable {α : Type} [Body α] [HasWellFormed α] [LawfulBody α] {a : α}

/-- A well-formed body whose elements are short enough for their headers reads back. -/
theorem decode_of_short (hwf : WellFormed a) (hshort : Short (Body.write a).elements) :
    Body.decode (Body.octets a) = .ok a := by
  obtain ⟨kinds, h⟩ := mirrors a hwf
  have hall : ((Body.write a).elements.filter fun e => e.type ∈ kinds) = (Body.write a).elements :=
    List.filter_eq_self.mpr (by simpa using h.kinds_mem)
  exact (h.reads _ hshort hall).decode Body.distinct hshort

/-- It can be written. -/
theorem fits_of_short (hwf : WellFormed a) (hshort : Short (Body.write a).elements) :
    (Body.write a).fits = true := by
  obtain ⟨kinds, h⟩ := mirrors a hwf
  exact h.fits hshort

/-- **A well-formed body reads back from its octets.** -/
theorem decode_octets (hwf : WellFormed a) (hlength : (Body.octets a).length < valueLimit) :
    Body.decode (Body.octets a) = .ok a :=
  decode_of_short hwf (short_of_octets hlength)

/-- It can be written. -/
theorem write_fits (hwf : WellFormed a) (hlength : (Body.octets a).length < valueLimit) :
    (Body.write a).fits = true :=
  fits_of_short hwf (short_of_octets hlength)

/-- **A group of a lawful body is a lawful element.** -/
theorem group (code : UInt16) (label : String) :
    @LawfulElement α (Body.group code label) _ :=
  letI : Element α := Body.group code label
  { decode_payload := fun _ hwf hlength => decode_octets hwf hlength
    fits := fun a hwf hlength => by
      have hbody : (Body.write a).fits = true := write_fits hwf hlength
      have hsize : lengthFits (Body.octets a).length = true := lengthFits_of_lt hlength
      show (lengthFits (Body.octets a).length && (Body.write a).fits) = true
      rw [hsize, hbody]
      rfl }

end LawfulBody

end UserPlane
