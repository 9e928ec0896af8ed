/-
  UserPlane.Proofs.Wire.Fields
  ────────────────────────────
  **WHAT A BODY STANDS FOR, FIELD BY FIELD.**

  A `Field` is one entry of the table of a kind of body: from which kind of
  element a part of the value is read, and what becomes of several of them, of
  none and of unreadable ones.  It is stated by the elements of its type alone
  (`Field.Holds`), and not by how a body is gone through (`Shape.meet`):

      Tabled                     a kind of body has such a table
      Tabled.decode_iff          what a body stands for
      Tabled.exists_decode_iff   when it stands for anything
      Tabled.decode_congr        other elements and their order do not matter
-/
import Mathlib.Data.List.Basic
import Mathlib.Tactic.Tauto
import UserPlane.Proofs.Wire.Sizes

namespace UserPlane

/-! ## §1. Fields. -/

/-- The elements of one type, in order. -/
def ofType (type : UInt16) (es : List RawElement) : List RawElement :=
  es.filter fun e => e.type = type

/-- They are all found among the elements of some types. -/
theorem ofType_filter {types : List UInt16} {type : UInt16} (h : type ∈ types)
    (es : List RawElement) : ofType type (es.filter fun e => e.type ∈ types) = ofType type es := by
  unfold ofType
  rw [List.filter_filter]
  refine List.filter_congr fun e _ => ?_
  by_cases htype : e.type = type <;> simp [htype, h]

/-- One part of a value of kind `γ`: the kind of element that it is read from and what becomes of
several such elements.  All but the last two refuse an element that cannot be read. -/
inductive Field (γ : Type) : Type 1 where
  /-- The last of them, one of which has to be there. -/
  | required {α : Type} [Element α] (get : γ → α)
  /-- The last of them. -/
  | optional {α : Type} [Element α] (get : γ → Option α)
  /-- The first of them. -/
  | firstOnly {α : Type} [Element α] (get : γ → Option α)
  /-- All of them, in order. -/
  | repeated {α : Type} [Element α] (get : γ → List α)
  /-- The last of them, absent if it cannot be read. -/
  | lenient {α : Type} [Element α] (get : γ → Option α)
  /-- The last of them, marked if it cannot be read. -/
  | checked {α : Type} [Element α] (get : γ → Checked α)

namespace Field

variable {γ : Type}

/-- The type of the elements that the field is read from. -/
@[simp] def type : Field γ → UInt16
  | @required _ α _ _ => Element.code α
  | @optional _ α _ _ => Element.code α
  | @firstOnly _ α _ _ => Element.code α
  | @repeated _ α _ _ => Element.code α
  | @lenient _ α _ _ => Element.code α
  | @checked _ α _ _ => Element.code α

/-- Whether octets can be read as a value of this field. -/
@[simp] def Reads (bs : Octets) : Field γ → Prop
  | @required _ α _ _ => ∃ a : α, Element.decode bs = .ok a
  | @optional _ α _ _ => ∃ a : α, Element.decode bs = .ok a
  | @firstOnly _ α _ _ => ∃ a : α, Element.decode bs = .ok a
  | @repeated _ α _ _ => ∃ a : α, Element.decode bs = .ok a
  | @lenient _ α _ _ => ∃ a : α, Element.decode bs = .ok a
  | @checked _ α _ _ => ∃ a : α, Element.decode bs = .ok a

/-- Whether an element that cannot be read spoils the body. -/
@[simp] def isStrict : Field γ → Bool
  | required _ | optional _ | firstOnly _ | repeated _ => true
  | lenient _ | checked _ => false

/-- Whether an element has to be there. -/
def isMandatory : Field γ → Bool
  | required _ => true
  | optional _ | firstOnly _ | repeated _ | lenient _ | checked _ => false

/-- **What the field is, by the elements of its type.** -/
def Holds (es : List RawElement) (c : γ) : Field γ → Prop
  | @required _ α _ get =>
    ∃ e, (ofType (Element.code α) es).getLast? = some e ∧ Element.decode e.value = .ok (get c)
  | @optional _ α _ get =>
    match (ofType (Element.code α) es).getLast? with
    | none => get c = none
    | some e => ∃ a, Element.decode e.value = .ok a ∧ get c = some a
  | @firstOnly _ α _ get =>
    match (ofType (Element.code α) es).head? with
    | none => get c = none
    | some e => ∃ a, Element.decode e.value = .ok a ∧ get c = some a
  | @repeated _ α _ get =>
    (ofType (Element.code α) es).map (fun e => Element.decode e.value) = (get c).map .ok
  | @lenient _ α _ get =>
    match (ofType (Element.code α) es).getLast? with
    | none => get c = none
    | some e =>
      match (Element.decode e.value : Decoded α) with
      | .ok a => get c = some a
      | .error _ => get c = none
  | @checked _ α _ get =>
    match (ofType (Element.code α) es).getLast? with
    | none => get c = .missing
    | some e =>
      match (Element.decode e.value : Decoded α) with
      | .ok a => get c = .present a
      | .error _ => get c = .malformed

/-- What a shape finds for the field. -/
@[simp] def Found (es : List RawElement) (c : γ) : Field γ → Prop
  | @required _ α _ get => lastOf α es = some (get c)
  | @optional _ α _ get => lastOf α es = get c
  | @firstOnly _ α _ get => firstOf α es = get c
  | @repeated _ α _ get => allOf α es = get c
  | @lenient _ α _ get => lastOf α es = get c
  | @checked _ α _ get => lastChecked α es = get c

/-- Whether a shape finds what it needs for the field. -/
@[simp] def Findable (es : List RawElement) : Field γ → Prop
  | @required _ α _ _ => ∃ a, lastOf α es = some a
  | optional _ | firstOnly _ | repeated _ | lenient _ | checked _ => True

end Field

/-! ## §2. Shapes. -/

namespace Shape

variable {α β : Type}

@[simp] theorem exists_build_map {g : α → β} {s : Shape α} {es : List RawElement} :
    (∃ b, (g <$> s).build es = .ok b) ↔ ∃ a, s.build es = .ok a := by
  simp only [build_map_eq_ok]
  constructor
  · rintro ⟨b, a, ha, -⟩
    exact ⟨a, ha⟩
  · rintro ⟨a, ha⟩
    exact ⟨g a, a, ha, rfl⟩

@[simp] theorem exists_build_seq {f : Shape (α → β)} {s : Shape α} {es : List RawElement} :
    (∃ b, (f <*> s).build es = .ok b)
      ↔ (∃ g, f.build es = .ok g) ∧ ∃ a, s.build es = .ok a := by
  simp only [build_seq_eq_ok]
  constructor
  · rintro ⟨b, g, a, hg, ha, -⟩
    exact ⟨⟨g, hg⟩, a, ha⟩
  · rintro ⟨⟨g, hg⟩, a, ha⟩
    exact ⟨g a, g, a, hg, ha, rfl⟩

section Parts

variable {α : Type} [Element α] {e : RawElement}

@[simp] theorem check_required : (required α).check e = .ok () ↔
    (e.type = Element.code α → ∃ a : α, Element.decode e.value = .ok a) := refuse_eq_ok_iff

@[simp] theorem check_optional : (optional α).check e = .ok () ↔
    (e.type = Element.code α → ∃ a : α, Element.decode e.value = .ok a) := refuse_eq_ok_iff

@[simp] theorem check_firstOnly : (firstOnly α).check e = .ok () ↔
    (e.type = Element.code α → ∃ a : α, Element.decode e.value = .ok a) := refuse_eq_ok_iff

@[simp] theorem check_repeated : (repeated α).check e = .ok () ↔
    (e.type = Element.code α → ∃ a : α, Element.decode e.value = .ok a) := refuse_eq_ok_iff

@[simp] theorem check_lenient : (lenient α).check e = .ok () := rfl

@[simp] theorem check_checked : (checked α).check e = .ok () := rfl

@[simp] theorem exists_build_checked {es : List RawElement} :
    ∃ c, (checked α).build es = .ok c := ⟨_, rfl⟩

end Parts

end Shape

/-- **The table of a kind of body**: the fields that its shape is made of. -/
class Tabled (γ : Type) [Body γ] : Type 1 where
  fields : List (Field γ)
  check : ∀ e, (Body.shape : Shape γ).check e = .ok ()
    ↔ ∀ f ∈ fields, f.isStrict = true → e.type = f.type → f.Reads e.value := by
      simp only [Body.shape, Shape.check_pure, Shape.check_map, Shape.check_seq_eq_ok,
        Shape.check_required, Shape.check_optional, Shape.check_firstOnly, Shape.check_repeated,
        Shape.check_lenient, Shape.check_checked, Field.isStrict, Field.type, Field.Reads,
        List.forall_mem_cons, List.not_mem_nil, and_assoc, and_true, true_and, true_imp_iff,
        Bool.false_eq_true, false_imp_iff, implies_true]
  findable : ∀ es, (∃ c, (Body.shape : Shape γ).build es = .ok c)
    ↔ ∀ f ∈ fields, f.Findable es := by
      simp only [Body.shape, Shape.exists_build_map, Shape.exists_build_seq,
        Shape.build_required, Shape.build_optional, Shape.build_firstOnly, Shape.build_repeated,
        Shape.build_lenient, Shape.exists_build_checked, Field.Findable, List.forall_mem_cons,
        List.not_mem_nil, false_imp_iff, exists_eq', and_assoc, and_true, true_and, implies_true]
  build : ∀ es c, (Body.shape : Shape γ).build es = .ok c ↔ ∀ f ∈ fields, f.Found es c := by
      rintro es ⟨⟩
      simp [Body.shape, -IsEmpty.exists_iff] <;> tauto

/-! ## §3. What is found is what the fields are. -/

section Elements

variable {α : Type} [Element α] {es : List RawElement}

/-- Elements that can all be read are read one by one. -/
theorem filterMap_as?_eq_iff (h : ∀ e ∈ es, ∃ a : α, Element.decode e.value = .ok a)
    (as : List α) :
    es.filterMap (RawElement.as? α) = as
      ↔ es.map (fun e => (Element.decode e.value : Decoded α)) = as.map .ok := by
  induction es generalizing as with
  | nil => cases as <;> simp
  | cons e es ih =>
    obtain ⟨a, ha⟩ := h e (by simp)
    have hrest := ih (fun x hx => h x (by simp [hx])) as.tail
    rw [List.filterMap_cons_some (RawElement.as?_eq_some_iff.mpr ha), List.map_cons, ha]
    cases as with
    | nil => simp
    | cons b as => simpa using fun _ => hrest

/-- An element that can be read, if there is one, is read as what it holds. -/
theorem bind_as?_eq_iff (e? : Option RawElement) (a? : Option α) :
    (∀ e ∈ e?, ∃ a : α, Element.decode e.value = .ok a) →
      (e?.bind (RawElement.as? α) = a?
        ↔ match e? with
          | none => a? = none
          | some e => ∃ a, Element.decode e.value = .ok a ∧ a? = some a) := by
  intro h
  cases e? with
  | none => exact eq_comm
  | some e =>
    obtain ⟨a, ha⟩ := h e rfl
    simp [RawElement.as?_eq_some_iff.mpr ha, ha, eq_comm]

end Elements

namespace Field

variable {γ : Type} {es : List RawElement} {f : Field γ} {c : γ}

/-- No element of the field's type spoils the body. -/
def Unspoiled (es : List RawElement) (f : Field γ) : Prop :=
  f.isStrict = true → ∀ e ∈ es, e.type = f.type → f.Reads e.value

/-- An element that the field needs is there. -/
def Supplied (es : List RawElement) (f : Field γ) : Prop :=
  f.isMandatory = true → ∃ e ∈ es, e.type = f.type

theorem mem_of_getLast?_ofType {type : UInt16} {e : RawElement}
    (h : (ofType type es).getLast? = some e) : e ∈ es ∧ e.type = type := by
  simpa [ofType] using List.mem_of_getLast? h

theorem mem_of_head?_ofType {type : UInt16} {e : RawElement}
    (h : (ofType type es).head? = some e) : e ∈ es ∧ e.type = type := by
  simpa [ofType] using List.mem_of_head? h

theorem found_iff_holds (h : f.Unspoiled es) : f.Found es c ↔ f.Holds es c := by
  cases f with
  | @required α _ get =>
    show lastOf α es = _ ↔ _
    rw [lastOf, Option.bind_eq_some_iff]
    exact exists_congr fun e => and_congr_right fun _ => RawElement.as?_eq_some_iff
  | @optional α _ get =>
    refine bind_as?_eq_iff _ (get c) fun e he => ?_
    obtain ⟨hmem, htype⟩ := mem_of_getLast?_ofType he
    exact h rfl e hmem htype
  | @firstOnly α _ get =>
    refine bind_as?_eq_iff _ (get c) fun e he => ?_
    obtain ⟨hmem, htype⟩ := mem_of_head?_ofType he
    exact h rfl e hmem htype
  | @repeated α _ get =>
    refine filterMap_as?_eq_iff (fun e he => ?_) _
    obtain ⟨he, htype⟩ : e ∈ es ∧ e.type = Element.code α := by simpa [elementsOf] using he
    exact h rfl e he htype
  | @lenient α _ get =>
    show ((ofType (Element.code α) es).getLast?.bind (RawElement.as? α)) = _ ↔ _
    simp only [Holds]
    cases (ofType (Element.code α) es).getLast? with
    | none => exact eq_comm
    | some e =>
      simp only [Option.bind_some, RawElement.as?]
      cases (Element.decode e.value : Decoded α) <;> simp [Except.toOption, eq_comm]
  | @checked α _ get =>
    simp only [Found, Holds, lastChecked, elementsOf, ofType]
    cases (es.filter fun e => e.type = Element.code α).getLast? with
    | none => simp [eq_comm]
    | some e =>
      simp only [RawElement.as?]
      cases (Element.decode e.value : Decoded α) <;> simp [Except.toOption, eq_comm]

theorem findable_iff_supplied (h : f.Unspoiled es) : f.Findable es ↔ f.Supplied es := by
  cases f with
  | @required α _ get =>
    constructor
    · rintro ⟨a, ha⟩ -
      obtain ⟨e, hlast, -⟩ := Option.bind_eq_some_iff.mp ha
      exact ⟨e, mem_of_getLast?_ofType hlast⟩
    · intro hsupplied
      obtain ⟨e, he, htype⟩ := hsupplied rfl
      have hne : ofType (Element.code α) es ≠ [] :=
        List.ne_nil_of_mem (List.mem_filter.mpr ⟨he, decide_eq_true htype⟩)
      have hlast := List.getLast?_eq_some_getLast hne
      obtain ⟨hmem, hcode⟩ := mem_of_getLast?_ofType hlast
      obtain ⟨a, ha⟩ : ∃ a : α, Element.decode _ = .ok a := h rfl _ hmem hcode
      exact ⟨a, Option.bind_eq_some_iff.mpr ⟨_, hlast, RawElement.as?_eq_some_iff.mpr ha⟩⟩
  | _ => simp [Findable, Supplied, isMandatory]

end Field

/-! ## §4. What bodies stand for. -/

namespace Tabled

variable {γ : Type} [Body γ] [Tabled γ] {es es' : List RawElement}

/-- What octets stand for is what a shape finds for its fields, one after the other. -/
theorem found_of_decode {bs : Octets} {c : γ} (h : Body.decode bs = .ok c) :
    (fields (γ := γ)).Forall (Field.Found (RawElement.split bs).1 c) :=
  List.forall_iff_forall_mem.mpr ((build _ c).mp (Body.build_of_decode h))

theorem forM_check : es.forM (Body.shape : Shape γ).check = .ok ()
    ↔ ∀ f ∈ fields (γ := γ), f.Unspoiled es := by
  rw [forM_eq_ok_iff]
  constructor
  · intro hcheck f hf hstrict e he
    exact (check e).mp (hcheck e he) f hf hstrict
  · intro hfields e he
    exact (check e).mpr fun f hf hstrict => hfields f hf hstrict e he

/-- **What a body stands for**: nothing in it spoils it, and every field is as its table says. -/
theorem decode_iff (hes : ∀ e ∈ es, e.value.length < 65536) (c : γ) :
    Body.decode (RawElement.encodeAll es) = .ok c
      ↔ (∀ f ∈ fields (γ := γ), f.Unspoiled es) ∧ ∀ f ∈ fields, f.Holds es c := by
  rw [Body.decode_encodeAll hes, ← forM_check]
  cases hcheck : es.forM (Body.shape : Shape γ).check with
  | error fault => simp [bind, Except.bind]
  | ok u =>
    have hunspoiled := forM_check.mp hcheck
    have hbuild : (Body.shape : Shape γ).build es = .ok c ↔ ∀ f ∈ fields, f.Holds es c := by
      rw [build]
      exact forall₂_congr fun f hf => Field.found_iff_holds (hunspoiled f hf)
    simpa [bind, Except.bind] using hbuild

/-- **When a body stands for something**: nothing in it spoils it, and what is needed is there. -/
theorem exists_decode_iff (hes : ∀ e ∈ es, e.value.length < 65536) :
    (∃ c : γ, Body.decode (RawElement.encodeAll es) = .ok c)
      ↔ (∀ f ∈ fields (γ := γ), f.Unspoiled es) ∧ ∀ f ∈ fields (γ := γ), f.Supplied es := by
  simp only [Body.decode_encodeAll hes]
  rw [← forM_check]
  cases hcheck : es.forM (Body.shape : Shape γ).check with
  | error fault => simp [bind, Except.bind]
  | ok u =>
    have hunspoiled := forM_check.mp hcheck
    have hbuild : (∃ c, (Body.shape : Shape γ).build es = .ok c)
        ↔ ∀ f ∈ fields (γ := γ), f.Supplied es := by
      rw [findable]
      exact forall₂_congr fun f hf => Field.findable_iff_supplied (hunspoiled f hf)
    simpa [bind, Except.bind] using hbuild

/-- **Only the elements of the fields' types matter**, and of their order only that among elements
of one type. -/
theorem decode_congr (hes : ∀ e ∈ es, e.value.length < 65536)
    (hes' : ∀ e ∈ es', e.value.length < 65536)
    (hsame : ∀ f ∈ fields (γ := γ), ofType f.type es' = ofType f.type es) :
    (Body.decode (RawElement.encodeAll es') : Decoded γ).toOption
      = (Body.decode (RawElement.encodeAll es) : Decoded γ).toOption := by
  have hunspoiled : (∀ f ∈ fields (γ := γ), f.Unspoiled es')
      ↔ ∀ f ∈ fields (γ := γ), f.Unspoiled es := by
    refine forall₂_congr fun f hf => imp_congr_right fun _ => ?_
    have hmem (e : RawElement) : e ∈ es' ∧ e.type = f.type ↔ e ∈ es ∧ e.type = f.type := by
      have hfilter : e ∈ ofType f.type es' ↔ e ∈ ofType f.type es := by rw [hsame f hf]
      simpa only [ofType, List.mem_filter, decide_eq_true_eq] using hfilter
    constructor <;> intro hall e he htype
    · exact hall e ((hmem e).mpr ⟨he, htype⟩).1 htype
    · exact hall e ((hmem e).mp ⟨he, htype⟩).1 htype
  have hholds (c : γ) : (∀ f ∈ fields, f.Holds es' c) ↔ ∀ f ∈ fields, f.Holds es c := by
    refine forall₂_congr fun f hf => ?_
    have heq := hsame f hf
    cases f <;> simp only [Field.type] at heq <;> simp only [Field.Holds, heq]
  have hoption (d : Decoded γ) (c : γ) : d.toOption = some c ↔ d = .ok c := by
    cases d <;> simp [Except.toOption]
  refine Option.ext fun c => ?_
  rw [hoption, hoption, decode_iff hes', decode_iff hes, hunspoiled, hholds]

end Tabled

end UserPlane
