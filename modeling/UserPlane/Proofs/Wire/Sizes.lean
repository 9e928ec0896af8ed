/-
  UserPlane.Proofs.Wire.Sizes
  ───────────────────────────
  **HOW MANY OCTETS A VALUE HAS TAKEN.**

  What was read had to be there: a reader that has read its fields has taken
  their octets off the front (`Reader.Takes`), and a shape that has found its
  parts has found elements that are at least as long.
-/
import Mathlib.Algebra.BigOperators.Group.List.Basic
import Mathlib.Algebra.Order.BigOperators.Group.List
import Mathlib.Algebra.Order.Group.Nat
import Mathlib.Algebra.Ring.Nat
import Mathlib.Data.List.Nodup
import UserPlane.Proofs.Wire.RoundTrip

namespace UserPlane

/-! ## §1. Readers. -/

namespace Reader

variable {α β : Type} {m n : Nat}

/-- Whenever the reader reads a value, it takes at least `n` octets. -/
def Takes (n : Nat) (r : Reader α) : Prop :=
  ∀ ⦃bs rest : Octets⦄ ⦃a : α⦄, r.run bs = .ok (a, rest) → rest.length + n ≤ bs.length

theorem Takes.pure (a : α) : Takes 0 (Pure.pure a : Reader α) := by
  intro bs rest b h
  cases h
  exact Nat.le_refl _

theorem run_bind_eq_ok {r : Reader α} {k : α → Reader β} {bs rest : Octets} {b : β}
    (h : (r >>= k).run bs = .ok (b, rest)) :
    ∃ a bs', r.run bs = .ok (a, bs') ∧ (k a).run bs' = .ok (b, rest) := by
  rw [StateT.run_bind] at h
  cases hr : r.run bs with
  | error e =>
    rw [hr] at h
    cases h
  | ok p =>
    rw [hr] at h
    exact ⟨p.1, p.2, rfl, h⟩

theorem Takes.bind {r : Reader α} {k : α → Reader β} (hr : Takes m r) (hk : ∀ a, Takes n (k a)) :
    Takes (m + n) (r >>= k) := by
  intro bs rest b h
  obtain ⟨a, bs', hfirst, hnext⟩ := run_bind_eq_ok h
  have hm := hr hfirst
  have hn := hk a hnext
  omega

theorem takes_take (n : Nat) (field : String) : Takes n (take n field) := by
  intro bs rest front h
  have h' : (if (bs.take n).length < n then Except.error (.truncated field n bs.length)
      else .ok (bs.take n, bs.drop n) : Decoded (Octets × Octets)) = .ok (front, rest) := h
  split at h'
  · cases h'
  · next hlength =>
    cases h'
    rw [List.length_take] at hlength
    rw [List.length_drop]
    omega

theorem takes_u8 (field : String) : Takes 1 (u8 field) := by
  intro bs rest b h
  cases bs with
  | nil => cases h
  | cons first tail =>
    cases h
    exact Nat.le_refl _

theorem takes_ipv4 (field : String) : Takes 4 (ipv4 field) :=
  (takes_take 4 field).bind fun _ => .pure _

theorem takes_ipv6 (field : String) : Takes 16 (ipv6 field) :=
  (takes_take 16 field).bind fun _ => .pure _

theorem takes_u64 (field : String) : Takes 8 (u64 field) :=
  (takes_take 8 field).bind fun _ => .pure _

/-- A field that may be absent need not take anything. -/
theorem Takes.present {r : Reader α} (hr : Takes n r) (there : Bool) :
    Takes 0 (Reader.present there r) := by
  cases there with
  | false => exact .pure none
  | true =>
    intro bs rest a h
    obtain ⟨b, bs', hread, hpure⟩ := run_bind_eq_ok h
    cases hpure
    have htaken := hr hread
    omega

/-- What a value was read from is at least as long as what its reader takes. -/
theorem Takes.le_of_decode {r : Reader α} (hr : Takes n r) {bs : Octets} {a : α}
    (h : r.decode bs = .ok a) : n ≤ bs.length := by
  unfold Reader.decode at h
  cases hrun : r.run bs with
  | error e =>
    rw [hrun] at h
    cases h
  | ok p =>
    have htaken := hr hrun
    omega

end Reader

/-! ## §2. Elements. -/

namespace RawElement

/-- The octets that an element takes, header included. -/
def size (e : RawElement) : Nat := e.value.length + 4

theorem length_encode (e : RawElement) : e.encode.length = e.size := by
  simp [encode, size]
  omega

/-- Elements one after the other take what each of them takes. -/
theorem length_encodeAll (es : List RawElement) : (encodeAll es).length = (es.map size).sum := by
  rw [encodeAll, List.length_flatMap]
  exact congrArg List.sum (List.map_congr_left fun e _ => e.length_encode)

/-- The elements that octets were cut into were there. -/
theorem size_split (bs : Octets) : ((split bs).1.map size).sum ≤ bs.length := by
  fun_induction split bs with
  | case1 => simp
  | case2 t₁ t₀ l₁ l₀ rest type length value hlength => simp
  | case3 t₁ t₀ l₁ l₀ rest type length value hlength more ih =>
    have hvalue : size ⟨type, value⟩ = length + 4 := by
      simp only [size, value, List.length_take] at hlength ⊢
      omega
    have hrest : length ≤ rest.length := by
      simp only [value, List.length_take] at hlength
      omega
    have hmore : (more.1.map size).sum ≤ rest.length - length := List.length_drop ▸ ih
    simp only [List.map_cons, List.sum_cons, List.length_cons, hvalue]
    omega
  | case4 => simp

end RawElement

/-- The octets that the elements of one type take. -/
def spentOn (type : UInt16) (es : List RawElement) : Nat :=
  ((es.filter fun e => e.type = type).map RawElement.size).sum

theorem spentOn_cons (type : UInt16) (e : RawElement) (es : List RawElement) :
    spentOn type (e :: es) = (if e.type = type then e.size else 0) + spentOn type es := by
  unfold spentOn
  by_cases h : e.type = type <;> simp [h]

/-- **Elements of different types take their octets side by side.** -/
theorem spentOn_le {types : List UInt16} (h : types.Nodup) (es : List RawElement) :
    (types.map (spentOn · es)).sum ≤ (es.map RawElement.size).sum := by
  induction es with
  | nil => simp [spentOn]
  | cons e es ih =>
    -- the first element is of one of the types at most
    have honce : (types.map fun type => if e.type = type then e.size else 0).sum ≤ e.size := by
      have hcount : (types.map fun type => if e.type = type then e.size else 0).sum
          = types.count e.type * e.size := by
        clear h ih
        induction types with
        | nil => simp
        | cons type types ih =>
          rw [List.map_cons, List.sum_cons, ih, List.count_cons, Nat.add_mul]
          by_cases heq : e.type = type
          · simp [heq, Nat.add_comm]
          · simp [heq, Ne.symm heq]
      calc (types.map fun type => if e.type = type then e.size else 0).sum
          = types.count e.type * e.size := hcount
        _ ≤ 1 * e.size := Nat.mul_le_mul_right _ (List.nodup_iff_count_le_one.mp h _)
        _ = e.size := Nat.one_mul _
    simp only [spentOn_cons, List.sum_map_add, List.map_cons, List.sum_cons]
    omega

/-- So they do when octets are cut into elements. -/
theorem spentOn_split_le {types : List UInt16} (h : types.Nodup) (bs : Octets) :
    (types.map (spentOn · (RawElement.split bs).1)).sum ≤ bs.length :=
  (spentOn_le h _).trans (RawElement.size_split bs)

/-- What is read from a value takes at least so many octets, header included. -/
def Element.AtLeast (α : Type) [Element α] (least : α → Nat) : Prop :=
  ∀ ⦃bs : Octets⦄ ⦃a : α⦄, Element.decode bs = .ok a → least a ≤ bs.length + 4

namespace Element.AtLeast

variable {α : Type} [Element α] {least : α → Nat}

theorem size_le (h : AtLeast α least) {e : RawElement} {a : α} (has : e.as? α = some a) :
    least a ≤ e.size :=
  h (RawElement.as?_eq_some_iff.mp has)

/-- Every value of the kind was paid for. -/
theorem allOf (h : AtLeast α least) (es : List RawElement) :
    ((allOf α es).map least).sum ≤ spentOn (Element.code α) es := by
  unfold UserPlane.allOf spentOn
  show (((elementsOf α es).filterMap _).map least).sum ≤ ((elementsOf α es).map _).sum
  induction elementsOf α es with
  | nil => simp
  | cons e es ih =>
    rw [List.filterMap_cons, List.map_cons, List.sum_cons]
    cases has : e.as? α with
    | none =>
      dsimp only
      omega
    | some a =>
      have hsize := h.size_le has
      simp only [List.map_cons, List.sum_cons]
      omega

/-- So was the last one. -/
theorem lastOf (h : AtLeast α least) (es : List RawElement) :
    (lastOf α es).elim 0 least ≤ spentOn (Element.code α) es := by
  unfold UserPlane.lastOf spentOn
  show _ ≤ ((elementsOf α es).map _).sum
  cases hget : (elementsOf α es).getLast? with
  | none => simp
  | some e =>
    have hmem : e.size ≤ ((elementsOf α es).map RawElement.size).sum :=
      List.le_sum_of_mem (List.mem_map_of_mem (List.mem_of_getLast? hget))
    rw [Option.bind_some]
    cases has : e.as? α with
    | none => simp
    | some a => exact (h.size_le has).trans hmem

/-- A kind that needs an octet takes five with the header. -/
theorem of_nil (h : ∀ a : α, Element.decode [] ≠ .ok a) : AtLeast α fun _ => 5 := by
  intro bs a hdecode
  cases bs with
  | nil => exact absurd hdecode (h a)
  | cons b bs => simp

end Element.AtLeast

/-! ## §3. Bodies. -/

/-- What octets stand for as a body is built from the elements in them. -/
theorem Body.build_of_decode {α : Type} [Body α] {bs : Octets} {a : α}
    (h : Body.decode bs = .ok a) : (Body.shape : Shape α).build (RawElement.split bs).1 = .ok a := by
  rw [Body.decode, Shape.decode_eq Body.distinct] at h
  cases hcheck : forEachElement (Body.shape : Shape α).check bs with
  | error e =>
    rw [hcheck] at h
    cases h
  | ok u =>
    rw [hcheck] at h
    exact h

/-! ## §4. What is written. -/

/-- The octets that a value takes as an element, header included. -/
def Element.size {α : Type} [Element α] (a : α) : Nat := (rawElement a).size

namespace ElementRun

/-- The octets that a run takes. -/
def size (r : ElementRun) : Nat := (r.elements.map RawElement.size).sum

theorem length_octets (r : ElementRun) : r.octets.length = r.size :=
  RawElement.length_encodeAll r.elements

@[simp] theorem size_append (r s : ElementRun) : (r ++ s).size = r.size + s.size := by
  show ((r.elements ++ s.elements).map RawElement.size).sum = _
  rw [List.map_append, List.sum_append]
  rfl

variable {α : Type} [Element α]

@[simp] theorem size_one (a : α) : (one a).size = Element.size a := by
  simp [one, size, Element.size]

@[simp] theorem size_maybe (a? : Option α) : (maybe a?).size = a?.elim 0 Element.size := by
  cases a? <;> simp [maybe, size, Element.size]

@[simp] theorem size_each (as : List α) : (each as).size = (as.map Element.size).sum := by
  show ((as.map rawElement).map RawElement.size).sum = _
  rw [List.map_map]
  rfl

end ElementRun

/-- A group takes four octets more than its body. -/
theorem Body.size_group {α : Type} [Body α] (code : UInt16) (label : String) (a : α) :
    @Element.size α (Body.group code label) a = (Body.write a).size + 4 := by
  rw [← ElementRun.length_octets]
  rfl

end UserPlane
