/-
  UserPlane.Proofs.Wire.Rereading
  ───────────────────────────────
  **WHAT IS READ CAN BE WRITTEN AGAIN.**

  The reading of octets that a peer wrote is lenient: octets behind a value are
  ignored, elements come several times or are of unknown kinds.  What such a
  value is written as may therefore differ from what was read.  Two things are
  asked of it: that it is well formed, so that it reads back, and that it is
  not longer than what was read, so that its length can still be counted.

      Reader.Spells      a reader takes off the front what its value is written as
      Element.Compact    a value is written in no more octets than it was read
                         from, up to some slack
      Drawn              a run is made of values that were read from elements

  A group draws its elements from its own octets; kinds that differ pay for
  them side by side (`Drawn.size_le`).
-/
import UserPlane.Proofs.Wire.Sizes

namespace UserPlane

/-! ## §1. Numbers and texts. -/

namespace Octets

/-- Octets in the count of a wider number are not cut when they become one. -/
theorem ofNat_toNat_mod {bs : Octets} {n : Nat} (h : bs.length = n) :
    ofNat n (toNat bs % bound n) = bs := by
  subst h
  rw [Nat.mod_eq_of_lt (toNat_lt bs), ofNat_toNat]

theorem toNat_pair_lt (b₁ b₀ : UInt8) : toNat [b₁, b₀] < 65536 :=
  calc toNat [b₁, b₀] < bound 2 := toNat_lt [b₁, b₀]
    _ = 65536 := by decide

end Octets

theorem be16_ofNat {bs : Octets} (h : bs.length = 2) : be16 (UInt16.ofNat bs.toNat) = bs := by
  rw [be16, UInt16.toNat_ofNat']
  exact Octets.ofNat_toNat_mod h

theorem be32_ofNat {bs : Octets} (h : bs.length = 4) : be32 (UInt32.ofNat bs.toNat) = bs := by
  rw [be32, UInt32.toNat_ofNat']
  exact Octets.ofNat_toNat_mod h

theorem be64_ofNat {bs : Octets} (h : bs.length = 8) : be64 (UInt64.ofNat bs.toNat) = bs := by
  rw [be64, UInt64.toNat_ofNat']
  exact Octets.ofNat_toNat_mod h

theorem Ipv4.octets_ofOctets {bs : Octets} (h : bs.length = 4) : (ofOctets bs).octets = bs := by
  rw [octets, ofOctets, BitVec.toNat_ofNat]
  exact Octets.ofNat_toNat_mod h

theorem Ipv6.octets_ofOctets {bs : Octets} (h : bs.length = 16) : (ofOctets bs).octets = bs := by
  rw [octets, ofOctets, BitVec.toNat_ofNat]
  exact Octets.ofNat_toNat_mod h

/-- A text is written in the octets it was read from. -/
theorem Utf8.encode_of_decode {bs : Octets} {s : String} (h : decode bs = .ok s) :
    encode s = bs := by
  have htext : String.fromUTF8? ⟨bs.toArray⟩ = some s := by
    unfold decode text? at h
    split at h
    · next hsome => rwa [Except.ok.inj h] at hsome
    · cases h
  unfold String.fromUTF8? at htext
  split at htext
  · rw [← Option.some.inj htext]
    rfl
  · cases htext

/-! ## §2. Readers. -/

namespace Reader

variable {α : Type}

/-- Whenever the reader reads a value, what it takes off the front is the writing of it. -/
def Spells (r : Reader α) (write : α → Octets) : Prop :=
  ∀ ⦃bs rest : Octets⦄ ⦃a : α⦄, r.run bs = .ok (a, rest) → bs = write a ++ rest

theorem run_of_decode {r : Reader α} {bs : Octets} {a : α} (h : r.decode bs = .ok a) :
    ∃ rest, r.run bs = .ok (a, rest) := by
  unfold Reader.decode at h
  cases hrun : r.run bs with
  | error e =>
    rw [hrun] at h
    cases h
  | ok p =>
    rw [hrun] at h
    cases h
    exact ⟨p.2, rfl⟩

theorem take_eq_ok {n : Nat} {field : String} {bs front rest : Octets}
    (h : (take n field).run bs = .ok (front, rest)) : front.length = n ∧ bs = front ++ rest := by
  have h' : (if (bs.take n).length < n then Except.error (.truncated field n bs.length)
      else .ok (bs.take n, bs.drop n) : Decoded (Octets × Octets)) = .ok (front, rest) := h
  split at h'
  · cases h'
  · next hlength =>
    cases h'
    refine ⟨?_, (List.take_append_drop n bs).symm⟩
    rw [List.length_take] at hlength ⊢
    omega

/-- A reader of so many octets, and what it makes of them, if that is written as they are. -/
theorem spells_take {write : α → Octets} {n : Nat} {make : Octets → α} (field : String)
    (h : ∀ bs : Octets, bs.length = n → write (make bs) = bs) :
    Spells (do return make (← take n field)) write := by
  intro bs rest a hrun
  obtain ⟨front, behind, hfront, hmake⟩ := run_bind_eq_ok hrun
  obtain ⟨hlength, rfl⟩ := take_eq_ok hfront
  cases hmake
  rw [h front hlength]

theorem spells_u8 (field : String) : Spells (u8 field) fun b => [b] := by
  intro bs rest b h
  cases bs with
  | nil => cases h
  | cons first tail =>
    cases h
    rfl

theorem spells_u16 (field : String) : Spells (u16 field) be16 :=
  spells_take field fun _ h => be16_ofNat h

theorem spells_u32 (field : String) : Spells (u32 field) be32 :=
  spells_take field fun _ h => be32_ofNat h

theorem spells_u64 (field : String) : Spells (u64 field) be64 :=
  spells_take field fun _ h => be64_ofNat h

theorem spells_ipv4 (field : String) : Spells (ipv4 field) Ipv4.octets :=
  spells_take field fun _ h => Ipv4.octets_ofOctets h

theorem spells_ipv6 (field : String) : Spells (ipv6 field) Ipv6.octets :=
  spells_take field fun _ h => Ipv6.octets_ofOctets h

theorem spells_three (field : String) : Spells (three field) octets3 := by
  refine spells_take field fun bs h => ?_
  match bs, h with
  | [a, b, c], _ => rfl

theorem spells_text (field : String) : Spells (text field) textOctets := by
  intro bs rest s h
  obtain ⟨length, bs', hlength, h⟩ := run_bind_eq_ok h
  have hbs : bs = be16 length ++ bs' := spells_u16 field hlength
  obtain ⟨left, bs'', hget, h⟩ := run_bind_eq_ok h
  cases hget
  by_cases hoverrun : bs'.length < length.toNat
  · simp only [if_pos hoverrun] at h
    cases h
  · simp only [if_neg hoverrun] at h
    cases hdecode : Utf8.decode (bs'.take length.toNat) with
    | error fault =>
      rw [hdecode] at h
      cases h
    | ok t =>
      rw [hdecode] at h
      cases h
      have hencode : Utf8.encode s = bs'.take length.toNat := Utf8.encode_of_decode hdecode
      have hcount : (Utf8.encode s).length = length.toNat := by
        rw [hencode, List.length_take]
        omega
      have hhead : Octets.ofNat 2 (Utf8.encode s).length = be16 length := by rw [hcount, be16]
      rw [textOctets, hhead, hencode, List.append_assoc, List.take_append_drop]
      exact hbs

/-- A field that may be absent is written as nothing if it is. -/
theorem Spells.present {r : Reader α} {write : α → Octets} (h : Spells r write) (there : Bool) :
    Spells (Reader.present there r) (optionalBytes write) := by
  intro bs rest a hrun
  cases there with
  | false =>
    cases hrun
    rfl
  | true =>
    obtain ⟨b, behind, hb, hpure⟩ := run_bind_eq_ok hrun
    cases hpure
    exact h hb

end Reader

/-! ## §3. Elements. -/

section Elements

variable {α : Type} [Element α] {es : List RawElement} {a : α}

/-- Some element among these was read as the value. -/
def ReadFrom (es : List RawElement) (a : α) : Prop := ∃ e ∈ es, Element.decode e.value = .ok a

theorem readFrom_of_lastOf (h : lastOf α es = some a) : ReadFrom es a := by
  obtain ⟨e, he, ha⟩ := Option.bind_eq_some_iff.mp h
  exact ⟨e, (List.mem_filter.mp (List.mem_of_getLast? he)).1, RawElement.as?_eq_some_iff.mp ha⟩

theorem readFrom_of_mem_allOf (h : a ∈ allOf α es) : ReadFrom es a := by
  obtain ⟨e, he, ha⟩ := List.mem_filterMap.mp h
  exact ⟨e, (List.mem_filter.mp he).1, RawElement.as?_eq_some_iff.mp ha⟩

end Elements

/-- A kind of element of which only well-formed values are read. -/
class SoundElement (α : Type) [Element α] [HasWellFormed α] : Prop where
  wellFormed : ∀ ⦃bs : Octets⦄ ⦃a : α⦄, Element.decode bs = .ok a → WellFormed a

section Sound

variable {α : Type} [Element α] [HasWellFormed α] [SoundElement α] {es : List RawElement} {a : α}

theorem ReadFrom.wellFormed (h : ReadFrom es a) : WellFormed a := by
  obtain ⟨e, -, hdecode⟩ := h
  exact SoundElement.wellFormed hdecode

theorem wellFormed_of_lastOf {a? : Option α} (h : lastOf α es = a?) : ∀ a ∈ a?, WellFormed a :=
  fun _ ha => (readFrom_of_lastOf (h.trans ha)).wellFormed

theorem wellFormed_of_allOf {as : List α} (h : allOf α es = as) : ∀ a ∈ as, WellFormed a :=
  fun _ ha => (readFrom_of_mem_allOf (h ▸ ha)).wellFormed

end Sound

/-- A kind of element that is written in at most `slack` octets more than it was read from; four
are enough for every kind. -/
class Element.Compact (α : Type) [Element α] (slack : outParam Nat) : Prop where
  length_le : ∀ ⦃bs : Octets⦄ ⦃a : α⦄, Element.decode bs = .ok a →
    (Element.payload a).length ≤ bs.length + slack
  slack_le : slack ≤ 4 := by decide

theorem Element.Compact.atLeast {α : Type} [Element α] {slack : Nat} [Compact α slack] :
    AtLeast α fun a => Element.size a - slack := by
  intro bs a h
  have hlength := Compact.length_le h
  show (Element.payload a).length + 4 - slack ≤ _
  omega

/-! ## §4. Runs drawn from elements. -/

/-- The run takes at most `slack` octets more than the elements of these kinds. -/
def Drawn (kinds : List UInt16) (slack : Nat) (es : List RawElement) (r : ElementRun) : Prop :=
  r.size ≤ (kinds.map (spentOn · es)).sum + slack

namespace Drawn

variable {kinds ks : List UInt16} {slack more : Nat} {es : List RawElement} {r t : ElementRun}

theorem append (hr : Drawn kinds slack es r) (ht : Drawn ks more es t) :
    Drawn (kinds ++ ks) (slack + more) es (r ++ t) := by
  unfold Drawn at *
  rw [ElementRun.size_append, List.map_append, List.sum_append]
  omega

/-- Kinds that differ pay for the run side by side. -/
theorem size_le {bs : Octets} (h : Drawn kinds slack (RawElement.split bs).1 r)
    (hkinds : kinds.Nodup := by decide) (hslack : slack ≤ more := by decide) :
    r.size ≤ bs.length + more := by
  have hspent := spentOn_split_le hkinds bs
  unfold Drawn at h
  omega

variable {α : Type} [Element α] [Element.Compact α slack]

theorem last {a? : Option α} (h : lastOf α es = a?) :
    Drawn [Element.code α] slack es (.maybe a?) := by
  have hpaid := Element.Compact.atLeast.lastOf (α := α) es
  subst h
  unfold Drawn
  rw [ElementRun.size_maybe, List.map_singleton, List.sum_singleton]
  cases hlast : lastOf α es with
  | none => simp
  | some a =>
    simp only [hlast, Option.elim_some] at hpaid ⊢
    omega

theorem one {a : α} (h : lastOf α es = some a) : Drawn [Element.code α] slack es (.one a) := by
  simpa [Drawn] using last h

theorem first {a? : Option α} (h : firstOf α es = a?) :
    Drawn [Element.code α] slack es (.maybe a?) := by
  subst h
  unfold Drawn spentOn
  rw [ElementRun.size_maybe, List.map_singleton, List.sum_singleton]
  show _ ≤ ((elementsOf α es).map RawElement.size).sum + slack
  unfold firstOf
  cases hget : (elementsOf α es).head? with
  | none => simp
  | some e =>
    have hmem : e.size ≤ ((elementsOf α es).map RawElement.size).sum :=
      List.le_sum_of_mem (List.mem_map_of_mem (List.mem_of_head? hget))
    rw [Option.bind_some]
    cases has : e.as? α with
    | none => simp
    | some a =>
      have hsize : Element.size a - slack ≤ e.size := Element.Compact.atLeast.size_le has
      rw [Option.elim_some]
      omega

end Drawn

/-- A group is as compact as the run that is drawn for it from its octets. -/
theorem Element.Compact.group {α : Type} [Body α] {slack : Nat} (code : UInt16) (label : String)
    (h : ∀ (bs : Octets) (a : α), Body.decode bs = .ok a →
      (Body.write a).size ≤ bs.length + slack) (hslack : slack ≤ 4 := by decide) :
    @Element.Compact α (Body.group code label) slack :=
  letI : Element α := Body.group code label
  { length_le := fun bs a hdecode =>
      (ElementRun.length_octets (Body.write a)).trans_le (h bs a hdecode)
    slack_le := hslack }

/-! ## §5. Runs without longer elements. -/

/-- Each element of the run is at most four octets longer than one of these. -/
def NoLonger (es : List RawElement) (r : ElementRun) : Prop :=
  ∀ e ∈ r.elements, ∃ e' ∈ es, e.value.length ≤ e'.value.length + 4

namespace NoLonger

variable {es : List RawElement} {r t : ElementRun}

theorem empty : NoLonger es .empty := by simp [NoLonger, ElementRun.empty]

theorem append (hr : NoLonger es r) (ht : NoLonger es t) : NoLonger es (r ++ t) := by
  intro e he
  rcases List.mem_append.mp he with he | he
  · exact hr e he
  · exact ht e he

/-- What is drawn from 65531 octets at most is short enough for the headers of its elements. -/
theorem short {bs : Octets} (h : NoLonger (RawElement.split bs).1 r) (hbs : bs.length ≤ 65531) :
    Short r.elements := by
  intro e he
  obtain ⟨e', he', hle⟩ := h e he
  have hsize : e'.value.length + 4 ≤ ((RawElement.split bs).1.map RawElement.size).sum :=
    List.le_sum_of_mem (List.mem_map_of_mem (f := RawElement.size) he')
  have htotal := RawElement.size_split bs
  rw [valueLimit]
  omega

variable {α : Type} [Element α] {slack : Nat} [Element.Compact α slack]
include slack

theorem each {as : List α} (h : ∀ a ∈ as, ReadFrom es a) : NoLonger es (.each as) := by
  intro e he
  obtain ⟨a, ha, rfl⟩ := List.mem_map.mp he
  obtain ⟨e', he', hdecode⟩ := h a ha
  have hlength : (rawElement a).value.length ≤ e'.value.length + slack :=
    Element.Compact.length_le hdecode
  have hslack : slack ≤ 4 := Element.Compact.slack_le α
  exact ⟨e', he', by omega⟩

theorem all {as : List α} (h : allOf α es = as) : NoLonger es (.each as) :=
  each fun _ ha => readFrom_of_mem_allOf (h ▸ ha)

theorem maybe {a? : Option α} (h : ∀ a ∈ a?, ReadFrom es a) : NoLonger es (.maybe a?) := by
  rw [ElementRun.maybe_eq_each]
  exact each (by simpa using h)

theorem last {a? : Option α} (h : lastOf α es = a?) : NoLonger es (.maybe a?) :=
  maybe fun _ ha => readFrom_of_lastOf (h.trans ha)

theorem one {a : α} (h : lastOf α es = some a) : NoLonger es (.one a) := by
  rw [ElementRun.one_eq_each]
  exact each (by simpa using readFrom_of_lastOf h)

end NoLonger

end UserPlane
