/-
  UserPlane.Proofs.Wire.Accumulation
  ──────────────────────────────────
  **WHAT A WALK OVER THE ELEMENTS OF A BODY COMES TO.**

  A shape reads a body in one walk and puts the elements that it meets into its
  slots, one after the other.  What the slots hold in the end can be said by
  the elements alone, without a walk:

      lastOf, firstOf, allOf   what the elements of one kind stand for
      Shape.check              which elements are refused on sight
      Shape.gather             what the slots hold behind some elements

  The walk keeps to this: behind elements that are not refused the slots are as
  gathered, and one element more is refused or leads to the slots that are
  gathered with it (`run_visit`).  The rest is an induction on the elements
  (`run_forM_visit`), and with it a body is first checked and then built
  (`decode_eq`).  That each type has one part only is what keeps an element from
  being taken by another part's slot.
-/
import Mathlib.Data.List.Nodup
import UserPlane.Wire.Body

namespace UserPlane

/-! ## §1. Elements of one kind. -/

/-- The elements of kind `α`, in order. -/
def elementsOf (α : Type) [Element α] (es : List RawElement) : List RawElement :=
  es.filter fun e => e.type = Element.code α

/-- What an element stands for, read as kind `α`. -/
def RawElement.as? (α : Type) [Element α] (e : RawElement) : Option α :=
  (Element.decode e.value : Decoded α).toOption

/-- The last value of kind `α`. -/
def lastOf (α : Type) [Element α] (es : List RawElement) : Option α :=
  (elementsOf α es).getLast?.bind (RawElement.as? α)

/-- The first value of kind `α`. -/
def firstOf (α : Type) [Element α] (es : List RawElement) : Option α :=
  (elementsOf α es).head?.bind (RawElement.as? α)

/-- Every value of kind `α`, in order. -/
def allOf (α : Type) [Element α] (es : List RawElement) : List α :=
  (elementsOf α es).filterMap (RawElement.as? α)

/-- The last value of kind `α`, told missing from unreadable. -/
def lastChecked (α : Type) [Element α] (es : List RawElement) : Checked α :=
  match (elementsOf α es).getLast? with
  | none => .missing
  | some e =>
    match e.as? α with
    | some a => .present a
    | none => .malformed

/-- Refuses an element of kind `α` that cannot be read. -/
def refuse (α : Type) [Element α] (e : RawElement) : Decoded Unit :=
  if e.type = Element.code α then do
    let _ ← (Element.decode e.value : Decoded α)
    return ()
  else .ok ()

section Kind

variable {α : Type} [Element α] {e : RawElement} {es : List RawElement}

theorem RawElement.as?_eq_some_iff {a : α} :
    e.as? α = some a ↔ Element.decode e.value = .ok a := by
  unfold RawElement.as?
  cases (Element.decode e.value : Decoded α) <;> simp [Except.toOption]

theorem refuse_eq_ok_iff : refuse α e = .ok () ↔
    (e.type = Element.code α → ∃ a : α, Element.decode e.value = .ok a) := by
  unfold refuse
  by_cases h : e.type = Element.code α
  · simp only [h, true_imp_iff]
    cases (Element.decode e.value : Decoded α) <;> simp [bind, Except.bind, pure, Except.pure]
  · simp [h]

/-- An element that is read is refused, or what was read of it is kept. -/
theorem keep_eq_refuse (htype : e.type = Element.code α) {κ : Type} {keep : α → κ} {slot : κ}
    (h : ∀ a, e.as? α = some a → keep a = slot) :
    (do return keep (← (Element.decode e.value : Decoded α))) = (do refuse α e; return slot) := by
  unfold refuse
  rw [if_pos htype]
  cases hread : (Element.decode e.value : Decoded α) with
  | error fault => rfl
  | ok a => exact congrArg Except.ok (h a (RawElement.as?_eq_some_iff.mpr hread))

theorem elementsOf_append_of_eq (es : List RawElement) (h : e.type = Element.code α) :
    elementsOf α (es ++ [e]) = elementsOf α es ++ [e] := by simp [elementsOf, h]

theorem elementsOf_append_of_ne (es : List RawElement) (h : e.type ≠ Element.code α) :
    elementsOf α (es ++ [e]) = elementsOf α es := by simp [elementsOf, h]

/-- The last element is what counts, whatever came before it. -/
theorem lastOf_append_of_eq (es : List RawElement) (h : e.type = Element.code α) :
    lastOf α (es ++ [e]) = e.as? α := by
  simp [lastOf, elementsOf_append_of_eq es h]

theorem lastChecked_append_of_eq (es : List RawElement) (h : e.type = Element.code α) :
    lastChecked α (es ++ [e]) = match (Element.decode e.value : Decoded α) with
      | .ok a => .present a
      | .error _ => .malformed := by
  simp only [lastChecked, elementsOf_append_of_eq es h, List.getLast?_concat, RawElement.as?]
  cases (Element.decode e.value : Decoded α) <;> rfl

theorem allOf_append_of_eq (es : List RawElement) (h : e.type = Element.code α) :
    allOf α (es ++ [e]) = allOf α es ++ (e.as? α).toList := by
  unfold allOf
  rw [elementsOf_append_of_eq es h, List.filterMap_append]
  cases has : e.as? α <;> simp [has]

/-- An element behind others is the first only if there was none, given that those could
be read. -/
theorem firstOf_append_of_eq (h : e.type = Element.code α)
    (hes : ∀ x ∈ es, refuse α x = .ok ()) :
    firstOf α (es ++ [e]) = (firstOf α es).or (e.as? α) := by
  unfold firstOf
  rw [elementsOf_append_of_eq es h]
  cases hfirst : elementsOf α es with
  | nil => simp
  | cons x xs =>
    have hx : x ∈ es ∧ x.type = Element.code α := by
      simpa [elementsOf] using (hfirst ▸ List.mem_cons_self : x ∈ elementsOf α es)
    obtain ⟨a, ha⟩ := refuse_eq_ok_iff.mp (hes x hx.1) hx.2
    simp [RawElement.as?_eq_some_iff.mpr ha]

end Kind

/-! ## §2. What is refused, and what is gathered. -/

namespace Shape

variable {α β : Type}

/-- Refuses an element that a strict part cannot read. -/
def check : {α : Type} → Shape α → RawElement → Decoded Unit
  | _, const _, _ => .ok ()
  | _, ap f s, e => do
    f.check e
    s.check e
  | _, required α, e | _, optional α, e | _, firstOnly α, e | _, repeated α, e => refuse α e
  | _, lenient _, _ | _, checked _, _ => .ok ()

/-- What the slots hold behind these elements. -/
def gather (es : List RawElement) : {α : Type} → (s : Shape α) → s.Slots
  | _, const _ => ()
  | _, ap f s => (f.gather es, s.gather es)
  | _, required α | _, optional α | _, lenient α => lastOf α es
  | _, firstOnly α => firstOf α es
  | _, repeated α => (allOf α es).toArray
  | _, checked α => lastChecked α es

/-- The value that is built from elements of which none is refused. -/
def build (s : Shape α) (es : List RawElement) : Decoded α := s.finish (s.gather es)

@[simp] theorem check_pure {a : α} {e : RawElement} : (pure a : Shape α).check e = .ok () := rfl

@[simp] theorem check_map {g : α → β} {s : Shape α} {e : RawElement} :
    (g <$> s).check e = s.check e := rfl

@[simp] theorem check_seq_eq_ok {f : Shape (α → β)} {s : Shape α} {e : RawElement} :
    (f <*> s).check e = .ok () ↔ f.check e = .ok () ∧ s.check e = .ok () := by
  show (do f.check e; s.check e) = _ ↔ _
  cases f.check e <;> simp [bind, Except.bind]

@[simp] theorem build_pure {a : α} {es : List RawElement} :
    (pure a : Shape α).build es = .ok a := rfl

@[simp] theorem build_map_eq_ok {g : α → β} {s : Shape α} {es : List RawElement} {b : β} :
    (g <$> s).build es = .ok b ↔ ∃ a, s.build es = .ok a ∧ g a = b := by
  show (do return g (← s.build es)) = _ ↔ _
  cases s.build es <;> simp [bind, Except.bind, pure, Except.pure]

@[simp] theorem build_seq_eq_ok {f : Shape (α → β)} {s : Shape α} {es : List RawElement} {b : β} :
    (f <*> s).build es = .ok b ↔ ∃ g a, f.build es = .ok g ∧ s.build es = .ok a ∧ g a = b := by
  show (do let g ← f.build es; return g (← s.build es)) = _ ↔ _
  cases f.build es <;> cases s.build es <;> simp [bind, Except.bind, pure, Except.pure]

section Parts

variable {α : Type} [Element α] {es : List RawElement}

@[simp] theorem build_required {a : α} :
    (required α).build es = .ok a ↔ lastOf α es = some a := by
  simp only [build, gather, finish]
  cases lastOf α es <;> simp

@[simp] theorem build_optional {a? : Option α} :
    (optional α).build es = .ok a? ↔ lastOf α es = a? :=
  iff_of_eq (Except.ok.injEq _ _)

@[simp] theorem build_firstOnly {a? : Option α} :
    (firstOnly α).build es = .ok a? ↔ firstOf α es = a? :=
  iff_of_eq (Except.ok.injEq _ _)

@[simp] theorem build_repeated {as : List α} :
    (repeated α).build es = .ok as ↔ allOf α es = as :=
  iff_of_eq (Except.ok.injEq _ _)

@[simp] theorem build_lenient {a? : Option α} :
    (lenient α).build es = .ok a? ↔ lastOf α es = a? :=
  iff_of_eq (Except.ok.injEq _ _)

@[simp] theorem build_checked {c : Checked α} :
    (checked α).build es = .ok c ↔ lastChecked α es = c :=
  iff_of_eq (Except.ok.injEq _ _)

end Parts

/-! ## §3. One element more. -/

theorem gather_nil (s : Shape α) : s.gather [] = s.start := by
  induction s with
  | ap f s ihf ihs => exact Prod.ext ihf ihs
  | _ => rfl

/-- An element that the shape does not look at is not refused. -/
theorem check_of_not_mem {s : Shape α} {e : RawElement} (h : e.type ∉ s.types) :
    s.check e = .ok () := by
  induction s with
  | const a => rfl
  | ap f s ihf ihs =>
    obtain ⟨hf, hs⟩ := not_or.mp (h ∘ List.mem_append.mpr)
    exact check_seq_eq_ok.mpr ⟨ihf hf, ihs hs⟩
  | lenient | checked => rfl
  | _ => exact refuse_eq_ok_iff.mpr fun htype => absurd (List.mem_singleton.mpr htype) h

/-- Nor does it change what is gathered. -/
theorem gather_append_of_not_mem {s : Shape α} {e : RawElement} (h : e.type ∉ s.types)
    (es : List RawElement) : s.gather (es ++ [e]) = s.gather es := by
  induction s with
  | const a => rfl
  | ap f s ihf ihs =>
    obtain ⟨hf, hs⟩ := not_or.mp (h ∘ List.mem_append.mpr)
    exact Prod.ext (ihf hf) (ihs hs)
  | _ =>
    have hother := elementsOf_append_of_ne es (h ∘ List.mem_singleton.mpr)
    simp only [gather, lastOf, firstOf, allOf, lastChecked, hother]
    rfl

/-- **One element is put into its slot**: it is refused, or the slots are what is gathered with
it. -/
theorem meet_gather {s : Shape α} (hdistinct : s.types.Nodup) {es : List RawElement}
    (hes : ∀ x ∈ es, s.check x = .ok ()) {e : RawElement} (he : e.type ∈ s.types) :
    s.meet e (s.gather es) = (do s.check e; return s.gather (es ++ [e])) := by
  induction s with
  | const a => cases he
  | ap f s ihf ihs =>
    obtain ⟨hf, hs, hdisjoint⟩ := List.nodup_append'.mp hdistinct
    have hchecks x (hx : x ∈ es) := check_seq_eq_ok.mp (hes x hx)
    show (if e.type ∈ f.types then (do return (← f.meet e (f.gather es), s.gather es))
      else (do return (f.gather es, ← s.meet e (s.gather es))))
        = (do (do f.check e; s.check e); return (f.gather (es ++ [e]), s.gather (es ++ [e])))
    by_cases hmem : e.type ∈ f.types
    · have hother : e.type ∉ s.types := fun h => hdisjoint hmem h
      rw [if_pos hmem, ihf hf (fun x hx => (hchecks x hx).1) hmem, check_of_not_mem hother,
        gather_append_of_not_mem hother]
      cases f.check e <;> rfl
    · have hown : e.type ∈ s.types := (List.mem_append.mp he).resolve_left hmem
      rw [if_neg hmem, ihs hs (fun x hx => (hchecks x hx).2) hown, check_of_not_mem hmem,
        gather_append_of_not_mem hmem]
      cases s.check e <;> rfl
  | required α | optional α =>
    have htype : e.type = Element.code α := List.mem_singleton.mp he
    exact keep_eq_refuse htype fun a ha => ((lastOf_append_of_eq es htype).trans ha).symm
  | firstOnly α =>
    have htype : e.type = Element.code α := List.mem_singleton.mp he
    have hfirst := firstOf_append_of_eq htype hes
    exact keep_eq_refuse htype fun a ha => (hfirst.trans (congrArg _ ha)).symm
  | repeated α =>
    have htype : e.type = Element.code α := List.mem_singleton.mp he
    have hall := allOf_append_of_eq es htype
    refine keep_eq_refuse htype fun a ha => ?_
    show (allOf α es).toArray.push a = (allOf α (es ++ [e])).toArray
    rw [hall, ha]
    simp
  | lenient α =>
    have htype : e.type = Element.code α := List.mem_singleton.mp he
    exact congrArg Except.ok (lastOf_append_of_eq es htype).symm
  | checked α =>
    have htype : e.type = Element.code α := List.mem_singleton.mp he
    show (match (Element.decode e.value : Decoded α) with
      | .ok a => .ok (.present a)
      | .error _ => .ok .malformed) = (Except.ok (lastChecked α (es ++ [e])) : Decoded (Checked α))
    rw [lastChecked_append_of_eq es htype]
    cases (Element.decode e.value : Decoded α) <;> rfl

/-! ## §4. The whole walk. -/

/-- One element of the walk: it is refused, or the slots are what is gathered with it. -/
theorem run_visit {s : Shape α} (hdistinct : s.types.Nodup) {es : List RawElement}
    (hes : ∀ x ∈ es, s.check x = .ok ()) (e : RawElement) :
    (s.visit e).run (s.gather es) = (do s.check e; return ((), s.gather (es ++ [e]))) := by
  by_cases hmem : e.type ∈ s.types
  · have hvisit : (s.visit e).run (s.gather es) = (do return ((), ← s.meet e (s.gather es))) := by
      simp [visit, hmem]
    rw [hvisit, meet_gather hdistinct hes hmem]
    cases s.check e <;> rfl
  · rw [check_of_not_mem hmem, gather_append_of_not_mem hmem]
    unfold visit
    rw [if_neg hmem]
    rfl

/-- **A walk over elements**: one of them is refused, or the slots are what is gathered of all. -/
theorem run_forM_visit {s : Shape α} (hdistinct : s.types.Nodup) {front : List RawElement}
    (hfront : ∀ x ∈ front, s.check x = .ok ()) (es : List RawElement) :
    (es.forM s.visit).run (s.gather front)
      = (do es.forM s.check; return ((), s.gather (front ++ es))) := by
  induction es generalizing front with
  | nil =>
    rw [List.append_nil]
    rfl
  | cons e es ih =>
    show (do s.visit e; es.forM s.visit).run (s.gather front)
      = (do (do s.check e; es.forM s.check); return ((), s.gather (front ++ e :: es)))
    rw [StateT.run_bind, run_visit hdistinct hfront]
    cases hcheck : s.check e with
    | error fault => rfl
    | ok u =>
      have hfront' : ∀ x ∈ front ++ [e], s.check x = .ok () := by
        simpa [or_imp, forall_and, hcheck] using hfront
      refine (ih hfront').trans ?_
      rw [List.append_assoc]
      rfl

/-- **What a body stands for**: a refused element is reported first, then a fault in the run of
elements behind it, and then what is missing; a body without these is built from its elements. -/
theorem decode_eq {s : Shape α} (hdistinct : s.types.Nodup) (bs : Octets) :
    s.decode bs = (do forEachElement s.check bs; s.build (RawElement.split bs).1) := by
  have hwalk := run_forM_visit hdistinct (List.forall_mem_nil _) (RawElement.split bs).1
  rw [gather_nil, List.nil_append] at hwalk
  unfold decode forEachElement
  rw [StateT.run_bind, hwalk]
  cases (RawElement.split bs).1.forM s.check with
  | error fault => rfl
  | ok u => cases (RawElement.split bs).2 <;> rfl

end Shape

end UserPlane
