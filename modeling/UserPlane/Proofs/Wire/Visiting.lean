/-
  UserPlane.Proofs.Wire.Visiting
  ──────────────────────────────
  **WHICH ELEMENTS OF SOME OCTETS ARE VISITED.**

  Octets are a run of elements in one way at most, and a visit of the octets
  finds this way: it takes the elements off the front one by one, up to where
  no whole element is left, or up to the first that it fails on.

      MadeOf                octets that are these elements and nothing else
      LongestFront          the longest part at the front that is a run of elements
      forEachElement_encode_append
                            one element of a visit, and the visit of the rest
      Visit.Passes.all_append
                            behind elements that it passes a visit goes on
      Visit.calls_exact     which elements a visit is called on, and what comes of it

  A visit may keep a state and may fail; the state that it has when it fails is
  kept too, so that the elements it was called on can be told (`Visit.calls`).
-/
import UserPlane.Proofs.Wire.Rereading

namespace UserPlane

namespace RawElement

/-! ## §1. Octets that are elements throughout. -/

/-- The octets are these elements one after the other, each with a value whose
length can be written in its header. -/
structure MadeOf (bs : Octets) (es : List RawElement) : Prop where
  short : ∀ e ∈ es, e.value.length ≤ 65535
  encoded : encodeAll es = bs

/-- The elements are the longest part at the front of the octets that is a run
of elements. -/
structure LongestFront (bs : Octets) (es : List RawElement) : Prop where
  front : ∃ front, front <+: bs ∧ MadeOf front es
  longest : ∀ front es', front <+: bs → MadeOf front es' → front.length ≤ (encodeAll es).length

theorem encodeAll_cons (e : RawElement) (es : List RawElement) :
    encodeAll (e :: es) = e.encode ++ encodeAll es := rfl

theorem encodeAll_append (es es' : List RawElement) :
    encodeAll (es ++ es') = encodeAll es ++ encodeAll es' := List.flatMap_append

/-- Elements at the front of octets are cut off whole. -/
theorem split_encodeAll_append {es : List RawElement} (h : ∀ e ∈ es, e.value.length ≤ 65535)
    (rest : Octets) : split (encodeAll es ++ rest) = (es ++ (split rest).1, (split rest).2) := by
  induction es with
  | nil => rfl
  | cons e es ih =>
    obtain ⟨he, hes⟩ := List.forall_mem_cons.mp h
    rw [encodeAll_cons, List.append_assoc, split_encode_append _ (Nat.lt_succ_of_le he), ih hes]
    rfl

/-- **Octets are a run of elements in one way at most.** -/
theorem MadeOf.unique {bs : Octets} {es es' : List RawElement} (h : MadeOf bs es)
    (h' : MadeOf bs es') : es = es' := by
  have hsplit : ∀ {fs : List RawElement}, MadeOf bs fs → split bs = (fs, none) := by
    intro fs hfs
    rw [← hfs.encoded]
    exact split_encodeAll fun e he => Nat.lt_succ_of_le (hfs.short e he)
  have heq : (es, none) = (es', none) := (hsplit h).symm.trans (hsplit h')
  exact congrArg Prod.fst heq

/-- Four octets of header and the value behind them are an element. -/
theorem encode_of_header (t₁ t₀ l₁ l₀ : UInt8) {value : Octets}
    (h : value.length = Octets.toNat [l₁, l₀]) :
    encode ⟨UInt16.ofNat (Octets.toNat [t₁, t₀]), value⟩ = t₁ :: t₀ :: l₁ :: l₀ :: value := by
  have htype : be16 (UInt16.ofNat (Octets.toNat [t₁, t₀])) = [t₁, t₀] := be16_ofNat rfl
  have hlength : Octets.ofNat 2 value.length = [l₁, l₀] := by
    rw [h]
    exact Octets.ofNat_toNat [l₁, l₀]
  unfold encode
  rw [htype, hlength]
  rfl

/-- **What octets are cut into** is a run of elements at their front; what is left
begins with none, and is the same as what is at fault. -/
theorem split_spec (bs : Octets) :
    ∃ rest, bs = encodeAll (split bs).1 ++ rest
      ∧ (∀ e ∈ (split bs).1, e.value.length ≤ 65535)
      ∧ split rest = ([], (split bs).2) := by
  fun_induction split bs with
  | case1 => exact ⟨[], rfl, List.forall_mem_nil _, by rw [split]⟩
  | case2 t₁ t₀ l₁ l₀ rest type length value hover =>
    refine ⟨t₁ :: t₀ :: l₁ :: l₀ :: rest, rfl, List.forall_mem_nil _, ?_⟩
    rw [split, if_pos hover]
  | case3 t₁ t₀ l₁ l₀ rest type length value hwhole more ih =>
    obtain ⟨left, hleft, hshort, hstuck⟩ := ih
    have hlength : value.length = length := by
      have hle : value.length ≤ length := List.length_take_le length rest
      omega
    have hlimit : length < 65536 := Octets.toNat_pair_lt l₁ l₀
    refine ⟨left, ?_, ?_, hstuck⟩
    · show _ = encodeAll (⟨type, value⟩ :: more.1) ++ left
      rw [encodeAll_cons, encode_of_header t₁ t₀ l₁ l₀ hlength, List.append_assoc, ← hleft]
      show _ = t₁ :: t₀ :: l₁ :: l₀ :: (value ++ rest.drop length)
      rw [List.take_append_drop]
    · intro e he
      rcases List.mem_cons.mp he with rfl | he
      · show value.length ≤ 65535
        omega
      · exact hshort e he
  | case4 short hnil hheader =>
    refine ⟨short, rfl, List.forall_mem_nil _, ?_⟩
    rw [split]
    · exact hnil
    · exact hheader

/-- **The longest run of elements at the front** is what octets are cut into. -/
theorem longestFront_split (bs : Octets) : LongestFront bs (split bs).1 where
  front := by
    obtain ⟨rest, hrest, hshort, -⟩ := split_spec bs
    exact ⟨encodeAll (split bs).1, ⟨rest, hrest.symm⟩, hshort, rfl⟩
  longest := by
    rintro front es ⟨rest, rfl⟩ ⟨hshort, rfl⟩
    -- these elements are cut off first, and others may follow
    rw [split_encodeAll_append hshort, encodeAll_append, List.length_append]
    omega

/-- Only of no octets nothing is cut and nothing is at fault. -/
theorem eq_nil_of_split {bs : Octets} (h : split bs = ([], none)) : bs = [] := by
  match bs, h with
  | [], _ => rfl
  | [_], h | [_, _], h | [_, _, _], h => simp [split] at h
  | t₁ :: t₀ :: l₁ :: l₀ :: rest, h =>
    rw [split] at h
    split at h <;> cases h

/-- Octets are a run of elements if nothing is at fault when they are cut. -/
theorem exists_madeOf_iff (bs : Octets) : (∃ es, MadeOf bs es) ↔ (split bs).2 = none := by
  constructor
  · rintro ⟨es, hshort, rfl⟩
    rw [split_encodeAll fun e he => Nat.lt_succ_of_le (hshort e he)]
  · intro hnone
    obtain ⟨rest, hrest, hshort, hstuck⟩ := split_spec bs
    rw [hnone] at hstuck
    refine ⟨(split bs).1, hshort, ?_⟩
    conv => rhs; rw [hrest, eq_nil_of_split hstuck, List.append_nil]

end RawElement

/-! ## §2. Visits. -/

/-- **One element of a visit**, and then the visit of the rest. -/
theorem forEachElement_encode_append {m : Type → Type} [Monad m] [LawfulMonad m]
    [MonadExceptOf WireFault m] (visit : RawElement → m Unit) {e : RawElement}
    (he : e.value.length ≤ 65535) (rest : Octets) :
    forEachElement visit (e.encode ++ rest) = (do visit e; forEachElement visit rest) := by
  unfold forEachElement
  rw [RawElement.split_encode_append _ (Nat.lt_succ_of_le he)]
  show (do (do visit e; (RawElement.split rest).1.forM visit); _) = _
  rw [bind_assoc]

/-- What is done on a visit: it may fail, and it leaves a state also then. -/
abbrev Visit (σ : Type) : Type := RawElement → ExceptT WireFault (StateM σ) Unit

namespace Visit

variable {σ : Type} {visit : Visit σ} {e : RawElement} {es : List RawElement} {s s' : σ}
  {fault : WireFault}

/-- What the visit of one element comes to, and the state behind it. -/
def one (visit : Visit σ) (e : RawElement) (s : σ) : Except WireFault Unit × σ :=
  (visit e).run.run s

/-- What the visit of octets comes to, and the state behind it. -/
def all (visit : Visit σ) (bs : Octets) (s : σ) : Except WireFault Unit × σ :=
  (forEachElement visit bs).run.run s

/-- The visit with a note made of every element that it is called on. -/
def noted (visit : Visit σ) : Visit (List RawElement × σ) := fun e =>
  ExceptT.mk fun p => ((visit.one e p.2).1, p.1 ++ [e], (visit.one e p.2).2)

/-- **The elements that it is called on** in a visit of octets, in order. -/
def calls (visit : Visit σ) (bs : Octets) (s : σ) : List RawElement :=
  (visit.noted.all bs ([], s)).2.1

/-- The visit fails on no element, whatever the state. -/
def NeverFails (visit : Visit σ) : Prop := ∀ e s, (visit.one e s).1 = .ok ()

/-- The visit succeeds on these elements one after the other. -/
inductive Passes (visit : Visit σ) : List RawElement → σ → σ → Prop where
  | none {s : σ} : Passes visit [] s s
  | next {e : RawElement} {es : List RawElement} {s s' s'' : σ}
    (first : visit.one e s = (.ok (), s')) (more : Passes visit es s' s'') :
    Passes visit (e :: es) s s''

/-- One element, and the rest if the visit has not failed on it. -/
theorem all_encode_append (visit : Visit σ) (he : e.value.length ≤ 65535) (rest : Octets) (s : σ) :
    visit.all (e.encode ++ rest) s
      = match visit.one e s with
        | (.ok (), s') => visit.all rest s'
        | (.error fault, s') => (.error fault, s') := by
  unfold all one
  rw [forEachElement_encode_append visit he, ExceptT.run_bind, StateT.run_bind]
  obtain ⟨⟨fault⟩ | ⟨⟨⟩⟩, s'⟩ := (visit e).run.run s
  · rfl
  · rfl

/-- **Behind elements that it passes** the visit goes on. -/
theorem Passes.all_append (h : visit.Passes es s s') (hes : ∀ e ∈ es, e.value.length ≤ 65535)
    (rest : Octets) : visit.all (RawElement.encodeAll es ++ rest) s = visit.all rest s' := by
  induction h with
  | none => rfl
  | next first more ih =>
    obtain ⟨he, hes⟩ := List.forall_mem_cons.mp hes
    rw [RawElement.encodeAll_cons, List.append_assoc, all_encode_append visit he, first]
    exact ih hes

/-- The elements that are passed are noted. -/
theorem Passes.noted (h : visit.Passes es s s') (log : List RawElement) :
    visit.noted.Passes es (log, s) (log ++ es, s') := by
  induction h generalizing log with
  | none =>
    rw [List.append_nil]
    exact .none
  | @next e es s s' s'' first more ih =>
    have hfirst : visit.noted.one e (log, s) = (.ok (), log ++ [e], s') := by
      show ((visit.one e s).1, log ++ [e], (visit.one e s).2) = _
      rw [first]
    rw [List.append_cons]
    exact .next hfirst (ih (log ++ [e]))

/-- A visit that never fails passes all elements. -/
theorem NeverFails.exists_passes (h : visit.NeverFails) (es : List RawElement) (s : σ) :
    ∃ s', visit.Passes es s s' := by
  induction es generalizing s with
  | nil => exact ⟨s, .none⟩
  | cons e es ih =>
    obtain ⟨s', hmore⟩ := ih (visit.one e s).2
    exact ⟨s', .next (Prod.ext (h e s) rfl) hmore⟩

/-- What a visit ends with, where this is at fault. -/
def ending : Option WireFault → Except WireFault Unit
  | none => .ok ()
  | some fault => .error fault

/-- Where no element begins, the visit ends with what is at fault. -/
theorem all_of_split {bs : Octets} {fault? : Option WireFault}
    (h : RawElement.split bs = ([], fault?)) (visit : Visit σ) (s : σ) :
    visit.all bs s = (ending fault?, s) := by
  unfold all forEachElement
  rw [h]
  cases fault? <;> rfl

/-- **A visit that never fails** is called on what the octets are cut into, and ends
with what is at fault. -/
theorem NeverFails.all_eq (h : visit.NeverFails) (bs : Octets) (s : σ) :
    (visit.all bs s).1 = ending (RawElement.split bs).2
      ∧ visit.calls bs s = (RawElement.split bs).1 := by
  obtain ⟨rest, hrest, hshort, hstuck⟩ := RawElement.split_spec bs
  obtain ⟨s', hpasses⟩ := h.exists_passes (RawElement.split bs).1 s
  constructor
  · conv => lhs; rw [hrest, hpasses.all_append hshort, all_of_split hstuck]
  · unfold calls
    conv => lhs; rw [hrest, (hpasses.noted []).all_append hshort, all_of_split hstuck]
    rfl

/-- **A visit that fails on an element** ends there. -/
theorem Passes.all_of_fails {front bs : Octets} (h : visit.Passes es s s') {s'' : σ}
    (hfront : front <+: bs) (hmade : RawElement.MadeOf front (es ++ [e]))
    (hfails : visit.one e s' = (.error fault, s'')) :
    visit.all bs s = (.error fault, s'') ∧ visit.calls bs s = es ++ [e] := by
  obtain ⟨rest, rfl⟩ := hfront
  obtain ⟨hshort, rfl⟩ := hmade
  have hes : ∀ e ∈ es, e.value.length ≤ 65535 :=
    fun e he => hshort e (List.mem_append.mpr (.inl he))
  have he : e.value.length ≤ 65535 := hshort e (by simp)
  -- the elements that are passed, the one that is not, and what is not looked at
  have hoctets : RawElement.encodeAll (es ++ [e]) ++ rest
      = RawElement.encodeAll es ++ (e.encode ++ rest) := by
    rw [RawElement.encodeAll_append, List.append_assoc]
    simp [RawElement.encodeAll]
  constructor
  · rw [hoctets, h.all_append hes, all_encode_append visit he, hfails]
  · have hnoted : visit.noted.one e (es, s') = (.error fault, es ++ [e], s'') := by
      show ((visit.one e s').1, es ++ [e], (visit.one e s').2) = _
      rw [hfails]
    unfold calls
    rw [hoctets, (h.noted []).all_append hes, List.nil_append,
      all_encode_append visit.noted he, hnoted]

/-! ## §3. Which elements are visited. -/

/-- **A visit undoes the writing of elements.**  Octets are a run of elements in one
way at most.  A visit that never fails succeeds if and only if the octets are such a
run, and then it was called on just these elements, in order; on other octets it
fails, when it was called on the longest run at their front.  A visit that fails on
an element ends with that failure, and is called on none behind it. -/
theorem calls_exact :
    (∀ (bs : Octets) (es es' : List RawElement), RawElement.MadeOf bs es →
      RawElement.MadeOf bs es' → es = es')
    ∧ ∀ (σ : Type) (visit : Visit σ) (bs : Octets) (s : σ),
      (visit.NeverFails →
        ((visit.all bs s).1 = .ok () ↔ ∃ es, RawElement.MadeOf bs es)
        ∧ (∀ es, RawElement.MadeOf bs es → visit.calls bs s = es)
        ∧ ((¬ ∃ es, RawElement.MadeOf bs es) →
          (∃ fault, (visit.all bs s).1 = .error fault)
          ∧ RawElement.LongestFront bs (visit.calls bs s)))
      ∧ ∀ (es : List RawElement) (e : RawElement) (front : Octets) (s' s'' : σ)
        (fault : WireFault), front <+: bs → RawElement.MadeOf front (es ++ [e]) →
        visit.Passes es s s' → visit.one e s' = (.error fault, s'') →
        visit.all bs s = (.error fault, s'') ∧ visit.calls bs s = es ++ [e] := by
  refine ⟨fun bs es es' h h' => h.unique h', fun σ visit bs s => ⟨fun hnever => ?_, ?_⟩⟩
  · obtain ⟨hresult, hcalls⟩ := hnever.all_eq bs s
    have hmade := RawElement.exists_madeOf_iff bs
    refine ⟨?_, ?_, ?_⟩
    · rw [hresult, hmade]
      cases (RawElement.split bs).2 <;> simp [ending]
    · rintro es ⟨hshort, rfl⟩
      rw [hcalls, RawElement.split_encodeAll fun e he => Nat.lt_succ_of_le (hshort e he)]
    · intro hnot
      rw [hmade] at hnot
      obtain ⟨fault, hfault⟩ := Option.ne_none_iff_exists'.mp hnot
      rw [hfault] at hresult
      exact ⟨⟨fault, hresult⟩, hcalls ▸ RawElement.longestFront_split bs⟩
  · intro es e front s' s'' fault hfront hmade hpasses hfails
    exact hpasses.all_of_fails hfront hmade hfails

/-- Three elements, the second without a value. -/
def threeElements : List RawElement := [⟨19, [1]⟩, ⟨96, []⟩, ⟨60, [2, 97]⟩]

/-- The three elements, and behind them a header that is cut short. -/
def cutShort : Octets := RawElement.encodeAll threeElements ++ [0, 19, 0]

/-- Counts the elements, and fails on those of one type. -/
def countingBut (type : Option UInt16) : Visit Nat := fun e =>
  ExceptT.mk fun n => (if some e.type = type then .error .emptyName else .ok (), n + 1)

/-- The three elements are visited, also before the header that is cut short; a visit
that fails on the second of them is called on two. -/
theorem calls_exact_three :
    RawElement.MadeOf (RawElement.encodeAll threeElements) threeElements
    ∧ ((countingBut none).all (RawElement.encodeAll threeElements) 0).1 = .ok ()
    ∧ (countingBut none).calls (RawElement.encodeAll threeElements) 0 = threeElements
    ∧ (¬ ∃ es, RawElement.MadeOf cutShort es)
    ∧ (∃ fault, ((countingBut none).all cutShort 0).1 = .error fault)
    ∧ RawElement.LongestFront cutShort ((countingBut none).calls cutShort 0)
    ∧ (countingBut (some 96)).all cutShort 0 = (.error .emptyName, 2)
    ∧ (countingBut (some 96)).calls cutShort 0 = [⟨19, [1]⟩, ⟨96, []⟩] := by
  have hnever : (countingBut none).NeverFails := fun _ _ => rfl
  have hmade : RawElement.MadeOf (RawElement.encodeAll threeElements) threeElements :=
    ⟨by decide, rfl⟩
  have hnot : ¬ ∃ es, RawElement.MadeOf cutShort es := by
    rw [RawElement.exists_madeOf_iff, cutShort, RawElement.split_encodeAll_append (by decide)]
    simp [RawElement.split]
  obtain ⟨hok, hcalls, -⟩ :=
    (calls_exact.2 Nat (countingBut none) (RawElement.encodeAll threeElements) 0).1 hnever
  obtain ⟨-, -, herror⟩ := (calls_exact.2 Nat (countingBut none) cutShort 0).1 hnever
  obtain ⟨hfault, hlongest⟩ := herror hnot
  obtain ⟨hall, htwo⟩ := (calls_exact.2 Nat (countingBut (some 96)) cutShort 0).2
    [⟨19, [1]⟩] ⟨96, []⟩ (RawElement.encodeAll [⟨19, [1]⟩, ⟨96, []⟩]) 1 2 .emptyName
    (by decide) ⟨by decide, rfl⟩ (.next rfl .none) rfl
  exact ⟨hmade, hok.mpr ⟨_, hmade⟩, hcalls _ hmade, hnot, hfault, hlongest, hall, htwo⟩

end Visit

end UserPlane
