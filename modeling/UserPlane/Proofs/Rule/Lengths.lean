/-
  UserPlane.Proofs.Rule.Lengths
  ─────────────────────────────
  **HOW LONG REQUESTS ABOUT RULES MAY BE.**

  Requests about rules, the groups in them, and filters for flows have their
  lengths filled in when they have been written.  A length that is filled in is
  right; but none can be for a value of 65532 to 65535 octets, though a header
  could hold its length, and such a value can be read.

      FilledKind                 the thirteen groups and the filter
      FilledKind.Outcome         what comes of writing such a value
      FilledKind.lengths_right   so it is with every value whose length a
                                 header can hold

  Groups lie in each other, with the filter innermost.  Each counts the headers
  of those inside, so that of their lengths only the outermost can fail.
-/
import UserPlane.Proofs.Rule.RoundTrip
import UserPlane.Proofs.Wire.Lengths

namespace UserPlane

/-! ## §1. Elements that are written with their lengths. -/

instance : Writable SourceInterface where

instance : Writable DestinationInterface where

instance : Writable NetworkInstance where

instance : Writable FTeid where

instance : Writable UeIpAddress where

instance : Writable PdrId where

instance : Writable FarId where

instance : Writable QerId where

instance : Writable Precedence where

instance : Writable OuterHeaderRemoval where

instance : Writable OuterHeaderCreation where

instance : Writable TransportLevelMarking where

instance : Writable ApplyAction where

instance : Writable GateStatus where

instance : Writable Mbr where

instance : Writable Qfi where

/-! ## §2. Elements whose lengths are filled in. -/

instance : FilledIn SdfFilter where
  value? f := some f.octets
  encode?_eq_fill f := (fillLength_unfilled 23 f.octets).symm
  value?_of_le _ _ := rfl

section Groups

open ElementRun.Completes

instance : FilledIn Pdi := .group 2 "PDI" fun _ =>
  one.append maybe |>.append maybe |>.append maybe |>.append maybe |>.append maybe

instance : FilledIn CreatePdr := .group 1 "CreatePDR" fun _ =>
  one.append maybe |>.append one |>.append maybe |>.append maybe |>.append maybe

instance : FilledIn UpdatePdr := .group 9 "UpdatePDR" fun _ =>
  one.append maybe |>.append maybe |>.append maybe |>.append maybe |>.append maybe

instance : FilledIn RemovePdr := .group 15 "RemovePDR" fun _ => one

instance : FilledIn CreatedPdr := .group 8 "CreatedPDR" fun _ => one.append maybe |>.append maybe

instance : FilledIn ForwardingParameters := .group 4 "ForwardingParameters" fun _ =>
  one.append maybe |>.append maybe |>.append maybe

instance : FilledIn UpdateForwardingParameters := .group 11 "UpdateForwardingParameters" fun _ =>
  maybe.append maybe |>.append maybe |>.append maybe

instance : FilledIn CreateFar := .group 3 "CreateFAR" fun _ => one.append one |>.append maybe

instance : FilledIn UpdateFar := .group 10 "UpdateFAR" fun _ => one.append maybe |>.append maybe

instance : FilledIn RemoveFar := .group 16 "RemoveFAR" fun _ => one

instance : FilledIn CreateQer := .group 7 "CreateQER" fun _ =>
  one.append one |>.append maybe |>.append maybe

instance : FilledIn UpdateQer := .group 14 "UpdateQER" fun _ =>
  one.append maybe |>.append maybe |>.append maybe

instance : FilledIn RemoveQer := .group 18 "RemoveQER" fun _ => one

end Groups

/-! ## §3. Every kind whose length is filled in. -/

/-- A kind of value that is written with its length filled in. -/
structure FilledType : Type 1 where
  Value : Type
  [element : Element Value]
  [filledIn : FilledIn Value]

attribute [instance] FilledType.element FilledType.filledIn

/-- The kinds of elements whose lengths are filled in: the groups about rules, and the filter. -/
inductive FilledKind where
  | pdi | createPdr | updatePdr | removePdr | createdPdr | forwardingParameters
  | updateForwardingParameters | createFar | updateFar | removeFar | createQer | updateQer
  | removeQer | sdfFilter
  deriving DecidableEq, Repr

namespace FilledKind

/-- What elements of the kind stand for. -/
def type : FilledKind → FilledType
  | pdi => .mk Pdi
  | createPdr => .mk CreatePdr
  | updatePdr => .mk UpdatePdr
  | removePdr => .mk RemovePdr
  | createdPdr => .mk CreatedPdr
  | forwardingParameters => .mk ForwardingParameters
  | updateForwardingParameters => .mk UpdateForwardingParameters
  | createFar => .mk CreateFar
  | updateFar => .mk UpdateFar
  | removeFar => .mk RemoveFar
  | createQer => .mk CreateQer
  | updateQer => .mk UpdateQer
  | removeQer => .mk RemoveQer
  | sdfFilter => .mk SdfFilter

/-- The values that elements of the kind stand for. -/
abbrev Value (k : FilledKind) : Type := k.type.Value

/-- The type number of such elements. -/
def code (k : FilledKind) : UInt16 := Element.code k.Value

variable {k : FilledKind}

/-- **What comes of writing a value** whose length is filled in. -/
structure Outcome (a : k.Value) : Prop where
  /-- Everything behind the header is written, down through all groups; it is left to fill in
  the length. -/
  filled : Element.encode? a = fillLength (unfilled k.code (Element.payload a))
  /-- This can be done if and only if the header can be counted with the rest in 16 bits. -/
  written_iff : (∃ bs, Element.encode? a = some bs) ↔ (Element.payload a).length ≤ 65531
  /-- The length that is filled in is that of everything behind the header. -/
  length_right : ∀ bs, Element.encode? a = some bs →
    lengthField bs = (Element.payload a).length ∧ bs.drop 4 = Element.payload a
  /-- So a reader cuts off the whole element, and nothing is left. -/
  cut_whole : ∀ bs, Element.encode? a = some bs → RawElement.split bs = ([rawElement a], none)

/-- **Lengths that are filled in are right**, and they can be filled in for all values but
those of the last four lengths that a header can hold. -/
theorem lengths_right (k : FilledKind) (a : k.Value) (h : (Element.payload a).length ≤ 65535) :
    Outcome a where
  filled := FilledIn.encode?_eq_fillLength h
  written_iff := by
    constructor
    · rintro ⟨bs, hbs⟩
      exact ((FilledIn.encode?_eq_some_iff h).mp hbs).1
    · intro hle
      exact ⟨Element.encode a, (FilledIn.encode?_eq_some_iff h).mpr ⟨hle, rfl⟩⟩
  length_right bs hbs := by
    obtain ⟨-, rfl⟩ := (FilledIn.encode?_eq_some_iff h).mp hbs
    have hfield : lengthField (Element.encode a) = (Element.payload a).length % 65536 :=
      lengthField_encode (rawElement a)
    refine ⟨?_, rfl⟩
    rw [hfield]
    exact Nat.mod_eq_of_lt (Nat.lt_succ_of_le h)
  cut_whole bs hbs := by
    obtain ⟨-, rfl⟩ := (FilledIn.encode?_eq_some_iff h).mp hbs
    exact RawElement.split_encode h

/-- A rule to be made, with a name of a network of so many octets and a filter in its
detection information. -/
def deepPdr (n : Nat) : CreatePdr where
  pdrId := ⟨1⟩
  pdi :=
    { sourceInterface := .access
      networkInstance := some ⟨List.replicate n 0⟩
      sdfFilter := some { filterId := some 7 } }

theorem length_deepPdr (n : Nat) : (Element.payload (deepPdr n)).length = n + 29 := by
  have hid : Element.size (deepPdr n).pdrId = 6 := rfl
  have hside : Element.size SourceInterface.access = 5 := rfl
  have hnetwork : Element.size (NetworkInstance.mk (List.replicate n 0)) = n + 4 := by
    show (List.replicate n (0 : UInt8)).length + 4 = n + 4
    rw [List.length_replicate]
  have hfilter : Element.size (α := SdfFilter) { filterId := some 7 } = 10 := rfl
  have hpdi : Element.size (deepPdr n).pdi = n + 23 := by
    rw [Body.size_group]
    simp only [Body.write, deepPdr, ElementRun.size_append, ElementRun.size_one,
      ElementRun.size_maybe, Option.elim_some, Option.elim_none, hside, hnetwork, hfilter]
    omega
  show (Body.write (deepPdr n)).octets.length = n + 29
  rw [ElementRun.length_octets]
  simp only [Body.write, ElementRun.size_append, ElementRun.size_one, ElementRun.size_maybe,
    hid, hpdi]
  simp only [deepPdr, Option.elim_none]
  omega

theorem wellFormed_deepPdr (n : Nat) : (deepPdr n).WellFormed where
  localFTeid := by
    rintro t ⟨⟩
  ueIpAddress := by
    rintro a ⟨⟩

/-- At 65531 octets the rule is written, with its length; one octet more is read, and not
written. -/
theorem lengths_right_deepPdr :
    (Element.payload (deepPdr 65502)).length = 65531
    ∧ (∃ bs, Element.encode? (deepPdr 65502) = some bs ∧ lengthField bs = 65531)
    ∧ (Element.payload (deepPdr 65503)).length = 65532
    ∧ Element.decode (Element.payload (deepPdr 65503)) = .ok (deepPdr 65503)
    ∧ Element.encode? (deepPdr 65503) = none := by
  have hlast : (Element.payload (deepPdr 65502)).length = 65531 := length_deepPdr 65502
  have hover : (Element.payload (deepPdr 65503)).length = 65532 := length_deepPdr 65503
  have hlastHeld : (Element.payload (deepPdr 65502)).length ≤ 65535 := by omega
  have hoverHeld : (Element.payload (deepPdr 65503)).length ≤ 65535 := by omega
  have hwritten := lengths_right createPdr (deepPdr 65502) hlastHeld
  have hnot := lengths_right createPdr (deepPdr 65503) hoverHeld
  refine ⟨hlast, ?_, hover, ?_, ?_⟩
  · obtain ⟨bs, hbs⟩ := hwritten.written_iff.mpr (Nat.le_of_eq hlast)
    exact ⟨bs, hbs, (hwritten.length_right bs hbs).1.trans hlast⟩
  · exact LawfulBody.decode_of_le (wellFormed_deepPdr 65503) hoverHeld
  · cases hencode : Element.encode? (deepPdr 65503) with
    | none => rfl
    | some bs =>
      have hle : (Element.payload (deepPdr 65503)).length ≤ 65531 :=
        hnot.written_iff.mp ⟨bs, hencode⟩
      omega

end FilledKind

end UserPlane
