/-
  UserPlane.Proofs.Rule.RoundTrip
  ───────────────────────────────
  **REQUESTS ABOUT RULES READ BACK.**

  A request about a rule is well formed when the values in it are, down through
  the groups it holds.  Its shape mirrors its writing part by part, in the order
  of both, so that each proof below is the list of the parts; what is nested
  counts as one part, by the law of groups.
-/
import UserPlane.Proofs.Element.RoundTrip
import UserPlane.Rule.Detection
import UserPlane.Rule.Forwarding
import UserPlane.Rule.Quality

namespace UserPlane

/-! ## §1. Detection rules. -/

/-- The tunnel end and the address have the parts they announce. -/
structure Pdi.WellFormed (p : Pdi) : Prop where
  localFTeid : ∀ t ∈ p.localFTeid, t.WellFormed
  ueIpAddress : ∀ a ∈ p.ueIpAddress, a.WellFormed

instance : HasWellFormed Pdi where
  WellFormed := Pdi.WellFormed

instance : LawfulBody Pdi where
  mirrors p hwf :=
    have hwf : p.WellFormed := hwf
    ⟨_, (Mirrors.map .required).seq (.optional hwf.localFTeid) |>.seq .optional
      |>.seq (.optional hwf.ueIpAddress) |>.seq .firstOnly |>.seq .optional⟩

instance : LawfulElement Pdi := LawfulBody.group 2 "PDI"

/-- The detection information is well formed. -/
def CreatePdr.WellFormed (r : CreatePdr) : Prop := r.pdi.WellFormed

instance : HasWellFormed CreatePdr where
  WellFormed := CreatePdr.WellFormed

instance : LawfulBody CreatePdr where
  mirrors r hwf :=
    have hwf : r.pdi.WellFormed := hwf
    ⟨_, (Mirrors.map .required).seq .optional |>.seq (.required hwf) |>.seq .optional
      |>.seq .optional |>.seq .firstOnly⟩

instance : LawfulElement CreatePdr := LawfulBody.group 1 "CreatePDR"

/-- New detection information is well formed. -/
def UpdatePdr.WellFormed (r : UpdatePdr) : Prop := ∀ p ∈ r.pdi, p.WellFormed

instance : HasWellFormed UpdatePdr where
  WellFormed := UpdatePdr.WellFormed

instance : LawfulBody UpdatePdr where
  mirrors r hwf :=
    have hwf : ∀ p ∈ r.pdi, p.WellFormed := hwf
    ⟨_, (Mirrors.map .required).seq .optional |>.seq .optional |>.seq (.optional hwf)
      |>.seq .optional |>.seq .firstOnly⟩

instance : LawfulElement UpdatePdr := LawfulBody.group 9 "UpdatePDR"

instance : HasWellFormed RemovePdr where

instance : LawfulBody RemovePdr where
  mirrors _ _ := ⟨_, .map .required⟩

instance : LawfulElement RemovePdr := LawfulBody.group 15 "RemovePDR"

/-- The tunnel end and the address have the parts they announce. -/
structure CreatedPdr.WellFormed (r : CreatedPdr) : Prop where
  localFTeid : ∀ t ∈ r.localFTeid, t.WellFormed
  ueIpAddress : ∀ a ∈ r.ueIpAddress, a.WellFormed

instance : HasWellFormed CreatedPdr where
  WellFormed := CreatedPdr.WellFormed

instance : LawfulBody CreatedPdr where
  mirrors r hwf :=
    have hwf : r.WellFormed := hwf
    ⟨_, (Mirrors.map .required).seq (.optional hwf.localFTeid)
      |>.seq (.optional hwf.ueIpAddress)⟩

instance : LawfulElement CreatedPdr := LawfulBody.group 8 "CreatedPDR"

/-! ## §2. Forwarding rules. -/

/-- The outer header has the parts it announces. -/
def ForwardingParameters.WellFormed (p : ForwardingParameters) : Prop :=
  ∀ h ∈ p.outerHeaderCreation, h.WellFormed

instance : HasWellFormed ForwardingParameters where
  WellFormed := ForwardingParameters.WellFormed

instance : LawfulBody ForwardingParameters where
  mirrors p hwf :=
    have hwf : ∀ h ∈ p.outerHeaderCreation, h.WellFormed := hwf
    ⟨_, (Mirrors.map .required).seq .optional |>.seq (.optional hwf) |>.seq .optional⟩

instance : LawfulElement ForwardingParameters := LawfulBody.group 4 "ForwardingParameters"

/-- A new outer header has the parts it announces. -/
def UpdateForwardingParameters.WellFormed (p : UpdateForwardingParameters) : Prop :=
  ∀ h ∈ p.outerHeaderCreation, h.WellFormed

instance : HasWellFormed UpdateForwardingParameters where
  WellFormed := UpdateForwardingParameters.WellFormed

instance : LawfulBody UpdateForwardingParameters where
  mirrors p hwf :=
    have hwf : ∀ h ∈ p.outerHeaderCreation, h.WellFormed := hwf
    ⟨_, (Mirrors.map .optional).seq .optional |>.seq (.optional hwf) |>.seq .optional⟩

instance : LawfulElement UpdateForwardingParameters :=
  LawfulBody.group 11 "UpdateForwardingParameters"

/-- Where packets go is well formed. -/
def CreateFar.WellFormed (r : CreateFar) : Prop := ∀ p ∈ r.forwardingParameters, p.WellFormed

instance : HasWellFormed CreateFar where
  WellFormed := CreateFar.WellFormed

instance : LawfulBody CreateFar where
  mirrors r hwf :=
    have hwf : ∀ p ∈ r.forwardingParameters, p.WellFormed := hwf
    ⟨_, (Mirrors.map .required).seq .required |>.seq (.optional hwf)⟩

instance : LawfulElement CreateFar := LawfulBody.group 3 "CreateFAR"

/-- Where packets are to go from now on is well formed. -/
def UpdateFar.WellFormed (r : UpdateFar) : Prop :=
  ∀ p ∈ r.updateForwardingParameters, p.WellFormed

instance : HasWellFormed UpdateFar where
  WellFormed := UpdateFar.WellFormed

instance : LawfulBody UpdateFar where
  mirrors r hwf :=
    have hwf : ∀ p ∈ r.updateForwardingParameters, p.WellFormed := hwf
    ⟨_, (Mirrors.map .required).seq .optional |>.seq (.optional hwf)⟩

instance : LawfulElement UpdateFar := LawfulBody.group 10 "UpdateFAR"

instance : HasWellFormed RemoveFar where

instance : LawfulBody RemoveFar where
  mirrors _ _ := ⟨_, .map .required⟩

instance : LawfulElement RemoveFar := LawfulBody.group 16 "RemoveFAR"

/-! ## §3. QoS rules. -/

/-- The bit rates can be written. -/
def CreateQer.WellFormed (r : CreateQer) : Prop := ∀ m ∈ r.maximumBitrate, m.WellFormed

instance : HasWellFormed CreateQer where
  WellFormed := CreateQer.WellFormed

instance : LawfulBody CreateQer where
  mirrors r hwf :=
    have hwf : ∀ m ∈ r.maximumBitrate, m.WellFormed := hwf
    ⟨_, (Mirrors.map .required).seq .required |>.seq (.optional hwf) |>.seq .optional⟩

instance : LawfulElement CreateQer := LawfulBody.group 7 "CreateQER"

/-- New bit rates can be written. -/
def UpdateQer.WellFormed (r : UpdateQer) : Prop := ∀ m ∈ r.maximumBitrate, m.WellFormed

instance : HasWellFormed UpdateQer where
  WellFormed := UpdateQer.WellFormed

instance : LawfulBody UpdateQer where
  mirrors r hwf :=
    have hwf : ∀ m ∈ r.maximumBitrate, m.WellFormed := hwf
    ⟨_, (Mirrors.map .required).seq .optional |>.seq (.optional hwf) |>.seq .optional⟩

instance : LawfulElement UpdateQer := LawfulBody.group 14 "UpdateQER"

instance : HasWellFormed RemoveQer where

instance : LawfulBody RemoveQer where
  mirrors _ _ := ⟨_, .map .required⟩

instance : LawfulElement RemoveQer := LawfulBody.group 18 "RemoveQER"

end UserPlane
