/-
  UserPlane.Rule.Detection
  ────────────────────────
  **PACKET DETECTION RULES, AS REQUESTED.**

  A detection rule (PDR) says by its detection information (PDI) which packets
  it is about, and names the rules that treat them.

      Pdi          detection information
      CreatePdr    a rule to be made
      UpdatePdr    what is to change in a rule
      RemovePdr    a rule to be taken away
      CreatedPdr   what the node chose for a rule it made
-/
import UserPlane.Element.FTeid
import UserPlane.Element.Interface
import UserPlane.Element.OuterHeader
import UserPlane.Element.RuleId
import UserPlane.Element.SdfFilter
import UserPlane.Element.Treatment
import UserPlane.Element.UeIpAddress
import UserPlane.Wire.Body

namespace UserPlane

/-! ## §1. Detection information. -/

/-- Which packets a rule is about.  Of several filters the first counts. -/
structure Pdi where
  sourceInterface : SourceInterface
  localFTeid : Option FTeid := none
  networkInstance : Option NetworkInstance := none
  ueIpAddress : Option UeIpAddress := none
  sdfFilter : Option SdfFilter := none
  qfi : Option Qfi := none
  deriving DecidableEq, Repr

instance : Body Pdi where
  write p := .one p.sourceInterface ++ .maybe p.localFTeid ++ .maybe p.networkInstance
    ++ .maybe p.ueIpAddress ++ .maybe p.sdfFilter ++ .maybe p.qfi
  shape := Pdi.mk <$> .required SourceInterface <*> .optional FTeid
    <*> .optional NetworkInstance <*> .optional UeIpAddress <*> .firstOnly SdfFilter
    <*> .optional Qfi

instance : Element Pdi := Body.group 2 "PDI"

/-! ## §2. Requests about rules. -/

/-- A rule to be made.  Of several QoS rules it names the first counts. -/
structure CreatePdr where
  pdrId : PdrId
  precedence : Option Precedence := none
  pdi : Pdi
  outerHeaderRemoval : Option OuterHeaderRemoval := none
  farId : Option FarId := none
  qerId : Option QerId := none
  deriving DecidableEq, Repr

instance : Body CreatePdr where
  write r := .one r.pdrId ++ .maybe r.precedence ++ .one r.pdi
    ++ .maybe r.outerHeaderRemoval ++ .maybe r.farId ++ .maybe r.qerId
  shape := CreatePdr.mk <$> .required PdrId <*> .optional Precedence <*> .required Pdi
    <*> .optional OuterHeaderRemoval <*> .optional FarId <*> .firstOnly QerId

instance : Element CreatePdr := Body.group 1 "CreatePDR"

/-- What is to change in a rule. -/
structure UpdatePdr where
  pdrId : PdrId
  outerHeaderRemoval : Option OuterHeaderRemoval := none
  precedence : Option Precedence := none
  pdi : Option Pdi := none
  farId : Option FarId := none
  qerId : Option QerId := none
  deriving DecidableEq, Repr

instance : Body UpdatePdr where
  write r := .one r.pdrId ++ .maybe r.outerHeaderRemoval ++ .maybe r.precedence
    ++ .maybe r.pdi ++ .maybe r.farId ++ .maybe r.qerId
  shape := UpdatePdr.mk <$> .required PdrId <*> .optional OuterHeaderRemoval
    <*> .optional Precedence <*> .optional Pdi <*> .optional FarId <*> .firstOnly QerId

instance : Element UpdatePdr := Body.group 9 "UpdatePDR"

/-- A rule to be taken away. -/
structure RemovePdr where
  pdrId : PdrId
  deriving DecidableEq, Repr

instance : Body RemovePdr where
  write r := .one r.pdrId
  shape := RemovePdr.mk <$> .required PdrId

instance : Element RemovePdr := Body.group 15 "RemovePDR"

/-- What the node chose for a rule: the tunnel end, the address. -/
structure CreatedPdr where
  pdrId : PdrId
  localFTeid : Option FTeid := none
  ueIpAddress : Option UeIpAddress := none
  deriving DecidableEq, Repr

instance : Body CreatedPdr where
  write r := .one r.pdrId ++ .maybe r.localFTeid ++ .maybe r.ueIpAddress
  shape := CreatedPdr.mk <$> .required PdrId <*> .optional FTeid <*> .optional UeIpAddress

instance : Element CreatedPdr := Body.group 8 "CreatedPDR"

end UserPlane
