/-
  UserPlane.Rule.Forwarding
  ─────────────────────────
  **FORWARDING ACTION RULES, AS REQUESTED.**

  A forwarding rule (FAR) says what is done with packets, and, if they are
  forwarded, where to and with which outer header.
-/
import UserPlane.Element.Interface
import UserPlane.Element.OuterHeader
import UserPlane.Element.RuleId
import UserPlane.Element.Treatment
import UserPlane.Wire.Body

namespace UserPlane

/-- Where packets go, and with which outer header. -/
structure ForwardingParameters where
  destinationInterface : DestinationInterface
  networkInstance : Option NetworkInstance := none
  outerHeaderCreation : Option OuterHeaderCreation := none
  transportLevelMarking : Option TransportLevelMarking := none
  deriving DecidableEq, Repr

instance : Body ForwardingParameters where
  write p := .one p.destinationInterface ++ .maybe p.networkInstance
    ++ .maybe p.outerHeaderCreation ++ .maybe p.transportLevelMarking
  shape := ForwardingParameters.mk <$> .required DestinationInterface
    <*> .optional NetworkInstance <*> .optional OuterHeaderCreation
    <*> .optional TransportLevelMarking

instance : Element ForwardingParameters := Body.group 4 "ForwardingParameters"

/-- What is to change in where packets go. -/
structure UpdateForwardingParameters where
  destinationInterface : Option DestinationInterface := none
  networkInstance : Option NetworkInstance := none
  outerHeaderCreation : Option OuterHeaderCreation := none
  transportLevelMarking : Option TransportLevelMarking := none
  deriving DecidableEq, Repr

instance : Body UpdateForwardingParameters where
  write p := .maybe p.destinationInterface ++ .maybe p.networkInstance
    ++ .maybe p.outerHeaderCreation ++ .maybe p.transportLevelMarking
  shape := UpdateForwardingParameters.mk <$> .optional DestinationInterface
    <*> .optional NetworkInstance <*> .optional OuterHeaderCreation
    <*> .optional TransportLevelMarking

instance : Element UpdateForwardingParameters := Body.group 11 "UpdateForwardingParameters"

/-- A rule to be made. -/
structure CreateFar where
  farId : FarId
  applyAction : ApplyAction
  forwardingParameters : Option ForwardingParameters := none
  deriving DecidableEq, Repr

instance : Body CreateFar where
  write r := .one r.farId ++ .one r.applyAction ++ .maybe r.forwardingParameters
  shape := CreateFar.mk <$> .required FarId <*> .required ApplyAction
    <*> .optional ForwardingParameters

instance : Element CreateFar := Body.group 3 "CreateFAR"

/-- What is to change in a rule. -/
structure UpdateFar where
  farId : FarId
  applyAction : Option ApplyAction := none
  updateForwardingParameters : Option UpdateForwardingParameters := none
  deriving DecidableEq, Repr

instance : Body UpdateFar where
  write r := .one r.farId ++ .maybe r.applyAction ++ .maybe r.updateForwardingParameters
  shape := UpdateFar.mk <$> .required FarId <*> .optional ApplyAction
    <*> .optional UpdateForwardingParameters

instance : Element UpdateFar := Body.group 10 "UpdateFAR"

/-- A rule to be taken away. -/
structure RemoveFar where
  farId : FarId
  deriving DecidableEq, Repr

instance : Body RemoveFar where
  write r := .one r.farId
  shape := RemoveFar.mk <$> .required FarId

instance : Element RemoveFar := Body.group 16 "RemoveFAR"

end UserPlane
