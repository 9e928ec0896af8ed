/-
  UserPlane.Message.Node
  ──────────────────────
  **MESSAGES BETWEEN NODES.**

  Heartbeats show that a node is alive; an association is set up, updated and
  released.  In three of the requests a node id that is absent or unreadable
  does not spoil the request: whoever handles it decides what to answer.
-/
import UserPlane.Element.Cause
import UserPlane.Element.NodeFacts
import UserPlane.Element.NodeId
import UserPlane.Wire.Body

namespace UserPlane

/-! ## §1. Heartbeats. -/

/-- Asks whether a node is alive. -/
structure HeartbeatRequest where
  recoveryTimeStamp : RecoveryTimeStamp
  deriving DecidableEq, Repr

instance : Body HeartbeatRequest where
  write m := .one m.recoveryTimeStamp
  shape := HeartbeatRequest.mk <$> .required RecoveryTimeStamp

/-- Says that the node is alive. -/
structure HeartbeatResponse where
  recoveryTimeStamp : RecoveryTimeStamp
  deriving DecidableEq, Repr

instance : Body HeartbeatResponse where
  write m := .one m.recoveryTimeStamp
  shape := HeartbeatResponse.mk <$> .required RecoveryTimeStamp

/-! ## §2. Setup. -/

/-- Asks for an association. -/
structure AssociationSetupRequest where
  nodeId : Option NodeId
  recoveryTimeStamp : Option RecoveryTimeStamp
  upFunctionFeatures : Option UpFunctionFeatures
  deriving DecidableEq, Repr

instance : Body AssociationSetupRequest where
  write m := .maybe m.nodeId ++ .maybe m.recoveryTimeStamp ++ .maybe m.upFunctionFeatures
  shape := AssociationSetupRequest.mk <$> .lenient NodeId <*> .optional RecoveryTimeStamp
    <*> .optional UpFunctionFeatures

/-- Grants or refuses an association. -/
structure AssociationSetupResponse where
  nodeId : NodeId
  cause : Cause
  recoveryTimeStamp : Option RecoveryTimeStamp
  upFunctionFeatures : Option UpFunctionFeatures
  deriving DecidableEq, Repr

instance : Body AssociationSetupResponse where
  write m := .one m.nodeId ++ .one m.cause ++ .maybe m.recoveryTimeStamp
    ++ .maybe m.upFunctionFeatures
  shape := AssociationSetupResponse.mk <$> .required NodeId <*> .required Cause
    <*> .optional RecoveryTimeStamp <*> .optional UpFunctionFeatures

/-! ## §3. Update. -/

/-- Tells that a node can do other things than before. -/
structure AssociationUpdateRequest where
  nodeId : Checked NodeId
  upFunctionFeatures : Option UpFunctionFeatures
  deriving DecidableEq, Repr

instance : Body AssociationUpdateRequest where
  write m := .maybe m.nodeId.value? ++ .maybe m.upFunctionFeatures
  shape := AssociationUpdateRequest.mk <$> .checked NodeId <*> .optional UpFunctionFeatures

/-- Answers an update. -/
structure AssociationUpdateResponse where
  nodeId : NodeId
  cause : Cause
  recoveryTimeStamp : Option RecoveryTimeStamp
  deriving DecidableEq, Repr

instance : Body AssociationUpdateResponse where
  write m := .one m.nodeId ++ .one m.cause ++ .maybe m.recoveryTimeStamp
  shape := AssociationUpdateResponse.mk <$> .required NodeId <*> .required Cause
    <*> .optional RecoveryTimeStamp

/-! ## §4. Release. -/

/-- Asks to end an association. -/
structure AssociationReleaseRequest where
  nodeId : Option NodeId
  deriving DecidableEq, Repr

instance : Body AssociationReleaseRequest where
  write m := .maybe m.nodeId
  shape := AssociationReleaseRequest.mk <$> .lenient NodeId

/-- Answers a release. -/
structure AssociationReleaseResponse where
  nodeId : NodeId
  cause : Cause
  deriving DecidableEq, Repr

instance : Body AssociationReleaseResponse where
  write m := .one m.nodeId ++ .one m.cause
  shape := AssociationReleaseResponse.mk <$> .required NodeId <*> .required Cause

end UserPlane
