/-
  UserPlane.Node.Associations
  ───────────────────────────
  **HOW A NODE ANSWERS OTHER NODES.**

  Heartbeats, and the setup, update and release of associations.  A setup from
  a peer that already has an association ends the old one and its sessions.
-/
import UserPlane.Node.Liveness

namespace UserPlane

/-- A handler of messages of type `α`: given the header, the message and where
it came from, it may change the node and may answer. -/
abbrev Handler (α : Type) := Header → α → SocketAddress → StateM Node (Option Reply)

/-- Says that the node is alive. -/
def handleHeartbeatRequest : Handler HeartbeatRequest := fun _ _ _ => do
  return some (.node (.heartbeatResponse ⟨(← get).params.recoveryTimeStamp⟩))

/-- The peer is alive: its failures are forgotten and its timer starts anew. -/
def handleHeartbeatResponse : Handler HeartbeatResponse := fun _ _ src => do
  let key := associationKey src
  match (← get).associations.get? key with
  | none => return none
  | some a =>
    modify (·.withAssociation key a.refreshRetries)
    if (← get).heartbeats then scheduleHeartbeat key
    return none

/-- The answer to a setup; only one that is granted tells what the node can
do. -/
def setupResponse (p : Parameters) (cause : Cause) : Reply :=
  .node <| .associationSetupResponse {
    nodeId := p.nodeId
    cause := cause
    recoveryTimeStamp := some p.recoveryTimeStamp
    upFunctionFeatures := if cause.isAccepted then some p.features else none }

/-- Files a new association with the peer at an address. -/
def enroll (id : NodeId) (src : SocketAddress) : StateM Node Unit :=
  modify fun n =>
    (n.withAssociation (associationKey src) { id := id.text, address := src }).updateGauges

/-- Sets up an association, in place of one that is there. -/
def handleAssociationSetup : Handler AssociationSetupRequest := fun _ request src => do
  let p := (← get).params
  match request.nodeId with
  | none => return some (setupResponse p .mandatoryIeMissing)
  | some id =>
    let _ ← removeAssociation (associationKey src)
    enroll id src
    return some (setupResponse p .requestAccepted)

/-- A peer answers the node's own setup request.  An association that is there
is kept. -/
def handleAssociationSetupResponse : Handler AssociationSetupResponse :=
  fun _ response src => do
    if response.cause.isAccepted then
      unless (← get).associations.contains (associationKey src) do enroll response.nodeId src
    else
      modify fun n =>
        { n with metrics := n.metrics.rejected "AssociationSetupResponse" response.cause }
    return none

/-- The cause that answers an update. -/
def updateCause (n : Node) (id : Checked NodeId) (src : SocketAddress) : Cause :=
  match id with
  | .missing => .mandatoryIeMissing
  | .malformed => .mandatoryIeIncorrect
  | .present _ =>
    if n.associations.contains (associationKey src) then .requestAccepted
    else .noEstablishedAssociation

/-- Answers an update; nothing changes. -/
def handleAssociationUpdate : Handler AssociationUpdateRequest := fun _ request src => do
  let n ← get
  let cause := updateCause n request.nodeId src
  return some <| .node <| .associationUpdateResponse {
    nodeId := n.params.nodeId
    cause := cause
    recoveryTimeStamp := if cause.isAccepted then some n.params.recoveryTimeStamp else none }

/-- Ends an association. -/
def handleAssociationRelease : Handler AssociationReleaseRequest := fun _ request src => do
  let id := (← get).params.nodeId
  let answer (cause : Cause) : Reply := .node (.associationReleaseResponse ⟨id, cause⟩)
  match request.nodeId with
  | none => return some (answer .mandatoryIeMissing)
  | some _ =>
    match ← removeAssociation (associationKey src) with
    | some _ => return some (answer .requestAccepted)
    | none => return some (answer .noEstablishedAssociation)

end UserPlane
