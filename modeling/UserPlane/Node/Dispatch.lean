/-
  UserPlane.Node.Dispatch
  ───────────────────────
  **HOW A NODE TREATS A DATAGRAM.**

  The messages of a datagram are handled one after the other; what cannot be
  read, and what the node has no handler for, is passed over.  Every message
  that can be read is counted, and so is every rejection.
-/
import UserPlane.Message.Walk
import UserPlane.Node.Sessions

namespace UserPlane

/-- What the node's handler makes of a message; none if there is no handler. -/
def handlerFor (header : Header) (m : Message) (src : SocketAddress) :
    Option (StateM Node (Option Reply)) :=
  match m with
  | .heartbeatRequest m => some (handleHeartbeatRequest header m src)
  | .heartbeatResponse m => some (handleHeartbeatResponse header m src)
  | .associationSetupRequest m => some (handleAssociationSetup header m src)
  | .associationSetupResponse m => some (handleAssociationSetupResponse header m src)
  | .associationUpdateRequest m => some (handleAssociationUpdate header m src)
  | .associationReleaseRequest m => some (handleAssociationRelease header m src)
  | .sessionEstablishmentRequest m => some (handleSessionEstablishment header m src)
  | .sessionModificationRequest m => some (handleSessionModification header m src)
  | .sessionDeletionRequest m => some (handleSessionDeletion header m src)
  | _ => none

/-- Counts an answer that is a rejection. -/
def countRejection (name : String) (r : Reply) : StateM Node Unit :=
  match r.message.cause? with
  | some cause =>
    if cause.isAccepted then pure ()
    else modify fun n => { n with metrics := n.metrics.rejected name cause }
  | none => pure ()

/-- Treats a message that could be read.  Time stands still meanwhile, so that
handling it takes none. -/
def treatMessage (header : Header) (m : Message) (src : SocketAddress) :
    StateM Node (Option Outgoing) := do
  modify fun n => { n with metrics := n.metrics.received m.name }
  match handlerFor header m src with
  | none => return none
  | some handle =>
    let reply ← handle
    modify fun n => { n with metrics := n.metrics.handled m.name 0 }
    match reply with
    | none => return none
    | some r =>
      countRejection m.name r
      return some (r.outgoing header.sequence)

/-- Treats a message cut off a datagram. -/
def treatCut (src : SocketAddress) (c : Header.Cut) : StateM Node (Option Outgoing) :=
  match Message.decode c.header.type c.body with
  | .error _ => return none
  | .ok m => treatMessage c.header m src

/-- Treats a datagram; the answers are handed back in order. -/
def treatDatagram (bs : Octets) (src : SocketAddress) : StateM Node (List Outgoing) :=
  (Header.walk bs).filterMapM (treatCut src)

/-- Treats a datagram and sends the answers to where it came from. -/
def receive (link : Link) (bs : Octets) (src : SocketAddress) :
    StateM Node (List Datagram) := do
  let answers ← treatDatagram bs src
  return (← answers.mapM (sendTo link src)).flatten

end UserPlane
