/-
  UserPlane.Node.Sessions
  ───────────────────────
  **HOW A NODE ANSWERS REQUESTS ABOUT SESSIONS.**

  Forwarding and QoS rules are handled before detection rules, so that these
  can name them.  An establishment that fails gives back the addresses and
  tunnel ids it was given; rules that are in the plane by then stay there.  A
  modification that fails keeps what was done before the failure.
-/
import UserPlane.Node.Associations
import UserPlane.Session.Rules

namespace UserPlane

/-! ## §1. The rules of a request. -/

/-- The rules of an establishment, in order. -/
def establishRules (r : SessionEstablishmentRequest) : RuleStep Unit := do
  r.createFar.forM RuleStep.createFar
  r.createQer.forM RuleStep.createQer
  r.createPdr.forM RuleStep.createPdr

/-- The rules of a modification, in order. -/
def modifyRules (r : SessionModificationRequest) : RuleStep Unit := do
  r.createFar.forM RuleStep.createFar
  r.updateFar.forM RuleStep.updateFar
  r.removeFar.forM fun far => RuleStep.removeFar far.farId.ruleId
  r.createQer.forM RuleStep.createQer
  r.updateQer.forM RuleStep.updateQer
  r.removeQer.forM fun qer => RuleStep.removeQer qer.qerId.ruleId
  r.createPdr.forM RuleStep.createPdr
  r.updatePdr.forM RuleStep.updatePdr
  r.removePdr.forM fun pdr => RuleStep.removePdr pdr.pdrId.ruleId

namespace Node

/-- The workbench for a request about a session. -/
def bench (n : Node) (s : Session) : Workbench :=
  { session := s, plane := n.plane, pools := n.pools, n3 := n.params.n3Address }

/-- The node with what a request left on the workbench. -/
def clear (n : Node) (b : Workbench) : Node := { n with plane := b.plane, pools := b.pools }

/-- The node with a session written into an association. -/
def withSession (n : Node) (key : String) (s : Session) : Node :=
  { n with associations := n.associations.modify key fun a =>
      { a with sessions := a.sessions.insert s.localSeid s } }

end Node

/-! ## §2. Establishment. -/

/-- The answer to an establishment. -/
def establishmentResponse (p : Parameters) (cause : Cause) (upFSeid : Option FSeid)
    (created : List CreatedPdr) (seid : UInt64) : Reply :=
  .session (.sessionEstablishmentResponse ⟨p.nodeId, cause, upFSeid, created⟩) seid

/-- A session with new numbers, for an association under a key. -/
def newSession (key : String) (a : Association) (remoteSeid : UInt64) :
    StateM Node Session := do
  let n ← get
  let (localSeid, a) := a.newLocalSeid
  set { n.withAssociation key a with nextResourceKey := n.nextResourceKey + 1 }
  return { localSeid, remoteSeid, resourceKey := n.nextResourceKey }

/-- Establishes a session with the rules of the request. -/
def establish (key : String) (a : Association) (cp : FSeid)
    (request : SessionEstablishmentRequest) : StateM Node Reply := do
  let p := (← get).params
  let session ← newSession key a cp.seid
  let (result, b) := (establishRules request).work ((← get).bench session)
  modify (·.clear b)
  match result with
  | .error e =>
    -- the pools get back what the session held; its number is not used again
    modify fun n => { n with pools := session.releasePools n.pools }
    return establishmentResponse p e.cause none [] cp.seid
  | .ok () =>
    modify fun n => (n.withSession key b.session).updateGauges
    let up := FSeid.ofIp p.nodeIp session.localSeid
    return establishmentResponse p .requestAccepted (some up) b.created cp.seid

/-- Establishes a session, if the request is complete and its sender has an
association. -/
def handleSessionEstablishment : Handler SessionEstablishmentRequest :=
  fun _ request src => do
    let n ← get
    match request.nodeId, request.cpFSeid with
    | some _, some cp =>
      match n.associationWith src with
      | none =>
        return some (establishmentResponse n.params .noEstablishedAssociation none [] cp.seid)
      | some a => return some (← establish (associationKey src) a cp request)
    | _, cp =>
      let seid := (cp.map FSeid.seid).getD 0
      return some (establishmentResponse n.params .mandatoryIeMissing none [] seid)

/-! ## §3. Modification. -/

/-- The answer to a modification. -/
def modificationResponse (cause : Cause) (created : List CreatedPdr) (seid : UInt64) : Reply :=
  .session (.sessionModificationResponse ⟨cause, created⟩) seid

/-- The session with the number by which the peer now knows it. -/
def Session.renumbered (s : Session) (cp : Option FSeid) : Session :=
  match cp with
  | some f => { s with remoteSeid := f.seid }
  | none => s

/-- Changes the rules of a session. -/
def modifySession (key : String) (session : Session) (request : SessionModificationRequest) :
    StateM Node Reply := do
  -- the peer's new number holds even if the rules fail
  let session := session.renumbered request.cpFSeid
  let (result, b) := (modifyRules request).work ((← get).bench session)
  modify fun n => (n.clear b).withSession key b.session
  match result with
  | .error e => return modificationResponse e.cause [] b.session.remoteSeid
  | .ok () => return modificationResponse .requestAccepted b.created b.session.remoteSeid

/-- Changes the rules of a session, if its sender has it. -/
def handleSessionModification : Handler SessionModificationRequest :=
  fun header request src => do
    match (← get).associationWith src with
    | none => return some (modificationResponse .noEstablishedAssociation [] 0)
    | some a =>
      match a.sessions.get? (header.seid.getD 0) with
      | none => return some (modificationResponse .sessionContextNotFound [] 0)
      | some s => return some (← modifySession (associationKey src) s request)

/-! ## §4. Deletion. -/

/-- The answer to a deletion. -/
def deletionResponse (cause : Cause) (seid : UInt64) : Reply :=
  .session (.sessionDeletionResponse ⟨cause⟩) seid

/-- Deletes a session. -/
def deleteSession (key : String) (a : Association) (s : Session) (seid : UInt64) :
    StateM Node Reply := do
  -- the session is gone whatever becomes of its entries in the plane
  modify (·.withAssociation key { a with sessions := a.sessions.erase seid })
  let (error, n) := (← get).releaseSession s
  set n.updateGauges
  match error with
  | none => return deletionResponse .requestAccepted s.remoteSeid
  | some _ => return deletionResponse .ruleCreationModificationFailure s.remoteSeid

/-- Deletes a session, if its sender has it. -/
def handleSessionDeletion : Handler SessionDeletionRequest := fun header _ src => do
  let seid := header.seid.getD 0
  match (← get).associationWith src with
  | none => return some (deletionResponse .noEstablishedAssociation 0)
  | some a =>
    match a.sessions.get? seid with
    | none => return some (deletionResponse .sessionContextNotFound 0)
    | some s => return some (← deleteSession (associationKey src) a s seid)

end UserPlane
