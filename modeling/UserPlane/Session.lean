/-
  UserPlane.Session
  ─────────────────
  **SESSIONS AND THE RULES THEY HAVE INSTALLED.**

  A session numbers its rules itself.  For each it remembers what stands in
  the forwarding plane for it: the detection of a detection rule, the slot of
  a forwarding or QoS rule, and the information written there.
-/
import UserPlane.Element.Cause
import UserPlane.Plane
import UserPlane.Pool

namespace UserPlane

/-- A detection rule of a session.  Its forwarding and QoS rules are named by
the session's own numbers here, and by their slots in `info`. -/
structure SessionPdr where
  detection : Detection
  farId : Option UInt32
  qerId : Option UInt32
  info : PdrInfo
  deriving DecidableEq, Repr

/-- A forwarding rule of a session. -/
structure SessionFar where
  slot : Nat
  info : FarInfo
  deriving DecidableEq, Repr

/-- A QoS rule of a session. -/
structure SessionQer where
  slot : Nat
  info : QerInfo
  deriving DecidableEq, Repr

/-- A session: its number here, its number at the peer, the key under which it
holds addresses and tunnel ids, its rules. -/
structure Session where
  localSeid : UInt64
  remoteSeid : UInt64
  resourceKey : UInt64
  pdrs : Table UInt16 SessionPdr := .empty
  fars : Table UInt32 SessionFar := .empty
  qers : Table UInt32 SessionQer := .empty
  deriving DecidableEq, Repr

/-- Why a rule of a session could not be handled. -/
inductive SessionError where
  | missingElement (element : String)
  | unknownFar (id : UInt32)
  | unknownQer (id : UInt32)
  | unknownPdr (id : UInt16)
  | flow (cause : FlowError)
  | pool (cause : PoolError)
  | plane (cause : PlaneError)
  deriving DecidableEq, Repr

namespace SessionError

/-- The error in words. -/
def message : SessionError → String
  | .missingElement e => s!"mandatory IE {e} is missing"
  | .unknownFar id => s!"FAR {id.toNat} is not known in this session"
  | .unknownQer id => s!"QER {id.toNat} is not known in this session"
  | .unknownPdr id => s!"PDR {id.toNat} is not known in this session"
  | .flow e => s!"invalid SDF filter: {e.message}"
  | .pool e => e.message
  | .plane e => e.message

/-- What the peer is told. -/
def cause : SessionError → Cause
  | .pool .noFreeIp => .noResourcesAvailable
  | .pool .noFreeTeid => .noResourcesAvailable
  | .plane (.noFreeSlot _) => .noResourcesAvailable
  | _ => .ruleCreationModificationFailure

end SessionError

namespace Session

/-- The slot of a forwarding rule that is named, if one is named. -/
def farSlot (s : Session) : Option UInt32 → Except SessionError (Option Nat)
  | none => .ok none
  | some id =>
    match s.fars.get? id with
    | some far => .ok (some far.slot)
    | none => .error (.unknownFar id)

/-- The slot of a QoS rule that is named, if one is named. -/
def qerSlot (s : Session) : Option UInt32 → Except SessionError (Option Nat)
  | none => .ok none
  | some id =>
    match s.qers.get? id with
    | some qer => .ok (some qer.slot)
    | none => .error (.unknownQer id)

/-- The information of a detection rule other than `id` with a detection. -/
def otherWith (s : Session) (id : UInt16) (d : Detection) : Option PdrInfo :=
  (s.pdrs.entries.find? fun e => e.1 ≠ id ∧ e.2.detection = d).map (·.2.info)

end Session

end UserPlane
