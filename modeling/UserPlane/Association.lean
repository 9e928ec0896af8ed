/-
  UserPlane.Association
  ─────────────────────
  **ASSOCIATIONS WITH PEERS.**

  An association belongs to the address its peer's messages come from.  It
  owns sessions, numbers them and the requests sent to the peer, and counts
  the heartbeats that the peer left unanswered.
-/
import UserPlane.Address.Socket
import UserPlane.Session

namespace UserPlane

/-- What a heartbeat timer waits for. -/
inductive HeartbeatWait where
  /-- The next request is due. -/
  | request
  /-- The response to the last request is overdue. -/
  | response
  deriving DecidableEq, Repr

/-- The running heartbeat timer of an association: its number, what it waits
for, and until when. -/
structure HeartbeatTimer where
  id : UInt64
  wait : HeartbeatWait
  due : Nat
  deriving DecidableEq, Repr

/-- A count of 32 bits is read as a number, … -/
scoped instance numberOfCount : CoeOut UInt32 Nat := ⟨UInt32.toNat⟩

/-- … and set to one; of a number too large the low 32 bits are left. -/
scoped instance countOfNumber : CoeTail Nat UInt32 := ⟨UInt32.ofNat⟩

/-- An association with a peer. -/
structure Association where
  /-- The peer's node id in writing. -/
  id : String
  /-- Where heartbeat requests are sent. -/
  address : SocketAddress
  nextSessionId : UInt64 := 1
  nextSequence : UInt32 := 1
  sessions : Table UInt64 Session := .empty
  heartbeatFailures : UInt32 := 0
  timer : Option HeartbeatTimer := none
  deriving DecidableEq, Repr

/-- The key of the association with the peer at an address: the address in
writing, whatever the port. -/
def associationKey (a : SocketAddress) : String := a.ip.text

namespace Association

/-- A number for a new session; zero is never one. -/
def newLocalSeid (a : Association) : UInt64 × Association :=
  let next := a.nextSessionId + 1
  (a.nextSessionId, { a with nextSessionId := if next = 0 then 1 else next })

/-- A number for a request, in 24 bits. -/
def newSequence (a : Association) : UInt32 × Association :=
  (a.nextSequence, { a with nextSequence := (a.nextSequence + 1) &&& 0x00FFFFFF })

/-- The peer answered. -/
def refreshRetries (a : Association) : Association := { a with heartbeatFailures := 0 }

/-- Whether the peer left more heartbeats unanswered than it may. -/
def isExpired (a : Association) (retries : UInt32) : Bool := retries < a.heartbeatFailures

/-- Whether a heartbeat timer is running. -/
def hasTimer (a : Association) : Bool := a.timer.isSome

/-- Whether the running heartbeat timer is the one with this number. -/
def isCurrentTimer (a : Association) (id : UInt64) : Bool :=
  match a.timer with
  | some t => t.id == id
  | none => false

end Association

end UserPlane
