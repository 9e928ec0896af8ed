/-
  UserPlane.Node.Liveness
  ───────────────────────
  **WATCHING PEERS BY HEARTBEATS.**

  An association has at most one running timer.  It waits for an interval,
  asks the peer whether it is alive, and waits for a response; if none comes
  in time a failure is counted and the timer starts over.  A response starts a
  new timer, and the old one, no longer current, does nothing any more.
-/
import UserPlane.Node.Reply

namespace UserPlane

/-- Starts a new timer for the association under a key. -/
def scheduleHeartbeat (key : String) : StateM Node Unit :=
  modify fun n =>
    match n.associations.get? key with
    | none => n
    | some a =>
      let timer := ⟨n.nextTimerId, .request, n.now + n.params.heartbeatInterval⟩
      { n.withAssociation key { a with timer := some timer } with
        nextTimerId := n.nextTimerId + 1 }

/-- The association under a key, if the timer is its current one. -/
def timedAssociation (n : Node) (key : String) (timer : UInt64) : Option Association :=
  (n.associations.get? key).filter (·.isCurrentTimer timer)

/-- The number and destination of a timer's next request; none if the timer is
no longer current. -/
def nextHeartbeat (key : String) (timer : UInt64) :
    StateM Node (Option (UInt32 × SocketAddress)) := do
  let n ← get
  match timedAssociation n key timer with
  | none => return none
  | some a =>
    let (sequence, a) := a.newSequence
    set (n.withAssociation key a)
    return some (sequence, a.address)

/-- Counts an unanswered heartbeat, and ends the association if it is one too
many.  Tells whether the timer goes on; one that is no longer current does
not, and counts nothing.  The count has 32 bits, and behind the greatest number
it starts over. -/
def recordFailure (key : String) (timer : UInt64) : StateM Node Bool := do
  let n ← get
  match timedAssociation n key timer with
  | none => return false
  | some a =>
    let a := { a with heartbeatFailures := a.heartbeatFailures + 1 }
    set (n.withAssociation key a)
    if a.isExpired n.params.heartbeatRetries then
      let _ ← removeAssociation key
      return false
    else return true

/-- Starts a timer for every association that has none. -/
def refreshTimers : StateM Node Unit := do
  for (key, a) in (← get).associations.entries do
    unless a.hasTimer do scheduleHeartbeat key

/-- Has the running timer of an association wait for something else. -/
def rearm (key : String) (wait : HeartbeatWait) (after : Nat) : StateM Node Unit :=
  modify fun n => { n with associations := n.associations.modify key fun a =>
    { a with timer := a.timer.map fun t => { t with wait, due := n.now + after } } }

/-- Asks a peer whether it is alive. -/
def sendHeartbeat (link : Link) (key : String) (timer : UInt64) :
    StateM Node (List Datagram) := do
  match ← nextHeartbeat key timer with
  | none => return []
  | some (sequence, destination) =>
    let params := (← get).params
    rearm key .response params.heartbeatTimeout
    let request := Message.heartbeatRequest ⟨params.recoveryTimeStamp⟩
    sendTo link destination ((Reply.node request).outgoing sequence)

/-- The timer of the association under a key, if its time has come. -/
def Node.dueTimer? (n : Node) (key : String) : Option HeartbeatTimer :=
  ((n.associations.get? key).bind (·.timer)).filter (·.due ≤ n.now)

/-- What a timer does when its time has come. -/
def fireTimer (link : Link) (key : String) (t : HeartbeatTimer) : StateM Node (List Datagram) := do
  match t.wait with
  | .request => sendHeartbeat link key t.id
  | .response =>
    if ← recordFailure key t.id then
      rearm key .request (← get).params.heartbeatInterval
    return []

/-- Has the timer of an association go on until it has to wait, for at most
`n` steps. -/
def runTimer (link : Link) (key : String) : Nat → StateM Node (List Datagram)
  | 0 => return []
  | n + 1 => do
    match (← get).dueTimer? key with
    | none => return []
    | some t => return (← fireTimer link key t) ++ (← runTimer link key n)

/-- The most steps that a timer goes on for at once.  Where neither wait takes
any time it sends and counts a failure in turn, until one failure more than
may be has ended the association, if that many can be counted. -/
def Node.stepsAtOnce (n : Node) : Nat := 2 * n.params.heartbeatRetries.toNat + 3

/-- Every timer does what is due. -/
def runTimers (link : Link) : StateM Node (List Datagram) := do
  let n ← get
  return (← n.associations.keys.mapM fun key => runTimer link key n.stepsAtOnce).flatten

end UserPlane
