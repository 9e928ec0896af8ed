/-
  UserPlane.Node.Running
  ──────────────────────
  **A NODE AS TIME PASSES.**

  Beside the timers of its associations a running node may have loops: some
  that start missing timers, and some that ask configured peers for an
  association until they have one.  A loop acts at once and then once in each
  period, counted from its start.

  Whatever is done to a running node, everything that is due is done after it:
  a wait may take no time at all.  Time moves in hops of at most half a second.
  What is due after a hop is done then, and what waits from then on waits from
  the end of the hop.
-/
import UserPlane.Node.Liveness

namespace UserPlane

/-- Something done once in each period, and when it is due next. -/
structure Loop where
  period : Nat
  next : Nat
  deriving DecidableEq, Repr

namespace Loop

/-- How often the loop acts up to a time. -/
def turns (l : Loop) (now : Nat) : Nat :=
  if now < l.next then 0 else (now - l.next) / l.period + 1

/-- The loop after its turns up to a time. -/
def after (l : Loop) (now : Nat) : Loop := { l with next := l.next + l.turns now * l.period }

/-- A loop started now has had its first turn; without a period there is no
loop. -/
def start (period now : Nat) : List Loop :=
  if period = 0 then [] else [⟨period, now + period⟩]

end Loop

/-- A running node. -/
structure Running where
  node : Node
  /-- The peers to be asked for an association. -/
  peers : List SocketAddress := []
  nextSetupSequence : UInt32 := 1
  refreshLoops : List Loop := []
  setupLoops : List Loop := []
  deriving DecidableEq, Repr

namespace Running

/-- Has the node do something. -/
def onNode {α : Type} (f : StateM Node α) : StateM Running α := fun r =>
  let (a, node) := f.run r.node
  (a, { r with node })

/-- The request for an association. -/
def setupRequest (p : Parameters) : Message :=
  .associationSetupRequest ⟨some p.nodeId, some p.recoveryTimeStamp, some p.features⟩

/-- Asks one peer for an association, under the next number. -/
def sendSetup (link : Link) (peer : SocketAddress) : StateM Running (List Datagram) := do
  let r ← get
  set { r with nextSetupSequence := r.nextSetupSequence + 1 }
  let request := Reply.node (setupRequest r.node.params)
  onNode (sendTo link peer (request.outgoing (r.nextSetupSequence &&& 0x00FFFFFF)))

/-- The peers without an association. -/
def pending (r : Running) : List SocketAddress :=
  r.peers.filter fun p => !r.node.associations.contains (associationKey p)

/-- Asks every peer without an association for one. -/
def sendPending (link : Link) : StateM Running (List Datagram) := do
  return (← (← get).pending.mapM (sendSetup link)).flatten

/-- Starts a loop that starts missing timers. -/
def startRefreshLoop : StateM Running Unit := do
  let period := (← get).node.params.heartbeatInterval
  if period = 0 then return
  onNode refreshTimers
  modify fun r => { r with refreshLoops := r.refreshLoops ++ Loop.start period r.node.now }

/-- Starts a loop that asks peers for associations. -/
def startSetupLoop (link : Link) (period : Nat) : StateM Running (List Datagram) := do
  if period = 0 then return []
  let sent ← sendPending link
  modify fun r => { r with setupLoops := r.setupLoops ++ Loop.start period r.node.now }
  return sent

/-- Does everything that is due. -/
def settle (link : Link) : StateM Running (List Datagram) := do
  -- timers first, then the loops in the order in which they were started
  let heartbeats ← onNode (runTimers link)
  let now := (← get).node.now
  for l in (← get).refreshLoops do
    if 0 < l.turns now then onNode refreshTimers
  let mut setups := []
  for l in (← get).setupLoops do
    for _ in List.range (l.turns now) do
      setups := setups ++ (← sendPending link)
  modify fun r => { r with
    refreshLoops := r.refreshLoops.map (·.after now)
    setupLoops := r.setupLoops.map (·.after now) }
  return heartbeats ++ setups

/-- Does something, and then everything that is due. -/
def act {α : Type} (link : Link) (f : StateM Running α) :
    StateM Running (α × List Datagram) := do
  let a ← f
  return (a, ← settle link)

/-- The length of the longest hop. -/
def longestHop : Nat := 500

/-- The hops in which a span of time passes. -/
def hops (span : Nat) : List Nat :=
  List.replicate (span / longestHop) longestHop
    ++ if span % longestHop = 0 then [] else [span % longestHop]

/-- Lets a span of time pass. -/
def advance (link : Link) (span : Nat) : StateM Running (List Datagram) := do
  let sent ← (hops span).mapM fun hop => do
    modify fun r => { r with node.now := r.node.now + hop }
    settle link
  return sent.flatten

end Running

end UserPlane
