/-
  UserPlane.Node
  ──────────────
  **THE STATE OF A NODE.**

  A node has associations with peers, keyed by the peers' addresses; the
  sessions of all of them share one forwarding plane and one set of pools.
  This module holds the state, how a node starts, and how an association ends.
-/
import UserPlane.Association
import UserPlane.Config
import UserPlane.Metrics
import UserPlane.Session.Release

namespace UserPlane

/-- The state of a node; times are in milliseconds since it was started. -/
structure Node where
  params : Parameters
  associations : Table String Association := .empty
  plane : Plane
  pools : Pools
  /-- The key under which the next session holds addresses and tunnel ids. -/
  nextResourceKey : UInt64 := 1
  metrics : Metrics := {}
  /-- Whether the node watches its peers by heartbeats. -/
  heartbeats : Bool := false
  nextTimerId : UInt64 := 1
  now : Nat := 0
  deriving DecidableEq, Repr

namespace Node

/-! ## §1. Start. -/

/-- A node started with these settings, if it can run with them. -/
def start (c : Config) (startup : Int) (heartbeats : Bool) : Except ConfigError Node := do
  c.validate
  let ipv4 ← c.ipv4Network
  let ipv6 ← c.ipv6Network
  return {
    params := .ofConfig c startup
    plane := .make c.farMapSize.toNat c.qerMapSize.toNat
    pools := .make ipv4 ipv6 c.teidPool.toNat
    heartbeats }

/-! ## §2. Associations. -/

/-- The association with the peer at an address. -/
def associationWith (n : Node) (src : SocketAddress) : Option Association :=
  n.associations.get? (associationKey src)

/-- The node with an association written under a key. -/
def withAssociation (n : Node) (key : String) (a : Association) : Node :=
  { n with associations := n.associations.insert key a }

/-- Brings the gauges up to date. -/
def updateGauges (n : Node) : Node :=
  { n with metrics := { n.metrics with
      associations := n.associations.size
      sessions := (n.associations.values.map fun a => a.sessions.size).foldr (· + ·) 0 } }

/-- Gives back all that a session has, and tells the first failure. -/
def releaseSession (n : Node) (s : Session) : Option PlaneError × Node :=
  let t := s.teardown n.plane
  (t.firstError, { n with plane := t.plane, pools := s.releasePools n.pools })

/-- The node after an association and all its sessions have ended. -/
def dropAssociation (n : Node) (key : String) (a : Association) : Node :=
  let n := { n with associations := n.associations.erase key }
  (a.sessions.values.foldl (fun (n : Node) s => (n.releaseSession s).2) n).updateGauges

end Node

/-- Ends an association and all its sessions; the association is handed back. -/
def removeAssociation (key : String) : StateM Node (Option Association) := do
  match (← get).associations.get? key with
  | none => return none
  | some a =>
    modify (·.dropAssociation key a)
    return some a

end UserPlane
