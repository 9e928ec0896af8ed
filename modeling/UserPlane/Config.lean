/-
  UserPlane.Config
  ────────────────
  **SETTINGS OF A NODE.**

  Every setting has a default.  `Config.validate` names the first setting that
  a node cannot run with, in a fixed order; `Parameters` is what the running
  node keeps of its settings.
-/
import UserPlane.Address.Network
import UserPlane.Address.Socket
import UserPlane.Element.NodeFacts
import UserPlane.Element.NodeId

namespace UserPlane

/-! ## §1. Settings. -/

/-- The port on which nodes talk to each other. -/
def standardPort : UInt16 := 8805

/-- The settings of a node; times are in seconds. -/
structure Config where
  /-- Where the node listens. -/
  pfcpAddress : SocketAddress := { ip := .v4 .localhost, port := standardPort }
  /-- By what the node is named: an address or a domain name. -/
  pfcpNodeId : String := "127.0.0.1"
  /-- The address at which the node's tunnels end. -/
  n3Address : Ipv4 := .localhost
  heartbeatRetries : UInt32 := 3
  heartbeatInterval : UInt64 := 5
  /-- How long a heartbeat may stay unanswered; zero turns heartbeats off. -/
  heartbeatTimeout : UInt64 := 5
  farMapSize : UInt32 := 1024
  qerMapSize : UInt32 := 1024
  featureUeip : Bool := false
  featureFtup : Bool := false
  ipPool : String := "10.60.0.0/24"
  ipPoolV6 : Option String := none
  teidPool : UInt32 := 65536
  metricsLogInterval : UInt64 := 60
  /-- The peers that the node asks for an association by itself. -/
  smfPeers : List SocketAddress := []
  associationSetupInterval : UInt64 := 5
  deriving DecidableEq, Repr

/-- Why there are no settings, or none to run with. -/
inductive ConfigError where
  | unreadable
  | malformed
  | invalid (field reason : String)
  deriving DecidableEq, Repr

/-- What is wrong with a setting, in words. -/
def invalidMessage (field reason : String) : String := s!"invalid {field}: {reason}"

namespace Config

/-- The network of IPv4 addresses for subscribers. -/
def ipv4Network (c : Config) : Except ConfigError (Network 32) :=
  match Network.ofText4 c.ipPool with
  | .ok n => .ok n
  | .error e => .error (.invalid "ip_pool" s!"{c.ipPool}: {e.message}")

/-- The network of IPv6 addresses for subscribers, if there is one. -/
def ipv6Network (c : Config) : Except ConfigError (Option (Network 128)) :=
  match c.ipPoolV6 with
  | none => .ok none
  | some pool =>
    match Network.ofText6 pool with
    | .ok n => .ok (some n)
    | .error e => .error (.invalid "ip_pool_v6" s!"{pool}: {e.message}")

/-- Refuses settings when `wrong` holds. -/
def refuseWhen (wrong : Bool) (field reason : String) : Except ConfigError Unit :=
  if wrong then .error (.invalid field reason) else .ok ()

/-- Refuses settings that a node cannot run with. -/
def validate (c : Config) : Except ConfigError Unit := do
  refuseWhen c.pfcpNodeId.isEmpty "pfcp_node_id" "must not be empty"
  refuseWhen (0 < c.heartbeatTimeout && c.heartbeatInterval == 0) "heartbeat_interval"
    "must be positive when heartbeats are enabled"
  refuseWhen (!c.smfPeers.isEmpty && c.associationSetupInterval == 0)
    "association_setup_interval" "must be positive when smf_peers are set"
  refuseWhen (c.farMapSize == 0) "far_map_size" "must be positive"
  refuseWhen (c.qerMapSize == 0) "qer_map_size" "must be positive"
  refuseWhen (c.teidPool == 0) "teid_pool" "must be positive"
  let _ ← c.ipv4Network
  let _ ← c.ipv6Network

end Config

/-! ## §2. What a running node keeps. -/

/-- What a running node keeps of its settings; times are in milliseconds. -/
structure Parameters where
  nodeIdText : String
  /-- The address under which the node gives out its session numbers. -/
  nodeIp : Ip
  n3Address : Ipv4
  featureFtup : Bool
  featureUeip : Bool
  heartbeatRetries : UInt32
  heartbeatInterval : Nat
  heartbeatTimeout : Nat
  /-- The second in which the node was started, counted from 1970. -/
  startup : Int
  deriving DecidableEq, Repr

namespace Parameters

/-- What a node started at a given second keeps of its settings.  The node's
address is its id if that is one, else where it listens if that is one
address, else where its tunnels end. -/
def ofConfig (c : Config) (startup : Int) : Parameters where
  nodeIdText := c.pfcpNodeId
  nodeIp :=
    match Ip.ofText? c.pfcpNodeId.toList with
    | some ip => ip
    | none => if c.pfcpAddress.ip.isUnspecified then .v4 c.n3Address else c.pfcpAddress.ip
  n3Address := c.n3Address
  featureFtup := c.featureFtup
  featureUeip := c.featureUeip
  heartbeatRetries := c.heartbeatRetries
  heartbeatInterval := c.heartbeatInterval.toNat * 1000
  heartbeatTimeout := c.heartbeatTimeout.toNat * 1000
  startup := startup

/-- The node's id. -/
def nodeId (p : Parameters) : NodeId := .ofText p.nodeIdText

/-- When the node was started. -/
def recoveryTimeStamp (p : Parameters) : RecoveryTimeStamp := .ofUnix p.startup

/-- What the node can do. -/
def features (p : Parameters) : UpFunctionFeatures :=
  .ofFields <| (if p.featureFtup then [UpFunctionFeatures.ftup] else [])
    ++ if p.featureUeip then [UpFunctionFeatures.ueip] else []

end Parameters

end UserPlane
