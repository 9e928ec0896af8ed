/-
  UserPlane.Config.Reading
  ────────────────────────
  **SETTINGS FROM TEXT.**

  Settings are written as a mapping from their names, or as a sequence in
  their order; a setting that is not written has its default.  A name that is
  no setting's is passed over, with whatever it maps to; a setting written
  twice, or with a value of another kind, is refused.
-/
import UserPlane.Config
import UserPlane.Yaml.Node

namespace UserPlane

namespace Yaml.Node

/-! ## §1. Values of scalars. -/

/-- The text of a scalar, however it is written. -/
def text? : Node → Option String
  | .scalar _ _ s => some s
  | _ => none

/-- Whether a scalar stands for nothing; `none` if it is marked so wrongly. -/
def isNull? : Node → Option Bool
  | .scalar .plain tag s =>
    let null := s == "~" || s == "null"
    match tag with
    | none => some null
    | some tag => if tag = .standard "null" then (if null then some true else none) else some false
  | _ => some false

/-- Whether a scalar is to be read as a value of a kind: it is if its tag
names the kind, and it may be if it is plain and has no tag. -/
def mayBe (kind : String) : Style → Option Tag → Bool
  | _, some tag => tag = .standard kind
  | style, none => style = .plain

/-- The truth value of a scalar. -/
def flag? : Node → Option Bool
  | .scalar style tag s =>
    if mayBe "bool" style tag then [("true", true), ("false", false)].lookup s else none
  | _ => none

/-- The largest number that is read. -/
def largest : Nat := 0xFFFFFFFFFFFFFFFF

/-- The largest number that is read after a tag. -/
def largestTagged : Nat := 0x7FFFFFFFFFFFFFFF

/-- The bases that digits may be written in, by their letter. -/
def bases : List (Char × Nat) := [('x', 16), ('o', 8), ('b', 2)]

/-- Zero written with a minus sign: some digits, all of them zero. -/
def zero? (cs : List Char) : Option Nat :=
  if !cs.isEmpty && cs.all (· == '0') then some 0 else none

/-- A number in a base that its letter names; the sign stands before the zero
that the letter follows. -/
def prefixed? : List Char → Option Nat
  | '-' :: '0' :: c :: cs => (bases.lookup c).bind fun _ => zero? cs
  | '+' :: '0' :: c :: cs => (bases.lookup c).bind fun b => (Numeral.read b largest cs).toOption
  | '0' :: c :: cs => (bases.lookup c).bind fun b => (Numeral.read b largest cs).toOption
  | _ => none

/-- Whether a numeral has a zero before its other digits, which makes it a
text. -/
def isPadded (cs : List Char) : Bool :=
  match cs.dropWhile (fun c => c == '-' || c == '+') with
  | '0' :: c :: cs => (c :: cs).all Char.isDigit
  | _ => false

/-- A decimal number of at most `limit`; minus zero is zero. -/
def decimal? (limit : Nat) : List Char → Option Nat
  | '-' :: cs => zero? cs
  | cs => (Numeral.readDecimal limit cs).toOption

/-- The number that a text stands for, untagged. -/
def untagged? (cs : List Char) : Option Nat :=
  prefixed? cs <|> if isPadded cs then none else decimal? largest cs

/-- The number that a scalar stands for. -/
def number? : Node → Option Nat
  | .scalar style tag s =>
    if !mayBe "int" style tag then none
    else if tag.isSome then decimal? largestTagged s.toList
    else untagged? s.toList
  | _ => none

/-- A number of at most `limit`. -/
def atMost? (limit : Nat) (n : Node) : Option Nat := n.number?.filter (· ≤ limit)

/-- The nodes of a sequence. -/
def items? : Node → Option (List Node)
  | .sequence items => some items
  | _ => none

end Yaml.Node

/-! ## §2. Settings. -/

/-- A setting: its name, and how a node sets it. -/
structure Setting where
  name : String
  set? : Config → Yaml.Node → Option Config

namespace Setting

/-- A setting of a kind of value that `read?` reads. -/
def make {α : Type} (name : String) (read? : Yaml.Node → Option α) (put : Config → α → Config) :
    Setting :=
  ⟨name, fun c n => (read? n).map (put c)⟩

/-- A number of 32 bits. -/
def short? (n : Yaml.Node) : Option UInt32 := (n.atMost? 0xFFFFFFFF).map UInt32.ofNat

/-- A number of 64 bits. -/
def long? (n : Yaml.Node) : Option UInt64 := (n.atMost? Yaml.Node.largest).map UInt64.ofNat

/-- An address with a port. -/
def socket? (n : Yaml.Node) : Option SocketAddress := n.text?.bind (SocketAddress.ofText? ·.toList)

/-- A text that may be absent. -/
def optional? (n : Yaml.Node) : Option (Option String) := do
  if ← n.isNull? then return none else return some (← n.text?)

/-- All settings, in their order. -/
def all : List Setting :=
  [make "pfcp_address" socket? fun c v => { c with pfcpAddress := v },
   make "pfcp_node_id" Yaml.Node.text? fun c v => { c with pfcpNodeId := v },
   make "n3_address" (fun n => n.text?.bind (Ipv4.ofText? ·.toList)) fun c v =>
     { c with n3Address := v },
   make "heartbeat_retries" short? fun c v => { c with heartbeatRetries := v },
   make "heartbeat_interval" long? fun c v => { c with heartbeatInterval := v },
   make "heartbeat_timeout" long? fun c v => { c with heartbeatTimeout := v },
   make "far_map_size" short? fun c v => { c with farMapSize := v },
   make "qer_map_size" short? fun c v => { c with qerMapSize := v },
   make "feature_ueip" Yaml.Node.flag? fun c v => { c with featureUeip := v },
   make "feature_ftup" Yaml.Node.flag? fun c v => { c with featureFtup := v },
   make "ip_pool" Yaml.Node.text? fun c v => { c with ipPool := v },
   make "ip_pool_v6" optional? fun c v => { c with ipPoolV6 := v },
   make "teid_pool" short? fun c v => { c with teidPool := v },
   make "metrics_log_interval" long? fun c v => { c with metricsLogInterval := v },
   make "smf_peers" (fun n => n.items?.bind (·.mapM socket?)) fun c v => { c with smfPeers := v },
   make "association_setup_interval" long? fun c v => { c with associationSetupInterval := v }]

/-- The setting of a name. -/
def named? (name : String) : Option Setting := all.find? (·.name == name)

end Setting

/-! ## §3. All settings of a text. -/

namespace Config

/-- Settings from their values in order, of which the last may be missing. -/
def ofItems? (items : List Yaml.Node) : Option Config := do
  guard (items.length ≤ Setting.all.length)
  (Setting.all.zip items).foldlM (fun c (s, n) => s.set? c n) {}

/-- Settings from their names and values. -/
def ofEntries? (entries : List (Yaml.Node × Yaml.Node)) : Option Config := do
  let pairs ← entries.mapM fun (key, value) => return (← key.text?, value)
  let known := pairs.filterMap fun (name, value) => (Setting.named? name).map (·, value)
  -- a name that is no setting's may occur any number of times
  guard (known.map (·.1.name)).Nodup
  known.foldlM (fun c (s, n) => s.set? c n) {}

/-- The settings that a node stands for. -/
def ofNode? : Yaml.Node → Option Config
  | .sequence items => ofItems? items
  | .mapping entries => ofEntries? entries
  | _ => none

/-- The settings of a text. -/
def ofText (text : String) : Except ConfigError Config :=
  match (Yaml.Node.ofText? text).bind ofNode? with
  | some c => .ok c
  | none => .error .malformed

end Config

end UserPlane
