/-
  UserPlane.Flow
  ──────────────
  **FLOW DESCRIPTIONS.**

  A flow description says which packets a rule is about:

      permit out PROTOCOL from SOURCE [PORTS] to DESTINATION [PORTS]

  An end is `any`, an address, or a network; the destination may also be
  `assigned`, the address given to the subscriber.  Ports are one number or
  `low-high`.  Ports left out are all of them, except that towards `assigned`
  both ends then stand for the ports from 1 on.
-/
import UserPlane.Address.Network
import UserPlane.Text.Quoted

namespace UserPlane

/-- The protocols a flow description can name. -/
inductive FlowProtocol where
  | icmp | ip | tcp | udp | icmp6
  deriving DecidableEq, Repr

/-- The number under which the forwarding plane knows the protocol. -/
def FlowProtocol.code : FlowProtocol → Nat
  | .icmp => 0
  | .ip => 1
  | .tcp => 2
  | .udp => 3
  | .icmp6 => 4

/-- The name under which the protocol is reported. -/
def FlowProtocol.name : FlowProtocol → String
  | .icmp => "Icmp"
  | .ip => "Ip"
  | .tcp => "Tcp"
  | .udp => "Udp"
  | .icmp6 => "Icmp6"

/-- The ports from `low` to `high`. -/
structure PortRange where
  low : Nat
  high : Nat
  deriving DecidableEq, Repr

namespace PortRange

/-- Every port. -/
def full : PortRange := ⟨0, 65535⟩

/-- The ports meant on both ends of a flow towards `assigned`. -/
def assigned : PortRange := ⟨1, 65535⟩

end PortRange

/-- One end of a flow; without a network, any address. -/
structure FlowEnd where
  network : Option IpNetwork
  ports : PortRange
  deriving DecidableEq, Repr

/-- The packets a flow description speaks of. -/
structure Flow where
  protocol : FlowProtocol
  source : FlowEnd
  destination : FlowEnd
  deriving DecidableEq, Repr

/-- Why a text is no flow description. -/
inductive FlowError where
  | unsupportedAction (action : String)
  | unsupported (text : String)
  | expectProtocol (text : String)
  | expectTo (text : String)
  | unsupportedProtocol (token : String)
  | missingAddress
  | invalidPort (token : String) (cause : NumeralError)
  | portTooLarge (port : Nat)
  | reversedPorts (token : String)
  | invalidAddress (token : String)
  | invalidLength (token : String) (cause : NumeralError)
  | lengthTooLong (length : Nat) (address : Ip)
  | invalidNetwork (token : String) (cause : NetworkError)
  | trailing (tokens : List String)
  deriving DecidableEq, Repr

/-- The error in words. -/
def FlowError.message : FlowError → String
  | .unsupportedAction a => s!"Unsupported action {a} in flow description"
  | .unsupported t => s!"Unsupported flow description {t}"
  | .expectProtocol t => s!"Expect '\x7bprotocol\x7d from' in flow description {t}"
  | .expectTo t => s!"Expect 'to' in flow description {t}"
  | .unsupportedProtocol t => s!"Unsupported protocol {t} in flow description"
  | .missingAddress => "Missing address in flow description"
  | .invalidPort t e => s!"Invalid port {t}: {e.message}"
  | .portTooLarge p => s!"Port {p} exceeds 65535"
  | .reversedPorts t => s!"Invalid port range {t}, low port is greater than high port"
  | .invalidAddress t => s!"Invalid address {t}: invalid IP address syntax"
  | .invalidLength t e => s!"Invalid prefix length {t}: {e.message}"
  | .lengthTooLong n a => s!"Prefix length {n} too long for {a.text}"
  | .invalidNetwork t e => s!"Invalid network {t}: {e.message}"
  | .trailing ts => "Unexpected trailing " ++ quotedList ts ++ " in flow description"

namespace Flow

/-! ## §1. The parts of a description. -/

/-- The protocol a word names; 58 is the number of ICMP for IPv6. -/
def protocol? (token : String) : Except FlowError FlowProtocol :=
  match token with
  | "icmp" => .ok .icmp
  | "ip" => .ok .ip
  | "tcp" => .ok .tcp
  | "udp" => .ok .udp
  | "icmp6" => .ok .icmp6
  | "58" => .ok .icmp6
  | other => .error (.unsupportedProtocol other)

/-- A port number. -/
def port? (cs : List Char) : Except FlowError Nat :=
  match Numeral.readDecimal 4294967295 cs with
  | .error e => .error (.invalidPort (String.ofList cs) e)
  | .ok p => if 65535 < p then .error (.portTooLarge p) else .ok p

/-- One port, or the ports from one to another not below it. -/
def ports? (token : String) : Except FlowError PortRange := do
  let (first, second) := splitOnce '-' token.toList
  let low ← port? first
  let high ←
    match second with
    | some cs => port? cs
    | none => .ok low
  if high < low then .error (.reversedPorts token) else .ok ⟨low, high⟩

/-- An address, or an address and the length of the network it lies in. -/
def network? (token : String) : Except FlowError IpNetwork := do
  let (addr, length) := splitOnce '/' token.toList
  let ip ←
    match Ip.ofText? addr with
    | some ip => .ok ip
    | none => .error (.invalidAddress (String.ofList addr))
  let n ←
    match length with
    | none => .ok ip.width
    | some cs =>
      match Numeral.readDecimal 255 cs with
      | .ok n => .ok n
      | .error e => .error (.invalidLength (String.ofList cs) e)
  -- bits behind the length do not count, so they are cleared, not refused
  if ip.width < n then .error (.lengthTooLong n ip)
  else
    match IpNetwork.make? (ip.truncate n) n with
    | .ok network => .ok network
    | .error e => .error (.invalidNetwork token e)

/-- The network and default ports that the word for an end stands for. -/
def address? (destination : Bool) (token : String) : Except FlowError FlowEnd :=
  if token = "any" then .ok ⟨none, .full⟩
  else if token = "assigned" ∧ destination = true then .ok ⟨none, .assigned⟩
  else do return ⟨some (← network? token), .full⟩

/-- One end at the front of a list of words, and the words after it.  The word
after the address gives its ports unless it is `to`. -/
def end? (destination : Bool) : List String → Except FlowError (FlowEnd × List String)
  | [] => .error .missingAddress
  | [token] => do return (← address? destination token, [])
  | token :: next :: rest => do
    let e ← address? destination token
    if next = "to" then return (e, next :: rest)
    return ({ e with ports := ← ports? next }, rest)

/-! ## §2. Whole descriptions. -/

/-- The words after `permit out`. -/
def body? (text : String) : List String → Except FlowError (List String)
  | "permit" :: "out" :: rest => .ok rest
  | action :: _ => if action = "permit" then .error (.unsupported text)
    else .error (.unsupportedAction action)
  | [] => .error (.unsupported text)

/-- The flow that a text describes. -/
def ofText (text : String) : Except FlowError Flow := do
  let rest ← body? text (words text)
  let (protocol, rest) ←
    match rest with
    | token :: "from" :: rest => do pure (← protocol? token, rest)
    | _ => .error (.expectProtocol text)
  let (source, rest) ← end? false rest
  let rest ←
    match rest with
    | "to" :: rest => .ok rest
    | _ => .error (.expectTo text)
  let (destination, trailing) ← end? true rest
  -- towards `assigned`, a source without ports of its own starts at port 1
  let source :=
    if rest.head? = some "assigned" ∧ source.ports = .full then
      { source with ports := .assigned }
    else source
  if trailing.isEmpty then return { protocol, source, destination }
  else .error (.trailing trailing)

end Flow

end UserPlane
