/-
  UserPlane.Session.Treatment
  ───────────────────────────
  **FROM REQUESTED RULES TO WHAT THE PLANE KEEPS.**

  A rule that is made starts from defaults; a rule that is changed starts from
  what it was, and each part that the request carries replaces its own.
-/
import UserPlane.Plane
import UserPlane.Rule.Detection
import UserPlane.Rule.Forwarding
import UserPlane.Rule.Quality

namespace UserPlane

/-! ## §1. Forwarding. -/

namespace FarInfo

/-- Replaces the outer header: all of its fields together. -/
def withOuterHeader (info : FarInfo) (h : OuterHeaderCreation) (n3 : Ipv4) : FarInfo :=
  { info with
    outerHeaderCreation := h.firstOctet
    teid := h.teid.getD 0
    remoteIp := (h.ipv4.map Ip.v4).or (h.ipv6.map Ip.v6)
    localIp := some (.v4 n3) }

/-- Replaces the outer header and the marking by those that are given. -/
def withParameters (info : FarInfo) (header : Option OuterHeaderCreation)
    (marking : Option TransportLevelMarking) (n3 : Ipv4) : FarInfo :=
  let info :=
    match header with
    | some h => info.withOuterHeader h n3
    | none => info
  match marking with
  | some m => { info with transportLevelMarking := m.value }
  | none => info

/-- What the plane keeps of a new rule. -/
def ofCreate (r : CreateFar) (n3 : Ipv4) : FarInfo :=
  let info : FarInfo := { action := r.applyAction.firstOctet }
  match r.forwardingParameters with
  | some p => info.withParameters p.outerHeaderCreation p.transportLevelMarking n3
  | none => info

/-- What the plane keeps of a changed rule. -/
def update (info : FarInfo) (r : UpdateFar) (n3 : Ipv4) : FarInfo :=
  let info :=
    match r.applyAction with
    | some a => { info with action := a.firstOctet }
    | none => info
  match r.updateForwardingParameters with
  | some p => info.withParameters p.outerHeaderCreation p.transportLevelMarking n3
  | none => info

end FarInfo

/-! ## §2. QoS. -/

/-- Bits per second in a rate of kilobits per second; the greatest number of
64 bits stands for all above it. -/
def bitsPerSecond (kilobits : UInt64) : UInt64 :=
  UInt64.ofNat (min (kilobits.toNat * 1000) 0xFFFFFFFFFFFFFFFF)

namespace QerInfo

/-- Replaces the gates. -/
def withGates (info : QerInfo) (g : GateStatus) : QerInfo :=
  { info with
    gateUplink := UInt8.ofNat (GateStatus.uplink.get g.bits.toNat)
    gateDownlink := UInt8.ofNat (GateStatus.downlink.get g.bits.toNat) }

/-- Replaces the rates and the flow number by those that are given. -/
def withLimits (info : QerInfo) (rates : Option Mbr) (qfi : Option Qfi) : QerInfo :=
  let info :=
    match rates with
    | some r => { info with
        maxBitrateUplink := bitsPerSecond r.uplink
        maxBitrateDownlink := bitsPerSecond r.downlink }
    | none => info
  match qfi with
  | some q => { info with qfi := UInt8.ofNat (Qfi.value.get q.bits.toNat) }
  | none => info

/-- What the plane keeps of a new rule. -/
def ofCreate (r : CreateQer) : QerInfo :=
  (({} : QerInfo).withGates r.gateStatus).withLimits r.maximumBitrate r.qfi

/-- What the plane keeps of a changed rule. -/
def update (info : QerInfo) (r : UpdateQer) : QerInfo :=
  let info :=
    match r.gateStatus with
    | some g => info.withGates g
    | none => info
  info.withLimits r.maximumBitrate r.qfi

end QerInfo

/-! ## §3. Detection. -/

/-- The number of the header that a rule removes. -/
def removalCode (r : OuterHeaderRemoval) : UInt8 := Coded.code r.header

/-- The flow of detection information, if it has a flow description. -/
def Pdi.flow (p : Pdi) : Except FlowError (Option Flow) :=
  match p.sdfFilter.bind (·.flowDescription) with
  | some text => (Flow.ofText text).map some
  | none => .ok none

end UserPlane
