/-
  UserPlane.Element.OuterHeader
  ─────────────────────────────
  **OUTER HEADERS.**

      OuterHeaderRemoval      which header a packet loses on its way in
      OuterHeaderCreation     which header it is given on its way out
      TransportLevelMarking   the type of service of that header, and a mask
-/
import UserPlane.BitField
import UserPlane.Wire.Coded
import UserPlane.Wire.Element

namespace UserPlane

/-! ## §1. Removal. -/

/-- The headers that can be removed. -/
inductive RemovableHeader where
  | gtpUdpIpv4 | gtpUdpIpv6 | udpIpv4 | udpIpv6 | ipv4 | ipv6 | gtpUdpIp | vlanSTag
  | sTagAndCTag
  deriving DecidableEq, Repr

instance : Coded RemovableHeader where
  all := [.gtpUdpIpv4, .gtpUdpIpv6, .udpIpv4, .udpIpv6, .ipv4, .ipv6, .gtpUdpIp, .vlanSTag,
    .sTagAndCTag]
  code
    | .gtpUdpIpv4 => 0
    | .gtpUdpIpv6 => 1
    | .udpIpv4 => 2
    | .udpIpv6 => 3
    | .ipv4 => 4
    | .ipv6 => 5
    | .gtpUdpIp => 6
    | .vlanSTag => 7
    | .sTagAndCTag => 8
  name
    | .gtpUdpIpv4 => "GTP_U_UDP_IPv4"
    | .gtpUdpIpv6 => "GTP_U_UDP_IPv6"
    | .udpIpv4 => "UDP_IPv4"
    | .udpIpv6 => "UDP_IPv6"
    | .ipv4 => "IPv4"
    | .ipv6 => "IPv6"
    | .gtpUdpIp => "GTP_U_UDP_IP"
    | .vlanSTag => "VLAN_S_TAG"
    | .sTagAndCTag => "S_TAG_AND_C_TAG"
  find_code a := by cases a <;> rfl

/-- Which header a packet loses, and which extension headers with it. -/
structure OuterHeaderRemoval where
  header : RemovableHeader
  extensionDeletion : Option UInt8 := none
  deriving DecidableEq, Repr

instance : Element OuterHeaderRemoval where
  code := 95
  label := "OuterHeaderRemoval"
  payload r := Coded.code r.header :: optionalBytes (fun b => [b]) r.extensionDeletion
  decode bs := do
    let (octet, rest) ← (Reader.u8 "Outer Header Removal").run bs
    let header ← Coded.decode "OuterHeaderRemovalDescription" octet
    return ⟨header, rest.head?⟩

/-! ## §2. Creation. -/

/-- Which header a packet is given: 16 flags, and the fields they announce. -/
structure OuterHeaderCreation where
  description : UInt16 := 0
  teid : Option UInt32 := none
  ipv4 : Option Ipv4 := none
  ipv6 : Option Ipv6 := none
  port : Option UInt16 := none
  cTag : Option (UInt8 × UInt8 × UInt8) := none
  sTag : Option (UInt8 × UInt8 × UInt8) := none
  deriving DecidableEq, Repr

namespace OuterHeaderCreation

/-- A tunnel over UDP and IPv4. -/
def gtpUdpIpv4 : BitField := .flag "GTP_U_UDP_IPv4" 8

/-- A tunnel over UDP and IPv6. -/
def gtpUdpIpv6 : BitField := .flag "GTP_U_UDP_IPv6" 9

/-- UDP over IPv4. -/
def udpIpv4 : BitField := .flag "UDP_IPv4" 10

/-- UDP over IPv6. -/
def udpIpv6 : BitField := .flag "UDP_IPv6" 11

/-- Plain IPv4. -/
def plainIpv4 : BitField := .flag "IPv4" 12

/-- Plain IPv6. -/
def plainIpv6 : BitField := .flag "IPv6" 13

/-- A customer tag. -/
def customerTag : BitField := .flag "C_TAG" 14

/-- A service tag. -/
def serviceTag : BitField := .flag "S_TAG" 15

/-- The named flags. -/
def fields : List BitField :=
  [gtpUdpIpv4, gtpUdpIpv6, udpIpv4, udpIpv6, plainIpv4, plainIpv6, customerTag, serviceTag,
   .flag "N19Indication" 0, .flag "N6Indication" 1]

/-- The tunnel with a given id to an IPv4 address. -/
def tunnel (teid : UInt32) (ip : Ipv4) : OuterHeaderCreation where
  description := UInt16.ofNat (gtpUdpIpv4.set 0 1)
  teid := some teid
  ipv4 := some ip

/-- The first octet of the flags. -/
def firstOctet (h : OuterHeaderCreation) : UInt8 := UInt8.ofNat (h.description.toNat / 256)

instance : Element OuterHeaderCreation where
  code := 84
  label := "OuterHeaderCreation"
  payload h := be16 h.description ++ optionalBytes be32 h.teid
    ++ optionalBytes Ipv4.octets h.ipv4 ++ optionalBytes Ipv6.octets h.ipv6
    ++ optionalBytes be16 h.port ++ optionalBytes octets3 h.cTag ++ optionalBytes octets3 h.sTag
  decode := Reader.decode do
    let description ← Reader.u16 "Outer Header Creation Description"
    let has (f : BitField) := f.isSet description.toNat
    let teid ← Reader.present (has gtpUdpIpv4 || has gtpUdpIpv6) (Reader.u32 "OHC TEID")
    let ipv4 ← Reader.present (has gtpUdpIpv4 || has udpIpv4 || has plainIpv4)
      (Reader.ipv4 "OHC IPv4")
    let ipv6 ← Reader.present (has gtpUdpIpv6 || has udpIpv6 || has plainIpv6)
      (Reader.ipv6 "OHC IPv6")
    let port ← Reader.present (has udpIpv6 || has udpIpv4) (Reader.u16 "OHC port")
    let cTag ← Reader.present (has customerTag) (Reader.three "OHC C-TAG")
    let sTag ← Reader.present (has serviceTag) (Reader.three "OHC S-TAG")
    return { description, teid, ipv4, ipv6, port, cTag, sTag }

end OuterHeaderCreation

/-! ## §3. Marking. -/

/-- A type of service in the first octet, a mask in the second. -/
structure TransportLevelMarking where
  value : UInt16
  deriving DecidableEq, Repr

/-- The type of service. -/
def TransportLevelMarking.tos (m : TransportLevelMarking) : UInt8 :=
  UInt8.ofNat (m.value.toNat / 256)

instance : Element TransportLevelMarking where
  code := 30
  label := "TransportLevelMarking"
  payload m := be16 m.value
  decode bs := do
    Reader.exactly 2 bs
    return ⟨← (Reader.u16 "Transport Level Marking").decode bs⟩

end UserPlane
