/-
  UserPlane.Element.UeIpAddress
  ─────────────────────────────
  **ADDRESSES OF SUBSCRIBERS.**

  The address of a subscriber's equipment, which a packet carries as its
  source or as its destination (`SD`).  A request may ask the node to choose
  the address instead (`CHV4`, `CHV6`).
-/
import UserPlane.BitField
import UserPlane.Wire.Element

namespace UserPlane

/-- The address of a subscriber, or the wish for one. -/
structure UeIpAddress where
  flags : UInt8 := 0
  ipv4 : Option Ipv4 := none
  ipv6 : Option Ipv6 := none
  prefixDelegationBits : Option UInt8 := none
  prefixLength : Option UInt8 := none
  deriving DecidableEq, Repr

namespace UeIpAddress

/-- An IPv6 address is meant. -/
def v6 : BitField := .flag "V6" 0

/-- An IPv4 address is meant. -/
def v4 : BitField := .flag "V4" 1

/-- The address is the destination of the packet. -/
def sd : BitField := .flag "SD" 2

/-- The count of bits for prefix delegation follows. -/
def ipv6d : BitField := .flag "IPv6D" 3

/-- The node is to choose an IPv4 address. -/
def chv4 : BitField := .flag "CHV4" 4

/-- The node is to choose an IPv6 address. -/
def chv6 : BitField := .flag "CHV6" 5

/-- The length of the IPv6 network follows. -/
def ip6pl : BitField := .flag "IP6PL" 6

/-- The named flags. -/
def fields : List BitField := [v6, v4, sd, ipv6d, chv4, chv6, ip6pl]

/-- A given address, as destination or as source. -/
def ofIp (ip : Ip) (destination : Bool) : UeIpAddress :=
  let flags := sd.set 0 destination.toNat
  match ip with
  | .v4 a => { flags := UInt8.ofNat (v4.set flags 1), ipv4 := some a }
  | .v6 a => { flags := UInt8.ofNat (v6.set flags 1), ipv6 := some a }

instance : Element UeIpAddress where
  code := 93
  label := "UE_IPAddress"
  payload a := a.flags :: optionalBytes Ipv4.octets a.ipv4 ++ optionalBytes Ipv6.octets a.ipv6
    ++ optionalBytes (fun b => [b]) a.prefixDelegationBits
    ++ optionalBytes (fun b => [b]) a.prefixLength
  decode := Reader.decode do
    let flags ← Reader.u8 "UE IP Address flags"
    let has (f : BitField) := f.isSet flags.toNat
    let ipv4 ← Reader.present (has v4 && !has chv4) (Reader.ipv4 "UE IPv4")
    let ipv6 ← Reader.present (has v6 && !has chv6) (Reader.ipv6 "UE IPv6")
    let prefixDelegationBits ←
      Reader.present (has ipv6d) (Reader.u8 "IPv6 prefix delegation bits")
    let prefixLength ← Reader.present (has ip6pl) (Reader.u8 "IPv6 prefix length")
    return { flags, ipv4, ipv6, prefixDelegationBits, prefixLength }

end UeIpAddress

end UserPlane
