/-
  UserPlane.Element.NodeFacts
  ───────────────────────────
  **WHAT A NODE TELLS ABOUT ITSELF.**

      RecoveryTimeStamp    the second in which the node was started, counted
                           from the year 1900, its low 32 bits
      UpFunctionFeatures   what a user plane node can do, one bit each
      FSeid                the number by which a node knows a session, and the
                           addresses to which its messages go
-/
import UserPlane.BitField
import UserPlane.Wire.Element

namespace UserPlane

/-! ## §1. When the node was started. -/

/-- When a node was started. -/
structure RecoveryTimeStamp where
  timestamp : UInt32
  deriving DecidableEq, Repr

namespace RecoveryTimeStamp

/-- The seconds from the start of 1900 to the start of 1970. -/
def epochOffset : Int := 2208988800

/-- The time stamp of a second counted from the start of 1970. -/
def ofUnix (seconds : Int) : RecoveryTimeStamp :=
  ⟨UInt32.ofNat ((seconds + epochOffset) % 4294967296).toNat⟩

instance : Element RecoveryTimeStamp where
  code := 96
  label := "RecoveryTimeStamp"
  payload t := be32 t.timestamp
  decode := Reader.decode do return ⟨← Reader.u32 "Recovery Time Stamp"⟩

end RecoveryTimeStamp

/-! ## §2. What the node can do. -/

/-- What a user plane node can do: eight octets of flags, of which the first
six are written. -/
structure UpFunctionFeatures where
  bits : UInt64
  deriving DecidableEq, Repr

namespace UpFunctionFeatures

/-- Downlink data can be buffered in the control plane node. -/
def bucp : BitField := .flag "BUCP" 56

/-- The node gives out tunnel ids. -/
def ftup : BitField := .flag "FTUP" 60

/-- The node sends end marker packets. -/
def empu : BitField := .flag "EMPU" 48

/-- The node gives out addresses. -/
def ueip : BitField := .flag "UEIP" 42

/-- The named flags. -/
def fields : List BitField :=
  [bucp, .flag "DDND" 57, .flag "DLBD" 58, .flag "TRST" 59, ftup, .flag "PFDM" 61,
   .flag "HEEU" 62, .flag "TREU" 63, empu, .flag "PDIU" 49, ueip]

/-- The flags with the given fields set. -/
def ofFields (fs : List BitField) : UpFunctionFeatures :=
  ⟨UInt64.ofNat (fs.foldl (fun bits f => f.set bits 1) 0)⟩

instance : Element UpFunctionFeatures where
  code := 43
  label := "UPFunctionFeatures"
  payload f := (be64 f.bits).take 6
  decode bs :=
    if bs.length < 2 then .error (.tooShort 2 bs.length)
    else
      .ok ⟨UInt64.ofNat (Octets.toNat (bs.take 8 ++ List.replicate (8 - bs.length) 0))⟩

end UpFunctionFeatures

/-! ## §3. The number of a session. -/

/-- The number by which a node knows a session, and its addresses. -/
structure FSeid where
  ipv4 : Option Ipv4
  ipv6 : Option Ipv6
  seid : UInt64
  deriving DecidableEq, Repr

namespace FSeid

/-- The octet that tells which addresses follow. -/
def flags (s : FSeid) : UInt8 :=
  (if s.ipv4.isSome then 2 else 0) + (if s.ipv6.isSome then 1 else 0)

/-- Session `seid` of the node at `ip`. -/
def ofIp (ip : Ip) (seid : UInt64) : FSeid :=
  match ip with
  | .v4 a => ⟨some a, none, seid⟩
  | .v6 a => ⟨none, some a, seid⟩

instance : Element FSeid where
  code := 57
  label := "F_SEID"
  payload s := s.flags :: be64 s.seid
    ++ optionalBytes Ipv4.octets s.ipv4 ++ optionalBytes Ipv6.octets s.ipv6
  decode := Reader.decode do
    let flags ← Reader.u8 "F-SEID flags"
    let seid ← Reader.u64 "F-SEID"
    let ipv4 ← Reader.present ((BitField.flag "V4" 1).isSet flags.toNat)
      (Reader.ipv4 "F-SEID IPv4")
    let ipv6 ← Reader.present ((BitField.flag "V6" 0).isSet flags.toNat)
      (Reader.ipv6 "F-SEID IPv6")
    return ⟨ipv4, ipv6, seid⟩

end FSeid

end UserPlane
