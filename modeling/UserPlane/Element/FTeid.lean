/-
  UserPlane.Element.FTeid
  ───────────────────────
  **TUNNEL ENDS.**

  A tunnel end is a tunnel id and the addresses it is valid at.  A request may
  instead ask the node to choose them (`CH`), and give several such requests
  one number (`CHID`) so that they come to the same tunnel end.
-/
import UserPlane.BitField
import UserPlane.Wire.Element

namespace UserPlane

/-- A tunnel end, or the wish for one. -/
structure FTeid where
  flags : UInt8
  teid : Option UInt32 := none
  ipv4 : Option Ipv4 := none
  ipv6 : Option Ipv6 := none
  chooseId : Option UInt8 := none
  deriving DecidableEq, Repr

namespace FTeid

/-- An IPv4 address is there, or wished for. -/
def v4 : BitField := .flag "V4" 0

/-- An IPv6 address is there, or wished for. -/
def v6 : BitField := .flag "V6" 1

/-- The node is to choose the tunnel end. -/
def ch : BitField := .flag "CH" 2

/-- The wish has a number. -/
def chid : BitField := .flag "CHID" 3

/-- The named flags. -/
def fields : List BitField := [v4, v6, ch, chid]

/-- Whether the node is to choose the tunnel end. -/
def isChoose (t : FTeid) : Bool := ch.isSet t.flags.toNat

/-- The wish for a tunnel end. -/
def choose (ipv4 ipv6 : Bool) (chooseId : Option UInt8) : FTeid where
  flags := UInt8.ofNat <|
    chid.set (v6.set (v4.set (ch.set 0 1) ipv4.toNat) ipv6.toNat) chooseId.isSome.toNat
  chooseId := chooseId

/-- The tunnel end with a given id at an address. -/
def ofIp (ip : Ip) (teid : UInt32) : FTeid :=
  match ip with
  | .v4 a => { flags := UInt8.ofNat (v4.set 0 1), teid := some teid, ipv4 := some a }
  | .v6 a => { flags := UInt8.ofNat (v6.set 0 1), teid := some teid, ipv6 := some a }

instance : Element FTeid where
  code := 21
  label := "F_TEID"
  payload t := t.flags :: optionalBytes be32 t.teid ++ optionalBytes Ipv4.octets t.ipv4
    ++ optionalBytes Ipv6.octets t.ipv6 ++ optionalBytes (fun id => [id]) t.chooseId
  decode := Reader.decode do
    let flags ← Reader.u8 "F-TEID flags"
    let choose := ch.isSet flags.toNat
    let teid ← Reader.present (!choose) (Reader.u32 "TEID")
    let ipv4 ← Reader.present (v4.isSet flags.toNat && !choose) (Reader.ipv4 "F-TEID IPv4")
    let ipv6 ← Reader.present (v6.isSet flags.toNat && !choose) (Reader.ipv6 "F-TEID IPv6")
    let chooseId ← Reader.present (chid.isSet flags.toNat) (Reader.u8 "CHOOSE ID")
    return { flags, teid, ipv4, ipv6, chooseId }

end FTeid

end UserPlane
