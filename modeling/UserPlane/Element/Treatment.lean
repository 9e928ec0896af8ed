/-
  UserPlane.Element.Treatment
  ───────────────────────────
  **WHAT IS DONE WITH PACKETS.**

      ApplyAction   drop, forward, buffer and their like, one bit each
      GateStatus    whether a direction is open, two bits each
      Mbr           the greatest bit rates, in kilobits per second
      Qfi           the number of a QoS flow
-/
import UserPlane.BitField
import UserPlane.Wire.Element

namespace UserPlane

/-- What is done with packets, one bit for each action. -/
structure ApplyAction where
  bits : UInt16
  deriving DecidableEq, Repr

namespace ApplyAction

/-- The named flags. -/
def fields : List BitField :=
  [.flag "DROP" 8, .flag "FORW" 9, .flag "BUFF" 10, .flag "NOCP" 11, .flag "DUPL" 12,
   .flag "IPMA" 13, .flag "IPMD" 14, .flag "DFRT" 15, .flag "EDRT" 0, .flag "BDPN" 1,
   .flag "DDPN" 2]

/-- The first octet, in which drop, forward, buffer, notify and duplicate are. -/
def firstOctet (a : ApplyAction) : UInt8 := UInt8.ofNat (a.bits.toNat / 256)

/-- Older peers send the first octet only. -/
instance : Element ApplyAction where
  code := 44
  label := "ApplyAction"
  payload a := be16 a.bits
  decode bs :=
    match bs with
    | [high] => .ok ⟨UInt16.ofNat (Octets.toNat [high, 0])⟩
    | [high, low] => .ok ⟨UInt16.ofNat (Octets.toNat [high, low])⟩
    | _ => .error (.notOneOrTwo bs.length)

end ApplyAction

/-- Whether each direction is open: zero is open, one closed. -/
structure GateStatus where
  bits : UInt8
  deriving DecidableEq, Repr

namespace GateStatus

/-- The gate for packets to the subscriber. -/
def downlink : BitField := ⟨"DLGate", 1, 0⟩

/-- The gate for packets from the subscriber. -/
def uplink : BitField := ⟨"ULGate", 3, 2⟩

/-- The named fields. -/
def fields : List BitField := [downlink, uplink]

instance : Element GateStatus where
  code := 25
  label := "GateStatus"
  payload g := [g.bits]
  decode := Reader.decode do return ⟨← Reader.u8 "Gate Status"⟩

end GateStatus

/-- The greatest bit rates in kilobits per second; 40 bits of each are written. -/
structure Mbr where
  uplink : UInt64
  downlink : UInt64
  deriving DecidableEq, Repr

instance : Element Mbr where
  code := 26
  label := "MBR"
  payload r := Octets.ofNat 5 r.uplink.toNat ++ Octets.ofNat 5 r.downlink.toNat
  decode := Reader.decode do
    let uplink ← Reader.take 5 "UL MBR"
    let downlink ← Reader.take 5 "DL MBR"
    return ⟨UInt64.ofNat (Octets.toNat uplink), UInt64.ofNat (Octets.toNat downlink)⟩

/-- The number of a QoS flow, in the low six bits of an octet. -/
structure Qfi where
  bits : UInt8
  deriving DecidableEq, Repr

namespace Qfi

/-- The number itself. -/
def value : BitField := ⟨"QFI", 5, 0⟩

/-- The named fields. -/
def fields : List BitField := [value]

instance : Element Qfi where
  code := 124
  label := "QFI"
  payload q := [q.bits]
  decode := Reader.decode do return ⟨← Reader.u8 "QFI"⟩

end Qfi

end UserPlane
