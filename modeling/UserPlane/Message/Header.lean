/-
  UserPlane.Message.Header
  ────────────────────────
  **MESSAGE HEADERS.**

  A header is an octet of flags (three bits of version among them), the type
  of the message, the count of octets that follow these first four, the number
  of a session if the `S` flag is set, 24 bits of sequence number, and an octet
  whose high half is a priority if the `MP` flag is set.

  Several messages may share a datagram: all but the last have the `FO` flag.
-/
import UserPlane.BitField
import UserPlane.Wire.Reader

namespace UserPlane

/-- The header of a message. -/
structure Header where
  flags : UInt8
  type : UInt8
  length : UInt16
  seid : Option UInt64 := none
  sequence : UInt32
  priority : Option UInt8 := none
  deriving DecidableEq, Repr

namespace Header

/-- The version of the protocol. -/
def version : BitField := ⟨"Version", 7, 5⟩

/-- Another message follows in the datagram. -/
def followOn : BitField := .flag "FO" 2

/-- A priority is given. -/
def withPriority : BitField := .flag "MP" 1

/-- The number of a session is given. -/
def withSeid : BitField := .flag "SEID" 0

/-- The named fields of the flag octet. -/
def fields : List BitField := [version, followOn, withPriority, withSeid]

/-- Whether another message follows in the datagram. -/
def hasFollowOn (h : Header) : Bool := followOn.isSet h.flags.toNat

/-- The types that are requests. -/
def requestTypes : List UInt8 := [1, 3, 5, 7, 9, 12, 14, 50, 52, 54, 56]

/-- Whether the message is a request. -/
def isRequest (h : Header) : Bool := requestTypes.contains h.type

/-- The header of version 1 for a body of `bodyLength` octets; the length and
the sequence number are cut to their widths. -/
def make (type : UInt8) (seid : Option UInt64) (sequence : UInt32) (bodyLength : Nat) :
    Header where
  flags := UInt8.ofNat (withSeid.set (version.set 0 1) seid.isSome.toNat)
  type := type
  length := UInt16.ofNat (bodyLength + 4 + if seid.isSome then 8 else 0)
  seid := seid
  sequence := sequence &&& 0xFFFFFF

/-- The octet behind the sequence number. -/
def lastOctet (h : Header) : UInt8 := (h.priority.getD 0) <<< 4

/-- The header in octets; of the sequence number the low 24 bits are written. -/
def encode (h : Header) : Octets :=
  h.flags :: h.type :: be16 h.length ++ optionalBytes be64 h.seid
    ++ Octets.ofNat 3 h.sequence.toNat ++ [h.lastOctet]

/-- A message cut off the front of octets: its header, its body, what follows. -/
structure Cut where
  header : Header
  body : Octets
  rest : Octets
  deriving DecidableEq, Repr

/-- The fields between the length and the body. -/
def readFields (flags type : UInt8) (length : UInt16) : Reader Header := do
  let seid ← Reader.present (withSeid.isSet flags.toNat) (Reader.u64 "SEID")
  -- three octets of number and the octet of the priority
  let tail ← Reader.take 4 "sequence number"
  let priority :=
    if withPriority.isSet flags.toNat then some ((tail.drop 3).headD 0 >>> 4) else none
  return { flags, type, length, seid, priority,
           sequence := UInt32.ofNat (Octets.toNat (tail.take 3)) }

/-- Cuts a message off the front of octets. -/
def decode (bs : Octets) : Decoded Cut := do
  let (front, bs) ← (Reader.take 4 "PFCP header").run bs
  let flags := front.headD 0
  let type := (front.drop 1).headD 0
  let length := UInt16.ofNat (Octets.toNat (front.drop 2))
  -- the version is looked at before the length
  if version.get flags.toNat ≠ 1 then
    throw (.unsupportedVersion (version.get flags.toNat))
  if bs.length < length.toNat then throw (.messageOverrun length.toNat bs.length)
  let (header, body) ← (readFields flags type length).run (bs.take length.toNat)
  return ⟨header, body, bs.drop length.toNat⟩

end Header

end UserPlane
