/-
  UserPlane.Message
  ─────────────────
  **MESSAGES.**

  A message is of one of fourteen kinds, or of a kind that this library does
  not read, of which only the type number is kept.

      Message.decode    the message that a type and a body stand for
      Message.body      the body in octets
      Message.encode    the whole message, header included
-/
import UserPlane.Message.Header
import UserPlane.Message.Node
import UserPlane.Message.Session

namespace UserPlane

/-- A message. -/
inductive Message where
  | heartbeatRequest (m : HeartbeatRequest)
  | heartbeatResponse (m : HeartbeatResponse)
  | associationSetupRequest (m : AssociationSetupRequest)
  | associationSetupResponse (m : AssociationSetupResponse)
  | associationUpdateRequest (m : AssociationUpdateRequest)
  | associationUpdateResponse (m : AssociationUpdateResponse)
  | associationReleaseRequest (m : AssociationReleaseRequest)
  | associationReleaseResponse (m : AssociationReleaseResponse)
  | sessionEstablishmentRequest (m : SessionEstablishmentRequest)
  | sessionEstablishmentResponse (m : SessionEstablishmentResponse)
  | sessionModificationRequest (m : SessionModificationRequest)
  | sessionModificationResponse (m : SessionModificationResponse)
  | sessionDeletionRequest (m : SessionDeletionRequest)
  | sessionDeletionResponse (m : SessionDeletionResponse)
  | unsupported (type : UInt8)
  deriving DecidableEq, Repr

namespace Message

/-- The number of the message's kind. -/
def type : Message → UInt8
  | heartbeatRequest _ => 1
  | heartbeatResponse _ => 2
  | associationSetupRequest _ => 5
  | associationSetupResponse _ => 6
  | associationUpdateRequest _ => 7
  | associationUpdateResponse _ => 8
  | associationReleaseRequest _ => 9
  | associationReleaseResponse _ => 10
  | sessionEstablishmentRequest _ => 50
  | sessionEstablishmentResponse _ => 51
  | sessionModificationRequest _ => 52
  | sessionModificationResponse _ => 53
  | sessionDeletionRequest _ => 54
  | sessionDeletionResponse _ => 55
  | unsupported t => t

/-- The name under which messages of this kind are counted. -/
def name : Message → String
  | heartbeatRequest _ => "HeartbeatRequest"
  | heartbeatResponse _ => "HeartbeatResponse"
  | associationSetupRequest _ => "AssociationSetupRequest"
  | associationSetupResponse _ => "AssociationSetupResponse"
  | associationUpdateRequest _ => "AssociationUpdateRequest"
  | associationUpdateResponse _ => "AssociationUpdateResponse"
  | associationReleaseRequest _ => "AssociationReleaseRequest"
  | associationReleaseResponse _ => "AssociationReleaseResponse"
  | sessionEstablishmentRequest _ => "PFCPSessionEstablishmentRequest"
  | sessionEstablishmentResponse _ => "PFCPSessionEstablishmentResponse"
  | sessionModificationRequest _ => "PFCPSessionModificationRequest"
  | sessionModificationResponse _ => "PFCPSessionModificationResponse"
  | sessionDeletionRequest _ => "PFCPSessionDeletionRequest"
  | sessionDeletionResponse _ => "PFCPSessionDeletionResponse"
  | unsupported _ => "Unsupported"

/-- The kinds by name, with their numbers. -/
def types : List (String × UInt8) :=
  [("HeartbeatRequest", 1), ("HeartbeatResponse", 2), ("AssociationSetupRequest", 5),
   ("AssociationSetupResponse", 6), ("AssociationUpdateRequest", 7),
   ("AssociationUpdateResponse", 8), ("AssociationReleaseRequest", 9),
   ("AssociationReleaseResponse", 10), ("PFCPSessionEstablishmentRequest", 50),
   ("PFCPSessionEstablishmentResponse", 51), ("PFCPSessionModificationRequest", 52),
   ("PFCPSessionModificationResponse", 53), ("PFCPSessionDeletionRequest", 54),
   ("PFCPSessionDeletionResponse", 55)]

/-- The names under which messages are counted. -/
def names : List String := types.map Prod.fst ++ ["Unsupported"]

/-- The cause that a response carries. -/
def cause? : Message → Option Cause
  | associationSetupResponse m => some m.cause
  | associationUpdateResponse m => some m.cause
  | associationReleaseResponse m => some m.cause
  | sessionEstablishmentResponse m => some m.cause
  | sessionModificationResponse m => some m.cause
  | sessionDeletionResponse m => some m.cause
  | _ => none

/-! ## §1. Writing. -/

/-- The elements of the body. -/
def elements : Message → ElementRun
  | heartbeatRequest m => Body.write m
  | heartbeatResponse m => Body.write m
  | associationSetupRequest m => Body.write m
  | associationSetupResponse m => Body.write m
  | associationUpdateRequest m => Body.write m
  | associationUpdateResponse m => Body.write m
  | associationReleaseRequest m => Body.write m
  | associationReleaseResponse m => Body.write m
  | sessionEstablishmentRequest m => Body.write m
  | sessionEstablishmentResponse m => Body.write m
  | sessionModificationRequest m => Body.write m
  | sessionModificationResponse m => Body.write m
  | sessionDeletionRequest m => Body.write m
  | sessionDeletionResponse m => Body.write m
  | unsupported _ => .empty

/-- The body in octets. -/
def body (m : Message) : Octets := m.elements.octets

/-- The whole message in octets. -/
def encode (m : Message) (sequence : UInt32) (seid : Option UInt64) : Octets :=
  (Header.make m.type seid sequence m.body.length).encode ++ m.body

/-- The whole message in octets, unless a length in it cannot be worked out. -/
def encode? (m : Message) (sequence : UInt32) (seid : Option UInt64) : Option Octets :=
  if m.elements.fits then some (m.encode sequence seid) else none

/-! ## §2. Reading. -/

/-- The message that a type and a body stand for. -/
def decode (type : UInt8) (bs : Octets) : Decoded Message :=
  match type.toNat with
  | 1 => heartbeatRequest <$> Body.decode bs
  | 2 => heartbeatResponse <$> Body.decode bs
  | 5 => associationSetupRequest <$> Body.decode bs
  | 6 => associationSetupResponse <$> Body.decode bs
  | 7 => associationUpdateRequest <$> Body.decode bs
  | 8 => associationUpdateResponse <$> Body.decode bs
  | 9 => associationReleaseRequest <$> Body.decode bs
  | 10 => associationReleaseResponse <$> Body.decode bs
  | 50 => sessionEstablishmentRequest <$> Body.decode bs
  | 51 => sessionEstablishmentResponse <$> Body.decode bs
  | 52 => sessionModificationRequest <$> Body.decode bs
  | 53 => sessionModificationResponse <$> Body.decode bs
  | 54 => sessionDeletionRequest <$> Body.decode bs
  | 55 => sessionDeletionResponse <$> Body.decode bs
  | _ => .ok (unsupported type)

end Message

end UserPlane
