/-
  UserPlane.Proofs.Message.Fields
  ───────────────────────────────
  **WHAT EVERY KIND OF BODY STANDS FOR, IN WHATEVER ORDER ITS ELEMENTS COME.**

  Each kind of message and each group has its table of fields.  A detection rule
  and its information are the only ones that look at the first of several
  elements; four requests take an id that cannot be read, and the establishment
  of a session also the number of the session.  A body is read in one walk over
  its elements (`Shape.decode`); that the walk comes to what the elements are,
  without their order, rests on `Shape.decode_eq`.

      BodyKind               the fourteen kinds of messages and thirteen of groups
      BodyKind.meaning       when a body is read and what it stands for, and what
                             of its order and of other elements matters: nothing
                             but the order among elements of one type
      Message.decode_congr   so it is with messages
-/
import UserPlane.Message
import UserPlane.Proofs.Wire.Fields

namespace UserPlane

/-! ## §1. Messages between nodes. -/

instance : Tabled HeartbeatRequest where
  fields := [.required HeartbeatRequest.recoveryTimeStamp]

instance : Tabled HeartbeatResponse where
  fields := [.required HeartbeatResponse.recoveryTimeStamp]

instance : Tabled AssociationSetupRequest where
  fields :=
    [.lenient AssociationSetupRequest.nodeId, .optional AssociationSetupRequest.recoveryTimeStamp,
     .optional AssociationSetupRequest.upFunctionFeatures]

instance : Tabled AssociationSetupResponse where
  fields :=
    [.required AssociationSetupResponse.nodeId, .required AssociationSetupResponse.cause,
     .optional AssociationSetupResponse.recoveryTimeStamp,
     .optional AssociationSetupResponse.upFunctionFeatures]

instance : Tabled AssociationUpdateRequest where
  fields :=
    [.checked AssociationUpdateRequest.nodeId,
     .optional AssociationUpdateRequest.upFunctionFeatures]

instance : Tabled AssociationUpdateResponse where
  fields :=
    [.required AssociationUpdateResponse.nodeId, .required AssociationUpdateResponse.cause,
     .optional AssociationUpdateResponse.recoveryTimeStamp]

instance : Tabled AssociationReleaseRequest where
  fields := [.lenient AssociationReleaseRequest.nodeId]

instance : Tabled AssociationReleaseResponse where
  fields :=
    [.required AssociationReleaseResponse.nodeId, .required AssociationReleaseResponse.cause]

/-! ## §2. Messages about sessions. -/

instance : Tabled SessionEstablishmentRequest where
  fields :=
    [.lenient SessionEstablishmentRequest.nodeId, .lenient SessionEstablishmentRequest.cpFSeid,
     .repeated SessionEstablishmentRequest.createPdr,
     .repeated SessionEstablishmentRequest.createFar,
     .repeated SessionEstablishmentRequest.createQer]

instance : Tabled SessionEstablishmentResponse where
  fields :=
    [.required SessionEstablishmentResponse.nodeId, .required SessionEstablishmentResponse.cause,
     .optional SessionEstablishmentResponse.upFSeid,
     .repeated SessionEstablishmentResponse.createdPdr]

instance : Tabled SessionModificationRequest where
  fields :=
    [.optional SessionModificationRequest.cpFSeid, .repeated SessionModificationRequest.removePdr,
     .repeated SessionModificationRequest.removeFar,
     .repeated SessionModificationRequest.removeQer,
     .repeated SessionModificationRequest.createPdr,
     .repeated SessionModificationRequest.createFar,
     .repeated SessionModificationRequest.createQer,
     .repeated SessionModificationRequest.updatePdr,
     .repeated SessionModificationRequest.updateFar,
     .repeated SessionModificationRequest.updateQer]

instance : Tabled SessionModificationResponse where
  fields :=
    [.required SessionModificationResponse.cause,
     .repeated SessionModificationResponse.createdPdr]

instance : Tabled SessionDeletionRequest where
  fields := []
  findable _ := ⟨fun _ _ hf => absurd hf List.not_mem_nil, fun _ => ⟨{}, rfl⟩⟩

instance : Tabled SessionDeletionResponse where
  fields := [.required SessionDeletionResponse.cause]

/-! ## §3. Detection rules. -/

instance : Tabled Pdi where
  fields :=
    [.required Pdi.sourceInterface, .optional Pdi.localFTeid, .optional Pdi.networkInstance,
     .optional Pdi.ueIpAddress, .firstOnly Pdi.sdfFilter, .optional Pdi.qfi]

instance : Tabled CreatePdr where
  fields :=
    [.required CreatePdr.pdrId, .optional CreatePdr.precedence, .required CreatePdr.pdi,
     .optional CreatePdr.outerHeaderRemoval, .optional CreatePdr.farId,
     .firstOnly CreatePdr.qerId]

instance : Tabled UpdatePdr where
  fields :=
    [.required UpdatePdr.pdrId, .optional UpdatePdr.outerHeaderRemoval,
     .optional UpdatePdr.precedence, .optional UpdatePdr.pdi, .optional UpdatePdr.farId,
     .firstOnly UpdatePdr.qerId]

instance : Tabled RemovePdr where
  fields := [.required RemovePdr.pdrId]

instance : Tabled CreatedPdr where
  fields :=
    [.required CreatedPdr.pdrId, .optional CreatedPdr.localFTeid,
     .optional CreatedPdr.ueIpAddress]

/-! ## §4. Forwarding rules. -/

instance : Tabled ForwardingParameters where
  fields :=
    [.required ForwardingParameters.destinationInterface,
     .optional ForwardingParameters.networkInstance,
     .optional ForwardingParameters.outerHeaderCreation,
     .optional ForwardingParameters.transportLevelMarking]

instance : Tabled UpdateForwardingParameters where
  fields :=
    [.optional UpdateForwardingParameters.destinationInterface,
     .optional UpdateForwardingParameters.networkInstance,
     .optional UpdateForwardingParameters.outerHeaderCreation,
     .optional UpdateForwardingParameters.transportLevelMarking]

instance : Tabled CreateFar where
  fields :=
    [.required CreateFar.farId, .required CreateFar.applyAction,
     .optional CreateFar.forwardingParameters]

instance : Tabled UpdateFar where
  fields :=
    [.required UpdateFar.farId, .optional UpdateFar.applyAction,
     .optional UpdateFar.updateForwardingParameters]

instance : Tabled RemoveFar where
  fields := [.required RemoveFar.farId]

/-! ## §5. QoS rules. -/

instance : Tabled CreateQer where
  fields :=
    [.required CreateQer.qerId, .required CreateQer.gateStatus,
     .optional CreateQer.maximumBitrate, .optional CreateQer.qfi]

instance : Tabled UpdateQer where
  fields :=
    [.required UpdateQer.qerId, .optional UpdateQer.gateStatus,
     .optional UpdateQer.maximumBitrate, .optional UpdateQer.qfi]

instance : Tabled RemoveQer where
  fields := [.required RemoveQer.qerId]

/-! ## §6. Every kind of body. -/

/-- A kind of value that is read from elements by a table. -/
structure BodyTable : Type 1 where
  Value : Type
  [body : Body Value]
  [tabled : Tabled Value]

attribute [instance] BodyTable.body BodyTable.tabled

/-- The kinds of bodies: those of messages, and the values of elements that group others. -/
inductive BodyKind where
  | heartbeatRequest | heartbeatResponse | associationSetupRequest | associationSetupResponse
  | associationUpdateRequest | associationUpdateResponse | associationReleaseRequest
  | associationReleaseResponse | sessionEstablishmentRequest | sessionEstablishmentResponse
  | sessionModificationRequest | sessionModificationResponse | sessionDeletionRequest
  | sessionDeletionResponse | pdi | createPdr | updatePdr | removePdr | createdPdr
  | forwardingParameters | updateForwardingParameters | createFar | updateFar | removeFar
  | createQer | updateQer | removeQer
  deriving DecidableEq, Repr

namespace BodyKind

/-- What bodies of the kind stand for. -/
def table : BodyKind → BodyTable
  | heartbeatRequest => .mk HeartbeatRequest
  | heartbeatResponse => .mk HeartbeatResponse
  | associationSetupRequest => .mk AssociationSetupRequest
  | associationSetupResponse => .mk AssociationSetupResponse
  | associationUpdateRequest => .mk AssociationUpdateRequest
  | associationUpdateResponse => .mk AssociationUpdateResponse
  | associationReleaseRequest => .mk AssociationReleaseRequest
  | associationReleaseResponse => .mk AssociationReleaseResponse
  | sessionEstablishmentRequest => .mk SessionEstablishmentRequest
  | sessionEstablishmentResponse => .mk SessionEstablishmentResponse
  | sessionModificationRequest => .mk SessionModificationRequest
  | sessionModificationResponse => .mk SessionModificationResponse
  | sessionDeletionRequest => .mk SessionDeletionRequest
  | sessionDeletionResponse => .mk SessionDeletionResponse
  | pdi => .mk Pdi
  | createPdr => .mk CreatePdr
  | updatePdr => .mk UpdatePdr
  | removePdr => .mk RemovePdr
  | createdPdr => .mk CreatedPdr
  | forwardingParameters => .mk ForwardingParameters
  | updateForwardingParameters => .mk UpdateForwardingParameters
  | createFar => .mk CreateFar
  | updateFar => .mk UpdateFar
  | removeFar => .mk RemoveFar
  | createQer => .mk CreateQer
  | updateQer => .mk UpdateQer
  | removeQer => .mk RemoveQer

/-- The values that bodies of the kind stand for. -/
abbrev Value (k : BodyKind) : Type := k.table.Value

/-- The fields of such a value. -/
def fields (k : BodyKind) : List (Field k.Value) := Tabled.fields

/-- What octets stand for as a body of the kind. -/
def decode (k : BodyKind) (bs : Octets) : Decoded k.Value := Body.decode bs

/-- The types of the elements that are looked at. -/
def types (k : BodyKind) : List UInt16 := k.fields.map Field.type

/-- **What the elements of a body stand for**, by the table of its kind. -/
structure Meaning (k : BodyKind) (es : List RawElement) : Prop where
  /-- The body is read if and only if every element of a strict field can be read, and every
  mandatory element is there. -/
  read_iff : (∃ c, k.decode (RawElement.encodeAll es) = .ok c)
    ↔ (∀ f ∈ k.fields, f.isStrict = true → ∀ e ∈ es, e.type = f.type → f.Reads e.value)
      ∧ ∀ f ∈ k.fields, f.isMandatory = true → ∃ e ∈ es, e.type = f.type
  /-- It is read as the value whose fields are what the table says. -/
  read_as : ∀ c, k.decode (RawElement.encodeAll es) = .ok c
    ↔ (∃ c, k.decode (RawElement.encodeAll es) = .ok c) ∧ ∀ f ∈ k.fields, f.Holds es c
  /-- Elements that are not looked at may stand anywhere in it, or be left out. -/
  others : ∀ es', (∀ e ∈ es', e.value.length < 65536) →
    (es'.filter fun e => e.type ∈ k.types) = (es.filter fun e => e.type ∈ k.types) →
    (k.decode (RawElement.encodeAll es')).toOption = (k.decode (RawElement.encodeAll es)).toOption
  /-- The elements may change places, but for those of one type among themselves. -/
  order : ∀ es', es'.Perm es → (∀ type, ofType type es' = ofType type es) →
    (k.decode (RawElement.encodeAll es')).toOption = (k.decode (RawElement.encodeAll es)).toOption

/-- **What a body stands for, in whatever order its elements come.** -/
theorem meaning (k : BodyKind) {es : List RawElement} (hes : ∀ e ∈ es, e.value.length < 65536) :
    k.Meaning es where
  read_iff := Tabled.exists_decode_iff hes
  read_as c := by
    constructor
    · intro h
      exact ⟨⟨c, h⟩, ((Tabled.decode_iff hes c).mp h).2⟩
    · rintro ⟨hread, hholds⟩
      exact (Tabled.decode_iff hes c).mpr ⟨((Tabled.exists_decode_iff hes).mp hread).1, hholds⟩
  others es' hes' hsame := by
    refine Tabled.decode_congr hes hes' fun f hf => ?_
    have hlooked : f.type ∈ k.types := List.mem_map_of_mem hf
    rw [← ofType_filter hlooked es', ← ofType_filter hlooked es, hsame]
  order es' hperm hsame :=
    Tabled.decode_congr hes (fun e he => hes e (hperm.mem_iff.mp he)) fun f _ => hsame f.type

/-- Two filters, the number of the flow and the side of packets, behind an element of no kind
that is known. -/
def twoFilters : List RawElement :=
  [⟨999, [1]⟩, ⟨23, [8, 0, 1, 2, 3]⟩, ⟨124, [9]⟩, ⟨23, [8, 0, 4, 5, 6]⟩, ⟨20, [1]⟩]

theorem meaning_twoFilters :
    (∀ e ∈ twoFilters, e.value.length < 65536) ∧ pdi.Meaning twoFilters :=
  ⟨by decide, meaning pdi (by decide)⟩

end BodyKind

namespace Message

theorem toOption_map {α : Type} (make : α → Message) (d : Decoded α) :
    (make <$> d).toOption = d.toOption.map make := by
  cases d <;> rfl

/-- **The order of elements of different types does not matter to a message.** -/
theorem decode_congr (type : UInt8) {es es' : List RawElement}
    (hes : ∀ e ∈ es, e.value.length < 65536) (hperm : es'.Perm es)
    (hsame : ∀ t, ofType t es' = ofType t es) :
    (decode type (RawElement.encodeAll es')).toOption
      = (decode type (RawElement.encodeAll es)).toOption := by
  have hes' : ∀ e ∈ es', e.value.length < 65536 := fun e he => hes e (hperm.mem_iff.mp he)
  unfold decode
  split
  case h_15 => rfl
  all_goals
    rw [toOption_map, toOption_map, Tabled.decode_congr hes hes' fun f _ => hsame f.type]

end Message

end UserPlane
