/-
  UserPlane.Proofs.Message.RoundTrip
  ──────────────────────────────────
  **MESSAGES READ BACK WHAT THEY WRITE.**

      Message.WellFormed      the values in a message are well formed
      Header.decode_make      a header is cut off with its body
      Message.decode_body     a body of 65523 octets at most reads back
      Message.round_trip      so does the whole message, in front of anything

  The bound on the body leaves room in the 16 bits of the length for the number
  of a session, a sequence number and an octet of priority.
-/
import UserPlane.Message
import UserPlane.Proofs.Rule.RoundTrip

namespace UserPlane

/-! ## §1. Messages between nodes. -/

instance : HasWellFormed HeartbeatRequest where

instance : LawfulBody HeartbeatRequest where
  mirrors _ _ := ⟨_, .map .required⟩

instance : HasWellFormed HeartbeatResponse where

instance : LawfulBody HeartbeatResponse where
  mirrors _ _ := ⟨_, .map .required⟩

/-- The node id and the features are well formed. -/
structure AssociationSetupRequest.WellFormed (m : AssociationSetupRequest) : Prop where
  nodeId : ∀ n ∈ m.nodeId, n.WellFormed
  upFunctionFeatures : ∀ f ∈ m.upFunctionFeatures, f.WellFormed

instance : HasWellFormed AssociationSetupRequest where
  WellFormed := AssociationSetupRequest.WellFormed

instance : LawfulBody AssociationSetupRequest where
  mirrors m hwf :=
    have hwf : m.WellFormed := hwf
    ⟨_, (Mirrors.map (.lenient hwf.nodeId)).seq .optional
      |>.seq (.optional hwf.upFunctionFeatures)⟩

/-- The node id and the features are well formed. -/
structure AssociationSetupResponse.WellFormed (m : AssociationSetupResponse) : Prop where
  nodeId : m.nodeId.WellFormed
  upFunctionFeatures : ∀ f ∈ m.upFunctionFeatures, f.WellFormed

instance : HasWellFormed AssociationSetupResponse where
  WellFormed := AssociationSetupResponse.WellFormed

instance : LawfulBody AssociationSetupResponse where
  mirrors m hwf :=
    have hwf : m.WellFormed := hwf
    ⟨_, (Mirrors.map (.required hwf.nodeId)).seq .required |>.seq .optional
      |>.seq (.optional hwf.upFunctionFeatures)⟩

/-- The node id is not one that could not be read, and like the features it is
well formed. -/
structure AssociationUpdateRequest.WellFormed (m : AssociationUpdateRequest) : Prop where
  not_malformed : m.nodeId ≠ .malformed
  nodeId : ∀ n ∈ m.nodeId.value?, n.WellFormed
  upFunctionFeatures : ∀ f ∈ m.upFunctionFeatures, f.WellFormed

instance : HasWellFormed AssociationUpdateRequest where
  WellFormed := AssociationUpdateRequest.WellFormed

instance : LawfulBody AssociationUpdateRequest where
  mirrors m hwf :=
    have hwf : m.WellFormed := hwf
    ⟨_, (Mirrors.map (.checked hwf.not_malformed hwf.nodeId)).seq
      (.optional hwf.upFunctionFeatures)⟩

/-- The node id is well formed. -/
def AssociationUpdateResponse.WellFormed (m : AssociationUpdateResponse) : Prop :=
  m.nodeId.WellFormed

instance : HasWellFormed AssociationUpdateResponse where
  WellFormed := AssociationUpdateResponse.WellFormed

instance : LawfulBody AssociationUpdateResponse where
  mirrors m hwf :=
    have hwf : m.nodeId.WellFormed := hwf
    ⟨_, (Mirrors.map (.required hwf)).seq .required |>.seq .optional⟩

/-- The node id is well formed. -/
def AssociationReleaseRequest.WellFormed (m : AssociationReleaseRequest) : Prop :=
  ∀ n ∈ m.nodeId, n.WellFormed

instance : HasWellFormed AssociationReleaseRequest where
  WellFormed := AssociationReleaseRequest.WellFormed

instance : LawfulBody AssociationReleaseRequest where
  mirrors m hwf :=
    have hwf : ∀ n ∈ m.nodeId, n.WellFormed := hwf
    ⟨_, .map (.lenient hwf)⟩

/-- The node id is well formed. -/
def AssociationReleaseResponse.WellFormed (m : AssociationReleaseResponse) : Prop :=
  m.nodeId.WellFormed

instance : HasWellFormed AssociationReleaseResponse where
  WellFormed := AssociationReleaseResponse.WellFormed

instance : LawfulBody AssociationReleaseResponse where
  mirrors m hwf :=
    have hwf : m.nodeId.WellFormed := hwf
    ⟨_, (Mirrors.map (.required hwf)).seq .required⟩

/-! ## §2. Messages about sessions. -/

/-- The node id and the rules to be made are well formed. -/
structure SessionEstablishmentRequest.WellFormed (m : SessionEstablishmentRequest) : Prop where
  nodeId : ∀ n ∈ m.nodeId, n.WellFormed
  createPdr : ∀ r ∈ m.createPdr, r.WellFormed
  createFar : ∀ r ∈ m.createFar, r.WellFormed
  createQer : ∀ r ∈ m.createQer, r.WellFormed

instance : HasWellFormed SessionEstablishmentRequest where
  WellFormed := SessionEstablishmentRequest.WellFormed

instance : LawfulBody SessionEstablishmentRequest where
  mirrors m hwf :=
    have hwf : m.WellFormed := hwf
    ⟨_, (Mirrors.map (.lenient hwf.nodeId)).seq .lenient |>.seq (.repeated hwf.createPdr)
      |>.seq (.repeated hwf.createFar) |>.seq (.repeated hwf.createQer)⟩

/-- The node id and what was chosen for the rules are well formed. -/
structure SessionEstablishmentResponse.WellFormed (m : SessionEstablishmentResponse) : Prop where
  nodeId : m.nodeId.WellFormed
  createdPdr : ∀ r ∈ m.createdPdr, r.WellFormed

instance : HasWellFormed SessionEstablishmentResponse where
  WellFormed := SessionEstablishmentResponse.WellFormed

instance : LawfulBody SessionEstablishmentResponse where
  mirrors m hwf :=
    have hwf : m.WellFormed := hwf
    ⟨_, (Mirrors.map (.required hwf.nodeId)).seq .required |>.seq .optional
      |>.seq (.repeated hwf.createdPdr)⟩

/-- The rules to be made and to be changed are well formed. -/
structure SessionModificationRequest.WellFormed (m : SessionModificationRequest) : Prop where
  createPdr : ∀ r ∈ m.createPdr, r.WellFormed
  createFar : ∀ r ∈ m.createFar, r.WellFormed
  createQer : ∀ r ∈ m.createQer, r.WellFormed
  updatePdr : ∀ r ∈ m.updatePdr, r.WellFormed
  updateFar : ∀ r ∈ m.updateFar, r.WellFormed
  updateQer : ∀ r ∈ m.updateQer, r.WellFormed

instance : HasWellFormed SessionModificationRequest where
  WellFormed := SessionModificationRequest.WellFormed

instance : LawfulBody SessionModificationRequest where
  mirrors m hwf :=
    have hwf : m.WellFormed := hwf
    ⟨_, (Mirrors.map .optional).seq .repeated |>.seq .repeated |>.seq .repeated
      |>.seq (.repeated hwf.createPdr) |>.seq (.repeated hwf.createFar)
      |>.seq (.repeated hwf.createQer) |>.seq (.repeated hwf.updatePdr)
      |>.seq (.repeated hwf.updateFar) |>.seq (.repeated hwf.updateQer)⟩

/-- What was chosen for the rules is well formed. -/
def SessionModificationResponse.WellFormed (m : SessionModificationResponse) : Prop :=
  ∀ r ∈ m.createdPdr, r.WellFormed

instance : HasWellFormed SessionModificationResponse where
  WellFormed := SessionModificationResponse.WellFormed

instance : LawfulBody SessionModificationResponse where
  mirrors m hwf :=
    have hwf : ∀ r ∈ m.createdPdr, r.WellFormed := hwf
    ⟨_, (Mirrors.map .required).seq (.repeated hwf)⟩

instance : HasWellFormed SessionDeletionRequest where

instance : LawfulBody SessionDeletionRequest where
  mirrors m _ := ⟨_, .empty m⟩

instance : HasWellFormed SessionDeletionResponse where

instance : LawfulBody SessionDeletionResponse where
  mirrors _ _ := ⟨_, .map .required⟩

/-! ## §3. Bodies. -/

namespace Message

/-- The message is of a kind that is read, and well formed at every level. -/
def WellFormed : Message → Prop
  | heartbeatRequest _ => True
  | heartbeatResponse _ => True
  | associationSetupRequest m => m.WellFormed
  | associationSetupResponse m => m.WellFormed
  | associationUpdateRequest m => m.WellFormed
  | associationUpdateResponse m => m.WellFormed
  | associationReleaseRequest m => m.WellFormed
  | associationReleaseResponse m => m.WellFormed
  | sessionEstablishmentRequest m => m.WellFormed
  | sessionEstablishmentResponse m => m.WellFormed
  | sessionModificationRequest m => m.WellFormed
  | sessionModificationResponse m => m.WellFormed
  | sessionDeletionRequest _ => True
  | sessionDeletionResponse _ => True
  | unsupported _ => False

theorem body_of_map {α : Type} {make : α → Message} {body : Decoded α} {m : Message}
    (h : make <$> body = .ok m) : ∃ a, body = .ok a ∧ make a = m := by
  cases body with
  | error e => cases h
  | ok a => exact ⟨a, rfl, Except.ok.inj h⟩

theorem type_of_map {α : Type} {make : α → Message} {body : Decoded α} {m : Message}
    {type number : UInt8} (h : make <$> body = .ok m) (hmake : ∀ a, (make a).type = number)
    (htype : type.toNat = number.toNat) : m.type = type := by
  cases body with
  | error e => cases h
  | ok a =>
    cases h
    rw [hmake, UInt8.toNat_inj.mp htype]

/-- What was read as a message is of the type that it was read as. -/
theorem type_of_decode {type : UInt8} {bs : Octets} {m : Message}
    (h : decode type bs = .ok m) : m.type = type := by
  unfold decode at h
  split at h
  case h_15 =>
    cases h
    rfl
  all_goals next htype => exact type_of_map h (fun _ => rfl) htype

theorem decode_as {α : Type} [Body α] [HasWellFormed α] [LawfulBody α] {b : α}
    (make : α → Message) (hwf : HasWellFormed.WellFormed b)
    (hshort : Short (Body.write b).elements) :
    (Body.write b).fits = true ∧ make <$> Body.decode (Body.octets b) = .ok (make b) :=
  ⟨LawfulBody.fits_of_short hwf hshort,
    congrArg (make <$> ·) (LawfulBody.decode_of_short hwf hshort)⟩

/-- A well-formed message whose elements are short enough for their headers can be written
and reads back. -/
theorem decode_of_short {m : Message} (hwf : m.WellFormed) (hshort : Short m.elements.elements) :
    m.elements.fits = true ∧ decode m.type m.body = .ok m := by
  cases m with
  | heartbeatRequest => exact decode_as heartbeatRequest hwf hshort
  | heartbeatResponse => exact decode_as heartbeatResponse hwf hshort
  | associationSetupRequest => exact decode_as associationSetupRequest hwf hshort
  | associationSetupResponse => exact decode_as associationSetupResponse hwf hshort
  | associationUpdateRequest => exact decode_as associationUpdateRequest hwf hshort
  | associationUpdateResponse => exact decode_as associationUpdateResponse hwf hshort
  | associationReleaseRequest => exact decode_as associationReleaseRequest hwf hshort
  | associationReleaseResponse => exact decode_as associationReleaseResponse hwf hshort
  | sessionEstablishmentRequest => exact decode_as sessionEstablishmentRequest hwf hshort
  | sessionEstablishmentResponse => exact decode_as sessionEstablishmentResponse hwf hshort
  | sessionModificationRequest => exact decode_as sessionModificationRequest hwf hshort
  | sessionModificationResponse => exact decode_as sessionModificationResponse hwf hshort
  | sessionDeletionRequest => exact decode_as sessionDeletionRequest hwf hshort
  | sessionDeletionResponse => exact decode_as sessionDeletionResponse hwf hshort
  | unsupported => exact hwf.elim

/-- **The body of a well-formed message can be written and reads back.** -/
theorem decode_body {m : Message} (hwf : m.WellFormed) (hlength : m.body.length < valueLimit) :
    m.elements.fits = true ∧ decode m.type m.body = .ok m :=
  decode_of_short hwf (short_of_octets hlength)

end Message

/-! ## §4. Headers. -/

namespace Header

/-- The flags of a header that is made. -/
theorem make_flags (type : UInt8) (seid : Option UInt64) (sequence : UInt32) (n : Nat) :
    let flags := (make type seid sequence n).flags.toNat
    version.get flags = 1 ∧ withSeid.isSet flags = seid.isSome
      ∧ withPriority.isSet flags = false := by
  show version.get (UInt8.ofNat (withSeid.set (version.set 0 1) seid.isSome.toNat)).toNat = 1
    ∧ withSeid.isSet (UInt8.ofNat (withSeid.set (version.set 0 1) seid.isSome.toNat)).toNat
      = seid.isSome
    ∧ withPriority.isSet (UInt8.ofNat (withSeid.set (version.set 0 1) seid.isSome.toNat)).toNat
      = false
  cases seid.isSome <;> decide

/-- A sequence number of 24 bits is kept. -/
theorem make_sequence {sequence : UInt32} (h : sequence.toNat < 16777216) :
    sequence &&& 0xFFFFFF = sequence := by
  apply UInt32.toNat_inj.mp
  rw [UInt32.toNat_and]
  exact (Nat.and_two_pow_sub_one_eq_mod sequence.toNat 24).trans (Nat.mod_eq_of_lt h)

/-- The octets of a header behind its length, and the body. -/
def behindLength (seid : Option UInt64) (sequence : UInt32) (body : Octets) : Octets :=
  optionalBytes be64 seid ++ (Octets.ofNat 3 sequence.toNat ++ [0] ++ body)

theorem length_behindLength (seid : Option UInt64) (sequence : UInt32) (body : Octets) :
    (behindLength seid sequence body).length
      = body.length + 4 + if seid.isSome then 8 else 0 := by
  cases seid <;> simp [behindLength, optionalBytes] <;> omega

/-- A header with its body: the flags, the type, the length, and what is behind it. -/
theorem encode_make {type : UInt8} {seid : Option UInt64} {sequence : UInt32} (body : Octets)
    (h : sequence.toNat < 16777216) :
    (make type seid sequence body.length).encode ++ body
      = [(make type seid sequence body.length).flags, type]
        ++ be16 (make type seid sequence body.length).length
        ++ behindLength seid sequence body := by
  have hkept : (make type seid sequence body.length).sequence = sequence := make_sequence h
  have hlast : (make type seid sequence body.length).lastOctet = 0 := rfl
  have htype : (make type seid sequence body.length).type = type := rfl
  have hseid : (make type seid sequence body.length).seid = seid := rfl
  simp [encode, behindLength, hkept, hlast, htype, hseid]

/-- The fields behind the length read back. -/
theorem run_readFields (type : UInt8) (seid : Option UInt64) {sequence : UInt32} (n : Nat)
    (h : sequence.toNat < 16777216) (body : Octets) :
    (readFields (make type seid sequence n).flags type (make type seid sequence n).length).run
        (behindLength seid sequence body) = .ok (make type seid sequence n, body) := by
  obtain ⟨-, hseid, hpriority⟩ := make_flags type seid sequence n
  have htail : (Octets.ofNat 3 sequence.toNat ++ [0]).length = 4 := by simp
  have hbound : sequence.toNat < Octets.bound 3 := h
  have hnumber : UInt32.ofNat (Octets.toNat (Octets.ofNat 3 sequence.toNat)) = sequence := by
    rw [Octets.toNat_ofNat, Nat.mod_eq_of_lt hbound]
    simp
  refine (Reader.run_then (Reader.run_present hseid (Reader.run_u64 _))).trans ?_
  refine (Reader.run_then (Reader.run_take _ _ htail)).trans ?_
  simp only [hpriority, List.take_left' (Octets.length_ofNat 3 _), hnumber]
  show Except.ok (_, body) = _
  rw [make, make_sequence h]
  rfl

/-- **A header is cut off with its body**, if the length of both can be written. -/
theorem decode_make {type : UInt8} {seid : Option UInt64} {sequence : UInt32} {body : Octets}
    (hsequence : sequence.toNat < 16777216) (hbody : body.length ≤ 65523) (rest : Octets) :
    decode ((make type seid sequence body.length).encode ++ body ++ rest)
      = .ok ⟨make type seid sequence body.length, body, rest⟩ := by
  obtain ⟨hversion, -, -⟩ := make_flags type seid sequence body.length
  have hfields := run_readFields type seid body.length hsequence body
  have hlength : (make type seid sequence body.length).length.toNat
      = (behindLength seid sequence body).length := by
    rw [length_behindLength]
    show (UInt16.ofNat (body.length + 4 + if seid.isSome then 8 else 0)).toNat = _
    rw [UInt16.toNat_ofNat']
    refine Nat.mod_eq_of_lt ?_
    split <;> omega
  rw [encode_make body hsequence, List.append_assoc]
  generalize make type seid sequence body.length = made at *
  -- the four octets in front, and what is taken out of them
  have hfour : ([made.flags, type] ++ be16 made.length).length = 4 := by simp
  have htake := Reader.run_take "PFCP header" (behindLength seid sequence body ++ rest) hfour
  have hflags : ([made.flags, type] ++ be16 made.length).headD 0 = made.flags := rfl
  have htype : (([made.flags, type] ++ be16 made.length).drop 1).headD 0 = type := rfl
  have hread : UInt16.ofNat (Octets.toNat (([made.flags, type] ++ be16 made.length).drop 2))
      = made.length := by
    show UInt16.ofNat (Octets.toNat (be16 made.length)) = _
    simp
  have hwhole : ¬ (behindLength seid sequence body ++ rest).length
      < (behindLength seid sequence body).length := by
    rw [List.length_append]
    omega
  unfold decode
  simp only [htake, bind, Except.bind, hflags, htype, hread, hversion, hlength, if_neg hwhole,
    List.take_left, List.drop_left, hfields]
  rfl

end Header

/-! ## §5. Messages. -/

/-- **The round trip.**  A well-formed message with a body of at most 65523
octets can be written with any sequence number of 24 bits and with or without
the number of a session; cut off the front of what was written and anything
behind it, it comes back with that header and body, and the body as it was. -/
theorem Message.round_trip (m : Message) (sequence : UInt32) (seid : Option UInt64)
    (rest : Octets) (hwf : m.WellFormed) (hlength : m.body.length ≤ 65523)
    (hsequence : sequence.toNat < 16777216) :
    ∃ octets header, m.encode? sequence seid = some octets
      ∧ Header.decode (octets ++ rest) = .ok ⟨header, m.body, rest⟩
      ∧ Header.version.get header.flags.toNat = 1 ∧ header.sequence = sequence
      ∧ header.seid = seid ∧ header.type = m.type
      ∧ Message.decode header.type m.body = .ok m := by
  have hshort : m.body.length < valueLimit := Nat.lt_of_le_of_lt hlength (by decide)
  obtain ⟨hfits, hdecode⟩ := Message.decode_body hwf hshort
  obtain ⟨hversion, -, -⟩ := Header.make_flags m.type seid sequence m.body.length
  exact ⟨m.encode sequence seid, Header.make m.type seid sequence m.body.length, if_pos hfits,
    Header.decode_make hsequence hlength rest, hversion, Header.make_sequence hsequence, rfl, rfl,
    hdecode⟩

namespace Message

/-- A request for a session with a rule for packets from the subscriber, whose tunnel end
the node is to choose, and a rule that sends them on through a tunnel. -/
def uplinkRequest : Message :=
  .sessionEstablishmentRequest {
    nodeId := some (.ofIp (.v4 ⟨0x0A000001#32⟩))
    cpFSeid := some (.ofIp (.v4 ⟨0x0A000001#32⟩) 7)
    createPdr := [{
      pdrId := ⟨1⟩
      precedence := some ⟨100⟩
      pdi := {
        sourceInterface := .access
        localFTeid := some (.choose true false (some 5))
        ueIpAddress := some (.ofIp (.v4 ⟨0x0A3C0001#32⟩) false) }
      farId := some ⟨1⟩ }]
    createFar := [{
      farId := ⟨1⟩
      applyAction := ⟨0x0200⟩
      forwardingParameters := some {
        destinationInterface := .core
        outerHeaderCreation := some (.tunnel 9 ⟨0x0A000002#32⟩) } }]
    createQer := [] }

/-- The request comes back from in front of an octet that follows it. -/
theorem uplinkRequest_round_trip :
    uplinkRequest.WellFormed ∧ uplinkRequest.body.length ≤ 65523
      ∧ (42 : UInt32).toNat < 16777216
      ∧ ∃ octets header, uplinkRequest.encode? 42 none = some octets
        ∧ Header.decode (octets ++ [0]) = .ok ⟨header, uplinkRequest.body, [0]⟩
        ∧ Header.version.get header.flags.toNat = 1 ∧ header.sequence = 42
        ∧ header.seid = none ∧ header.type = uplinkRequest.type
        ∧ Message.decode header.type uplinkRequest.body = .ok uplinkRequest := by
  have hwf : uplinkRequest.WellFormed := by
    refine ⟨?_, ?_, ?_, by simp⟩
    · simp [NodeId.WellFormed, NodeId.lengthOk, NodeId.ofIp]
    · simp only [List.mem_singleton, forall_eq]
      refine ⟨?_, ?_⟩
      · rintro t ⟨⟩
        exact ⟨by decide, by decide, by decide, by decide⟩
      · rintro a ⟨⟩
        exact ⟨by decide, by decide, by decide, by decide⟩
    · simp only [List.mem_singleton, forall_eq]
      rintro p ⟨⟩ h ⟨⟩
      exact ⟨by decide, by decide, by decide, by decide, by decide, by decide⟩
  have hlength : uplinkRequest.body.length ≤ 65523 := by decide +kernel
  exact ⟨hwf, hlength, by decide, round_trip uplinkRequest 42 none [0] hwf hlength (by decide)⟩

end Message

end UserPlane
