/-
  UserPlane.Proofs.Message.Rereading
  ──────────────────────────────────
  **WHAT IS LOST WHEN A MESSAGE THAT WAS READ IS WRITTEN AGAIN.**

      Message.written               what is left of a message in its body
      Message.written_eq_self_iff   when that is all of it
      Message.decode_body_of_decode a message that was read can be written, and
                                    what is left of it reads back

  The elements of the new body are at most four octets longer than those that
  were read, and so their lengths can still be written if the old body had
  65531 octets or fewer; the new body as a whole may be longer than that.
-/
import UserPlane.Proofs.Message.RoundTrip
import UserPlane.Proofs.Rule.Rereading

namespace UserPlane

/-! ## §1. What is left of a body. -/

/-- An id that could not be read is not written at all. -/
def Checked.written {α : Type} : Checked α → Checked α
  | missing => missing
  | malformed => missing
  | present a => present a

@[simp] theorem Checked.value?_written {α : Type} (c : Checked α) :
    c.written.value? = c.value? := by
  cases c <;> rfl

/-- It loses the last two octets of the features. -/
def AssociationSetupRequest.written (m : AssociationSetupRequest) : AssociationSetupRequest :=
  { m with upFunctionFeatures := m.upFunctionFeatures.map UpFunctionFeatures.written }

/-- It loses the last two octets of the features. -/
def AssociationSetupResponse.written (m : AssociationSetupResponse) : AssociationSetupResponse :=
  { m with upFunctionFeatures := m.upFunctionFeatures.map UpFunctionFeatures.written }

/-- It loses the last two octets of the features, and that there was an id that could not be
read. -/
def AssociationUpdateRequest.written (m : AssociationUpdateRequest) : AssociationUpdateRequest where
  nodeId := m.nodeId.written
  upFunctionFeatures := m.upFunctionFeatures.map UpFunctionFeatures.written

/-- What is left of the values of a kind of body, once they were read, is well formed; it is all
that is written of them, in elements not much longer than those that were read. -/
structure Rewritable {α : Type} [Body α] [HasWellFormed α] (written : α → α) : Prop where
  write_written : ∀ a, Body.write (written a) = Body.write a
  wellFormed : ∀ ⦃bs : Octets⦄ ⦃a : α⦄, Body.decode bs = .ok a → WellFormed (written a)
  noLonger : ∀ ⦃bs : Octets⦄ ⦃a : α⦄, Body.decode bs = .ok a →
    NoLonger (RawElement.split bs).1 (Body.write a)

theorem UpFunctionFeatures.maybe_written (f? : Option UpFunctionFeatures) :
    ElementRun.maybe (f?.map written) = .maybe f? := by
  have hraw (f : UpFunctionFeatures) : rawElement f.written = rawElement f :=
    congrArg (RawElement.mk _) (payload_written f)
  have hfits (f : UpFunctionFeatures) : Element.fits f.written = Element.fits f := rfl
  cases f? with
  | none => rfl
  | some f => simp only [ElementRun.maybe, Option.map_some, Option.all_some, hraw, hfits]

theorem UpFunctionFeatures.wellFormed_map_written (f? : Option UpFunctionFeatures) :
    ∀ f ∈ f?.map written, f.WellFormed := by
  intro f hf
  obtain ⟨g, -, rfl⟩ := Option.map_eq_some_iff.mp hf
  exact wellFormed_written g

/-! ## §2. Messages between nodes. -/

theorem HeartbeatRequest.rewritable : Rewritable (id : HeartbeatRequest → HeartbeatRequest) where
  write_written _ := rfl
  wellFormed _ _ _ := trivial
  noLonger _ _ h := .one (Tabled.found_of_decode h)

theorem HeartbeatResponse.rewritable :
    Rewritable (id : HeartbeatResponse → HeartbeatResponse) where
  write_written _ := rfl
  wellFormed _ _ _ := trivial
  noLonger _ _ h := .one (Tabled.found_of_decode h)

theorem AssociationSetupRequest.rewritable : Rewritable AssociationSetupRequest.written where
  write_written m := by
    show _ ++ ElementRun.maybe (m.upFunctionFeatures.map _) = _
    rw [UpFunctionFeatures.maybe_written]
    rfl
  wellFormed bs m h := by
    obtain ⟨hnode, -⟩ := Tabled.found_of_decode h
    exact ⟨wellFormed_of_lastOf hnode, UpFunctionFeatures.wellFormed_map_written _⟩
  noLonger bs m h := by
    obtain ⟨hnode, hstart, hfeatures⟩ := Tabled.found_of_decode h
    exact .append (.append (.last hnode) (.last hstart)) (.last hfeatures)

theorem AssociationSetupResponse.rewritable : Rewritable AssociationSetupResponse.written where
  write_written m := by
    show _ ++ ElementRun.maybe (m.upFunctionFeatures.map _) = _
    rw [UpFunctionFeatures.maybe_written]
    rfl
  wellFormed bs m h := by
    obtain ⟨hnode, -⟩ := Tabled.found_of_decode h
    exact ⟨(readFrom_of_lastOf hnode).wellFormed, UpFunctionFeatures.wellFormed_map_written _⟩
  noLonger bs m h := by
    obtain ⟨hnode, hcause, hstart, hfeatures⟩ := Tabled.found_of_decode h
    exact .append (.append (.append (.one hnode) (.one hcause)) (.last hstart)) (.last hfeatures)

/-- An id that was checked and is there was read from the last of its kind. -/
theorem readFrom_of_checked {α : Type} [Element α] {es : List RawElement} {c : Checked α} {a : α}
    (h : lastChecked α es = c) (ha : a ∈ c.value?) : ReadFrom es a := by
  unfold lastChecked at h
  cases hlast : (elementsOf α es).getLast? with
  | none =>
    rw [hlast] at h
    cases h
    cases ha
  | some e =>
    rw [hlast] at h
    cases has : e.as? α with
    | none =>
      simp only [has] at h
      cases h
      cases ha
    | some b =>
      simp only [has] at h
      cases h
      cases ha
      exact readFrom_of_lastOf (by rw [lastOf, hlast, Option.bind_some, has])

theorem AssociationUpdateRequest.rewritable : Rewritable AssociationUpdateRequest.written where
  write_written m := by
    show ElementRun.maybe m.nodeId.written.value? ++ ElementRun.maybe (m.upFunctionFeatures.map _)
      = _
    rw [UpFunctionFeatures.maybe_written, Checked.value?_written]
    rfl
  wellFormed bs m h := by
    obtain ⟨hnode, -⟩ := Tabled.found_of_decode h
    refine ⟨?_, fun n hn => ?_, UpFunctionFeatures.wellFormed_map_written _⟩
    · show m.nodeId.written ≠ .malformed
      cases m.nodeId <;> nofun
    · have hn : n ∈ m.nodeId.written.value? := hn
      rw [Checked.value?_written] at hn
      exact (readFrom_of_checked hnode hn).wellFormed
  noLonger bs m h := by
    obtain ⟨hnode, hfeatures⟩ := Tabled.found_of_decode h
    exact .append (.maybe fun _ => readFrom_of_checked hnode) (.last hfeatures)

theorem AssociationUpdateResponse.rewritable :
    Rewritable (id : AssociationUpdateResponse → AssociationUpdateResponse) where
  write_written _ := rfl
  wellFormed bs m h := by
    obtain ⟨hnode, -⟩ := Tabled.found_of_decode h
    exact (readFrom_of_lastOf hnode).wellFormed
  noLonger bs m h := by
    obtain ⟨hnode, hcause, hstart⟩ := Tabled.found_of_decode h
    exact .append (.append (.one hnode) (.one hcause)) (.last hstart)

theorem AssociationReleaseRequest.rewritable :
    Rewritable (id : AssociationReleaseRequest → AssociationReleaseRequest) where
  write_written _ := rfl
  wellFormed _ _ h := wellFormed_of_lastOf (Tabled.found_of_decode h)
  noLonger _ _ h := .last (Tabled.found_of_decode h)

theorem AssociationReleaseResponse.rewritable :
    Rewritable (id : AssociationReleaseResponse → AssociationReleaseResponse) where
  write_written _ := rfl
  wellFormed bs m h := by
    obtain ⟨hnode, -⟩ := Tabled.found_of_decode h
    exact (readFrom_of_lastOf hnode).wellFormed
  noLonger bs m h := by
    obtain ⟨hnode, hcause⟩ := Tabled.found_of_decode h
    exact .append (.one hnode) (.one hcause)

/-! ## §3. Messages about sessions. -/

theorem SessionEstablishmentRequest.rewritable :
    Rewritable (id : SessionEstablishmentRequest → SessionEstablishmentRequest) where
  write_written _ := rfl
  wellFormed bs m h := by
    obtain ⟨hnode, -, hpdrs, hfars, hqers⟩ := Tabled.found_of_decode h
    exact ⟨wellFormed_of_lastOf hnode, wellFormed_of_allOf hpdrs, wellFormed_of_allOf hfars,
      wellFormed_of_allOf hqers⟩
  noLonger bs m h := by
    obtain ⟨hnode, hsession, hpdrs, hfars, hqers⟩ := Tabled.found_of_decode h
    exact .append (.append (.append (.append (.last hnode) (.last hsession)) (.all hpdrs))
      (.all hfars)) (.all hqers)

theorem SessionEstablishmentResponse.rewritable :
    Rewritable (id : SessionEstablishmentResponse → SessionEstablishmentResponse) where
  write_written _ := rfl
  wellFormed bs m h := by
    obtain ⟨hnode, -, -, hpdrs⟩ := Tabled.found_of_decode h
    exact ⟨(readFrom_of_lastOf hnode).wellFormed, wellFormed_of_allOf hpdrs⟩
  noLonger bs m h := by
    obtain ⟨hnode, hcause, hsession, hpdrs⟩ := Tabled.found_of_decode h
    exact .append (.append (.append (.one hnode) (.one hcause)) (.last hsession)) (.all hpdrs)

theorem SessionModificationRequest.rewritable :
    Rewritable (id : SessionModificationRequest → SessionModificationRequest) where
  write_written _ := rfl
  wellFormed bs m h := by
    obtain ⟨-, -, -, -, hcreatePdr, hcreateFar, hcreateQer, hupdatePdr, hupdateFar, hupdateQer⟩ :=
      Tabled.found_of_decode h
    exact ⟨wellFormed_of_allOf hcreatePdr, wellFormed_of_allOf hcreateFar,
      wellFormed_of_allOf hcreateQer, wellFormed_of_allOf hupdatePdr,
      wellFormed_of_allOf hupdateFar, wellFormed_of_allOf hupdateQer⟩
  noLonger bs m h := by
    obtain ⟨hsession, hremovePdr, hremoveFar, hremoveQer, hcreatePdr, hcreateFar, hcreateQer,
      hupdatePdr, hupdateFar, hupdateQer⟩ := Tabled.found_of_decode h
    have hremoved := NoLonger.append (.append (.append (.last hsession) (.all hremovePdr))
      (.all hremoveFar)) (.all hremoveQer)
    have hcreated := NoLonger.append (.append (.append hremoved (.all hcreatePdr))
      (.all hcreateFar)) (.all hcreateQer)
    exact .append (.append (.append hcreated (.all hupdatePdr)) (.all hupdateFar)) (.all hupdateQer)

theorem SessionModificationResponse.rewritable :
    Rewritable (id : SessionModificationResponse → SessionModificationResponse) where
  write_written _ := rfl
  wellFormed bs m h := by
    obtain ⟨-, hpdrs⟩ := Tabled.found_of_decode h
    exact wellFormed_of_allOf hpdrs
  noLonger bs m h := by
    obtain ⟨hcause, hpdrs⟩ := Tabled.found_of_decode h
    exact .append (.one hcause) (.all hpdrs)

theorem SessionDeletionRequest.rewritable :
    Rewritable (id : SessionDeletionRequest → SessionDeletionRequest) where
  write_written _ := rfl
  wellFormed _ _ _ := trivial
  noLonger _ _ _ := .empty

theorem SessionDeletionResponse.rewritable :
    Rewritable (id : SessionDeletionResponse → SessionDeletionResponse) where
  write_written _ := rfl
  wellFormed _ _ _ := trivial
  noLonger _ _ h := .one (Tabled.found_of_decode h)

/-! ## §4. Messages. -/

namespace Message

/-- **What is left of a message in its body.** -/
def written : Message → Message
  | associationSetupRequest m => associationSetupRequest m.written
  | associationSetupResponse m => associationSetupResponse m.written
  | associationUpdateRequest m => associationUpdateRequest m.written
  | m => m

/-- The features that a message tells of. -/
def features? : Message → Option UpFunctionFeatures
  | associationSetupRequest m => m.upFunctionFeatures
  | associationSetupResponse m => m.upFunctionFeatures
  | associationUpdateRequest m => m.upFunctionFeatures
  | _ => none

/-- A message is left as it is, but for an update that names no readable node, and features in
the last two octets. -/
theorem written_eq_self_iff (m : Message) :
    m.written = m ↔ (∀ u, m = associationUpdateRequest u → u.nodeId ≠ .malformed)
      ∧ ∀ f ∈ m.features?, f.bits.toNat % 65536 = 0 := by
  have hfeatures (f? : Option UpFunctionFeatures) :
      f?.map UpFunctionFeatures.written = f? ↔ ∀ f ∈ f?, f.bits.toNat % 65536 = 0 := by
    cases f? <;> simp [UpFunctionFeatures.written_eq_self_iff]
  have hchecked (c : Checked NodeId) : c.written = c ↔ c ≠ .malformed := by
    cases c <;> simp [Checked.written]
  cases m with
  | associationSetupRequest m =>
    obtain ⟨nodeId, recoveryTimeStamp, features⟩ := m
    simp [written, features?, AssociationSetupRequest.written, hfeatures]
  | associationSetupResponse m =>
    obtain ⟨nodeId, cause, recoveryTimeStamp, features⟩ := m
    simp [written, features?, AssociationSetupResponse.written, hfeatures]
  | associationUpdateRequest m =>
    obtain ⟨nodeId, features⟩ := m
    simp [written, features?, AssociationUpdateRequest.written, hfeatures, hchecked]
  | _ => simp [written, features?]

/-- What holds of the body of a message, for a message of one kind. -/
theorem decode_written {α : Type} [Body α] [HasWellFormed α] [LawfulBody α] {written : α → α}
    (hrewritable : Rewritable written) {bs : Octets} {a : α} (h : Body.decode bs = .ok a)
    (hlength : bs.length ≤ 65531) (make : α → Message) :
    (Body.write a).fits = true
      ∧ make <$> Body.decode (Body.octets a) = .ok (make (written a)) := by
  have hshort : Short (Body.write (written a)).elements := by
    rw [hrewritable.write_written]
    exact (hrewritable.noLonger h).short hlength
  have hagain := decode_as make (hrewritable.wellFormed h) hshort
  simpa only [Body.octets, hrewritable.write_written] using hagain

/-- **What is lost when a message that was read is written again.**  A message read from 65531
octets or fewer can be written; what is read then is what is left of it, which is the message
itself unless it is an update whose node id could not be read, or tells of features in the last
two octets. -/
theorem decode_body_of_decode {type : UInt8} {bs : Octets} {m : Message}
    (hlength : bs.length ≤ 65531) (h : decode type bs = .ok m) :
    m.elements.fits = true ∧ decode type m.body = .ok m.written
      ∧ (m.written = m ↔ (∀ u, m = associationUpdateRequest u → u.nodeId ≠ .malformed)
        ∧ ∀ f ∈ m.features?, f.bits.toNat % 65536 = 0) := by
  have hagain : m.elements.fits = true ∧ decode m.type m.body = .ok m.written := by
    unfold decode at h
    split at h
    case h_15 =>
      cases h
      refine ⟨rfl, ?_⟩
      show decode type [] = _
      unfold decode
      split
      case h_15 => rfl
      all_goals contradiction
    all_goals obtain ⟨a, hbody, rfl⟩ := body_of_map h
    · exact decode_written HeartbeatRequest.rewritable hbody hlength _
    · exact decode_written HeartbeatResponse.rewritable hbody hlength _
    · exact decode_written AssociationSetupRequest.rewritable hbody hlength _
    · exact decode_written AssociationSetupResponse.rewritable hbody hlength _
    · exact decode_written AssociationUpdateRequest.rewritable hbody hlength _
    · exact decode_written AssociationUpdateResponse.rewritable hbody hlength _
    · exact decode_written AssociationReleaseRequest.rewritable hbody hlength _
    · exact decode_written AssociationReleaseResponse.rewritable hbody hlength _
    · exact decode_written SessionEstablishmentRequest.rewritable hbody hlength _
    · exact decode_written SessionEstablishmentResponse.rewritable hbody hlength _
    · exact decode_written SessionModificationRequest.rewritable hbody hlength _
    · exact decode_written SessionModificationResponse.rewritable hbody hlength _
    · exact decode_written SessionDeletionRequest.rewritable hbody hlength _
    · exact decode_written SessionDeletionResponse.rewritable hbody hlength _
  rw [type_of_decode h] at hagain
  exact ⟨hagain.1, hagain.2, m.written_eq_self_iff⟩

/-- A node id, an element of no known kind, another node id with spare bits set, and features
of nine octets. -/
def laxElements : List RawElement :=
  [⟨60, [0, 10, 0, 0, 1]⟩, ⟨999, [1, 2, 3]⟩, ⟨60, [0x50, 10, 0, 0, 2]⟩,
   ⟨43, [0x10, 0, 0, 0, 0, 0, 0, 7, 9]⟩]

/-- The request for an association that these elements stand for. -/
def laxRequest : Message :=
  .associationSetupRequest {
    nodeId := some ⟨.ipv4, [10, 0, 0, 2]⟩
    recoveryTimeStamp := none
    upFunctionFeatures := some ⟨0x1000000000000007⟩ }

/-- The request comes back without the last of its features. -/
theorem decode_body_of_laxRequest :
    (RawElement.encodeAll laxElements).length ≤ 65531
      ∧ decode 5 (RawElement.encodeAll laxElements) = .ok laxRequest
      ∧ laxRequest.elements.fits = true ∧ decode 5 laxRequest.body = .ok laxRequest.written
      ∧ (laxRequest.written = laxRequest
        ↔ (∀ u, laxRequest = associationUpdateRequest u → u.nodeId ≠ .malformed)
          ∧ ∀ f ∈ laxRequest.features?, f.bits.toNat % 65536 = 0) := by
  have hlength : (RawElement.encodeAll laxElements).length ≤ 65531 := by decide
  have hread : decode 5 (RawElement.encodeAll laxElements) = .ok laxRequest := by
    show associationSetupRequest <$> Body.decode _ = _
    rw [Body.decode_encodeAll (by decide)]
    rfl
  exact ⟨hlength, hread, decode_body_of_decode hlength hread⟩

end Message

end UserPlane
