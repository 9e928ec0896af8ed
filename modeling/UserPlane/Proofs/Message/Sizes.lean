/-
  UserPlane.Proofs.Message.Sizes
  ──────────────────────────────
  **HOW LONG REQUESTS AND ANSWERS ARE.**

  A request can be read only if its rules are there, and each of them takes so
  many octets at least; an answer takes what its elements take.  Detection
  information is counted by the wishes that it can hold, since these are what
  the answer grows by:

      Pdi.least, CreatePdr.least, UpdatePdr.least    what a rule takes at least
      Message.least_le                               … and the request with them
      CreatedPdr.size_eq                             what a report takes
      Message.length_encode                          what a message takes
-/
import UserPlane.Message
import UserPlane.Proofs.Message.RoundTrip
import UserPlane.Proofs.Wire.Sizes

namespace UserPlane

/-! ## §1. The least that elements take. -/

theorem PdrId.atLeast : Element.AtLeast PdrId fun _ => 6 := by
  intro bs id h
  have hlength : bs.length = 2 := by
    by_contra hne
    have hrefused : Reader.exactly 2 bs = .error (.wrongLength 2 bs.length) := if_neg hne
    simp only [Element.decode, hrefused, bind, Except.bind] at h
    cases h
  rw [hlength]

theorem SourceInterface.atLeast : Element.AtLeast SourceInterface fun _ => 5 := .of_nil nofun

theorem FTeid.atLeast : Element.AtLeast FTeid fun _ => 5 := .of_nil nofun

theorem UeIpAddress.atLeast : Element.AtLeast UeIpAddress fun _ => 5 := .of_nil nofun

/-- A node's name has an octet beside its kind. -/
theorem NodeId.atLeast : Element.AtLeast NodeId fun _ => 6 := by
  intro bs n h
  match bs with
  | [] => cases h
  | [b] =>
    have h : NodeId.read [b] = .ok n := h
    simp only [NodeId.read, Reader.run_u8, bind, Except.bind] at h
    cases hkind : (Coded.decode "NodeIdType" (b &&& 0x0F) : Decoded NodeIdKind) with
    | error e =>
      rw [hkind] at h
      cases h
    | ok kind =>
      rw [hkind] at h
      cases kind <;> cases h
  | b :: c :: bs => simp

theorem FSeid.atLeast : Element.AtLeast FSeid fun _ => 13 := by
  intro bs s h
  have htaken := Reader.Takes.le_of_decode ((Reader.takes_u8 _).bind fun _ =>
    (Reader.takes_u64 _).bind fun _ => ((Reader.takes_ipv4 _).present _).bind fun _ =>
      ((Reader.takes_ipv6 _).present _).bind fun _ => .pure _) h
  show 13 ≤ _
  omega

/-! ## §2. The least that rules take. -/

/-- What detection information takes at least: the interface, and each of the
things that can be wished for. -/
def Pdi.least (p : Pdi) : Nat :=
  9 + (p.localFTeid.elim 0 fun _ => 5) + p.ueIpAddress.elim 0 fun _ => 5

theorem Pdi.atLeast : Element.AtLeast Pdi Pdi.least := by
  intro bs p h
  obtain ⟨i, hi, rfl⟩ := by simpa [Body.shape] using Body.build_of_decode h
  have hspent := spentOn_split_le (show [Element.code SourceInterface, Element.code FTeid,
    Element.code UeIpAddress].Nodup by decide) bs
  have hinterface := SourceInterface.atLeast.lastOf (RawElement.split bs).1
  have hteid := FTeid.atLeast.lastOf (RawElement.split bs).1
  have haddress := UeIpAddress.atLeast.lastOf (RawElement.split bs).1
  simp only [hi, List.map_cons, List.map_nil, List.sum_cons, List.sum_nil, Option.elim_some] at *
  unfold Pdi.least
  dsimp only
  omega

/-- What a rule to be made takes at least. -/
def CreatePdr.least (r : CreatePdr) : Nat := 10 + r.pdi.least

theorem CreatePdr.atLeast : Element.AtLeast CreatePdr CreatePdr.least := by
  intro bs r h
  obtain ⟨id, hid, pdi, hpdi, rfl⟩ := by simpa [Body.shape] using Body.build_of_decode h
  have hspent := spentOn_split_le (show [Element.code PdrId, Element.code Pdi].Nodup by decide) bs
  have hnumber := PdrId.atLeast.lastOf (RawElement.split bs).1
  have hinformation := Pdi.atLeast.lastOf (RawElement.split bs).1
  simp only [hid, hpdi, List.map_cons, List.map_nil, List.sum_cons, List.sum_nil,
    Option.elim_some] at *
  unfold CreatePdr.least
  dsimp only
  omega

/-- What the change of a rule takes at least. -/
def UpdatePdr.least (r : UpdatePdr) : Nat := 10 + r.pdi.elim 0 Pdi.least

theorem UpdatePdr.atLeast : Element.AtLeast UpdatePdr UpdatePdr.least := by
  intro bs r h
  obtain ⟨id, hid, rfl⟩ := by simpa [Body.shape] using Body.build_of_decode h
  have hspent := spentOn_split_le (show [Element.code PdrId, Element.code Pdi].Nodup by decide) bs
  have hnumber := PdrId.atLeast.lastOf (RawElement.split bs).1
  have hinformation := Pdi.atLeast.lastOf (RawElement.split bs).1
  simp only [hid, List.map_cons, List.map_nil, List.sum_cons, List.sum_nil, Option.elim_some] at *
  unfold UpdatePdr.least
  dsimp only
  omega

/-! ## §3. The least that requests take. -/

/-- What an establishment takes at least: its names, and the detection rules in it. -/
def SessionEstablishmentRequest.least (m : SessionEstablishmentRequest) : Nat :=
  (m.nodeId.elim 0 fun _ => 6) + (m.cpFSeid.elim 0 fun _ => 13)
    + (m.createPdr.map CreatePdr.least).sum

theorem SessionEstablishmentRequest.least_le {bs : Octets} {m : SessionEstablishmentRequest}
    (h : Body.decode bs = .ok m) : m.least ≤ bs.length := by
  obtain rfl := by simpa [Body.shape] using Body.build_of_decode h
  have hspent := spentOn_split_le (show [Element.code NodeId, Element.code FSeid,
    Element.code CreatePdr].Nodup by decide) bs
  have hnode := NodeId.atLeast.lastOf (RawElement.split bs).1
  have hnumber := FSeid.atLeast.lastOf (RawElement.split bs).1
  have hrules := CreatePdr.atLeast.allOf (RawElement.split bs).1
  simp only [List.map_cons, List.map_nil, List.sum_cons, List.sum_nil] at *
  unfold SessionEstablishmentRequest.least
  dsimp only
  omega

/-- What a modification takes at least: the detection rules to be made or changed. -/
def SessionModificationRequest.least (m : SessionModificationRequest) : Nat :=
  (m.createPdr.map CreatePdr.least).sum + (m.updatePdr.map UpdatePdr.least).sum

theorem SessionModificationRequest.least_le {bs : Octets} {m : SessionModificationRequest}
    (h : Body.decode bs = .ok m) : m.least ≤ bs.length := by
  obtain rfl := by
    simpa only [Body.shape, Shape.build_seq_eq_ok, Shape.build_map_eq_ok, Shape.build_optional,
      Shape.build_repeated, exists_and_left, exists_eq_left'] using Body.build_of_decode h
  have hspent := spentOn_split_le
    (show [Element.code CreatePdr, Element.code UpdatePdr].Nodup by decide) bs
  have hmade := CreatePdr.atLeast.allOf (RawElement.split bs).1
  have hchanged := UpdatePdr.atLeast.allOf (RawElement.split bs).1
  simp only [List.map_cons, List.map_nil, List.sum_cons, List.sum_nil] at *
  unfold SessionModificationRequest.least
  dsimp only
  omega

namespace Message

/-- What a message with detection rules takes at least. -/
def least : Message → Nat
  | sessionEstablishmentRequest m => m.least
  | sessionModificationRequest m => m.least
  | _ => 0

/-- **What was read was there.** -/
theorem least_le {type : UInt8} {bs : Octets} {m : Message} (h : decode type bs = .ok m) :
    m.least ≤ bs.length := by
  unfold decode at h
  split at h
  case h_9 =>
    obtain ⟨a, hbody, rfl⟩ := body_of_map h
    exact SessionEstablishmentRequest.least_le hbody
  case h_11 =>
    obtain ⟨a, hbody, rfl⟩ := body_of_map h
    exact SessionModificationRequest.least_le hbody
  case h_15 =>
    cases h
    exact Nat.zero_le _
  all_goals
    obtain ⟨a, -, rfl⟩ := body_of_map h
    exact Nat.zero_le _

end Message

/-! ## §4. What answers take. -/

theorem NodeId.size_ofIp_le (ip : Ip) : Element.size (NodeId.ofIp ip) ≤ 21 := by
  cases ip <;> simp [Element.size, rawElement, RawElement.size, Element.payload, NodeId.ofIp]

theorem FSeid.size_ofIp_le (ip : Ip) (seid : UInt64) : Element.size (FSeid.ofIp ip seid) ≤ 29 := by
  cases ip <;> simp [Element.size, rawElement, RawElement.size, Element.payload, FSeid.ofIp,
    optionalBytes]

theorem FTeid.size_ofIp (a : Ipv4) (teid : UInt32) :
    Element.size (FTeid.ofIp (.v4 a) teid) = 13 := by
  simp [Element.size, rawElement, RawElement.size, Element.payload, FTeid.ofIp, optionalBytes]

theorem UeIpAddress.size_ofIp_le (ip : Ip) (destination : Bool) :
    Element.size (UeIpAddress.ofIp ip destination) ≤ 21 := by
  cases ip <;> simp [Element.size, rawElement, RawElement.size, Element.payload, UeIpAddress.ofIp,
    optionalBytes]

@[simp] theorem Cause.size_eq (c : Cause) : Element.size c = 5 := rfl

@[simp] theorem RecoveryTimeStamp.size_eq (t : RecoveryTimeStamp) : Element.size t = 8 := by
  simp [Element.size, rawElement, RawElement.size, Element.payload]

@[simp] theorem UpFunctionFeatures.size_eq (f : UpFunctionFeatures) : Element.size f = 10 := by
  simp [Element.size, rawElement, RawElement.size, Element.payload]

/-- A report takes what is reported in it, and the number of the rule. -/
theorem CreatedPdr.size_eq (r : CreatedPdr) : Element.size r
    = 10 + r.localFTeid.elim 0 Element.size + r.ueIpAddress.elim 0 Element.size := by
  have hid : Element.size r.pdrId = 6 := by
    simp [Element.size, rawElement, RawElement.size, Element.payload]
  rw [Body.size_group]
  simp [Body.write, hid]
  omega

/-- **A message takes** what its body takes, and a header. -/
theorem Message.length_encode (m : Message) (sequence : UInt32) (seid : Option UInt64) :
    (m.encode sequence seid).length = m.body.length + 8 + if seid.isSome then 8 else 0 := by
  cases seid <;> simp [Message.encode, Header.encode, Header.make, optionalBytes] <;> omega

end UserPlane
