/-
  UserPlane.Proofs.Element.Rereading
  ──────────────────────────────────
  **EVERY KIND OF ELEMENT CAN BE WRITTEN AGAIN AS IT WAS READ.**

  A value with optional parts is read with exactly the parts its flags announce,
  and from octets that begin with its writing (`FTeid.of_decode` and its like);
  spare bits are kept or dropped, spare octets dropped.  Only two kinds are
  written in more octets than they may be read from: actions, of which older
  peers send one octet of two, and features, of which six octets are written.

      SoundElement      what is read is well formed
      Element.Compact   … and is written in no more octets, up to some slack

  Features are the one kind of which more is kept than written:
  `UpFunctionFeatures.written` is what is left of them.
-/
import UserPlane.Proofs.Element.RoundTrip
import UserPlane.Proofs.Wire.Rereading

namespace UserPlane

/-! ## §1. Codes and numbers of fixed width. -/

section Fixed

variable {α β : Type} [Element α] {n : Nat}

/-- A kind of element that is written in `n` octets and read from no fewer. -/
theorem Element.Compact.of_takes {r : Reader β} {make : β → Decoded α}
    (hdecode : ∀ bs : Octets, (Element.decode bs : Decoded α) = r.decode bs >>= make)
    (htakes : r.Takes n) (hpayload : ∀ a : α, (Element.payload a).length = n) :
    Element.Compact α 0 where
  length_le bs a h := by
    rw [hdecode] at h
    cases hread : r.decode bs with
    | error fault =>
      rw [hread] at h
      cases h
    | ok b =>
      have hle := htakes.le_of_decode hread
      rw [hpayload]
      omega

/-- A kind of element that is written in `n` octets and read from just as many. -/
theorem Element.Compact.of_exactly {read : Octets → Decoded α}
    (hdecode : ∀ bs : Octets, Element.decode bs = Reader.exactly n bs >>= fun _ => read bs)
    (hpayload : ∀ a : α, (Element.payload a).length = n) : Element.Compact α 0 where
  length_le bs a h := by
    rw [hdecode, Reader.exactly] at h
    split at h
    · next hlength => rw [hpayload, hlength]; exact Nat.le_refl _
    · cases h

end Fixed

instance : Element.Compact Cause 0 := .of_exactly (fun _ => rfl) fun _ => rfl

instance : Element.Compact SourceInterface 0 :=
  .of_takes (fun _ => rfl) (Reader.takes_u8 "Source Interface") fun _ => rfl

instance : Element.Compact DestinationInterface 0 :=
  .of_takes (fun _ => rfl) (Reader.takes_u8 "Destination Interface") fun _ => rfl

instance : Element.Compact NetworkInstance 0 where
  length_le bs n h := by
    cases h
    exact Nat.le_refl _

instance : Element.Compact PdrId 0 := .of_exactly (fun _ => rfl) fun r => length_be16 r.ruleId

instance : Element.Compact Precedence 0 :=
  .of_exactly (fun _ => rfl) fun p => length_be32 p.precedence

instance : Element.Compact FarId 0 := .of_exactly (fun _ => rfl) fun r => length_be32 r.ruleId

instance : Element.Compact QerId 0 := .of_exactly (fun _ => rfl) fun r => length_be32 r.ruleId

instance : Element.Compact TransportLevelMarking 0 :=
  .of_exactly (fun _ => rfl) fun m => length_be16 m.value

/-- One octet may be what a peer sends of the two that are written. -/
instance : Element.Compact ApplyAction 1 where
  length_le bs a h := by
    show (be16 a.bits).length ≤ _
    rw [length_be16]
    match bs with
    | [] => cases h
    | b :: bs =>
      rw [List.length_cons]
      omega

instance : Element.Compact OuterHeaderRemoval 0 where
  length_le bs r h := by
    match bs with
    | [] => cases h
    | [b] =>
      have h : (Coded.decode "OuterHeaderRemovalDescription" b >>= fun header =>
        .ok ⟨header, none⟩ : Decoded OuterHeaderRemoval) = .ok r := h
      cases hheader : (Coded.decode "OuterHeaderRemovalDescription" b : Decoded RemovableHeader)
        with
      | error fault =>
        rw [hheader] at h
        cases h
      | ok header =>
        rw [hheader] at h
        cases h
        exact Nat.le_refl _
    | b :: c :: bs =>
      show (Coded.code r.header :: optionalBytes (fun b => [b]) r.extensionDeletion).length ≤ _
      cases r.extensionDeletion <;> simp [optionalBytes]

/-! ## §2. Names and features. -/

/-- An id is read if its octets are of the length that its kind asks for, and it is written as
they are. -/
theorem NodeId.of_decode {bs : Octets} {n : NodeId} (h : Element.decode bs = .ok n) :
    n.WellFormed ∧ (Element.payload n).length = bs.length := by
  have h : NodeId.read bs = .ok n := h
  match bs with
  | [] => cases h
  | first :: octets =>
    simp only [NodeId.read, Reader.run_u8, bind, Except.bind] at h
    cases hkind : (Coded.decode "NodeIdType" (first &&& 0x0F) : Decoded NodeIdKind) with
    | error fault =>
      rw [hkind] at h
      cases h
    | ok kind =>
      simp only [hkind] at h
      -- each kind asks for its own length
      have hok : (⟨kind, octets⟩ : NodeId).lengthOk = true ∧ n = ⟨kind, octets⟩ := by
        cases kind with
        | ipv4 =>
          by_cases hlength : octets.length = 4
          · simp only [Reader.exactly, if_pos hlength] at h
            cases h
            exact ⟨by simp [lengthOk, hlength], rfl⟩
          · simp only [Reader.exactly, if_neg hlength] at h
            cases h
        | ipv6 =>
          by_cases hlength : octets.length = 16
          · simp only [Reader.exactly, if_pos hlength] at h
            cases h
            exact ⟨by simp [lengthOk, hlength], rfl⟩
          · simp only [Reader.exactly, if_neg hlength] at h
            cases h
        | fqdn =>
          by_cases hempty : octets.isEmpty = true
          · simp only [if_pos hempty] at h
            cases h
          · simp only [if_neg hempty] at h
            cases h
            exact ⟨by simpa [lengthOk] using hempty, rfl⟩
      obtain ⟨hlength, rfl⟩ := hok
      exact ⟨hlength, rfl⟩

instance : SoundElement NodeId where
  wellFormed _ _ h := (NodeId.of_decode h).1

instance : Element.Compact NodeId 0 where
  length_le _ _ h := (NodeId.of_decode h).2.le

namespace UpFunctionFeatures

/-- The features that are left when they have been written. -/
def written (f : UpFunctionFeatures) : UpFunctionFeatures :=
  ⟨UInt64.ofNat (f.bits.toNat / 65536 * 65536)⟩

theorem toNat_written (f : UpFunctionFeatures) :
    f.written.bits.toNat = f.bits.toNat / 65536 * 65536 := by
  have hbits : f.bits.toNat < 18446744073709551616 := f.bits.toNat_lt
  rw [written, UInt64.toNat_ofNat']
  exact Nat.mod_eq_of_lt (by omega)

theorem wellFormed_written (f : UpFunctionFeatures) : f.written.WellFormed := by
  unfold WellFormed
  rw [toNat_written]
  exact Nat.mul_mod_left _ _

/-- Nothing is lost if and only if the last two octets are clear. -/
theorem written_eq_self_iff (f : UpFunctionFeatures) :
    f.written = f ↔ f.bits.toNat % 65536 = 0 := by
  have hnat : f.written = f ↔ f.written.bits.toNat = f.bits.toNat :=
    ⟨fun h => by rw [h], fun h => congrArg UpFunctionFeatures.mk (UInt64.toNat_inj.mp h)⟩
  rw [hnat, toNat_written]
  omega

/-- What is written of the features is all that was left of them. -/
theorem payload_written (f : UpFunctionFeatures) :
    Element.payload f.written = Element.payload f := by
  have hfront (v : Nat) : (Octets.ofNat 8 v).take 6 = Octets.ofNat 6 (v / 65536) := by
    rw [Octets.ofNat_add_two 6, List.take_left' (Octets.length_ofNat 6 _)]
  show (Octets.ofNat 8 _).take 6 = (Octets.ofNat 8 _).take 6
  rw [hfront, hfront, toNat_written, Nat.mul_div_cancel _ (by decide)]

end UpFunctionFeatures

/-- Two octets may be what a peer sends of the six that are written. -/
instance : Element.Compact UpFunctionFeatures 4 where
  length_le bs f h := by
    have hpayload : (Element.payload f).length = 6 := by simp [Element.payload]
    have h : (if bs.length < 2 then Except.error (WireFault.tooShort 2 bs.length) else _) =
      Except.ok f := h
    rw [hpayload]
    by_cases hshort : bs.length < 2
    · rw [if_pos hshort] at h
      cases h
    · omega

/-! ## §3. Values read field by field. -/

/-- A kind of element that is read from octets which begin with its writing. -/
theorem Element.Compact.of_front {α : Type} [Element α]
    (h : ∀ (bs : Octets) (a : α), Element.decode bs = .ok a →
      ∃ rest, bs = Element.payload a ++ rest) :
    Element.Compact α 0 where
  length_le bs a hdecode := by
    obtain ⟨rest, rfl⟩ := h bs a hdecode
    rw [List.length_append]
    omega

/-- A kind of element that is one field. -/
theorem Element.Compact.of_field {α β : Type} [Element α] {r : Reader β} {write : β → Octets}
    {make : β → α} (hspells : r.Spells write)
    (hdecode : ∀ bs : Octets, Element.decode bs = Reader.decode (do return make (← r)) bs)
    (hpayload : ∀ b, Element.payload (make b) = write b) : Element.Compact α 0 :=
  .of_front fun bs a h => by
    rw [hdecode] at h
    obtain ⟨rest, hrun⟩ := Reader.run_of_decode h
    obtain ⟨b, bs', hb, hmake⟩ := Reader.run_bind_eq_ok hrun
    cases hmake
    exact ⟨rest, by rw [hpayload, hspells hb]⟩

instance : Element.Compact RecoveryTimeStamp 0 :=
  .of_field (Reader.spells_u32 "Recovery Time Stamp") (fun _ => rfl) fun _ => rfl

instance : Element.Compact GateStatus 0 :=
  .of_field (Reader.spells_u8 "Gate Status") (fun _ => rfl) fun _ => rfl

instance : Element.Compact Qfi 0 :=
  .of_field (Reader.spells_u8 "QFI") (fun _ => rfl) fun _ => rfl

/-- Five octets spell a number below 2^40. -/
theorem toNat_ofNat_five {bs : Octets} (h : bs.length = 5) :
    (UInt64.ofNat bs.toNat).toNat = bs.toNat ∧ bs.toNat < 1099511627776 := by
  have hlt : bs.toNat < Octets.bound 5 := h ▸ Octets.toNat_lt bs
  have hlt : bs.toNat < 1099511627776 := hlt
  refine ⟨?_, hlt⟩
  rw [UInt64.toNat_ofNat']
  exact Nat.mod_eq_of_lt (by omega)

/-- Rates come from five octets each, and are written in them again. -/
theorem Mbr.of_decode {bs : Octets} {r : Mbr} (h : Element.decode bs = .ok r) :
    r.WellFormed ∧ ∃ rest, bs = Element.payload r ++ rest := by
  obtain ⟨rest, hrun⟩ := Reader.run_of_decode h
  obtain ⟨uplink, bs₁, huplink, hrun⟩ := Reader.run_bind_eq_ok hrun
  obtain ⟨downlink, bs₂, hdownlink, hrun⟩ := Reader.run_bind_eq_ok hrun
  cases hrun
  obtain ⟨hup, rfl⟩ := Reader.take_eq_ok huplink
  obtain ⟨hdown, rfl⟩ := Reader.take_eq_ok hdownlink
  obtain ⟨hupNat, hupLt⟩ := toNat_ofNat_five hup
  obtain ⟨hdownNat, hdownLt⟩ := toNat_ofNat_five hdown
  refine ⟨⟨by rwa [hupNat], by rwa [hdownNat]⟩, rest, ?_⟩
  show _ = Octets.ofNat 5 _ ++ Octets.ofNat 5 _ ++ rest
  rw [hupNat, hdownNat, ← hup, Octets.ofNat_toNat, hup, ← hdown, Octets.ofNat_toNat,
    List.append_assoc]

instance : SoundElement Mbr where
  wellFormed _ _ h := (Mbr.of_decode h).1

instance : Element.Compact Mbr 0 := .of_front fun _ _ h => (Mbr.of_decode h).2

/-- A tunnel end is read with the parts that its flags announce, and written as it was read. -/
theorem FTeid.of_decode {bs : Octets} {t : FTeid} (h : Element.decode bs = .ok t) :
    t.WellFormed ∧ ∃ rest, bs = Element.payload t ++ rest := by
  obtain ⟨rest, hrun⟩ := Reader.run_of_decode h
  obtain ⟨flags, bs₁, hflags, hrun⟩ := Reader.run_bind_eq_ok hrun
  obtain ⟨teid, bs₂, hteid, hrun⟩ := Reader.run_bind_eq_ok hrun
  obtain ⟨ipv4, bs₃, hipv4, hrun⟩ := Reader.run_bind_eq_ok hrun
  obtain ⟨ipv6, bs₄, hipv6, hrun⟩ := Reader.run_bind_eq_ok hrun
  obtain ⟨chooseId, bs₅, hchooseId, hrun⟩ := Reader.run_bind_eq_ok hrun
  cases hrun
  refine ⟨⟨(Reader.isSome_of_run_present hteid).symm, (Reader.isSome_of_run_present hipv4).symm,
    (Reader.isSome_of_run_present hipv6).symm, (Reader.isSome_of_run_present hchooseId).symm⟩,
    rest, ?_⟩
  rw [Reader.spells_u8 _ hflags, (Reader.spells_u32 _).present _ hteid,
    (Reader.spells_ipv4 _).present _ hipv4, (Reader.spells_ipv6 _).present _ hipv6,
    (Reader.spells_u8 _).present _ hchooseId]
  simp [Element.payload]

instance : SoundElement FTeid where
  wellFormed _ _ h := (FTeid.of_decode h).1

instance : Element.Compact FTeid 0 := .of_front fun _ _ h => (FTeid.of_decode h).2

/-- An address is read with the parts that its flags announce, and written as it was read. -/
theorem UeIpAddress.of_decode {bs : Octets} {a : UeIpAddress} (h : Element.decode bs = .ok a) :
    a.WellFormed ∧ ∃ rest, bs = Element.payload a ++ rest := by
  obtain ⟨rest, hrun⟩ := Reader.run_of_decode h
  obtain ⟨flags, bs₁, hflags, hrun⟩ := Reader.run_bind_eq_ok hrun
  obtain ⟨ipv4, bs₂, hipv4, hrun⟩ := Reader.run_bind_eq_ok hrun
  obtain ⟨ipv6, bs₃, hipv6, hrun⟩ := Reader.run_bind_eq_ok hrun
  obtain ⟨bits, bs₄, hbits, hrun⟩ := Reader.run_bind_eq_ok hrun
  obtain ⟨length, bs₅, hlength, hrun⟩ := Reader.run_bind_eq_ok hrun
  cases hrun
  refine ⟨⟨(Reader.isSome_of_run_present hipv4).symm, (Reader.isSome_of_run_present hipv6).symm,
    (Reader.isSome_of_run_present hbits).symm, (Reader.isSome_of_run_present hlength).symm⟩,
    rest, ?_⟩
  rw [Reader.spells_u8 _ hflags, (Reader.spells_ipv4 _).present _ hipv4,
    (Reader.spells_ipv6 _).present _ hipv6, (Reader.spells_u8 _).present _ hbits,
    (Reader.spells_u8 _).present _ hlength]
  simp [Element.payload]

instance : SoundElement UeIpAddress where
  wellFormed _ _ h := (UeIpAddress.of_decode h).1

instance : Element.Compact UeIpAddress 0 := .of_front fun _ _ h => (UeIpAddress.of_decode h).2

/-- A header is read with the parts that its flags announce, and written as it was read. -/
theorem OuterHeaderCreation.of_decode {bs : Octets} {c : OuterHeaderCreation}
    (h : Element.decode bs = .ok c) : c.WellFormed ∧ ∃ rest, bs = Element.payload c ++ rest := by
  obtain ⟨rest, hrun⟩ := Reader.run_of_decode h
  obtain ⟨description, bs₁, hdescription, hrun⟩ := Reader.run_bind_eq_ok hrun
  obtain ⟨teid, bs₂, hteid, hrun⟩ := Reader.run_bind_eq_ok hrun
  obtain ⟨ipv4, bs₃, hipv4, hrun⟩ := Reader.run_bind_eq_ok hrun
  obtain ⟨ipv6, bs₄, hipv6, hrun⟩ := Reader.run_bind_eq_ok hrun
  obtain ⟨port, bs₅, hport, hrun⟩ := Reader.run_bind_eq_ok hrun
  obtain ⟨cTag, bs₆, hcTag, hrun⟩ := Reader.run_bind_eq_ok hrun
  obtain ⟨sTag, bs₇, hsTag, hrun⟩ := Reader.run_bind_eq_ok hrun
  cases hrun
  refine ⟨⟨(Reader.isSome_of_run_present hteid).symm, (Reader.isSome_of_run_present hipv4).symm,
    (Reader.isSome_of_run_present hipv6).symm, (Reader.isSome_of_run_present hport).symm,
    (Reader.isSome_of_run_present hcTag).symm, (Reader.isSome_of_run_present hsTag).symm⟩,
    rest, ?_⟩
  rw [Reader.spells_u16 _ hdescription, (Reader.spells_u32 _).present _ hteid,
    (Reader.spells_ipv4 _).present _ hipv4, (Reader.spells_ipv6 _).present _ hipv6,
    (Reader.spells_u16 _).present _ hport, (Reader.spells_three _).present _ hcTag,
    (Reader.spells_three _).present _ hsTag]
  simp [Element.payload]

instance : SoundElement OuterHeaderCreation where
  wellFormed _ _ h := (OuterHeaderCreation.of_decode h).1

instance : Element.Compact OuterHeaderCreation 0 :=
  .of_front fun _ _ h => (OuterHeaderCreation.of_decode h).2

/-- The flags are worked out anew, the rest is written as it was read. -/
instance : Element.Compact FSeid 0 where
  length_le bs s h := by
    obtain ⟨rest, hrun⟩ := Reader.run_of_decode h
    obtain ⟨flags, bs₁, hflags, hrun⟩ := Reader.run_bind_eq_ok hrun
    obtain ⟨seid, bs₂, hseid, hrun⟩ := Reader.run_bind_eq_ok hrun
    obtain ⟨ipv4, bs₃, hipv4, hrun⟩ := Reader.run_bind_eq_ok hrun
    obtain ⟨ipv6, bs₄, hipv6, hrun⟩ := Reader.run_bind_eq_ok hrun
    cases hrun
    rw [Reader.spells_u8 _ hflags, Reader.spells_u64 _ hseid,
      (Reader.spells_ipv4 _).present _ hipv4, (Reader.spells_ipv6 _).present _ hipv6]
    simp [Element.payload]

/-- So it is with filters, behind the flags and a spare octet. -/
instance : Element.Compact SdfFilter 0 where
  length_le bs f h := by
    obtain ⟨rest, hrun⟩ := Reader.run_of_decode h
    obtain ⟨flags, bs₁, hflags, hrun⟩ := Reader.run_bind_eq_ok hrun
    obtain ⟨description, bs₂, hdescription, hrun⟩ := Reader.run_bind_eq_ok hrun
    obtain ⟨trafficClass, bs₃, htrafficClass, hrun⟩ := Reader.run_bind_eq_ok hrun
    obtain ⟨parameter, bs₄, hparameter, hrun⟩ := Reader.run_bind_eq_ok hrun
    obtain ⟨label, bs₅, hlabel, hrun⟩ := Reader.run_bind_eq_ok hrun
    obtain ⟨number, bs₆, hnumber, hrun⟩ := Reader.run_bind_eq_ok hrun
    cases hrun
    obtain ⟨hlength, rfl⟩ := Reader.take_eq_ok hflags
    rw [(Reader.spells_text _).present _ hdescription,
      (Reader.spells_u16 _).present _ htrafficClass, (Reader.spells_u32 _).present _ hparameter,
      (Reader.spells_three _).present _ hlabel, (Reader.spells_u32 _).present _ hnumber]
    simp [Element.payload, SdfFilter.octets, hlength]
    omega

end UserPlane
