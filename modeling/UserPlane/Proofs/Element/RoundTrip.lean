/-
  UserPlane.Proofs.Element.RoundTrip
  ──────────────────────────────────
  **EVERY KIND OF ELEMENT READS BACK WHAT IT WRITES.**

  A value with optional parts is well formed when it has exactly the parts that
  its flags announce; some numbers must leave the bits clear that have no place
  on the wire.  Every other value is well formed:

      NodeId.WellFormed                octets of the length its kind asks for
      UpFunctionFeatures.WellFormed    the last two octets unused
      Mbr.WellFormed                   rates below 2^40
      FTeid.WellFormed, UeIpAddress.WellFormed, OuterHeaderCreation.WellFormed
                                       parts as announced

  A filter and an F-SEID work their flags out from their parts, which is why
  they need no condition.  Each instance of `LawfulElement` follows the octets
  of its kind field by field.
-/
import UserPlane.Element.Cause
import UserPlane.Element.FTeid
import UserPlane.Element.Interface
import UserPlane.Element.NodeFacts
import UserPlane.Element.NodeId
import UserPlane.Element.OuterHeader
import UserPlane.Element.RuleId
import UserPlane.Element.SdfFilter
import UserPlane.Element.Treatment
import UserPlane.Element.UeIpAddress
import UserPlane.Proofs.Wire.RoundTrip

namespace UserPlane

/-! ## §1. Codes and numbers of fixed width. -/

instance : HasWellFormed Cause where

instance : LawfulElement Cause where
  decode_payload c _ _ := Coded.decode_code "Self" c

instance : HasWellFormed SourceInterface where

instance : LawfulElement SourceInterface where
  decode_payload i _ _ := by cases i <;> rfl

instance : HasWellFormed DestinationInterface where

instance : LawfulElement DestinationInterface where
  decode_payload i _ _ := by cases i <;> rfl

instance : HasWellFormed NetworkInstance where

instance : LawfulElement NetworkInstance where
  decode_payload _ _ _ := rfl

instance : HasWellFormed RecoveryTimeStamp where

instance : LawfulElement RecoveryTimeStamp where
  decode_payload t _ _ := by
    have hread := Reader.run_u32 "Recovery Time Stamp" t.timestamp []
    rw [List.append_nil] at hread
    exact Reader.decode_of_run (Reader.run_then hread)

/-- A value that is a 16-bit number and nothing else. -/
theorem decode_number16 {α : Type} (field : String) (v : UInt16) (make : UInt16 → α) :
    (do Reader.exactly 2 (be16 v)
        return make (← (Reader.u16 field).decode (be16 v)) : Decoded α) = .ok (make v) := by
  have hread := Reader.run_u16 field v []
  rw [List.append_nil] at hread
  rw [Reader.exactly, if_pos (length_be16 v), Reader.decode_of_run hread]
  rfl

/-- A value that is a 32-bit number and nothing else. -/
theorem decode_number32 {α : Type} (field : String) (v : UInt32) (make : UInt32 → α) :
    (do Reader.exactly 4 (be32 v)
        return make (← (Reader.u32 field).decode (be32 v)) : Decoded α) = .ok (make v) := by
  have hread := Reader.run_u32 field v []
  rw [List.append_nil] at hread
  rw [Reader.exactly, if_pos (length_be32 v), Reader.decode_of_run hread]
  rfl

instance : HasWellFormed PdrId where

instance : LawfulElement PdrId where
  decode_payload r _ _ := decode_number16 "PDR ID" r.ruleId PdrId.mk

instance : HasWellFormed Precedence where

instance : LawfulElement Precedence where
  decode_payload p _ _ := decode_number32 "Precedence" p.precedence Precedence.mk

instance : HasWellFormed FarId where

instance : LawfulElement FarId where
  decode_payload r _ _ := decode_number32 "FAR ID" r.ruleId FarId.mk

instance : HasWellFormed QerId where

instance : LawfulElement QerId where
  decode_payload r _ _ := decode_number32 "QER ID" r.ruleId QerId.mk

instance : HasWellFormed TransportLevelMarking where

instance : LawfulElement TransportLevelMarking where
  decode_payload m _ _ :=
    decode_number16 "Transport Level Marking" m.value TransportLevelMarking.mk

instance : HasWellFormed GateStatus where

instance : LawfulElement GateStatus where
  decode_payload _ _ _ := rfl

instance : HasWellFormed Qfi where

instance : LawfulElement Qfi where
  decode_payload _ _ _ := rfl

instance : HasWellFormed ApplyAction where

instance : LawfulElement ApplyAction where
  decode_payload a _ _ := by
    have hbits : UInt16.ofNat (Octets.toNat (be16 a.bits)) = a.bits := by simp
    rw [be16, Octets.ofNat, Octets.ofNat, Octets.ofNat] at hbits
    exact congrArg (fun bits => Except.ok (ApplyAction.mk bits)) hbits

/-! ## §2. Names, features and rates. -/

/-- The octets are of the length that their kind asks for. -/
def NodeId.WellFormed (n : NodeId) : Prop := n.lengthOk = true

instance : HasWellFormed NodeId where
  WellFormed := NodeId.WellFormed

/-- A well-formed id reads back, however long it is. -/
theorem NodeId.read_payload {n : NodeId} (hwf : n.WellFormed) :
    NodeId.read (Element.payload n) = .ok n := by
  have hok : n.lengthOk = true := hwf
  have hkind : Coded.decode "NodeIdType" (Coded.code n.kind &&& 0x0F) = .ok n.kind := by
    cases n.kind <;> rfl
  show NodeId.read (Coded.code n.kind :: n.octets) = .ok n
  obtain ⟨kind, octets⟩ := n
  simp only [NodeId.read, Reader.run_u8, bind, Except.bind, hkind]
  cases kind with
  | ipv4 =>
    have hlength : octets.length = 4 := by simpa [NodeId.lengthOk] using hok
    simp only [Reader.exactly, if_pos hlength]
    rfl
  | ipv6 =>
    have hlength : octets.length = 16 := by simpa [NodeId.lengthOk] using hok
    simp only [Reader.exactly, if_pos hlength]
    rfl
  | fqdn =>
    have hsome : octets.isEmpty = false := by simpa [NodeId.lengthOk] using hok
    simp only [hsome]
    rfl

instance : LawfulElement NodeId where
  decode_payload _ hwf _ := NodeId.read_payload hwf

/-- The two octets that are not written are clear. -/
def UpFunctionFeatures.WellFormed (f : UpFunctionFeatures) : Prop := f.bits.toNat % 65536 = 0

instance : HasWellFormed UpFunctionFeatures where
  WellFormed := UpFunctionFeatures.WellFormed

/-- The first octets of a longer writing. -/
theorem Octets.ofNat_add_two (n v : Nat) :
    Octets.ofNat (n + 2) v = Octets.ofNat n (v / 65536) ++ Octets.ofNat 2 v := by
  induction n with
  | zero => rfl
  | succ n ih =>
    have hbound : Octets.bound (n + 2) = 65536 * Octets.bound n := by
      rw [Octets.bound_succ, Octets.bound_succ, Nat.mul_assoc, Nat.mul_comm]
    show UInt8.ofNat (v / Octets.bound (n + 2)) :: Octets.ofNat (n + 2) v = _
    rw [ih, hbound, ← Nat.div_div_eq_div_mul]
    rfl

instance : LawfulElement UpFunctionFeatures where
  decode_payload f hwf _ := by
    have hclear : Octets.ofNat 2 f.bits.toNat = [0, 0] := by
      have hwf : f.bits.toNat % 65536 = 0 := hwf
      have hhigh : f.bits.toNat / 256 % 256 = 0 := by omega
      have hlow : f.bits.toNat % 256 = 0 := by omega
      simp [Octets.ofNat, Octets.bound, ← UInt8.toNat_inj, hhigh, hlow]
    have hoctets : be64 f.bits = Octets.ofNat 6 (f.bits.toNat / 65536) ++ [0, 0] := by
      rw [be64, Octets.ofNat_add_two 6, hclear]
    have hwritten : Element.payload f = Octets.ofNat 6 (f.bits.toNat / 65536) := by
      show (be64 f.bits).take 6 = _
      rw [hoctets, List.take_left' (Octets.length_ofNat 6 _)]
    have hread : UInt64.ofNat (Octets.toNat (Octets.ofNat 6 (f.bits.toNat / 65536) ++ [0, 0]))
        = f.bits := by
      rw [← hoctets]
      simp
    rw [hwritten]
    simp only [Element.decode, Octets.length_ofNat]
    rw [List.take_of_length_le (by simp)]
    exact congrArg (fun bits => Except.ok (UpFunctionFeatures.mk bits)) hread

/-- Rates that 40 bits can hold. -/
structure Mbr.WellFormed (r : Mbr) : Prop where
  uplink : r.uplink.toNat < 1099511627776
  downlink : r.downlink.toNat < 1099511627776

instance : HasWellFormed Mbr where
  WellFormed := Mbr.WellFormed

/-- A number below 2^40 comes back from five octets. -/
theorem ofNat_toNat_five {v : UInt64} (h : v.toNat < 1099511627776) :
    UInt64.ofNat (Octets.toNat (Octets.ofNat 5 v.toNat)) = v := by
  have hmod : v.toNat % Octets.bound 5 = v.toNat := Nat.mod_eq_of_lt h
  rw [Octets.toNat_ofNat, hmod]
  simp

instance : LawfulElement Mbr where
  decode_payload r hwf _ := by
    have hwf : Mbr.WellFormed r := hwf
    refine Reader.decode_of_run ?_
    show StateT.run _ (Octets.ofNat 5 r.uplink.toNat ++ Octets.ofNat 5 r.downlink.toNat) = _
    rw [← List.append_nil (Octets.ofNat 5 r.downlink.toNat)]
    refine (Reader.run_then (Reader.run_take _ _ (Octets.length_ofNat 5 _))).trans ?_
    refine (Reader.run_then (Reader.run_take _ _ (Octets.length_ofNat 5 _))).trans ?_
    rw [ofNat_toNat_five hwf.uplink, ofNat_toNat_five hwf.downlink]
    rfl

/-! ## §3. Values that announce their parts by flags. -/

/-- A session number comes with the addresses that its flags, worked out from them, announce. -/
instance : HasWellFormed FSeid where

instance : LawfulElement FSeid where
  decode_payload s _ _ := by
    have hv4 : (BitField.flag "V4" 1).isSet s.flags.toNat = s.ipv4.isSome := by
      unfold FSeid.flags
      cases s.ipv4.isSome <;> cases s.ipv6.isSome <;> rfl
    have hv6 : (BitField.flag "V6" 0).isSet s.flags.toNat = s.ipv6.isSome := by
      unfold FSeid.flags
      cases s.ipv4.isSome <;> cases s.ipv6.isSome <;> rfl
    have hpayload : Element.payload s = s.flags :: (be64 s.seid
        ++ (optionalBytes Ipv4.octets s.ipv4 ++ (optionalBytes Ipv6.octets s.ipv6 ++ []))) := by
      simp [Element.payload]
    rw [hpayload]
    refine Reader.decode_of_run ?_
    refine (Reader.run_then (Reader.run_u8 _ _ _)).trans ?_
    refine (Reader.run_then (Reader.run_u64 _ _ _)).trans ?_
    refine (Reader.run_then (Reader.run_present hv4 (Reader.run_ipv4 _))).trans ?_
    refine (Reader.run_then (Reader.run_present hv6 (Reader.run_ipv6 _))).trans ?_
    rfl

/-- The parts are there that the flags announce: a node that is to choose is told neither id
nor addresses. -/
structure FTeid.WellFormed (t : FTeid) : Prop where
  teid : (!t.isChoose) = t.teid.isSome
  ipv4 : (FTeid.v4.isSet t.flags.toNat && !t.isChoose) = t.ipv4.isSome
  ipv6 : (FTeid.v6.isSet t.flags.toNat && !t.isChoose) = t.ipv6.isSome
  chooseId : FTeid.chid.isSet t.flags.toNat = t.chooseId.isSome

instance : HasWellFormed FTeid where
  WellFormed := FTeid.WellFormed

instance : LawfulElement FTeid where
  decode_payload t hwf _ := by
    have hwf : FTeid.WellFormed t := hwf
    have hpayload : Element.payload t = t.flags :: (optionalBytes be32 t.teid
        ++ (optionalBytes Ipv4.octets t.ipv4 ++ (optionalBytes Ipv6.octets t.ipv6
        ++ (optionalBytes (fun id => [id]) t.chooseId ++ [])))) := by
      simp [Element.payload]
    rw [hpayload]
    refine Reader.decode_of_run ?_
    refine (Reader.run_then (Reader.run_u8 _ _ _)).trans ?_
    refine (Reader.run_then (Reader.run_present hwf.teid (Reader.run_u32 _))).trans ?_
    refine (Reader.run_then (Reader.run_present hwf.ipv4 (Reader.run_ipv4 _))).trans ?_
    refine (Reader.run_then (Reader.run_present hwf.ipv6 (Reader.run_ipv6 _))).trans ?_
    exact Reader.run_then (Reader.run_present_u8 _ hwf.chooseId)

/-- The parts are there that the flags announce, an address only if the node is not to
choose it. -/
structure UeIpAddress.WellFormed (a : UeIpAddress) : Prop where
  ipv4 : (UeIpAddress.v4.isSet a.flags.toNat && !UeIpAddress.chv4.isSet a.flags.toNat)
    = a.ipv4.isSome
  ipv6 : (UeIpAddress.v6.isSet a.flags.toNat && !UeIpAddress.chv6.isSet a.flags.toNat)
    = a.ipv6.isSome
  prefixDelegationBits : UeIpAddress.ipv6d.isSet a.flags.toNat = a.prefixDelegationBits.isSome
  prefixLength : UeIpAddress.ip6pl.isSet a.flags.toNat = a.prefixLength.isSome

instance : HasWellFormed UeIpAddress where
  WellFormed := UeIpAddress.WellFormed

instance : LawfulElement UeIpAddress where
  decode_payload a hwf _ := by
    have hwf : UeIpAddress.WellFormed a := hwf
    have hpayload : Element.payload a = a.flags :: (optionalBytes Ipv4.octets a.ipv4
        ++ (optionalBytes Ipv6.octets a.ipv6
        ++ (optionalBytes (fun b => [b]) a.prefixDelegationBits
        ++ (optionalBytes (fun b => [b]) a.prefixLength ++ [])))) := by
      simp [Element.payload]
    rw [hpayload]
    refine Reader.decode_of_run ?_
    refine (Reader.run_then (Reader.run_u8 _ _ _)).trans ?_
    refine (Reader.run_then (Reader.run_present hwf.ipv4 (Reader.run_ipv4 _))).trans ?_
    refine (Reader.run_then (Reader.run_present hwf.ipv6 (Reader.run_ipv6 _))).trans ?_
    refine (Reader.run_then (Reader.run_present_u8 _ hwf.prefixDelegationBits)).trans ?_
    exact Reader.run_then (Reader.run_present_u8 _ hwf.prefixLength)

/-- Whether a flag of the description is set. -/
def OuterHeaderCreation.has (h : OuterHeaderCreation) (f : BitField) : Bool :=
  f.isSet h.description.toNat

/-- The parts are there that the flags announce, each by one of several. -/
structure OuterHeaderCreation.WellFormed (h : OuterHeaderCreation) : Prop where
  teid : (h.has gtpUdpIpv4 || h.has gtpUdpIpv6) = h.teid.isSome
  ipv4 : (h.has gtpUdpIpv4 || h.has udpIpv4 || h.has plainIpv4) = h.ipv4.isSome
  ipv6 : (h.has gtpUdpIpv6 || h.has udpIpv6 || h.has plainIpv6) = h.ipv6.isSome
  port : (h.has udpIpv6 || h.has udpIpv4) = h.port.isSome
  cTag : h.has customerTag = h.cTag.isSome
  sTag : h.has serviceTag = h.sTag.isSome

instance : HasWellFormed OuterHeaderCreation where
  WellFormed := OuterHeaderCreation.WellFormed

instance : LawfulElement OuterHeaderCreation where
  decode_payload h hwf _ := by
    have hwf : OuterHeaderCreation.WellFormed h := hwf
    have hpayload : Element.payload h = be16 h.description ++ (optionalBytes be32 h.teid
        ++ (optionalBytes Ipv4.octets h.ipv4 ++ (optionalBytes Ipv6.octets h.ipv6
        ++ (optionalBytes be16 h.port ++ (optionalBytes octets3 h.cTag
        ++ (optionalBytes octets3 h.sTag ++ [])))))) := by
      simp [Element.payload]
    rw [hpayload]
    refine Reader.decode_of_run ?_
    refine (Reader.run_then (Reader.run_u16 _ _ _)).trans ?_
    refine (Reader.run_then (Reader.run_present hwf.teid (Reader.run_u32 _))).trans ?_
    refine (Reader.run_then (Reader.run_present hwf.ipv4 (Reader.run_ipv4 _))).trans ?_
    refine (Reader.run_then (Reader.run_present hwf.ipv6 (Reader.run_ipv6 _))).trans ?_
    refine (Reader.run_then (Reader.run_present hwf.port (Reader.run_u16 _))).trans ?_
    refine (Reader.run_then (Reader.run_present hwf.cTag (Reader.run_three _))).trans ?_
    exact Reader.run_then (Reader.run_present hwf.sTag (Reader.run_three _))

/-- Which extension headers are deleted is read if any octet is left. -/
instance : HasWellFormed OuterHeaderRemoval where

instance : LawfulElement OuterHeaderRemoval where
  decode_payload r _ _ := by
    obtain ⟨header, extensionDeletion⟩ := r
    cases header <;> cases extensionDeletion <;> rfl

/-! ## §4. Filters. -/

/-- A filter's flags follow from its parts. -/
instance : HasWellFormed SdfFilter where

namespace SdfFilter

/-- The flag of each part is set exactly when the part is there. -/
theorem flags_spec (f : SdfFilter) :
    fd.isSet (UInt8.ofNat f.flags).toNat = f.flowDescription.isSome
      ∧ ttc.isSet (UInt8.ofNat f.flags).toNat = f.tosTrafficClass.isSome
      ∧ spi.isSet (UInt8.ofNat f.flags).toNat = f.securityParameterIndex.isSome
      ∧ fl.isSet (UInt8.ofNat f.flags).toNat = f.flowLabel.isSome
      ∧ bid.isSet (UInt8.ofNat f.flags).toNat = f.filterId.isSome := by
  unfold flags
  generalize f.flowDescription.isSome = b₀
  generalize f.tosTrafficClass.isSome = b₁
  generalize f.securityParameterIndex.isSome = b₂
  generalize f.flowLabel.isSome = b₃
  generalize f.filterId.isSome = b₄
  revert b₀ b₁ b₂ b₃ b₄
  decide

/-- A text is not longer than the filter that holds it. -/
theorem length_encode_lt {f : SdfFilter} {s : String} (h : f.flowDescription = some s) :
    (Utf8.encode s).length < f.octets.length := by
  simp [octets, h, optionalBytes, textOctets]
  omega

end SdfFilter

instance : LawfulElement SdfFilter where
  decode_payload f _ hlength := by
    obtain ⟨hfd, httc, hspi, hfl, hbid⟩ := f.flags_spec
    have hpayload : Element.payload f = [UInt8.ofNat f.flags, 0]
        ++ (optionalBytes textOctets f.flowDescription
        ++ (optionalBytes be16 f.tosTrafficClass ++ (optionalBytes be32 f.securityParameterIndex
        ++ (optionalBytes octets3 f.flowLabel ++ (optionalBytes be32 f.filterId ++ []))))) := by
      simp [Element.payload, SdfFilter.octets]
    have htext : ∀ s ∈ f.flowDescription, (Utf8.encode s).length < 65536 := by
      intro s hs
      have hlt := SdfFilter.length_encode_lt hs
      have hlength : f.octets.length < 65532 := hlength
      omega
    rw [hpayload]
    refine Reader.decode_of_run ?_
    have hflags : [UInt8.ofNat f.flags, 0].length = 2 := rfl
    refine (Reader.run_then (Reader.run_take _ _ hflags)).trans ?_
    refine (Reader.run_then (Reader.run_present_text _ hfd htext)).trans ?_
    refine (Reader.run_then (Reader.run_present httc (Reader.run_u16 _))).trans ?_
    refine (Reader.run_then (Reader.run_present hspi (Reader.run_u32 _))).trans ?_
    refine (Reader.run_then (Reader.run_present hfl (Reader.run_three _))).trans ?_
    exact Reader.run_then (Reader.run_present hbid (Reader.run_u32 _))
  fits f _ hlength := lengthFits_of_lt hlength

end UserPlane
