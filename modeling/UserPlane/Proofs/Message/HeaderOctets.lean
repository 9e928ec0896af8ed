/-
  UserPlane.Proofs.Message.HeaderOctets
  ─────────────────────────────────────
  **THE OCTETS OF A HEADER, ONE BY ONE.**

  What the first four octets of a message announce is said here by their bits
  alone.  By these, and by how many octets there are, it is decided whether a
  message can be cut off, and where its body begins and ends:

      Framed                      what octets need for a message to be cut off
      CutAt                       where they are cut, and what the header is then
      run_readFields_eq_ok_iff    the fields behind the length, octet by octet
      encode_ofFields             the fields are written as they were read
      decode_exact                exactly framed octets are cut, where they announce

  The last octet of a header is the only one of which something is lost: only
  its high half is a priority, and it is nothing where no priority is given.
-/
import UserPlane.Proofs.Message.Framing
import UserPlane.Proofs.Wire.Rereading

namespace UserPlane

namespace Header

/-! ## §1. What the first four octets announce. -/

/-- The flags: the first octet. -/
def flagsOf (bs : Octets) : Nat := (bs.headD 0).toNat

/-- The version: the three highest bits of the flags. -/
def versionOf (bs : Octets) : Nat := flagsOf bs / 32

/-- Whether the number of a session is announced: the lowest bit of the flags. -/
def hasSeid (bs : Octets) : Bool := flagsOf bs % 2 == 1

/-- Whether a priority is announced: the lowest bit of the flags but one. -/
def hasPriority (bs : Octets) : Bool := flagsOf bs / 2 % 2 == 1

/-- The length: the number that the third octet and the fourth one spell. -/
def lengthOf (bs : Octets) : Nat := Octets.toNat ((bs.drop 2).take 2)

/-- The octets of the header that the length counts. -/
def counted (bs : Octets) : Nat := if hasSeid bs then 12 else 4

/-- **A message can be cut off the front**: the four octets are there, they are of
version 1, as many follow as they announce, and these hold the rest of the header. -/
structure Framed (bs : Octets) : Prop where
  four : 4 ≤ bs.length
  version : versionOf bs = 1
  whole : lengthOf bs ≤ bs.length - 4
  room : counted bs ≤ lengthOf bs

theorem version_get (b : UInt8) : version.get b.toNat = b.toNat / 32 := by
  have hlt : b.toNat < 256 := b.toNat_lt
  show b.toNat / 32 % 8 = b.toNat / 32
  omega

theorem withSeid_isSet (b : UInt8) : withSeid.isSet b.toNat = (b.toNat % 2 == 1) := by
  show (b.toNat / 1 % 2 != 0) = (b.toNat % 2 == 1)
  rw [Nat.div_one]
  rcases Nat.mod_two_eq_zero_or_one b.toNat with h | h <;> rw [h] <;> rfl

theorem withPriority_isSet (b : UInt8) :
    withPriority.isSet b.toNat = (b.toNat / 2 % 2 == 1) := by
  show (b.toNat / 2 % 2 != 0) = (b.toNat / 2 % 2 == 1)
  rcases Nat.mod_two_eq_zero_or_one (b.toNat / 2) with h | h <;> rw [h] <;> rfl

/-! ## §2. The fields behind the length. -/

/-- The header with these fields, of which `number` spells the sequence number. -/
def ofFields (flags type : UInt8) (length : UInt16) (seid : Option UInt64) (number : Octets)
    (last : UInt8) : Header :=
  { flags, type, length, seid, sequence := UInt32.ofNat (Octets.toNat number),
    priority := if withPriority.isSet flags.toNat then some (last >>> 4) else none }

/-- **The fields behind the length**, octet by octet: the number of a session if it is
announced, three octets of number, one octet, and the body. -/
theorem run_readFields_eq_ok_iff {flags type : UInt8} {length : UInt16} {bs body : Octets}
    {h : Header} : (readFields flags type length).run bs = .ok (h, body)
      ↔ ∃ seid number last, bs = optionalBytes be64 seid ++ (number ++ last :: body)
        ∧ number.length = 3 ∧ seid.isSome = withSeid.isSet flags.toNat
        ∧ h = ofFields flags type length seid number last := by
  constructor
  · intro hrun
    obtain ⟨seid, behind, hseid, hnext⟩ := Reader.run_bind_eq_ok hrun
    obtain ⟨tail, body', htail, hlast⟩ := Reader.run_bind_eq_ok hnext
    cases hlast
    obtain ⟨hfour, rfl⟩ := Reader.take_eq_ok htail
    have hspelt := (Reader.spells_u64 "SEID").present _ hseid
    match tail, hfour with
    | [n₂, n₁, n₀, last], _ =>
      exact ⟨seid, [n₂, n₁, n₀], last, hspelt, rfl, Reader.isSome_of_run_present hseid, rfl⟩
  · rintro ⟨seid, number, last, rfl, hnumber, hseid, rfl⟩
    have hfour : (number ++ [last]).length = 4 := by rw [List.length_append, hnumber]; rfl
    have htail : number ++ last :: body = (number ++ [last]) ++ body := List.append_cons _ _ _
    refine (Reader.run_then (Reader.run_present hseid.symm (Reader.run_u64 _))).trans ?_
    rw [htail]
    refine (Reader.run_then (Reader.run_take _ _ hfour)).trans ?_
    rw [List.take_left' hnumber, List.drop_left' hnumber]
    rfl

/-- Four octets are three of number, and one. -/
theorem exists_number {bs : Octets} (h : 4 ≤ bs.length) :
    ∃ number last body, bs = number ++ last :: body ∧ number.length = 3 := by
  match bs, h with
  | n₂ :: n₁ :: n₀ :: last :: body, _ => exact ⟨[n₂, n₁, n₀], last, body, rfl, rfl⟩

/-- **The fields can be read** exactly if there is room for them. -/
theorem exists_run_readFields_iff (flags type : UInt8) (length : UInt16) (bs : Octets) :
    (∃ p, (readFields flags type length).run bs = .ok p)
      ↔ (if withSeid.isSet flags.toNat then 12 else 4) ≤ bs.length := by
  constructor
  · rintro ⟨⟨h, body⟩, hrun⟩
    obtain ⟨seid, number, last, rfl, hnumber, hseid, -⟩ := run_readFields_eq_ok_iff.mp hrun
    rw [← hseid]
    cases seid <;> simp [optionalBytes, hnumber] <;> omega
  · intro hroom
    by_cases hseid : withSeid.isSet flags.toNat = true
    · -- eight octets for the number of the session
      rw [if_pos hseid] at hroom
      have height : (bs.take 8).length = 8 := by rw [List.length_take]; omega
      have hdrop : 4 ≤ (bs.drop 8).length := by rw [List.length_drop]; omega
      obtain ⟨number, last, body, hbehind, hnumber⟩ := exists_number hdrop
      refine ⟨(_, body), run_readFields_eq_ok_iff.mpr
        ⟨some (UInt64.ofNat (Octets.toNat (bs.take 8))), number, last, ?_, hnumber, hseid.symm,
          rfl⟩⟩
      show bs = be64 _ ++ _
      rw [be64_ofNat height, ← hbehind, List.take_append_drop]
    · rw [if_neg hseid] at hroom
      rw [Bool.not_eq_true] at hseid
      obtain ⟨number, last, body, hbehind, hnumber⟩ := exists_number hroom
      exact ⟨(_, body), run_readFields_eq_ok_iff.mpr
        ⟨none, number, last, hbehind, hnumber, hseid.symm, rfl⟩⟩

/-- The high half of an octet stays where it is when it is read and written. -/
theorem shiftLeft_shiftRight (last : UInt8) : (last >>> 4) <<< 4 = last &&& 0xF0 := by
  obtain ⟨⟨last⟩⟩ := last
  revert last
  decide +kernel

/-- **A header is written as its fields were**, but for the last octet. -/
theorem encode_ofFields (flags type l₁ l₀ last : UInt8) (seid : Option UInt64) {number : Octets}
    (h : number.length = 3) :
    (ofFields flags type (UInt16.ofNat (Octets.toNat [l₁, l₀])) seid number last).encode
      = flags :: type :: l₁ :: l₀ :: (optionalBytes be64 seid ++ (number
        ++ [if withPriority.isSet flags.toNat then last &&& 0xF0 else 0])) := by
  have hlength : be16 (UInt16.ofNat (Octets.toNat [l₁, l₀])) = [l₁, l₀] := be16_ofNat rfl
  have hnumber : Octets.ofNat 3 (UInt32.ofNat (Octets.toNat number)).toNat = number := by
    have hlt : Octets.toNat number < Octets.bound 3 := h ▸ Octets.toNat_lt number
    have hbound : Octets.bound 3 ≤ 4294967296 := by decide
    rw [UInt32.toNat_ofNat', Nat.mod_eq_of_lt (by omega), ← h]
    exact Octets.ofNat_toNat number
  have hlast : (ofFields flags type (UInt16.ofNat (Octets.toNat [l₁, l₀])) seid number
      last).lastOctet = if withPriority.isSet flags.toNat then last &&& 0xF0 else 0 := by
    show (if withPriority.isSet flags.toNat then some (last >>> 4) else none).getD 0 <<< 4 = _
    split
    · exact shiftLeft_shiftRight last
    · rfl
  rw [encode, hlast]
  show flags :: type :: be16 (UInt16.ofNat (Octets.toNat [l₁, l₀])) ++ optionalBytes be64 seid
    ++ Octets.ofNat 3 (UInt32.ofNat (Octets.toNat number)).toNat ++ [_] = _
  rw [hlength, hnumber]
  simp

/-! ## §3. Cutting. -/

/-- The octets of the header, of all that is in front of the body. -/
def headerSize (bs : Octets) : Nat := 4 + counted bs

/-- What is left of the last octet of a header when it is written. -/
def keptOf (bs : Octets) (last : UInt8) : UInt8 := if hasPriority bs then last &&& 0xF0 else 0

/-- **The octets are cut where they announce**: the body is what is behind the header,
up to the announced length, and what follows is left; the number of a session and a
priority are there if they are announced; and the header is written as it was, but
for the low half of its last octet, or all of this octet without a priority. -/
structure CutAt (bs : Octets) (c : Cut) : Prop where
  body : c.body = (bs.take (4 + lengthOf bs)).drop (headerSize bs)
  rest : c.rest = bs.drop (4 + lengthOf bs)
  seid : c.header.seid.isSome = hasSeid bs
  priority : c.header.priority.isSome = hasPriority bs
  encoded : c.header.encode ++ c.body ++ c.rest = bs.modify (headerSize bs - 1) (keptOf bs)

/-- What stands at a place is changed there. -/
theorem modify_append_cons (front : Octets) (b : UInt8) (rest : Octets) (f : UInt8 → UInt8) :
    (front ++ b :: rest).modify front.length f = front ++ f b :: rest := by
  induction front with
  | nil => rfl
  | cons c front ih =>
    show c :: (front ++ b :: rest).modify front.length f = _
    rw [ih]
    rfl

/-- **Cutting a message off, octet by octet.** -/
theorem decode_cons_eq_ok_iff (b₀ b₁ b₂ b₃ : UInt8) (tail : Octets) (c : Cut) :
    decode (b₀ :: b₁ :: b₂ :: b₃ :: tail) = .ok c ↔
      b₀.toNat / 32 = 1 ∧ Octets.toNat [b₂, b₃] ≤ tail.length
        ∧ (readFields b₀ b₁ (UInt16.ofNat (Octets.toNat [b₂, b₃]))).run
            (tail.take (Octets.toNat [b₂, b₃])) = .ok (c.header, c.body)
        ∧ c.rest = tail.drop (Octets.toNat [b₂, b₃]) := by
  have hlength : (announced [b₀, b₁, b₂, b₃]).toNat = Octets.toNat [b₂, b₃] := by
    show (UInt16.ofNat (Octets.toNat [b₂, b₃])).toNat = _
    rw [UInt16.toNat_ofNat', Nat.mod_eq_of_lt (Octets.toNat_pair_lt b₂ b₃)]
  have hfour : [b₀, b₁, b₂, b₃].length = 4 := rfl
  have hfront := decode_front hfour tail c
  rw [hlength] at hfront
  rw [← version_get]
  exact hfront

section Front

variable (b₀ b₁ b₂ b₃ : UInt8) (tail : Octets)

/-- Four octets and what follows are cut exactly if they are framed. -/
theorem exists_decode_cons_iff :
    (∃ c, decode (b₀ :: b₁ :: b₂ :: b₃ :: tail) = .ok c)
      ↔ Framed (b₀ :: b₁ :: b₂ :: b₃ :: tail) := by
  obtain ⟨n, hn⟩ : ∃ n, n = Octets.toNat [b₂, b₃] := ⟨_, rfl⟩
  have hlengthOf : lengthOf (b₀ :: b₁ :: b₂ :: b₃ :: tail) = n := hn.symm
  have hcounted : counted (b₀ :: b₁ :: b₂ :: b₃ :: tail)
      = if withSeid.isSet b₀.toNat then 12 else 4 := by
    rw [withSeid_isSet]
    rfl
  have htotal : (b₀ :: b₁ :: b₂ :: b₃ :: tail).length = tail.length + 4 := rfl
  have hfits (hle : n ≤ tail.length) : (tail.take n).length = n := List.length_take_of_le hle
  simp only [decode_cons_eq_ok_iff, ← hn]
  constructor
  · rintro ⟨c, hversion, hle, hfields, -⟩
    have hroom := (exists_run_readFields_iff _ _ _ _).mp ⟨_, hfields⟩
    rw [hfits hle, ← hcounted] at hroom
    exact ⟨by omega, hversion, by omega, by omega⟩
  · rintro ⟨-, hversion, hwhole, hroom⟩
    have hle : n ≤ tail.length := by omega
    rw [hlengthOf, hcounted, ← hfits hle] at hroom
    obtain ⟨⟨header, body⟩, hfields⟩ := (exists_run_readFields_iff b₀ b₁ _ _).mpr hroom
    exact ⟨⟨header, body, tail.drop n⟩, hversion, hle, hfields, rfl⟩

/-- **Four octets and what follows** are cut where they announce. -/
theorem cutAt_of_decode_cons {c : Cut} (h : decode (b₀ :: b₁ :: b₂ :: b₃ :: tail) = .ok c) :
    CutAt (b₀ :: b₁ :: b₂ :: b₃ :: tail) c := by
  obtain ⟨n, hn⟩ : ∃ n, n = Octets.toNat [b₂, b₃] := ⟨_, rfl⟩
  have hlengthOf : lengthOf (b₀ :: b₁ :: b₂ :: b₃ :: tail) = n := hn.symm
  obtain ⟨-, -, hfields, hrest⟩ := (decode_cons_eq_ok_iff ..).mp h
  obtain ⟨seid, number, last, htail, hnumber, hseid, hheader⟩ :=
    run_readFields_eq_ok_iff.mp hfields
  rw [← hn] at htail hrest
  have hseid' : seid.isSome = hasSeid (b₀ :: b₁ :: b₂ :: b₃ :: tail) :=
    hseid.trans (withSeid_isSet b₀)
  -- the header up to its last octet
  obtain ⟨front, hfront⟩ : ∃ front : Octets,
    front = b₀ :: b₁ :: b₂ :: b₃ :: (optionalBytes be64 seid ++ number) := ⟨_, rfl⟩
  have hframe : (b₀ :: b₁ :: b₂ :: b₃ :: tail).take (4 + n) = front ++ last :: c.body := by
    rw [Nat.add_comm, List.take_succ_cons, List.take_succ_cons, List.take_succ_cons,
      List.take_succ_cons, htail, hfront]
    simp
  have hbehind : (b₀ :: b₁ :: b₂ :: b₃ :: tail).drop (4 + n) = c.rest := by
    rw [hrest, Nat.add_comm]
    rfl
  have hwhole : b₀ :: b₁ :: b₂ :: b₃ :: tail = front ++ last :: (c.body ++ c.rest) := by
    rw [← List.take_append_drop (4 + n) (b₀ :: b₁ :: b₂ :: b₃ :: tail), hframe, hbehind]
    simp
  have hsize : headerSize (b₀ :: b₁ :: b₂ :: b₃ :: tail) = front.length + 1 := by
    unfold headerSize counted
    rw [← hseid', hfront]
    cases seid <;> simp [optionalBytes, hnumber]
  have hencode : c.header.encode = front ++ [keptOf (b₀ :: b₁ :: b₂ :: b₃ :: tail) last] := by
    rw [hheader, encode_ofFields b₀ b₁ b₂ b₃ last seid hnumber, withPriority_isSet, hfront]
    simp [keptOf, hasPriority, flagsOf]
  refine ⟨?_, ?_, ?_, ?_, ?_⟩
  · rw [hlengthOf, hframe, hsize, List.append_cons, List.drop_left' (by simp)]
  · rw [hlengthOf, hbehind]
  · rw [hheader]
    exact hseid'
  · rw [hheader]
    show (if withPriority.isSet b₀.toNat then some (last >>> 4) else none).isSome
      = (b₀.toNat / 2 % 2 == 1)
    rw [withPriority_isSet]
    cases b₀.toNat / 2 % 2 == 1 <;> rfl
  · have hmodify := modify_append_cons front last (c.body ++ c.rest)
      (keptOf (b₀ :: b₁ :: b₂ :: b₃ :: tail))
    rw [← hwhole] at hmodify
    rw [hencode, hsize, Nat.add_sub_cancel, hmodify]
    simp

end Front

/-- **Which octets are cut, and where**: exactly the framed ones, where they announce. -/
theorem decode_exact (bs : Octets) :
    ((∃ c, decode bs = .ok c) ↔ Framed bs) ∧ ∀ c, decode bs = .ok c → CutAt bs c := by
  by_cases hshort : bs.length < 4
  · have hnone := decode_of_short hshort
    refine ⟨⟨?_, fun h => absurd h.four (Nat.not_le.mpr hshort)⟩, ?_⟩
    · rintro ⟨c, hc⟩
      rw [hnone] at hc
      cases hc
    · intro c hc
      rw [hnone] at hc
      cases hc
  · match bs, hshort with
    | [], hshort | [_], hshort | [_, _], hshort | [_, _, _], hshort => simp at hshort
    | b₀ :: b₁ :: b₂ :: b₃ :: tail, _ =>
      exact ⟨exists_decode_cons_iff b₀ b₁ b₂ b₃ tail,
        fun _ hc => cutAt_of_decode_cons b₀ b₁ b₂ b₃ tail hc⟩

/-- A message with the number of a session and a priority, one octet of body, and an
octet behind it. -/
def prioritized : Octets :=
  [0x23, 50, 0, 13, 0, 0, 0, 0, 0, 0, 0, 7, 0, 1, 2, 0xAB, 0xEE, 0xFF]

/-- The message is cut off; of its last octet of header, `AB`, only `A0` is written. -/
theorem decode_exact_prioritized :
    Framed prioritized
    ∧ ∃ c, decode prioritized = .ok c ∧ c.body = [0xEE] ∧ CutAt prioritized c
      ∧ c.header.encode ++ c.body ++ c.rest = prioritized.set 15 0xA0 := by
  obtain ⟨c, hc⟩ : ∃ c, decode prioritized = .ok c := ⟨_, rfl⟩
  have hcut := (decode_exact prioritized).2 c hc
  refine ⟨(decode_exact prioritized).1.mp ⟨c, hc⟩, c, hc, ?_, hcut, ?_⟩
  · rw [hcut.body]
    rfl
  · rw [hcut.encoded]
    rfl

end Header

end UserPlane
