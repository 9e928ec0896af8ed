/-
  UserPlane.Proofs.Message.Framing
  ────────────────────────────────
  **WHERE ONE MESSAGE ENDS AND THE NEXT BEGINS.**

  The four octets in front of a message say how many follow, and nothing behind
  those is looked at:

      Header.decode_front      a message is cut off by its first four octets
      Header.decode_framed     the octets of a message stand for it before anything
      Header.Whole             octets that are one message and nothing else
      Header.Whole.walk        such a message is one step of a walk
      Header.walk_progress     every message of a walk takes eight octets or more
-/
import Mathlib.Data.List.Chain
import UserPlane.Message.Walk
import UserPlane.Proofs.Wire.Sizes

namespace UserPlane

namespace Header

/-! ## §1. The four octets in front. -/

/-- The length that is announced by the four octets in front of a message. -/
def announced (front : Octets) : UInt16 := UInt16.ofNat (Octets.toNat (front.drop 2))

/-- Fewer than four octets are no message. -/
theorem decode_of_short {bs : Octets} (h : bs.length < 4) :
    decode bs = .error (.truncated "PFCP header" 4 bs.length) := by
  have htake : (Reader.take 4 "PFCP header").run bs
      = .error (.truncated "PFCP header" 4 bs.length) := by
    show (if (bs.take 4).length < 4 then _ else _) = _
    rw [if_pos (by rw [List.length_take]; omega)]
  unfold decode
  rw [htake]
  rfl

/-- **A message is cut off by its first four octets**: they are of version 1, the
octets that they announce are there and hold the other fields, and what follows
is left. -/
theorem decode_front {front : Octets} (hfour : front.length = 4) (bs : Octets) (c : Cut) :
    decode (front ++ bs) = .ok c ↔
      version.get (front.headD 0).toNat = 1 ∧ (announced front).toNat ≤ bs.length
        ∧ (readFields (front.headD 0) ((front.drop 1).headD 0) (announced front)).run
            (bs.take (announced front).toNat) = .ok (c.header, c.body)
        ∧ c.rest = bs.drop (announced front).toNat := by
  have htake := Reader.run_take "PFCP header" bs hfour
  have hread : UInt16.ofNat (Octets.toNat (front.drop 2)) = announced front := rfl
  unfold decode
  simp only [htake, bind, Except.bind, hread]
  -- in the order in which the reader looks: the version, the length, the fields
  by_cases hversion : version.get (front.headD 0).toNat = 1
  · rw [if_neg (not_not.mpr hversion)]
    by_cases hlength : (announced front).toNat ≤ bs.length
    · rw [if_neg (Nat.not_lt.mpr hlength)]
      -- the rest of the cut is worked out from the length, not read
      cases (readFields (front.headD 0) ((front.drop 1).headD 0) (announced front)).run
          (bs.take (announced front).toNat) with
      | error e =>
        constructor
        · intro h
          cases h
        · rintro ⟨-, -, hfields, -⟩
          cases hfields
      | ok p =>
        constructor
        · intro h
          cases h
          exact ⟨hversion, hlength, rfl, rfl⟩
        · rintro ⟨-, -, hfields, hrest⟩
          cases hfields
          exact congrArg (fun rest => Except.ok (Cut.mk c.header c.body rest)) hrest.symm
    · rw [if_pos (Nat.lt_of_not_le hlength)]
      constructor
      · intro h
        cases h
      · exact fun h => absurd h.2.1 hlength
  · rw [if_pos hversion]
    constructor
    · intro h
      cases h
    · exact fun h => absurd h.1 hversion

/-- The fields behind the length take four octets at least. -/
theorem takes_readFields (flags type : UInt8) (length : UInt16) :
    Reader.Takes 4 (readFields flags type length) :=
  ((Reader.takes_u64 "SEID").present _).bind fun _ => (Reader.takes_take 4 _).bind fun _ => .pure _

/-- The header keeps what was read before, and three octets of number. -/
theorem kept_of_readFields {flags type : UInt8} {length : UInt16} {bs body : Octets}
    {header : Header} (h : (readFields flags type length).run bs = .ok (header, body)) :
    header.flags = flags ∧ header.type = type ∧ header.length = length
      ∧ header.sequence.toNat < 16777216 := by
  obtain ⟨seid, bs', -, hnext⟩ := Reader.run_bind_eq_ok h
  obtain ⟨tail, bs'', -, hlast⟩ := Reader.run_bind_eq_ok hnext
  cases hlast
  refine ⟨rfl, rfl, rfl, ?_⟩
  have hthree : (tail.take 3).length ≤ 3 := by
    rw [List.length_take]
    omega
  -- fewer octets than three would spell a smaller number
  have hbound : Octets.bound (tail.take 3).length ≤ Octets.bound 3 := by
    match (tail.take 3).length, hthree with
    | 0, _ | 1, _ | 2, _ | 3, _ => decide
  have hlt : Octets.toNat (tail.take 3) < 16777216 := (Octets.toNat_lt _).trans_le hbound
  show (UInt32.ofNat (Octets.toNat (tail.take 3))).toNat < 16777216
  rw [UInt32.toNat_ofNat']
  omega

/-- **The octets of a message stand for it**, whatever follows: eight of them at
least, as many as its header says and four. -/
theorem decode_framed {bs : Octets} {c : Cut} (h : decode bs = .ok c) :
    ∃ frame, bs = frame ++ c.rest ∧ 8 ≤ frame.length
      ∧ frame.length = c.header.length.toNat + 4
      ∧ ∀ more, decode (frame ++ more) = .ok { c with rest := more } := by
  by_cases hshort : bs.length < 4
  · rw [decode_of_short hshort] at h
    cases h
  · have hfour : (bs.take 4).length = 4 := by rw [List.length_take]; omega
    rw [← List.take_append_drop 4 bs, decode_front hfour] at h
    obtain ⟨hversion, hlength, hfields, hrest⟩ := h
    -- what is announced, and is there
    have htail : ((bs.drop 4).take (announced (bs.take 4)).toNat).length
        = (announced (bs.take 4)).toNat := by rw [List.length_take]; omega
    have htaken := takes_readFields _ _ _ hfields
    have hkept : c.header.length = announced (bs.take 4) := (kept_of_readFields hfields).2.2.1
    refine ⟨bs.take 4 ++ (bs.drop 4).take (announced (bs.take 4)).toNat, ?_, ?_, ?_, ?_⟩
    · rw [hrest, List.append_assoc, List.take_append_drop, List.take_append_drop]
    · rw [List.length_append, hfour]
      omega
    · rw [List.length_append, hfour, htail, hkept]
      omega
    · intro more
      rw [List.append_assoc, decode_front hfour]
      refine ⟨hversion, ?_, ?_, ?_⟩
      · rw [List.length_append, htail]
        omega
      · rw [List.take_left' htail]
        exact hfields
      · rw [List.drop_left' htail]

/-- Cutting off a message takes eight octets at least. -/
theorem rest_length_add_eight {bs : Octets} {c : Cut} (h : decode bs = .ok c) :
    c.rest.length + 8 ≤ bs.length := by
  obtain ⟨frame, hframe, height, -, -⟩ := decode_framed h
  rw [hframe, List.length_append]
  omega

/-- The body of a message takes eight octets less than there are. -/
theorem body_length_add_eight {bs : Octets} {c : Cut} (h : decode bs = .ok c) :
    c.body.length + 8 ≤ bs.length := by
  by_cases hshort : bs.length < 4
  · rw [decode_of_short hshort] at h
    cases h
  · have hfour : (bs.take 4).length = 4 := by rw [List.length_take]; omega
    rw [← List.take_append_drop 4 bs, decode_front hfour] at h
    have htaken := takes_readFields _ _ _ h.2.2.1
    rw [List.length_take, List.length_drop] at htaken
    omega

/-- The first two octets of a message are in its header, and its number fits three
octets. -/
theorem decode_kept {bs : Octets} {c : Cut} (h : decode bs = .ok c) :
    bs.headD 0 = c.header.flags ∧ (bs.drop 1).headD 0 = c.header.type
      ∧ c.header.sequence.toNat < 16777216 := by
  by_cases hshort : bs.length < 4
  · rw [decode_of_short hshort] at h
    cases h
  · have hfour : (bs.take 4).length = 4 := by rw [List.length_take]; omega
    rw [← List.take_append_drop 4 bs, decode_front hfour] at h
    obtain ⟨hflags, htype, -, hsequence⟩ := kept_of_readFields h.2.2.1
    match bs, hshort with
    | first :: second :: rest, _ => exact ⟨hflags.symm, htype.symm, hsequence⟩
    | [_], hshort => simp at hshort
    | [], hshort => simp at hshort

/-! ## §2. One message and nothing else. -/

/-- The octets are one message and nothing else; `followed` tells whether it
says that another follows. -/
def Whole (followed : Bool) (bs : Octets) : Prop :=
  ∃ c, decode bs = .ok c ∧ c.rest = [] ∧ c.header.hasFollowOn = followed

/-- One message is cut off whole, whatever follows. -/
theorem Whole.decode_append {followed : Bool} {bs : Octets} (h : Whole followed bs) :
    ∃ c, decode bs = .ok c ∧ c.header.hasFollowOn = followed
      ∧ ∀ more, decode (bs ++ more) = .ok { c with rest := more } := by
  obtain ⟨c, hdecode, hrest, hfollowed⟩ := h
  obtain ⟨frame, hframe, -, -, hmore⟩ := decode_framed hdecode
  rw [hrest, List.append_nil] at hframe
  exact ⟨c, hdecode, hfollowed, hframe ▸ hmore⟩

/-! ## §3. Walks. -/

/-- Where no message can be cut off, the walk ends. -/
theorem walk_of_error {bs : Octets} {e : WireFault} (h : decode bs = .error e) :
    walk bs = [] := by
  unfold walk
  split
  · rfl
  · split
    · rfl
    · next c hc =>
      rw [h] at hc
      cases hc

/-- Where a message can be cut off, the walk goes on behind it if it says so. -/
theorem walk_of_ok {bs : Octets} {c : Cut} (h : decode bs = .ok c) :
    walk bs = c :: if c.header.hasFollowOn then walk c.rest else [] := by
  have hpos := rest_length_lt h
  have hsome : ¬ bs.isEmpty = true := by
    intro hempty
    rw [List.isEmpty_iff.mp hempty, List.length_nil] at hpos
    omega
  conv => lhs; unfold walk
  rw [if_neg hsome]
  split
  · next e he =>
    rw [h] at he
    cases he
  · next c' hc' =>
    rw [h] at hc'
    cases hc'
    rfl

/-- Every message of a walk was cut off some octets. -/
theorem decode_of_mem_walk {bs : Octets} {c : Cut} (h : c ∈ walk bs) :
    ∃ bs', decode bs' = .ok c := by
  fun_induction walk bs with
  | case1 bs hempty => cases h
  | case2 bs hempty e he => cases h
  | case3 bs hempty c' hdecode ih =>
    rcases List.mem_cons.mp h with rfl | hmem
    · exact ⟨bs, hdecode⟩
    · split at hmem
      · exact ih hmem
      · cases hmem

/-- No body in a walk is longer than the octets less eight. -/
theorem body_length_of_mem_walk {bs : Octets} {c : Cut} (h : c ∈ walk bs) :
    c.body.length + 8 ≤ bs.length := by
  fun_induction walk bs with
  | case1 bs hempty => cases h
  | case2 bs hempty e he => cases h
  | case3 bs hempty c' hdecode ih =>
    rcases List.mem_cons.mp h with rfl | hmem
    · exact body_length_add_eight hdecode
    · split at hmem
      · have hbehind := ih hmem
        have hrest := rest_length_lt hdecode
        omega
      · cases hmem

/-- **One message is one step of a walk**, which goes on behind it if it says so. -/
theorem Whole.walk {followed : Bool} {bs : Octets} (h : Whole followed bs) :
    ∃ c, walk bs = [c] ∧ ∀ more,
      walk (bs ++ more) = { c with rest := more } :: if followed then walk more else [] := by
  obtain ⟨c, hdecode, rfl, hmore⟩ := h.decode_append
  have hnil : Header.walk [] = [] := walk_of_error (decode_of_short (by decide))
  have hrest : c.rest = [] := by
    have halone := hmore []
    rw [List.append_nil, hdecode] at halone
    exact congrArg Cut.rest (Except.ok.inj halone)
  refine ⟨c, ?_, fun more => walk_of_ok (hmore more)⟩
  rw [walk_of_ok hdecode, hrest, hnil, ite_self]

/-- **Every message of a walk takes eight octets or more** of those that are left. -/
theorem walk_progress (bs : Octets) :
    List.IsChain (fun before behind => behind + 8 ≤ before)
      (bs.length :: (walk bs).map (·.rest.length)) := by
  -- along the walk
  fun_induction walk bs with
  | case1 bs hempty => simp
  | case2 bs hempty e he => simp
  | case3 bs hempty c hdecode ih =>
    have hstep := rest_length_add_eight hdecode
    rw [List.map_cons]
    refine .cons_cons hstep ?_
    split
    · exact ih
    · exact .singleton _

/-- So a walk has no more messages than there are eights of octets. -/
theorem walk_length (bs : Octets) : 8 * (walk bs).length ≤ bs.length := by
  fun_induction walk bs with
  | case1 bs hempty => simp
  | case2 bs hempty e he => simp
  | case3 bs hempty c hdecode ih =>
    have hstep := rest_length_add_eight hdecode
    rw [List.length_cons]
    split
    · omega
    · rw [List.length_nil]
      omega

end Header

end UserPlane
