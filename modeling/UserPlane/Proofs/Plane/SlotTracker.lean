/-
  UserPlane.Proofs.Plane.SlotTracker
  ──────────────────────────────────
  **A TRACKER'S WORDS AS A SET OF FREE SLOTS.**

  The slot that is handed out was free and is free no longer; a slot that is
  given back is free again; no other slot changes.  For a slot to come back,
  the words must reach as far as the slots do: `Sized`.  A slot is handed out
  as long as one is free, and then there is one less (`available_of_take?`).
-/
import UserPlane.Plane.SlotTracker

namespace UserPlane

namespace SlotTracker

/-! ## §1. Bits of words. -/

/-- Bit `id` of words of 64 bits. -/
def bitAt (ws : List (BitVec 64)) (id : Nat) : Bool :=
  match ws[id / 64]? with
  | some w => w.getLsbD (id % 64)
  | none => false

theorem bitAt_cons (w : BitVec 64) (ws : List (BitVec 64)) (id : Nat) :
    bitAt (w :: ws) id = if id < 64 then w.getLsbD id else bitAt ws (id - 64) := by
  unfold bitAt
  by_cases h : id < 64
  · rw [if_pos h, Nat.div_eq_of_lt h, Nat.mod_eq_of_lt h]
    rfl
  · -- one word less, the same bit of its word
    have hdiv : id / 64 = (id - 64) / 64 + 1 := by omega
    have hmod : (id - 64) % 64 = id % 64 := by omega
    rw [if_neg h, hdiv, List.getElem?_cons_succ, hmod]

theorem lowestBit_spec {w : BitVec 64} {i : Nat} (h : lowestBit w = some i) :
    i < 64 ∧ w.getLsbD i = true :=
  ⟨List.mem_range.mp (List.mem_of_find?_eq_some h), List.find?_some h⟩

theorem getLsbD_clear (w : BitVec 64) (i j : Nat) (hj : j < 64) :
    (w &&& ~~~(BitVec.twoPow 64 i)).getLsbD j = (w.getLsbD j && decide (j ≠ i)) := by
  rw [BitVec.getLsbD_and, BitVec.getLsbD_not, BitVec.getLsbD_twoPow]
  by_cases h : j = i
  · simp [h, h ▸ hj]
  · have h' : ¬ i = j := fun e => h e.symm
    simp [h, h', hj]

/-- **Taking the lowest bit** clears a bit that was set, and no other. -/
theorem takeLowest_spec {ws ws' : List (BitVec 64)} {i : Nat}
    (h : takeLowest ws = some (i, ws')) :
    bitAt ws i = true ∧ ws'.length = ws.length
      ∧ ∀ j, bitAt ws' j = (bitAt ws j && decide (j ≠ i)) := by
  induction ws generalizing i ws' with
  | nil => cases h
  | cons w ws ih =>
    unfold takeLowest at h
    cases hw : lowestBit w with
    | some k =>
      -- the first word has a bit set, and the other words stay
      rw [hw] at h
      cases h
      obtain ⟨hlt, hset⟩ := lowestBit_spec hw
      refine ⟨by rw [bitAt_cons, if_pos hlt, hset], rfl, ?_⟩
      intro j
      rw [bitAt_cons, bitAt_cons]
      by_cases hj : j < 64
      · rw [if_pos hj, if_pos hj, getLsbD_clear w i j hj]
      · have hne : j ≠ i := by omega
        simp [hj, hne]
    | none =>
      -- the bit is in the words behind it, 64 places further on
      rw [hw] at h
      obtain ⟨⟨k, rest⟩, hk, heq⟩ := Option.map_eq_some_iff.mp h
      cases heq
      obtain ⟨hset, hlen, hbits⟩ := ih hk
      refine ⟨?_, by simp [hlen], ?_⟩
      · rw [bitAt_cons, if_neg (by omega), Nat.add_sub_cancel, hset]
      · intro j
        rw [bitAt_cons, bitAt_cons]
        by_cases hj : j < 64
        · have hne : j ≠ k + 64 := by omega
          simp [hj, hne]
        · rw [if_neg hj, if_neg hj, hbits]
          have hiff : j - 64 = k ↔ j = k + 64 := by omega
          simp [hiff]

/-! ## §2. Taking and giving back. -/

/-- There is a word for every slot. -/
def Sized (t : SlotTracker) : Prop := t.words.length = (t.size + 63) / 64

theorem take?_spec {t t' : SlotTracker} {i : Nat} (h : t.take? = some (i, t')) :
    t.isFree i = true ∧ t'.size = t.size ∧ t'.words.length = t.words.length
      ∧ ∀ j, t'.isFree j = (t.isFree j && decide (j ≠ i)) := by
  obtain ⟨⟨k, ws⟩, hk, heq⟩ := Option.map_eq_some_iff.mp h
  cases heq
  obtain ⟨hset, hlen, hbits⟩ := takeLowest_spec hk
  exact ⟨hset, rfl, hlen, hbits⟩

theorem size_release (t : SlotTracker) (id : Nat) : (t.release id).size = t.size := by
  unfold release
  split <;> rfl

theorem length_release (t : SlotTracker) (id : Nat) :
    (t.release id).words.length = t.words.length := by
  unfold release
  split
  · exact List.length_modify _ _ _
  · rfl

/-- A slot that is given back is free, and no other slot changes. -/
theorem isFree_release {t : SlotTracker} (hsized : t.Sized) {id : Nat} (hid : id < t.size)
    (j : Nat) : (t.release id).isFree j = (t.isFree j || decide (j = id)) := by
  unfold release
  rw [if_pos hid]
  show (match (t.words.modify (id / 64) (· ||| BitVec.twoPow 64 (id % 64)))[j / 64]? with
    | some w => w.getLsbD (j % 64)
    | none => false) = _
  unfold isFree
  rw [List.getElem?_modify]
  by_cases hword : id / 64 = j / 64
  · -- the word that is written
    have hlen : j / 64 < t.words.length := by
      rw [hsized]
      omega
    rw [List.getElem?_eq_getElem hlen]
    simp only [hword, if_true, Option.map_eq_map, Option.map_some]
    show (t.words[j / 64] ||| BitVec.twoPow 64 (id % 64)).getLsbD (j % 64)
      = (t.words[j / 64].getLsbD (j % 64) || decide (j = id))
    have hiff : id % 64 = j % 64 ↔ j = id := by omega
    have hlt : id % 64 < 64 := by omega
    rw [BitVec.getLsbD_or, BitVec.getLsbD_twoPow]
    simp [hiff, hlt]
  · -- a word that is not written
    have hne : ¬ j = id := fun h => hword (by rw [h])
    cases t.words[j / 64]? <;> simp [hword, hne]

/-! ## §3. A new tracker. -/

theorem sized_make (size : Nat) : (make size).Sized := by
  simp [Sized, make]

theorem getLsbD_lowBits (n i : Nat) (hi : i < 64) : (lowBits n).getLsbD i = decide (i < n) := by
  unfold lowBits
  rw [BitVec.getLsbD_ushiftRight, BitVec.getLsbD_allOnes]
  exact decide_eq_decide.mpr (by omega)

/-- In a new tracker exactly the slots below its size are free. -/
theorem isFree_make (size id : Nat) : (make size).isFree id = decide (id < size) := by
  show (match ((List.range ((size + 63) / 64)).map fun k => lowBits (size - 64 * k))[id / 64]? with
    | some w => w.getLsbD (id % 64)
    | none => false) = _
  rw [List.getElem?_map]
  by_cases h : id / 64 < (size + 63) / 64
  · -- the bits of a word that are slots are its low ones
    rw [List.getElem?_range h]
    show (lowBits (size - 64 * (id / 64))).getLsbD (id % 64) = _
    rw [getLsbD_lowBits _ _ (by omega)]
    exact decide_eq_decide.mpr (by omega)
  · have hnot : ¬ id < size := by omega
    rw [List.getElem?_eq_none (by simpa using h)]
    simp [hnot]

/-! ## §4. How many slots are free. -/

/-- How many bits of words are set. -/
def countAll (ws : List (BitVec 64)) : Nat := (ws.map countBits).foldr (· + ·) 0

theorem countBits_clear {w : BitVec 64} {i : Nat} (hi : i < 64) (hset : w.getLsbD i = true) :
    countBits (w &&& ~~~(BitVec.twoPow 64 i)) + 1 = countBits w := by
  have hmem : i ∈ List.range 64 := List.mem_range.mpr hi
  have hcleared : countBits (w &&& ~~~(BitVec.twoPow 64 i))
      = ((List.range 64).erase i).countP fun j => w.getLsbD j := by
    rw [List.nodup_range.erase_eq_filter, List.countP_filter]
    refine List.countP_congr fun j hj => ?_
    rw [getLsbD_clear w i j (List.mem_range.mp hj)]
    simp
  unfold countBits at hcleared ⊢
  rw [hcleared, (List.perm_cons_erase hmem).countP_eq, List.countP_cons_of_pos hset]

theorem countBits_of_lowestBit_none {w : BitVec 64} (h : lowestBit w = none) :
    countBits w = 0 :=
  List.countP_eq_zero.mpr (List.find?_eq_none.mp h)

/-- **Taking the lowest bit** leaves one bit less, if there was one. -/
theorem takeLowest_count {ws ws' : List (BitVec 64)} {i : Nat}
    (h : takeLowest ws = some (i, ws')) : countAll ws' + 1 = countAll ws := by
  induction ws generalizing i ws' with
  | nil => cases h
  | cons w ws ih =>
    unfold takeLowest at h
    cases hw : lowestBit w with
    | some k =>
      rw [hw] at h
      cases h
      obtain ⟨hlt, hset⟩ := lowestBit_spec hw
      have hword := countBits_clear hlt hset
      show countBits (w &&& ~~~(BitVec.twoPow 64 i)) + countAll ws + 1
        = countBits w + countAll ws
      omega
    | none =>
      rw [hw] at h
      obtain ⟨⟨k, rest⟩, hk, heq⟩ := Option.map_eq_some_iff.mp h
      cases heq
      have hrest := ih hk
      show countBits w + countAll rest + 1 = countBits w + countAll ws
      omega

theorem takeLowest_count_none {ws : List (BitVec 64)} (h : takeLowest ws = none) :
    countAll ws = 0 := by
  induction ws with
  | nil => rfl
  | cons w ws ih =>
    unfold takeLowest at h
    cases hw : lowestBit w with
    | some k =>
      rw [hw] at h
      cases h
    | none =>
      rw [hw] at h
      show countBits w + countAll ws = 0
      rw [countBits_of_lowestBit_none hw, ih (Option.map_eq_none_iff.mp h)]

theorem available_of_take? {t t' : SlotTracker} {i : Nat} (h : t.take? = some (i, t')) :
    t'.available + 1 = t.available := by
  obtain ⟨⟨k, ws⟩, hk, heq⟩ := Option.map_eq_some_iff.mp h
  cases heq
  exact takeLowest_count hk

theorem available_of_take?_none {t : SlotTracker} (h : t.take? = none) : t.available = 0 :=
  takeLowest_count_none (Option.map_eq_none_iff.mp h)

end SlotTracker

end UserPlane
