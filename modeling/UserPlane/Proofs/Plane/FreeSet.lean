/-
  UserPlane.Proofs.Plane.FreeSet
  ──────────────────────────────
  **A TRACKER IS A SET THAT HANDS OUT ITS LEAST MEMBER.**

  What a tracker keeps in words is said here without words: a finite set of
  numbers, of which the least is handed out and to which numbers come back.
  Whatever is asked of both, in whatever order, they answer alike:

      takeLowest_least        the lowest bit of the words is the least number in them
      countAll_eq_countP      the bits that are counted are the numbers that are free
      Represents              the set of free slots of a tracker
      Represents.serve        one call is answered alike, and leads to the next set
      answers_lowest_first    so is every run of calls of a new tracker

  On the way nothing leaves its range: there is a word for every slot, and the
  number of every bit, and every count of bits, is below 2^32.
-/
import Mathlib.Data.Finset.Max
import UserPlane.Proofs.Plane.SlotTracker

namespace UserPlane

/-! ## §1. Calls, and what a set answers. -/

/-- What is asked of slots: the next one, or that one be free again. -/
inductive SlotCall where
  | next
  | release (id : Nat)
  deriving DecidableEq, Repr

/-- What is answered: a slot, that there is none, or nothing. -/
inductive SlotAnswer where
  | slot (id : Nat)
  | exhausted
  | done
  deriving DecidableEq, Repr

namespace SlotCall

/-- What a set of free slots answers, of `size` slots in all, and the set behind the
answer: the least is handed out, and a slot past the end does not come back. -/
def onSet (size : Nat) (free : Finset Nat) : SlotCall → SlotAnswer × Finset Nat
  | next =>
    if h : free.Nonempty then (.slot (free.min' h), free.erase (free.min' h))
    else (.exhausted, free)
  | release id => (.done, if id < size then insert id free else free)

/-- What a tracker answers, and the tracker behind the answer. -/
def onTracker (t : SlotTracker) : SlotCall → SlotAnswer × SlotTracker
  | next =>
    match t.take? with
    | some (id, t') => (.slot id, t')
    | none => (.exhausted, t)
  | release id => (.done, t.release id)

/-- The answers of a set to calls, each with the count of what is free then, and the
set behind them. -/
def runOnSet (size : Nat) (free : Finset Nat) :
    List SlotCall → List (SlotAnswer × Nat) × Finset Nat
  | [] => ([], free)
  | c :: cs =>
    let served := c.onSet size free
    let others := runOnSet size served.2 cs
    ((served.1, served.2.card) :: others.1, others.2)

/-- The answers of a tracker to calls, each with the count of what is free then, and
the tracker behind them. -/
def runOnTracker (t : SlotTracker) : List SlotCall → List (SlotAnswer × Nat) × SlotTracker
  | [] => ([], t)
  | c :: cs =>
    let served := c.onTracker t
    let others := runOnTracker served.2 cs
    ((served.1, served.2.available) :: others.1, others.2)

end SlotCall

namespace SlotTracker

/-! ## §2. Words as sets of numbers. -/

/-- Below the lowest bit of a word no bit is set. -/
theorem lowestBit_least {w : BitVec 64} {i j : Nat} (h : lowestBit w = some i) (hj : j < i) :
    w.getLsbD j = false := by
  have hbelow := (List.find?_range_eq_some.mp h).2.2 j hj
  simpa using hbelow

/-- In a word without a lowest bit no bit is set. -/
theorem getLsbD_of_lowestBit_none {w : BitVec 64} (h : lowestBit w = none) {j : Nat}
    (hj : j < 64) : w.getLsbD j = false := by
  have hnot := List.find?_eq_none.mp h j (List.mem_range.mpr hj)
  simpa using hnot

/-- **The lowest bit of the words** is the least number in them. -/
theorem takeLowest_least {ws ws' : List (BitVec 64)} {i : Nat}
    (h : takeLowest ws = some (i, ws')) : ∀ j < i, bitAt ws j = false := by
  induction ws generalizing i ws' with
  | nil => cases h
  | cons w ws ih =>
    intro j hj
    unfold takeLowest at h
    rw [bitAt_cons]
    cases hw : lowestBit w with
    | some k =>
      rw [hw] at h
      cases h
      have hlt := (lowestBit_spec hw).1
      rw [if_pos (by omega)]
      exact lowestBit_least hw hj
    | none =>
      rw [hw] at h
      obtain ⟨⟨k, rest⟩, hk, heq⟩ := Option.map_eq_some_iff.mp h
      cases heq
      by_cases hword : j < 64
      · rw [if_pos hword]
        exact getLsbD_of_lowestBit_none hw hword
      · rw [if_neg hword]
        exact ih hk (j - 64) (by omega)

/-- Words without a lowest bit have no bit. -/
theorem bitAt_of_takeLowest_none {ws : List (BitVec 64)} (h : takeLowest ws = none) (j : Nat) :
    bitAt ws j = false := by
  induction ws generalizing j with
  | nil => simp [bitAt]
  | cons w ws ih =>
    unfold takeLowest at h
    rw [bitAt_cons]
    cases hw : lowestBit w with
    | some k =>
      rw [hw] at h
      cases h
    | none =>
      rw [hw] at h
      by_cases hword : j < 64
      · rw [if_pos hword]
        exact getLsbD_of_lowestBit_none hw hword
      · rw [if_neg hword]
        exact ih (Option.map_eq_none_iff.mp h) (j - 64)

/-- A number that is in words is in one of them. -/
theorem lt_of_bitAt {ws : List (BitVec 64)} {id : Nat} (h : bitAt ws id = true) :
    id < 64 * ws.length := by
  by_contra hpast
  have hnone : ws[id / 64]? = none := List.getElem?_eq_none (by omega)
  unfold bitAt at h
  rw [hnone] at h
  cases h

/-- **The bits that are counted** are the numbers that are in the words. -/
theorem countAll_eq_countP (ws : List (BitVec 64)) :
    countAll ws = (List.range (64 * ws.length)).countP (bitAt ws) := by
  induction ws with
  | nil => rfl
  | cons w ws ih =>
    have hfirst : (List.range 64).countP (bitAt (w :: ws)) = countBits w := by
      refine List.countP_congr fun i hi => ?_
      rw [bitAt_cons, if_pos (List.mem_range.mp hi)]
    have hothers : (List.range (64 * ws.length)).countP (bitAt (w :: ws) ∘ (64 + ·))
        = countAll ws := by
      rw [ih]
      refine List.countP_congr fun k _ => ?_
      rw [Function.comp_apply, bitAt_cons, if_neg (by omega), Nat.add_sub_cancel_left]
    have hlength : 64 * (w :: ws).length = 64 + 64 * ws.length := by
      rw [List.length_cons]
      omega
    rw [hlength, List.range_add, List.countP_append, List.countP_map, hfirst, hothers]
    rfl

/-- The bit that is taken is the lowest of its word, and its number is counted by words. -/
theorem takeLowest_word {ws ws' : List (BitVec 64)} {i : Nat}
    (h : takeLowest ws = some (i, ws')) :
    ∃ k bit, ∃ hk : k < ws.length, lowestBit ws[k] = some bit ∧ i = k * 64 + bit := by
  induction ws generalizing i ws' with
  | nil => cases h
  | cons w ws ih =>
    unfold takeLowest at h
    cases hw : lowestBit w with
    | some bit =>
      rw [hw] at h
      cases h
      exact ⟨0, i, Nat.succ_pos _, hw, by omega⟩
    | none =>
      rw [hw] at h
      obtain ⟨⟨j, rest⟩, hj, heq⟩ := Option.map_eq_some_iff.mp h
      cases heq
      obtain ⟨k, bit, hk, hbit, rfl⟩ := ih hj
      exact ⟨k + 1, bit, Nat.succ_lt_succ hk, hbit, by omega⟩

/-! ## §3. The set that a tracker stands for. -/

/-- A tracker stands for the set of the slots that are free in it: it has a word for
every slot, and the bits of its words are the members of the set. -/
structure Represents (t : SlotTracker) (size : Nat) (free : Finset Nat) : Prop where
  sized : t.Sized
  size_eq : t.size = size
  mem_iff : ∀ id, id ∈ free ↔ t.isFree id = true

/-- A new tracker stands for all slots. -/
theorem represents_make (size : Nat) : (make size).Represents size (Finset.range size) where
  sized := sized_make size
  size_eq := rfl
  mem_iff id := by
    rw [isFree_make, decide_eq_true_iff]
    exact Finset.mem_range

/-- **What is available** is as many slots as the set has. -/
theorem Represents.available_eq_card {t : SlotTracker} {size : Nat} {free : Finset Nat}
    (h : t.Represents size free) : t.available = free.card := by
  have hfree : free = ((List.range (64 * t.words.length)).filter (bitAt t.words)).toFinset := by
    ext id
    rw [h.mem_iff, List.mem_toFinset, List.mem_filter, List.mem_range]
    exact ⟨fun hbit => ⟨lt_of_bitAt hbit, hbit⟩, And.right⟩
  have hcard : free.card = ((List.range (64 * t.words.length)).filter (bitAt t.words)).length := by
    rw [hfree, List.toFinset_card_of_nodup (List.nodup_range.filter _)]
  rw [hcard, ← List.countP_eq_length_filter]
  exact countAll_eq_countP t.words

/-- The slot that is handed out is the least of the set, and leaves it. -/
theorem Represents.take? {t t' : SlotTracker} {size id : Nat} {free : Finset Nat}
    (h : t.Represents size free) (htake : t.take? = some (id, t')) :
    ∃ hne : free.Nonempty, free.min' hne = id ∧ t'.Represents size (free.erase id) := by
  obtain ⟨hfree, hsize, hlength, hothers⟩ := take?_spec htake
  have hmem : id ∈ free := (h.mem_iff id).mpr hfree
  have hleast : ∀ j ∈ free, id ≤ j := by
    intro j hj
    by_contra hlt
    obtain ⟨⟨k, ws⟩, hk, heq⟩ := Option.map_eq_some_iff.mp htake
    cases heq
    have hclear : t.isFree j = false := takeLowest_least hk j (by omega)
    rw [(h.mem_iff j).mp hj] at hclear
    cases hclear
  refine ⟨⟨id, hmem⟩, ?_, ?_, hsize.trans h.size_eq, ?_⟩
  · exact le_antisymm (Finset.min'_le _ _ hmem) (Finset.le_min' _ _ _ hleast)
  · unfold Sized
    rw [hlength, hsize]
    exact h.sized
  · intro j
    rw [Finset.mem_erase, h.mem_iff, hothers]
    simp [and_comm]

/-- There is no slot to hand out only when the set has none. -/
theorem Represents.take?_none {t : SlotTracker} {size : Nat} {free : Finset Nat}
    (h : t.Represents size free) (htake : t.take? = none) : ¬ free.Nonempty := by
  rintro ⟨id, hid⟩
  have hclear : t.isFree id = false :=
    bitAt_of_takeLowest_none (Option.map_eq_none_iff.mp htake) id
  rw [(h.mem_iff id).mp hid] at hclear
  cases hclear

/-- A slot that is given back is in the set again, unless it is past the end. -/
theorem Represents.release {t : SlotTracker} {size : Nat} {free : Finset Nat}
    (h : t.Represents size free) (id : Nat) :
    (t.release id).Represents size (if id < size then insert id free else free) := by
  by_cases hid : id < size
  · rw [if_pos hid]
    refine ⟨?_, (size_release t id).trans h.size_eq, ?_⟩
    · unfold Sized
      rw [length_release, size_release]
      exact h.sized
    · intro j
      rw [Finset.mem_insert, h.mem_iff, isFree_release h.sized (h.size_eq ▸ hid)]
      simp [or_comm]
  · have hsame : t.release id = t := by
      unfold SlotTracker.release
      rw [if_neg (by rw [h.size_eq]; exact hid)]
    rw [if_neg hid, hsame]
    exact h

/-- **One call** is answered by a tracker as by its set, and the tracker behind the answer
stands for the set behind it. -/
theorem Represents.serve {t : SlotTracker} {size : Nat} {free : Finset Nat}
    (h : t.Represents size free) (c : SlotCall) :
    (c.onTracker t).1 = (c.onSet size free).1
      ∧ (c.onTracker t).2.Represents size (c.onSet size free).2 := by
  cases c with
  | next =>
    unfold SlotCall.onTracker SlotCall.onSet
    cases htake : t.take? with
    | some r =>
      obtain ⟨id, t'⟩ := r
      obtain ⟨hne, hmin, hafter⟩ := h.take? htake
      rw [dif_pos hne, hmin]
      exact ⟨rfl, hafter⟩
    | none =>
      rw [dif_neg (h.take?_none htake)]
      exact ⟨rfl, h⟩
  | release id => exact ⟨rfl, h.release id⟩

/-- **A run of calls** is answered by a tracker as by its set. -/
theorem Represents.run {t : SlotTracker} {size : Nat} {free : Finset Nat}
    (h : t.Represents size free) (calls : List SlotCall) :
    (SlotCall.runOnTracker t calls).1 = (SlotCall.runOnSet size free calls).1
      ∧ (SlotCall.runOnTracker t calls).2.Represents size
          (SlotCall.runOnSet size free calls).2 := by
  induction calls generalizing t free with
  | nil => exact ⟨rfl, h⟩
  | cons c cs ih =>
    obtain ⟨hanswer, hafter⟩ := h.serve c
    obtain ⟨hanswers, hlast⟩ := ih hafter
    refine ⟨?_, hlast⟩
    unfold SlotCall.runOnTracker SlotCall.runOnSet
    simp only [hanswer, hafter.available_eq_card, hanswers]

end SlotTracker

/-! ## §4. Slots below the size. -/

namespace SlotCall

/-- A call leaves a set of slots below the size one, and is answered by none but these. -/
theorem onSet_below {size : Nat} {free : Finset Nat} (h : free ⊆ Finset.range size)
    (c : SlotCall) :
    (c.onSet size free).2 ⊆ Finset.range size
      ∧ ∀ id, (c.onSet size free).1 = .slot id → id < size := by
  cases c with
  | next =>
    unfold onSet
    by_cases hne : free.Nonempty
    · rw [dif_pos hne]
      refine ⟨(Finset.erase_subset _ _).trans h, ?_⟩
      rintro id ⟨⟩
      exact Finset.mem_range.mp (h (Finset.min'_mem free hne))
    · rw [dif_neg hne]
      exact ⟨h, fun id hslot => nomatch hslot⟩
  | release id =>
    refine ⟨?_, fun _ hslot => nomatch hslot⟩
    show (if id < size then insert id free else free) ⊆ Finset.range size
    by_cases hid : id < size
    · rw [if_pos hid]
      exact Finset.insert_subset (Finset.mem_range.mpr hid) h
    · rw [if_neg hid]
      exact h

/-- No run of calls is answered by a slot that is not below the size. -/
theorem runOnSet_below {size : Nat} {free : Finset Nat} (h : free ⊆ Finset.range size)
    (calls : List SlotCall) :
    (runOnSet size free calls).2 ⊆ Finset.range size
      ∧ ∀ id count, (.slot id, count) ∈ (runOnSet size free calls).1 → id < size := by
  induction calls generalizing free with
  | nil => exact ⟨h, fun _ _ hin => nomatch hin⟩
  | cons c cs ih =>
    obtain ⟨hafter, hslot⟩ := onSet_below h c
    obtain ⟨hlast, hslots⟩ := ih hafter
    refine ⟨hlast, ?_⟩
    intro id count hin
    rcases List.mem_cons.mp hin with hhere | hlater
    · exact hslot id (congrArg Prod.fst hhere).symm
    · exact hslots id count hlater

end SlotCall

/-! ## §5. Nothing leaves its range. -/

namespace SlotTracker

/-- What is looked up, shifted, numbered and counted in a tracker stays in its range: the
word of every slot is there, its bit is one of 64, and numbers of bits and counts of
bits, of the first words as of all, are below 2^32. -/
structure InRange (t : SlotTracker) : Prop where
  place : ∀ id < t.size, id / 64 < t.words.length ∧ id % 64 < 64
  number : ∀ k < t.words.length, ∀ bit < 64, k * 64 + bit < 4294967296
  taken : ∀ id t', t.take? = some (id, t') → ∃ k bit, ∃ hk : k < t.words.length,
    lowestBit t.words[k] = some bit ∧ bit < 64 ∧ id = k * 64 + bit
  counted : ∀ k, countAll (t.words.take k) < 4294967296

theorem countAll_take_le (ws : List (BitVec 64)) (k : Nat) :
    countAll (ws.take k) ≤ countAll ws := by
  have hsplit : countAll (ws.take k) + countAll (ws.drop k) = countAll ws := by
    show ((ws.take k).map countBits).sum + ((ws.drop k).map countBits).sum
      = (ws.map countBits).sum
    rw [← List.sum_append, ← List.map_append, List.take_append_drop]
  omega

/-- A tracker that stands for slots below a size of 32 bits stays in its range. -/
theorem Represents.inRange {t : SlotTracker} {size : Nat} {free : Finset Nat}
    (h : t.Represents size free) (hbelow : free ⊆ Finset.range size)
    (hsize : size < 4294967296) : t.InRange := by
  have hlength : t.words.length = (size + 63) / 64 := h.size_eq ▸ h.sized
  refine ⟨?_, ?_, ?_, ?_⟩
  · intro id hid
    have hid' : id < size := h.size_eq ▸ hid
    omega
  · intro k hk bit hbit
    omega
  · intro id t' htake
    obtain ⟨⟨i, ws⟩, hi, heq⟩ := Option.map_eq_some_iff.mp htake
    cases heq
    obtain ⟨k, bit, hk, hlowest, hnumber⟩ := takeLowest_word hi
    exact ⟨k, bit, hk, hlowest, (lowestBit_spec hlowest).1, hnumber⟩
  · intro k
    -- as many bits as the set has members, and these are below the size
    have hcard : free.card ≤ size := by simpa using Finset.card_le_card hbelow
    calc countAll (t.words.take k)
        ≤ t.available := countAll_take_le t.words k
      _ = free.card := h.available_eq_card
      _ < 4294967296 := by omega

/-- **Lowest first.**  Whatever is asked of a new tracker, it answers as the set of the
numbers below its size: the least is handed out and leaves the set, nothing is handed
out only if the set is empty, a slot below the size comes back, and what is available is
as many as the set has.  No slot past the end is handed out, and nothing leaves its range. -/
theorem answers_lowest_first (size : Nat) (hsize : size < 4294967296)
    (calls : List SlotCall) :
    (make size).available = size
      ∧ (SlotCall.runOnTracker (make size) calls).1
          = (SlotCall.runOnSet size (Finset.range size) calls).1
      ∧ (SlotCall.runOnTracker (make size) calls).2.Represents size
          (SlotCall.runOnSet size (Finset.range size) calls).2
      ∧ (SlotCall.runOnTracker (make size) calls).2.InRange
      ∧ ∀ id count, (.slot id, count) ∈ (SlotCall.runOnTracker (make size) calls).1 →
          id < size := by
  obtain ⟨hanswers, hlast⟩ := (represents_make size).run calls
  obtain ⟨hbelow, hslots⟩ := SlotCall.runOnSet_below (Finset.Subset.refl _) calls
  refine ⟨?_, hanswers, hlast, hlast.inRange hbelow hsize, ?_⟩
  · rw [(represents_make size).available_eq_card, Finset.card_range]
  · rw [hanswers]
    exact hslots

/-- Two of the slots of a tracker of three are handed out, the first comes back, twice, and
is the next that is handed out; a slot past the end does not come back. -/
theorem answers_lowest_first_three :
    3 < 4294967296
      ∧ (SlotCall.runOnSet 3 (Finset.range 3)
          [.next, .next, .release 0, .release 0, .release 3, .next, .next, .next]).1
        = [(.slot 0, 2), (.slot 1, 1), (.done, 2), (.done, 2), (.done, 2), (.slot 0, 1),
          (.slot 2, 0), (.exhausted, 0)] := by
  refine ⟨by decide, ?_⟩
  rw [← (answers_lowest_first 3 (by decide) _).2.1]
  decide +kernel

end SlotTracker

end UserPlane
