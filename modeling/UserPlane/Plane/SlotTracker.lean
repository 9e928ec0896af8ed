/-
  UserPlane.Plane.SlotTracker
  ───────────────────────────
  **WHICH SLOTS ARE FREE.**

  A tracker keeps one bit for each slot, set while the slot is free, in words
  of 64 bits: slot `64 * k + i` is bit `i` of word `k`.  `take?` hands out the
  lowest free slot; `release` frees a slot, and ignores one past the end.
-/
namespace UserPlane

/-- Which of the slots below `size` are free. -/
structure SlotTracker where
  words : List (BitVec 64)
  size : Nat
  deriving DecidableEq, Repr

namespace SlotTracker

/-- A word with its low `n` bits set, or all of them if `n` is past 64. -/
def lowBits (n : Nat) : BitVec 64 := BitVec.allOnes 64 >>> (64 - n)

/-- Every slot below `size` is free. -/
def make (size : Nat) : SlotTracker where
  words := (List.range ((size + 63) / 64)).map fun k => lowBits (size - 64 * k)
  size := size

/-- The lowest set bit of a word. -/
def lowestBit (w : BitVec 64) : Option Nat := (List.range 64).find? fun i => w.getLsbD i

/-- How many bits of a word are set. -/
def countBits (w : BitVec 64) : Nat := (List.range 64).countP fun i => w.getLsbD i

/-- Clears the lowest set bit of the words and tells which it was. -/
def takeLowest : List (BitVec 64) → Option (Nat × List (BitVec 64))
  | [] => none
  | w :: ws =>
    match lowestBit w with
    | some i => some (i, (w &&& ~~~(BitVec.twoPow 64 i)) :: ws)
    | none => (takeLowest ws).map fun r => (r.1 + 64, w :: r.2)

/-- The lowest free slot, and the tracker with it in use. -/
def take? (t : SlotTracker) : Option (Nat × SlotTracker) :=
  (takeLowest t.words).map fun r => (r.1, { t with words := r.2 })

/-- The tracker with a slot free; a slot past the end is ignored. -/
def release (t : SlotTracker) (id : Nat) : SlotTracker :=
  if id < t.size then
    { t with words := t.words.modify (id / 64) (· ||| BitVec.twoPow 64 (id % 64)) }
  else t

/-- How many slots are free. -/
def available (t : SlotTracker) : Nat := (t.words.map countBits).foldr (· + ·) 0

/-- Whether a slot is free. -/
def isFree (t : SlotTracker) (id : Nat) : Bool :=
  match t.words[id / 64]? with
  | some w => w.getLsbD (id % 64)
  | none => false

end SlotTracker

end UserPlane
