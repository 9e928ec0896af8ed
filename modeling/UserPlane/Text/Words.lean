/-
  UserPlane.Text.Words
  ────────────────────
  **WORDS: TEXT CUT AT BLANKS.**

  A blank is a character with the Unicode property White_Space.  The words of
  a text are its longest stretches without blanks, in order.
-/
namespace UserPlane

/-- The ranges of characters with the Unicode property White_Space. -/
def blankRanges : List (Nat × Nat) :=
  [(0x9, 0xD), (0x20, 0x20), (0x85, 0x85), (0xA0, 0xA0), (0x1680, 0x1680),
   (0x2000, 0x200A), (0x2028, 0x2029), (0x202F, 0x202F), (0x205F, 0x205F),
   (0x3000, 0x3000)]

/-- Whether `c` separates words. -/
def isBlank (c : Char) : Bool :=
  blankRanges.any fun r => r.1 ≤ c.toNat && c.toNat ≤ r.2

/-- What stands before the first `sep`, and what stands after it if there is
one. -/
def splitOnce (sep : Char) : List Char → List Char × Option (List Char)
  | [] => ([], none)
  | c :: cs =>
    if c = sep then ([], some cs)
    else ((c :: (splitOnce sep cs).1), (splitOnce sep cs).2)

/-- The stretches between occurrences of `sep`; one more than occurrences. -/
def splitAll (sep : Char) : List Char → List (List Char)
  | [] => [[]]
  | c :: cs =>
    if c = sep then [] :: splitAll sep cs
    else
      match splitAll sep cs with
      | [] => [[c]]
      | part :: parts => (c :: part) :: parts

/-- The stretches of characters that are not blank. -/
def splitBlanks : List Char → List (List Char)
  | [] => []
  | c :: cs =>
    if isBlank c then splitBlanks cs
    else (c :: cs.takeWhile (!isBlank ·)) :: splitBlanks (cs.dropWhile (!isBlank ·))
termination_by cs => cs.length
decreasing_by
  · simp
  · have := (List.dropWhile_suffix (l := cs) (!isBlank ·)).length_le
    simp only [List.length_cons]
    omega

/-- The words of a text. -/
def words (s : String) : List String := (splitBlanks s.toList).map String.ofList

/-- Every word is free of blanks and not empty. -/
theorem splitBlanks_sound (cs : List Char) :
    ∀ w ∈ splitBlanks cs, w ≠ [] ∧ ∀ c ∈ w, isBlank c = false := by
  fun_induction splitBlanks cs with
  | case1 => simp
  | case2 c cs hc ih => exact ih
  | case3 c cs hc ih =>
    intro w hw
    rcases List.mem_cons.mp hw with rfl | hw
    · refine ⟨by simp, fun d hd => ?_⟩
      rcases List.mem_cons.mp hd with rfl | hd
      · simpa using hc
      · have := List.all_takeWhile (l := cs) (p := (!isBlank ·))
        have := List.all_eq_true.mp this d hd
        simpa using this
    · exact ih w hw

end UserPlane
