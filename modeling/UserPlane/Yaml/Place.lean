/-
  UserPlane.Yaml.Place
  ────────────────────
  **PLACES IN A TEXT.**

  A place is what is still to be read of a text, with the line and the column
  that it stands at: indentation decides what belongs together.  Reading moves
  a place forward, one character (`skip`) or one line break (`skipBreak`) at a
  time, and each such step leaves less to read, which is why readers end.
-/
namespace UserPlane.Yaml

/-! ## §1. Kinds of characters. -/

/-- A space or a tab. -/
def isSpace (c : Char) : Bool := c == ' ' || c == '\t'

/-- A character that ends a line. -/
def isBreak (c : Char) : Bool := c == '\n' || c == '\r'

/-- A character that separates what stands in brackets. -/
def isFlowMark (c : Char) : Bool := [',', '[', ']', '\x7b', '\x7d'].contains c

/-- A character that a name may hold. -/
def isNameChar (c : Char) : Bool := c.isAlphanum || c == '_' || c == '-'

/-- Whether a mark followed by `c?` stands by itself: a blank follows, or a
break, or nothing. -/
def standsAlone (c? : Option Char) : Bool := c?.all fun c => isSpace c || isBreak c

/-! ## §2. Places. -/

/-- Where reading stands in a text. -/
structure Place where
  /-- What is still to be read. -/
  rest : List Char
  /-- How many characters were read. -/
  index : Nat := 0
  line : Nat := 0
  column : Nat := 0
  deriving Repr

namespace Place

/-- How much is still to be read. -/
def left (p : Place) : Nat := p.rest.length

/-- The character at distance `n`. -/
def peek (p : Place) (n : Nat) : Option Char := p.rest[n]?

/-- One character further.  Only a line feed starts a new line. -/
def skip (p : Place) : Place :=
  match p.rest with
  | [] => p
  | '\n' :: cs => ⟨cs, p.index + 1, p.line + 1, 0⟩
  | _ :: cs => ⟨cs, p.index + 1, p.line, p.column + 1⟩

/-- One line break further; a carriage return and a line feed are one break. -/
def skipBreak (p : Place) : Place :=
  if p.peek 0 = some '\r' ∧ p.peek 1 = some '\n' then p.skip.skip else p.skip

/-- The given number of characters further. -/
def skips (p : Place) : Nat → Place
  | 0 => p
  | n + 1 => p.skip.skips n

@[simp] theorem left_skip (p : Place) : p.skip.left = p.left - 1 := by
  unfold skip left
  split <;> simp [*]

@[simp] theorem left_skips (p : Place) (n : Nat) : (p.skips n).left = p.left - n := by
  induction n generalizing p with
  | zero => simp [skips]
  | succ n ih => simp [skips, ih]; omega

theorem left_skipBreak_le (p : Place) : p.skipBreak.left ≤ p.left - 1 := by
  unfold skipBreak
  split <;> simp

/-- At a character there is something left to read. -/
theorem left_pos {p : Place} {c : Char} (h : p.peek 0 = some c) : 0 < p.left := by
  unfold peek at h
  unfold left
  exact (List.getElem?_eq_some_iff.mp h).1

theorem left_skip_lt {p : Place} {c : Char} (h : p.peek 0 = some c) : p.skip.left < p.left := by
  have := left_pos h
  simp
  omega

theorem left_skipBreak_lt {p : Place} {c : Char} (h : p.peek 0 = some c) :
    p.skipBreak.left < p.left := by
  have := left_pos h
  have := p.left_skipBreak_le
  omega

/-- The place after the characters that satisfy `f`. -/
def skipWhile (f : Char → Bool) (p : Place) : Place := p.skips (p.rest.takeWhile f).length

/-- What stands between two places. -/
def upTo (p q : Place) : List Char := p.rest.take (p.left - q.left)

theorem left_skipWhile_le (f : Char → Bool) (p : Place) : (p.skipWhile f).left ≤ p.left := by
  simp [skipWhile]

/-- Past a comment, up to the end of the line. -/
def skipComment (p : Place) : Place :=
  if p.peek 0 = some '#' then p.skipWhile (!isBreak ·) else p

/-- Whether a line starts here with three times `c`, standing alone. -/
def isDocumentMark (p : Place) (c : Char) : Bool :=
  p.column == 0 && p.rest.take 3 == [c, c, c] && standsAlone (p.peek 3)

/-- Whether a line starts here that starts or ends a document. -/
def isDocumentBorder (p : Place) : Bool := p.isDocumentMark '-' || p.isDocumentMark '.'

end Place

end UserPlane.Yaml
