/-
  UserPlane.Yaml.Scalar
  ─────────────────────
  **SCALARS: TEXT OF A SINGLE VALUE.**

  A scalar is written plainly, in quotes, or as a block of lines.  Where a
  plain or quoted scalar runs over several lines, the blanks around a line
  break do not count, a single break reads as a space, and of several breaks
  all but the first are kept (`Gap.text`).  A block keeps its lines (literal)
  or joins them (folded).
-/
import UserPlane.Text.Numeral
import UserPlane.Yaml.Place

namespace UserPlane.Yaml

/-! ## §1. Gaps. -/

/-- What stands between two stretches of text in a scalar. -/
structure Gap where
  /-- The blanks before any break. -/
  blanks : List Char := []
  breaks : Nat := 0
  /-- Whether the gap starts with a break that does not count. -/
  escaped : Bool := false

namespace Gap

def isEmpty (g : Gap) : Bool := g.blanks.isEmpty && g.breaks == 0 && !g.escaped

/-- Whether the gap holds a line break. -/
def isBroken (g : Gap) : Bool := g.escaped || 0 < g.breaks

/-- The gap with one more blank: past a break it does not count. -/
def addBlank (g : Gap) (c : Char) : Gap :=
  if g.isBroken then g else { g with blanks := g.blanks ++ [c] }

def addBreak (g : Gap) : Gap := { g with blanks := [], breaks := g.breaks + 1 }

/-- How a gap reads. -/
def text (g : Gap) : List Char :=
  if g.escaped then .replicate g.breaks '\n'
  else
    match g.breaks with
    | 0 => g.blanks
    | 1 => [' ']
    | n + 1 => .replicate n '\n'

end Gap

/-! ## §2. Plain scalars. -/

/-- A plain scalar, whether it ran past a line break, and the place after it. -/
structure Plain where
  text : List Char
  isBroken : Bool
  after : Place

/-- Reads a plain scalar on, after `gap`.  In a block the lines of a scalar
stand at column `margin` or further right; inside brackets (`flow`) the marks
of brackets end it. -/
def plain? (flow : Bool) (margin : Nat) (gap : Gap) (p : Place) : Option Plain :=
  match h : p.peek 0 with
  | none => some ⟨[], gap.isBroken, p⟩
  | some c =>
    have := Place.left_skip_lt h
    have := Place.left_skipBreak_lt h
    if isSpace c then
      if c = '\t' ∧ gap.isBroken ∧ p.column < margin then none
      else plain? flow margin (gap.addBlank c) p.skip
    else if isBreak c then plain? flow margin gap.addBreak p.skipBreak
    else if !gap.isEmpty && (!flow && p.column < margin || p.isDocumentBorder || c == '#') ||
        c == ':' && (standsAlone (p.peek 1) || flow && (p.peek 1).any isFlowMark) ||
        flow && isFlowMark c then
      some ⟨[], gap.isBroken, p⟩
    else do
      let s ← plain? flow margin {} p.skip
      return { s with text := gap.text ++ c :: s.text }
termination_by p.left

/-! ## §3. Quoted scalars. -/

/-- The characters that a backslash and a letter stand for. -/
def escapes : List (Char × Char) :=
  [('0', '\x00'), ('a', '\x07'), ('b', '\x08'), ('t', '\t'), ('\t', '\t'), ('n', '\n'),
   ('v', '\x0b'), ('f', '\x0c'), ('r', '\r'), ('e', '\x1b'), (' ', ' '), ('\x22', '\x22'),
   ('\'', '\''), ('\\', '\\'), ('N', '\u0085'), ('_', '\u00a0'), ('L', '\u2028'),
   ('P', '\u2029')]

/-- The letters that announce the hexadecimal digits of a character. -/
def hexEscapes : List (Char × Nat) := [('x', 2), ('u', 4), ('U', 8)]

/-- The number that hexadecimal digits stand for. -/
def hexValue? (cs : List Char) : Option Nat :=
  cs.foldlM (fun acc c => (Numeral.digitValue? 16 c).map (acc * 16 + ·)) 0

/-- The character of a number. -/
def charOf? (n : Nat) : Option Char :=
  if n.isValidChar then some (Char.ofNat n) else none

/-- What the text after a backslash stands for, and how long it is. -/
def escaped? : List Char → Option (Char × Nat)
  | [] => none
  | c :: cs =>
    match escapes.lookup c with
    | some d => some (d, 1)
    | none => do
      let n ← hexEscapes.lookup c
      guard (n ≤ cs.length)
      return (← charOf? (← hexValue? (cs.take n)), 1 + n)

/-- Reads a quoted scalar up to its end, the mark `quote`, after `gap`.
Doubling the mark writes it in single quotes, a backslash in double quotes. -/
def quoted? (quote : Char) (gap : Gap) (p : Place) : Option (List Char × Place) :=
  match _h : p.peek 0 with
  | none => none
  | some c =>
    let put (d : Char) (r : List Char × Place) := (gap.text ++ d :: r.1, r.2)
    if isSpace c then quoted? quote (gap.addBlank c) p.skip
    else if isBreak c then quoted? quote gap.addBreak p.skipBreak
    else if p.isDocumentBorder then none
    else if c = quote then
      if c = '\'' ∧ p.peek 1 = some c then (quoted? quote {} (p.skips 2)).map (put c)
      else some (gap.text, p.skip)
    else if c = '\\' ∧ quote = '\x22' then
      if (p.peek 1).any isBreak then
        (quoted? quote { escaped := true } p.skip.skipBreak).map fun r => (gap.text ++ r.1, r.2)
      else
        match escaped? p.rest.tail with
        | none => none
        | some (d, n) =>
          (quoted? quote {} (p.skip.skips n)).map (put d)
    else (quoted? quote {} p.skip).map (put c)
termination_by p.left
decreasing_by
  · exact Place.left_skip_lt _h
  · exact Place.left_skipBreak_lt _h
  · rw [Place.left_skips]
    have := Place.left_pos _h
    omega
  · have := Place.left_skip_lt _h
    have := p.skip.left_skipBreak_le
    omega
  · rw [Place.left_skips]
    exact Nat.lt_of_le_of_lt (Nat.sub_le _ _) (Place.left_skip_lt _h)
  · exact Place.left_skip_lt _h

/-! ## §4. Blocks of lines. -/

/-- What becomes of the breaks at the end of a block. -/
inductive Chomping where
  /-- All are dropped. -/
  | strip
  /-- One is kept. -/
  | clip
  /-- All are kept. -/
  | keep
  deriving DecidableEq, Repr

/-- What is said of a block before its lines. -/
structure BlockHeader where
  chomping : Chomping := .clip
  /-- By how much the lines are indented, if that is said. -/
  indent : Option Nat := none

namespace BlockHeader

/-- Reads a sign for what becomes of the breaks at the end. -/
def sign? : Option Char → Option Chomping
  | some '+' => some .keep
  | some '-' => some .strip
  | _ => none

/-- Reads a header: a sign and a digit in either order, each of which may be
absent, blanks, a comment and a line break. -/
def read? (p : Place) : Option (BlockHeader × Place) := do
  let digit (p : Place) : Option (Option Nat × Place) :=
    match p.peek 0 with
    | some '0' => none
    | some c => some (if c.isDigit then (some (c.toNat - 48), p.skip) else (none, p))
    | none => some (none, p)
  let (header, p) ← match sign? (p.peek 0) with
    | some chomping => do
      let (indent, p) ← digit p.skip
      pure (BlockHeader.mk chomping indent, p)
    | none => do
      let (indent, p) ← digit p
      match indent, sign? (p.peek 0) with
      | some _, some chomping => pure (BlockHeader.mk chomping indent, p.skip)
      | _, _ => pure (BlockHeader.mk .clip indent, p)
  let p := (p.skipWhile isSpace).skipComment
  guard ((p.peek 0).all isBreak)
  return (header, p.skipBreak)

end BlockHeader

/-- What stands before a line of a block. -/
structure Margin where
  /-- The column that lines of the block start at. -/
  column : Nat
  breaks : Nat
  after : Place

/-- Reads the indentation of the next line that is not empty, which starts at
column `indent`.  Where that is not known yet (zero), it is the largest
column seen, and at least `least`. -/
def margin? (indent least largest breaks : Nat) (p : Place) : Option Margin :=
  let inside := indent = 0 ∨ p.column < indent
  let largest := max largest p.column
  let found : Margin := ⟨if indent = 0 then max largest (max least 1) else indent, breaks, p⟩
  match h : p.peek 0 with
  | none => some found
  | some c =>
    have := Place.left_skip_lt h
    have := Place.left_skipBreak_lt h
    if c = ' ' ∧ inside then margin? indent least largest breaks p.skip
    else if c = '\t' ∧ inside then none
    else if isBreak c then margin? indent least largest (breaks + 1) p.skipBreak
    else some found
termination_by p.left

/-- Finding a margin does not go back. -/
theorem left_margin?_le {indent least largest breaks : Nat} {p : Place} {m : Margin}
    (h : margin? indent least largest breaks p = some m) : m.after.left ≤ p.left := by
  fun_induction margin? indent least largest breaks p with
  | case1 => exact (Option.some.inj h) ▸ Nat.le_refl _
  | case2 => rename_i ih; have := ih h; omega
  | case3 => simp at h
  | case4 => rename_i ih; have := ih h; omega
  | case5 => exact (Option.some.inj h) ▸ Nat.le_refl _

/-- Reads the lines of a block on.  Before the next line stand, if a line came
before it, the break that ended that line (`broken`), and `m.breaks` empty
lines; folding turns the single break between two lines that start with no
blank into a space. -/
def blockLines? (literal : Bool) (chomping : Chomping) (broken afterBlank : Bool)
    (m : Margin) : Option (List Char × Place) :=
  let breaks := List.replicate m.breaks '\n'
  let p := m.after
  match h : p.peek 0 with
  | none => some (ending broken breaks, p)
  | some c =>
    if p.column ≠ m.column then some (ending broken breaks, p)
    else
      let folds := !literal && broken && !afterBlank && !isSpace c
      let before :=
        if folds then (if m.breaks = 0 then [' '] else breaks)
        else (if broken then ['\n'] else []) ++ breaks
      let q := p.skipWhile (!isBreak ·)
      let line := before ++ p.upTo q
      match hq : q.peek 0 with
      | none => some (line, q)
      | some _ =>
        match hm : margin? m.column 0 0 0 q.skipBreak with
        | none => none
        | some next =>
          have := Place.left_pos h
          have := Place.left_pos hq
          have := p.left_skipWhile_le (!isBreak ·)
          have := q.left_skipBreak_le
          have := left_margin?_le hm
          (blockLines? literal chomping true (isSpace c) next).map fun r => (line ++ r.1, r.2)
termination_by m.after.left
decreasing_by
  simp only [p, q] at *
  omega
where
  ending (broken : Bool) (breaks : List Char) : List Char :=
    (if broken && chomping != .strip then ['\n'] else []) ++
      if chomping = .keep then breaks else []

/-- Reads a block from its mark on; `enclosing` is the column of what it
belongs to, if that is indented at all. -/
def block? (literal : Bool) (enclosing : Option Nat) (p : Place) : Option (List Char × Place) := do
  let (header, p) ← BlockHeader.read? p.skip
  let indent := (header.indent.map (enclosing.getD 0 + ·)).getD 0
  let least := (enclosing.map (· + 1)).getD 0
  let m ← margin? indent least 0 0 p
  blockLines? literal header.chomping false false m

end UserPlane.Yaml
