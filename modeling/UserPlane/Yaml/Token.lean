/-
  UserPlane.Yaml.Token
  ────────────────────
  **TOKENS: THE PARTS OF A TEXT.**

  `Token.ofText?` cuts a text into tokens.  Where a block of lines starts and
  ends is not written: it follows from the columns at which lines start, and
  is made explicit by tokens of its own.  That something is a key shows only
  at the colon after it, so the last thing that may be one is remembered with
  its place among the tokens, where a key token is then put.
-/
import UserPlane.Yaml.Tag

namespace UserPlane.Yaml

/-! ## §1. Tokens. -/

/-- How a scalar is written: plainly, or in quotes or as a block. -/
inductive Style where
  | plain
  | quoted
  deriving DecidableEq, Repr

/-- A part of a text. -/
inductive Token where
  | directive
  | documentStart
  | documentEnd
  | blockSequenceStart
  | blockMappingStart
  | blockEnd
  | flowSequenceStart
  | flowSequenceEnd
  | flowMappingStart
  | flowMappingEnd
  | blockEntry
  | flowEntry
  | key
  | value
  | alias (name : String)
  | anchor (name : String)
  | tag (tag : Tag)
  | scalar (style : Style) (text : String)
  deriving DecidableEq, Repr

/-! ## §2. A text half cut. -/

/-- Something that may turn out to be a key. -/
structure PossibleKey where
  place : Place
  /-- Where it starts among the tokens. -/
  position : Nat
  /-- Whether it has to turn out to be a key. -/
  required : Bool
  deriving Repr

/-- A key stands on one line with its colon, and not further off than this. -/
def longestKey : Nat := 1024

/-- Whether it is too late for a colon. -/
def PossibleKey.isStale (k : PossibleKey) (p : Place) : Bool :=
  k.place.line < p.line || k.place.index + longestKey < p.index

/-- What is known of a text up to a place in it. -/
structure Cutting where
  place : Place
  tokens : List Token := []
  /-- Whether a key may start here. -/
  keyAllowed : Bool := true
  /-- What may turn out to be a key, and the same for each pair of brackets
  around it. -/
  key : Option PossibleKey := none
  outerKeys : List (Option PossibleKey) := []
  /-- The columns of the blocks that are open, the innermost first. -/
  columns : List Nat := []
  /-- Where a colon needs no blank after it: right after quotes. -/
  adjacentAt : Nat := 0

namespace Cutting

/-- Whether the place is inside brackets. -/
def inFlow (s : Cutting) : Bool := !s.outerKeys.isEmpty

/-- How deep brackets may be nested. -/
def deepest : Nat := 255

def push (s : Cutting) (t : Token) : Cutting := { s with tokens := s.tokens ++ [t] }

def allowKey (s : Cutting) (allowed : Bool) : Cutting := { s with keyAllowed := allowed }

/-! ## §3. Keys and columns. -/

/-- Nothing seen so far may turn out to be a key any more; refused if
something has to. -/
def dropKey? (s : Cutting) : Option Cutting :=
  if s.key.any (·.required) then none else some { s with key := none }

/-- What starts here may turn out to be a key.  Inside brackets it has to if
it stands at the column of the block around them. -/
def markKey? (s : Cutting) : Option Cutting :=
  if s.keyAllowed then do
    let s ← s.dropKey?
    let required := s.inFlow && s.columns.head? == some s.place.column
    return { s with key := some ⟨s.place, s.tokens.length, required⟩ }
  else some s

/-- Without what it is too late for; refused if that has to be a key. -/
def dropStale? (s : Cutting) : Option Cutting :=
  let stale := (Option.any (·.isStale s.place) : Option PossibleKey → Bool)
  if (s.key :: s.outerKeys).any fun k => stale k && k.any (·.required) then none
  else
    let fresh (k : Option PossibleKey) := if stale k then none else k
    some { s with key := fresh s.key, outerKeys := s.outerKeys.map fresh }

/-- Opens a block at a column right of the open ones, with a token put at
`position`. -/
def openBlock (s : Cutting) (column : Nat) (start : Token) (position : Nat) : Cutting :=
  if s.inFlow || s.columns.head?.any (column ≤ ·) then s
  else { s with tokens := s.tokens.insertIdx position start, columns := column :: s.columns }

/-- Closes the open blocks that satisfy `f`, the innermost first. -/
def closeBlocks (s : Cutting) (f : Nat → Bool) : Cutting :=
  if s.inFlow then s
  else
    let closed := (s.columns.takeWhile f).length
    { s with
      tokens := s.tokens ++ .replicate closed .blockEnd
      columns := s.columns.drop closed }

/-! ## §4. One token. -/

/-- Past blanks, line breaks and comments.  A tab counts as a blank only where
no key may start; outside brackets a key may start on every new line. -/
def skipBlanks (flow allowed : Bool) (p : Place) : Bool × Place :=
  match h : p.peek 0 with
  | none => (allowed, p)
  | some c =>
    have := Place.left_skip_lt h
    have := Place.left_skipBreak_lt h
    if c = ' ' ∨ c = '\t' ∧ (flow || !allowed) then skipBlanks flow allowed p.skip
    else if isBreak c then skipBlanks flow (allowed || !flow) p.skipBreak
    else if c = '#' then
      have := p.skip.left_skipWhile_le (!isBreak ·)
      skipBlanks flow allowed (p.skip.skipWhile (!isBreak ·))
    else (allowed, p)
termination_by p.left

/-- Takes a mark of `n` characters. -/
def mark (s : Cutting) (n : Nat) (t : Token) : Cutting :=
  { s.push t with place := s.place.skips n }

/-- Takes the border of a document, or a directive, which ends all blocks. -/
def border? (s : Cutting) : Option Cutting := do
  return (← (s.closeBlocks fun _ => true).dropKey?).allowKey false

/-- Takes an opening bracket. -/
def openFlow? (s : Cutting) (t : Token) : Option Cutting := do
  let s ← s.markKey?
  guard (s.outerKeys.length < deepest)
  return { s.mark 1 t with keyAllowed := true, key := none, outerKeys := s.key :: s.outerKeys }

/-- Takes a closing bracket. -/
def closeFlow? (s : Cutting) (t : Token) : Option Cutting := do
  let s := (← s.dropKey?).allowKey false
  match s.outerKeys with
  | [] => return s.mark 1 t
  | key :: outerKeys => return { s.mark 1 t with key, outerKeys }

/-- Takes a dash, which starts an item of a block. -/
def blockEntry? (s : Cutting) : Option Cutting := do
  guard (!s.inFlow && s.keyAllowed)
  let s ← (s.openBlock s.place.column .blockSequenceStart s.tokens.length).dropKey?
  return (s.allowKey true).mark 1 .blockEntry

/-- Readies a block for a key or a value that nothing marked before. -/
def openMapping? (s : Cutting) : Option Cutting := do
  guard (s.inFlow || s.keyAllowed)
  return s.openBlock s.place.column .blockMappingStart s.tokens.length

/-- Takes a question mark, which starts a key. -/
def key? (s : Cutting) : Option Cutting := do
  let s ← (← s.openMapping?).dropKey?
  return (s.allowKey !s.inFlow).mark 1 .key

/-- Takes a colon, which starts a value and makes a key of what is before it. -/
def value? (s : Cutting) : Option Cutting := do
  match s.key with
  | some k =>
    -- what was read at `k` is a key: mark it there, and start its block there
    let s := { s with tokens := s.tokens.insertIdx k.position .key, key := none }
    let s := s.openBlock k.place.column .blockMappingStart k.position
    return (s.allowKey false).mark 1 .value
  | none =>
    -- a value whose key is left out, or follows a question mark
    let s ← s.openMapping?
    return (s.allowKey !s.inFlow).mark 1 .value

/-- What may follow the name of an anchor. -/
def endsName (c? : Option Char) : Bool :=
  standsAlone c? || c?.any (['?', ':', ',', ']', '\x7d', '%', '@', '\x60'].contains ·)

/-- Takes an anchor or an alias. -/
def anchor? (s : Cutting) (token : String → Token) : Option Cutting := do
  let s := (← s.markKey?).allowKey false
  let p := s.place.skip
  let q := p.skipWhile isNameChar
  let name := p.upTo q
  guard (!name.isEmpty && endsName (q.peek 0))
  return { s.push (token (.ofList name)) with place := q }

/-- Takes a tag. -/
def tag? (s : Cutting) : Option Cutting := do
  let s := (← s.markKey?).allowKey false
  let (tag, place) ← Tag.read? s.place
  return { s.push (.tag tag) with place }

/-- Takes a plain scalar.  After one that ran past a line break a key may
start. -/
def plain? (s : Cutting) : Option Cutting := do
  let s ← s.markKey?
  let margin := (s.columns.head?.map (· + 1)).getD 0
  let r ← Yaml.plain? s.inFlow margin {} s.place
  return { s.push (.scalar .plain (.ofList r.text)) with place := r.after, keyAllowed := r.isBroken }

/-- Takes a quoted scalar. -/
def quoted? (s : Cutting) (quote : Char) : Option Cutting := do
  let s := (← s.markKey?).allowKey false
  let (text, place) ← Yaml.quoted? quote {} s.place.skip
  return { s.push (.scalar .quoted (.ofList text)) with place, adjacentAt := place.index }

/-- Takes a block of lines. -/
def block? (s : Cutting) (literal : Bool) : Option Cutting := do
  let s := (← s.markKey?).allowKey true
  let (text, place) ← Yaml.block? literal s.columns.head? s.place
  return { s.push (.scalar .quoted (.ofList text)) with place }

/-- Takes the token that starts with `c`. -/
def take? (s : Cutting) (c : Char) : Option Cutting := do
  let p := s.place
  let next := p.peek 1
  let alone := standsAlone next
  -- marks that count at the start of a line only
  if p.column = 0 ∧ c = '%' then
    return { (← s.border?).push .directive with place := ← Directive.read? p }
  if p.isDocumentMark '-' then return (← s.border?).mark 3 .documentStart
  if p.isDocumentMark '.' then return (← s.border?).mark 3 .documentEnd
  -- marks that need a blank behind them, else they start a plain scalar
  if c = '-' ∧ alone then s.blockEntry?
  else if c = '?' ∧ alone then s.key?
  else if c = ':' ∧ (alone || s.inFlow && (next.any isFlowMark || p.index == s.adjacentAt)) then
    s.value?
  else if (c = '|' ∨ c = '>') ∧ !s.inFlow then s.block? (c == '|')
  else
    match c with
    | '[' => s.openFlow? .flowSequenceStart
    | '\x7b' => s.openFlow? .flowMappingStart
    | ']' => s.closeFlow? .flowSequenceEnd
    | '\x7d' => s.closeFlow? .flowMappingEnd
    | ',' => return ((← s.dropKey?).allowKey true).mark 1 .flowEntry
    | '*' => s.anchor? .alias
    | '&' => s.anchor? .anchor
    | '!' => s.tag?
    | '\x27' => s.quoted? '\x27'
    | '\x22' => s.quoted? '\x22'
    -- characters kept for later use, with which no plain scalar starts
    | '%' => none
    | '@' => none
    | '\x60' => none
    | _ => s.plain?

/-- Cuts up to `n` further tokens, until the text ends. -/
def run? : Nat → Cutting → Option (List Token)
  | 0, _ => none
  | n + 1, s => do
    let (keyAllowed, place) := skipBlanks s.inFlow s.keyAllowed s.place
    let s ← { s with keyAllowed, place }.dropStale?
    -- blocks that stand further right than this line are over
    let s := s.closeBlocks (s.place.column < ·)
    match s.place.peek 0 with
    | none => return (← (s.closeBlocks fun _ => true).dropKey?).tokens
    | some c => run? n (← s.take? c)

end Cutting

/-! ## §5. All tokens. -/

/-- The tokens of a text, which ends at its first null character.  A text has
no more tokens to be cut than characters. -/
def Token.ofText? (text : String) : Option (List Token) :=
  let cs := text.toList.takeWhile (· ≠ '\x00')
  Cutting.run? (cs.length + 1) { place := { rest := cs } }

end UserPlane.Yaml
