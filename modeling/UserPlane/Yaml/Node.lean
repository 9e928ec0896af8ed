/-
  UserPlane.Yaml.Node
  ───────────────────
  **NODES: VALUES OF A DOCUMENT.**

  A node is a scalar, a sequence of nodes or a mapping between nodes.
  `Node.ofText?` reads the node of a text that holds exactly one document.  A
  value that is left out reads as the plain scalar `~`; an alias reads as the
  node that it names.
-/
import UserPlane.Yaml.Token

namespace UserPlane.Yaml

/-! ## §1. Nodes. -/

/-- A value of a document. -/
inductive Node where
  | scalar (style : Style) (tag : Option Tag) (text : String)
  | sequence (items : List Node)
  | mapping (entries : List (Node × Node))
  /-- An alias inside the node that it names, which has no end. -/
  | endless
  deriving Repr

namespace Node

/-- The value that is left out. -/
def omitted : Node := .scalar .plain none "~"

end Node

/-! ## §2. Taking tokens. -/

/-- The tokens that are still to be read, and the nodes that have names, the
last one first. -/
structure Reading where
  tokens : List Token
  named : List (String × Node) := []

/-- Reads something from tokens. -/
abbrev Grammar := StateT Reading Option

namespace Grammar

/-- The next token. -/
def peek : Grammar (Option Token) := return (← get).tokens.head?

/-- Drops the next token. -/
def drop : Grammar Unit := modify fun r => { r with tokens := r.tokens.tail }

/-- Drops the next token if it is `t`, and says whether it was. -/
def dropIf (t : Token) : Grammar Bool := do
  if (← peek) = some t then
    drop
    return true
  else return false

/-- Drops the next token, which has to be `t`. -/
def expect (t : Token) : Grammar Unit := do guard (← dropIf t)

/-- Whether the next token is one of `ts`, or there is none. -/
def isAt (ts : List Token) : Grammar Bool := return (← peek).all ts.contains

/-- The node of a name. -/
def lookup (name : String) : Grammar Node := do (← get).named.lookup name

/-- Gives a name to a node that is still to be read, and answers how many
names there were. -/
def announce (name : String) : Grammar Nat :=
  modifyGet fun r => (r.named.length, { r with named := (name, .endless) :: r.named })

/-- Puts the node under the name that was given after `n` others. -/
def settle (n : Nat) (node : Node) : Grammar Unit :=
  modify fun r => { r with
    named := r.named.modify (r.named.length - 1 - n) fun entry => (entry.1, node) }

/-- What stands before a node: a tag and the number of a name. -/
structure Properties where
  tag : Option Tag := none
  name : Option Nat := none

/-- Reads a tag and a name, in either order, each of which may be absent. -/
def properties : Grammar Properties := do
  match ← peek with
  | some (.anchor name) => do
    drop
    let number ← announce name
    match ← peek with
    | some (.tag tag) => drop; return ⟨some tag, some number⟩
    | _ => return ⟨none, some number⟩
  | some (.tag tag) => do
    drop
    match ← peek with
    | some (.anchor name) => drop; return ⟨some tag, some (← announce name)⟩
    | _ => return ⟨some tag, none⟩
  | _ => return {}

/-! ## §3. Nodes of tokens. -/

/-- Where a node stands. -/
inductive Context where
  /-- Inside brackets, where no block starts. -/
  | flow
  | block
  /-- As a key or a value of a block, where items of a sequence need not be
  indented. -/
  | entry
  deriving DecidableEq

mutual

/-- Reads a node, in at most `n` nested steps. -/
def node (n : Nat) (c : Context) : Grammar Node := do
  match n with
  | 0 => failure
  | n + 1 => do
    if let some (.alias name) ← peek then
      drop
      return ← lookup name
    let p ← properties
    let value ← content n c p
    if let some number := p.name then settle number value
    return value

/-- Reads a node after its tag and its name; either of them may stand for a
node of no text. -/
def content (n : Nat) (c : Context) (p : Properties) : Grammar Node := do
  match n with
  | 0 => failure
  | n + 1 => do
    let next ← peek
    match next with
    | some (.scalar style text) => drop; return .scalar style p.tag text
    | some .flowSequenceStart => drop; return .sequence (← flowItems n true)
    | some .flowMappingStart => drop; return .mapping (← flowEntries n true)
    | _ =>
      if next = some .blockEntry ∧ c = .entry then return .sequence (← plainItems n)
      else if next = some .blockSequenceStart ∧ c ≠ .flow then
        drop
        return .sequence (← blockItems n)
      else if next = some .blockMappingStart ∧ c ≠ .flow then
        drop
        return .mapping (← blockEntries n)
      else
        -- no content at all: only a tag or a name can stand for a node here
        guard (p.tag.isSome || p.name.isSome)
        return .scalar .plain p.tag ""

/-- Reads a node that may be left out: at one of `ts` there is none. -/
def optional (n : Nat) (c : Context) (ts : List Token) : Grammar Node := do
  match n with
  | 0 => failure
  | n + 1 => if (← peek).any ts.contains then return .omitted else node n c

/-- Reads the items of a sequence that is indented. -/
def blockItems (n : Nat) : Grammar (List Node) := do
  match n with
  | 0 => failure
  | n + 1 => do
    if ← dropIf .blockEnd then return []
    expect .blockEntry
    let item ← optional n .block [.blockEntry, .blockEnd]
    return item :: (← blockItems n)

/-- Reads the items of a sequence that is not indented. -/
def plainItems (n : Nat) : Grammar (List Node) := do
  match n with
  | 0 => failure
  | n + 1 => do
    if !(← dropIf .blockEntry) then return []
    let item ← optional n .block [.blockEntry, .key, .value, .blockEnd]
    return item :: (← plainItems n)

/-- Reads the entries of a mapping outside brackets; a key or a value that is
not there is left out. -/
def blockEntries (n : Nat) : Grammar (List (Node × Node)) := do
  match n with
  | 0 => failure
  | n + 1 => do
    if ← dropIf .blockEnd then return []
    let left : List Token := [.key, .value, .blockEnd]
    let key ←
      if ← dropIf .key then optional n .entry left
      else do
        guard ((← peek) = some .value)
        pure .omitted
    let value ← if ← dropIf .value then optional n .entry left else pure .omitted
    return (key, value) :: (← blockEntries n)

/-- Reads the entries of a mapping in brackets; a comma stands before all but
the `first`, and may stand before the closing bracket. -/
def flowEntries (n : Nat) (first : Bool) : Grammar (List (Node × Node)) := do
  match n with
  | 0 => failure
  | n + 1 => do
    if ← dropIf .flowMappingEnd then return []
    if !first then
      expect .flowEntry
      if ← dropIf .flowMappingEnd then return []
    -- a node without a key's mark is a whole entry, its value left out
    let (key, complete) ←
      if ← dropIf .key then do
        pure (← optional n .flow [.value, .flowEntry, .flowMappingEnd], false)
      else if (← peek) = some .value then pure (.omitted, false)
      else do
        pure (← node n .flow, true)
    let value ←
      if complete then pure .omitted
      else if ← dropIf .value then optional n .flow [.flowEntry, .flowMappingEnd]
      else pure .omitted
    return (key, value) :: (← flowEntries n false)

/-- Reads the items of a sequence in brackets; a key and a value make an item
that is a mapping of one entry. -/
def flowItems (n : Nat) (first : Bool) : Grammar (List Node) := do
  match n with
  | 0 => failure
  | n + 1 => do
    if ← dropIf .flowSequenceEnd then return []
    if !first then
      expect .flowEntry
      if ← dropIf .flowSequenceEnd then return []
    let item ← if ← dropIf .key then pair n else node n .flow
    return item :: (← flowItems n false)

/-- Reads the rest of an item that is a mapping of one entry.  A mark where
the key should be is lost with the key. -/
def pair (n : Nat) : Grammar Node := do
  match n with
  | 0 => failure
  | n + 1 => do
    let key ←
      if (← peek).any [Token.value, .flowEntry, .flowSequenceEnd].contains then do
        drop
        pure .omitted
      else node n .flow
    let value ←
      if ← dropIf .value then optional n .flow [.flowEntry, .flowSequenceEnd]
      else pure .omitted
    return .mapping [(key, value)]

end

/-! ## §4. Documents. -/

/-- Drops directives, of which there are at most `n`. -/
def dropDirectives : Nat → Grammar Unit
  | 0 => pure ()
  | n + 1 => do if ← dropIf .directive then dropDirectives n

/-- Drops ends of documents, of which there are at most `n`. -/
def dropEnds : Nat → Grammar Unit
  | 0 => pure ()
  | n + 1 => do if ← dropIf .documentEnd then dropEnds n

/-- Reads a document that is announced by its mark. -/
def announced (n : Nat) : Grammar Node := do
  dropDirectives n
  expect .documentStart
  if ← isAt [.directive, .documentStart, .documentEnd] then return .omitted
  node n .block

/-- Reads all documents, of which there are at most `m`.  Only the first one
may come without its mark. -/
def documents (n : Nat) : Nat → Bool → Grammar (List Node)
  | 0, _ => failure
  | m + 1, first => do
    if !first then dropEnds n
    match ← peek with
    | none => return []
    | some t => do
      let document ←
        if first && t != .directive && t != .documentStart then node n .block else announced n
      let _ ← dropIf .documentEnd
      -- names hold within one document
      modify fun r => { r with named := [] }
      return document :: (← documents n m false)

end Grammar

/-! ## §5. The node of a text. -/

namespace Node

/-- The documents that tokens stand for.  At most three nested steps go by
without taking a token. -/
def documentsOfTokens? (ts : List Token) : Option (List Node) :=
  ((Grammar.documents (4 * ts.length + 4) (ts.length + 2) true).run { tokens := ts }).map (·.1)

/-- The node of a text that holds exactly one document. -/
def ofText? (text : String) : Option Node := do
  match ← documentsOfTokens? (← Token.ofText? text) with
  | [node] => some node
  | _ => none

end Node

end UserPlane.Yaml
