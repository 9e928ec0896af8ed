/-
  UserPlane.Yaml.Tag
  ──────────────────
  **TAGS AND DIRECTIVES.**

  A tag says of what kind a value is: a handle between exclamation marks and a
  suffix, in which octets may be written with a per cent sign.  A directive is
  a line that starts with a per cent sign; it is checked and otherwise without
  effect.
-/
import UserPlane.Yaml.Scalar

namespace UserPlane.Yaml

/-! ## §1. Tags. -/

/-- What is said of the kind of a value. -/
structure Tag where
  handle : String
  suffix : String
  deriving DecidableEq, Repr

namespace Tag

/-- A tag of the standard's own kinds. -/
def standard (suffix : String) : Tag := ⟨"!!", suffix⟩

/-- A character that a suffix may hold as it is. -/
def isSuffixChar (c : Char) : Bool :=
  isNameChar c || [';', '/', '?', ':', '@', '&', '=', '+', '$', ',', '.', '!', '~', '*', '\x27',
    '(', ')', '[', ']'].contains c

/-- Reads an octet written as a per cent sign and two digits. -/
def octet? (p : Place) : Option Nat := do
  guard (p.peek 0 = some '%')
  hexValue? [← p.peek 1, ← p.peek 2]

/-- Reads a character written in octets, one or two of them; two are put side
by side. -/
def escaped? (p : Place) : Option (Char × Nat) := do
  let first ← octet? p
  if first < 0x80 then return (← charOf? first, 3)
  guard (first / 0x20 = 0x6)
  let second ← octet? (p.skips 3)
  guard (second / 0x40 = 0x2)
  return (← charOf? (first * 0x100 + second), 6)

/-- Reads the suffix of a tag as far as it goes. -/
def suffix? (p : Place) : Option (List Char × Place) :=
  match h : p.peek 0 with
  | none => some ([], p)
  | some c =>
    have := Place.left_skip_lt h
    if c = '%' then
      match escaped? p with
      | none => none
      | some (d, n) =>
        have := p.skip.left_skips (n - 1)
        (suffix? (p.skip.skips (n - 1))).map fun r => (d :: r.1, r.2)
    else if isSuffixChar c then (suffix? p.skip).map fun r => (c :: r.1, r.2)
    else some ([], p)
termination_by p.left

/-- Reads a suffix that is not empty. -/
def properSuffix? (p : Place) : Option (List Char × Place) :=
  (suffix? p).filter fun r => !r.1.isEmpty

/-- Reads a handle: an exclamation mark, a name, and perhaps another mark. -/
def handle? (p : Place) : Option (List Char × Place) := do
  guard (p.peek 0 = some '!')
  let q := p.skip.skipWhile isNameChar
  let q := if q.peek 0 = some '!' then q.skip else q
  return (p.upTo q, q)

/-- Whether a handle ends in a mark of its own. -/
def isClosed (handle : List Char) : Bool :=
  2 ≤ handle.length && handle.getLast? == some '!'

/-- Reads what stands for a tag: a suffix in angle brackets, a closed handle
and a suffix, or a mark and a suffix, which may be empty. -/
def body? (p : Place) : Option (Tag × Place) := do
  if p.peek 1 = some '<' then
    let (suffix, p) ← properSuffix? (p.skips 2)
    guard (p.peek 0 = some '>')
    return (⟨"", .ofList suffix⟩, p.skip)
  let (handle, p) ← handle? p
  if isClosed handle then
    let (suffix, p) ← properSuffix? p
    return (⟨.ofList handle, .ofList suffix⟩, p)
  let (suffix, p) ← suffix? p
  match handle.tail ++ suffix with
  | [] => return (⟨"", "!"⟩, p)
  | suffix => return (⟨"!", .ofList suffix⟩, p)

/-- Reads a tag, which stands alone. -/
def read? (p : Place) : Option (Tag × Place) :=
  (body? p).filter fun r => standsAlone (r.2.peek 0)

end Tag

/-! ## §2. Directives. -/

namespace Directive

/-- Past a number of one to nine digits. -/
def number? (p : Place) : Option Place := do
  let q := p.skipWhile Char.isDigit
  guard (0 < (p.upTo q).length ∧ (p.upTo q).length ≤ 9)
  return q

/-- Past a version, two numbers with a point between them. -/
def version? (p : Place) : Option Place := do
  let p ← number? p
  guard (p.peek 0 = some '.')
  number? p.skip

/-- Past a handle and what it stands for. -/
def handle? (p : Place) : Option Place := do
  let (handle, p) ← Tag.handle? p
  guard (handle = ['!'] ∨ Tag.isClosed handle)
  let (_, p) ← Tag.properSuffix? (p.skipWhile isSpace)
  guard (standsAlone (p.peek 0))
  return p

/-- Past a directive and the line that it stands on. -/
def read? (p : Place) : Option Place := do
  let p := p.skip
  let q := p.skipWhile isNameChar
  let name := p.upTo q
  guard (!name.isEmpty && standsAlone (q.peek 0))
  let q ←
    if name = "YAML".toList then version? (q.skipWhile isSpace)
    else if name = "TAG".toList then handle? (q.skipWhile isSpace)
    else some (q.skipWhile (!isBreak ·))
  let q := (q.skipWhile isSpace).skipComment
  guard ((q.peek 0).all isBreak)
  return q.skipBreak

end Directive

end UserPlane.Yaml
