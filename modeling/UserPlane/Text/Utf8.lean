/-
  UserPlane.Text.Utf8
  ───────────────────
  **OCTETS READ AS UTF-8 TEXT.**

  Two readings of a string of octets as text:

      Utf8.decode   the text, or where and how the octets stop being UTF-8
      Utf8.lossy    always a text, every broken stretch shown as U+FFFD

  A broken stretch is the longest run of octets that starts a character but
  cannot go on to finish it, and at least one octet; a character that merely
  runs out of octets at the end of the string is *incomplete* instead.
-/
import UserPlane.Octets

namespace UserPlane

/-- Where octets stop being UTF-8: after `validUpTo` good octets, for `broken`
octets, or for lack of further octets when `broken` is absent. -/
structure Utf8Fault where
  validUpTo : Nat
  broken : Option Nat
  deriving DecidableEq, Repr

/-- The fault in words. -/
def Utf8Fault.message (f : Utf8Fault) : String :=
  match f.broken with
  | some n => s!"invalid utf-8 sequence of {n} bytes from index {f.validUpTo}"
  | none => s!"incomplete utf-8 byte sequence from index {f.validUpTo}"

namespace Utf8

/-- What stands at the front of a string of octets: a character of `width`
octets, a broken stretch, or the start of a character cut off by the end. -/
inductive Piece where
  | char (width : Nat)
  | broken (width : Nat)
  | cut
  deriving DecidableEq, Repr

/-- Whether `b` continues a character. -/
def isContinuation (b : UInt8) : Bool := 0x80 ≤ b && b ≤ 0xBF

/-- The octets that may follow a first octet of a character of three or four
octets: the ranges that leave out overlong forms, surrogates and numbers past
U+10FFFF. -/
def secondRange (b : UInt8) : UInt8 × UInt8 :=
  if b = 0xE0 then (0xA0, 0xBF)
  else if b = 0xED then (0x80, 0x9F)
  else if b = 0xF0 then (0x90, 0xBF)
  else if b = 0xF4 then (0x80, 0x8F)
  else (0x80, 0xBF)

/-- The count of octets that a first octet announces; zero when `b` starts no
character. -/
def announced (b : UInt8) : Nat :=
  if b < 0x80 then 1
  else if 0xC2 ≤ b && b ≤ 0xDF then 2
  else if 0xE0 ≤ b && b ≤ 0xEF then 3
  else if 0xF0 ≤ b && b ≤ 0xF4 then 4
  else 0

/-- What the character comes to once `want` more octets have to continue it,
`seen` octets of it having gone by. -/
def continuations (seen : Nat) : Nat → Octets → Piece
  | 0, _ => .char seen
  | _ + 1, [] => .cut
  | want + 1, b :: rest =>
    if isContinuation b then continuations (seen + 1) want rest else .broken seen

/-- What stands at the front of `b :: rest`. -/
def piece (b : UInt8) (rest : Octets) : Piece :=
  match announced b with
  | 0 => .broken 1
  | 1 => .char 1
  | n + 2 =>
    match rest with
    | [] => .cut
    | c :: rest' =>
      if (secondRange b).1 ≤ c && c ≤ (secondRange b).2 then continuations 2 n rest'
      else .broken 1

/-- The number of the character written in the octets of one good piece. -/
def codePoint : Octets → Nat
  | [] => 0
  | [a] => a.toNat
  | a :: rest =>
    rest.foldl (fun acc b => acc * 64 + b.toNat % 64)
      (a.toNat % 1 <<< (6 - rest.length))

/-- The first place where the octets stop being UTF-8, `seen` octets on. -/
def faultFrom (seen : Nat) : Octets → Option Utf8Fault
  | [] => none
  | b :: rest =>
    match piece b rest with
    | .char w => faultFrom (seen + w) (rest.drop (w - 1))
    | .broken w => some ⟨seen, some w⟩
    | .cut => some ⟨seen, none⟩
termination_by bs => bs.length
decreasing_by
  simp only [List.length_drop, List.length_cons]
  omega

/-- The characters of the octets, a broken stretch or a cut-off character
standing as U+FFFD. -/
def replaced : Octets → List Char
  | [] => []
  | b :: rest =>
    match piece b rest with
    | .char w => Char.ofNat (codePoint ((b :: rest).take w)) :: replaced (rest.drop (w - 1))
    | .broken w => '\ufffd' :: replaced (rest.drop (w - 1))
    | .cut => ['\ufffd']
termination_by bs => bs.length
decreasing_by
  all_goals
    simp only [List.length_drop, List.length_cons]
    omega

/-- The text written in octets, if they are UTF-8 throughout. -/
def text? (bs : Octets) : Option String := String.fromUTF8? ⟨bs.toArray⟩

/-- The octets that write a text. -/
def encode (s : String) : Octets := s.toUTF8.data.toList

/-- The text, or the first fault. -/
def decode (bs : Octets) : Except Utf8Fault String :=
  match text? bs with
  | some s => .ok s
  | none => .error ((faultFrom 0 bs).getD ⟨0, none⟩)

/-- The text, with broken stretches replaced. -/
def lossy (bs : Octets) : String :=
  match text? bs with
  | some s => s
  | none => String.ofList (replaced bs)

/-- Octets that write a text read back as it. -/
theorem text?_encode (s : String) : text? (encode s) = some s := by
  show String.fromUTF8? ⟨s.toByteArray.data.toList.toArray⟩ = some s
  rw [Array.toArray_toList]
  unfold String.fromUTF8?
  rw [dif_pos s.isValidUTF8]
  rfl

@[simp] theorem decode_encode (s : String) : decode (encode s) = .ok s := by
  simp [decode, text?_encode]

@[simp] theorem lossy_encode (s : String) : lossy (encode s) = s := by
  simp [lossy, text?_encode]

end Utf8

end UserPlane
