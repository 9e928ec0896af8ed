/-
  UserPlane.Text.Quoted
  ─────────────────────
  **TEXT QUOTED FOR A MESSAGE.**

  A quotation stands between double quotes.  Quotes and backslashes get a
  backslash, the common control characters their letter, and every other
  character that does not show on its own is written by its number in
  hexadecimal between braces.
-/
import UserPlane.Text.Numeral
import UserPlane.Text.Printable

namespace UserPlane

/-- One character inside a quotation. -/
def quoteChar (c : Char) : List Char :=
  if c = '\x00' then ['\\', '0']
  else if c = '\t' then ['\\', 't']
  else if c = '\r' then ['\\', 'r']
  else if c = '\n' then ['\\', 'n']
  else if c = '"' then ['\\', '"']
  else if c = '\\' then ['\\', '\\']
  else if isPrintable c then [c]
  else ['\\', 'u', '\x7b'] ++ Numeral.hex c.toNat ++ ['\x7d']

/-- A text between double quotes. -/
def quoted (s : String) : String :=
  String.ofList ('"' :: s.toList.flatMap quoteChar ++ ['"'])

/-- Texts quoted one by one, in brackets. -/
def quotedList (ss : List String) : String :=
  "[" ++ String.intercalate ", " (ss.map quoted) ++ "]"

end UserPlane
