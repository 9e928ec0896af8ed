/-
  UserPlane.Address.Socket
  ────────────────────────
  **WHERE DATAGRAMS COME FROM AND GO TO.**

  An address with a port is written `a.b.c.d:port` or `[v6]:port`; an IPv6
  address may carry the number of a scope, written `%n` before the bracket
  unless it is zero.
-/
import UserPlane.Address.Reading
import UserPlane.Address.Text

namespace UserPlane

/-- An address, the scope it is meant in (IPv6 only, else zero), a port. -/
structure SocketAddress where
  ip : Ip
  scope : UInt32 := 0
  port : UInt16
  deriving DecidableEq, Repr

namespace SocketAddress

/-- The address and port in writing. -/
def text (a : SocketAddress) : String :=
  let port := String.ofList (':' :: Numeral.decimal a.port.toNat)
  match a.ip with
  | .v4 v4 => v4.text ++ port
  | .v6 v6 =>
    let scope :=
      if a.scope = 0 then "" else String.ofList ('%' :: Numeral.decimal a.scope.toNat)
    "[" ++ v6.text ++ scope ++ "]" ++ port

/-- A decimal number up to `limit`, with any count of leading zeros. -/
def readNumber? (limit : Nat) (cs : List Char) : Option (Nat × List Char) :=
  let (ds, rest) := spanDigits 10 cs
  if ds = [] ∨ limit < digitsValue 10 ds then none else some (digitsValue 10 ds, rest)

/-- A port after a colon, which ends the text. -/
def readPort? (cs : List Char) : Option UInt16 := do
  let (port, rest) ← readNumber? 65535 (← readChar? ':' cs)
  guard rest.isEmpty
  return UInt16.ofNat port

/-- The number of a scope after a percent sign; without one, or when no
number follows, scope zero and nothing taken. -/
def readScope (cs : List Char) : UInt32 × List Char :=
  match (readChar? '%' cs).bind (readNumber? 4294967295) with
  | some (n, rest) => (UInt32.ofNat n, rest)
  | none => (0, cs)

/-- The address and port that a whole text writes. -/
def ofText? (s : List Char) : Option SocketAddress :=
  match Ipv4.read? s with
  | some (a, rest) => do return { ip := .v4 a, port := ← readPort? rest }
  | none => do
    let (a, cs) ← Ipv6.read? (← readChar? '[' s)
    let (scope, cs) := readScope cs
    return { ip := .v6 a, scope, port := ← readPort? (← readChar? ']' cs) }

end SocketAddress

end UserPlane
