/-
  UserPlane.Pool.Cursor
  ─────────────────────
  **NUMBERS HANDED OUT IN ORDER.**

  A cursor hands out the numbers from `next` up to, not including, `stop`, and
  after them the numbers given back, oldest first.  Nothing is listed up front,
  so a range of any length costs nothing.
-/
namespace UserPlane

/-- The numbers not handed out yet, and those given back. -/
structure Cursor where
  next : Nat
  stop : Nat
  released : List Nat := []
  deriving DecidableEq, Repr

namespace Cursor

/-- The next number to hand out. -/
def take? (c : Cursor) : Option (Nat × Cursor) :=
  if c.next < c.stop then some (c.next, { c with next := c.next + 1 })
  else
    match c.released with
    | [] => none
    | n :: rest => some (n, { c with released := rest })

/-- Takes a number back. -/
def giveBack (c : Cursor) (n : Nat) : Cursor := { c with released := c.released ++ [n] }

/-- The greatest number of 64 bits. -/
def ceiling : Nat := 0xFFFFFFFFFFFFFFFF

/-- How many numbers can be handed out, as far as 64 bits can tell. -/
def remaining (c : Cursor) : Nat :=
  min (min (c.stop - c.next) ceiling + c.released.length) ceiling

end Cursor

end UserPlane
