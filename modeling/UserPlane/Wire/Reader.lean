/-
  UserPlane.Wire.Reader
  ─────────────────────
  **TAKING FIELDS OFF THE FRONT OF A VALUE.**

  A reader takes what it wants from the front of the octets and leaves the
  rest.  Each reader here has one law: before any further octets it reads back
  what was written, and leaves those octets alone (`run_u32` and its like);
  `run_present` says so for a field that is there only when a flag says it is.
-/
import UserPlane.Address.Ip
import UserPlane.Wire.Fault

namespace UserPlane

/-- Takes a value off the front of octets, or faults. -/
abbrev Reader := StateT Octets Decoded

/-- Three octets, one after the other. -/
def octets3 (t : UInt8 × UInt8 × UInt8) : Octets := [t.1, t.2.1, t.2.2]

/-- A text after its length, of which the low 16 bits are written. -/
def textOctets (s : String) : Octets :=
  Octets.ofNat 2 (Utf8.encode s).length ++ Utf8.encode s

namespace Reader

/-- The next `n` octets, which belong to `field`. -/
def take (n : Nat) (field : String) : Reader Octets := fun bs =>
  let front := bs.take n
  if front.length < n then .error (.truncated field n bs.length)
  else .ok (front, bs.drop n)

/-- An octet. -/
def u8 (field : String) : Reader UInt8 := fun bs =>
  match bs with
  | [] => .error (.truncated field 1 0)
  | b :: rest => .ok (b, rest)

/-- A 16-bit number. -/
def u16 (field : String) : Reader UInt16 := do
  return UInt16.ofNat (Octets.toNat (← take 2 field))

/-- A 32-bit number. -/
def u32 (field : String) : Reader UInt32 := do
  return UInt32.ofNat (Octets.toNat (← take 4 field))

/-- A 64-bit number. -/
def u64 (field : String) : Reader UInt64 := do
  return UInt64.ofNat (Octets.toNat (← take 8 field))

/-- An IPv4 address. -/
def ipv4 (field : String) : Reader Ipv4 := do return Ipv4.ofOctets (← take 4 field)

/-- An IPv6 address. -/
def ipv6 (field : String) : Reader Ipv6 := do return Ipv6.ofOctets (← take 16 field)

/-- Three octets that belong together. -/
def three (field : String) : Reader (UInt8 × UInt8 × UInt8) := do
  let bs ← take 3 field
  return (bs.headD 0, (bs.drop 1).headD 0, (bs.drop 2).headD 0)

/-- A text after its length. -/
def text (lengthField : String) : Reader String := do
  let length := (← u16 lengthField).toNat
  let left ← get
  if left.length < length then throw (.textOverrun length left.length)
  match Utf8.decode (left.take length) with
  | .error fault => throw (.notUtf8 fault)
  | .ok s =>
    set (left.drop length)
    return s

/-- A field that is there exactly when `there` holds. -/
def present {α : Type} (there : Bool) (field : Reader α) : Reader (Option α) :=
  if there then do return some (← field) else return none

/-- What a reader makes of a whole value; octets it leaves are ignored. -/
def decode {α : Type} (r : Reader α) (bs : Octets) : Decoded α := do
  return (← r.run bs).1

/-- Refuses a value of any length but `n`. -/
def exactly (n : Nat) (bs : Octets) : Decoded Unit :=
  if bs.length = n then .ok () else .error (.wrongLength n bs.length)

/-! ## §1. What was written reads back. -/

theorem run_take {front : Octets} {n : Nat} (field : String) (rest : Octets)
    (h : front.length = n) : (take n field).run (front ++ rest) = .ok (front, rest) := by
  subst h
  show (if _ then _ else _) = _
  simp

@[simp] theorem run_u8 (field : String) (b : UInt8) (rest : Octets) :
    (u8 field).run (b :: rest) = .ok (b, rest) := rfl

@[simp] theorem run_u16 (field : String) (v : UInt16) (rest : Octets) :
    (u16 field).run (be16 v ++ rest) = .ok (v, rest) := by
  unfold u16
  rw [StateT.run_bind, run_take field rest (length_be16 v)]
  show Except.ok (UInt16.ofNat _, rest) = _
  simp

@[simp] theorem run_u32 (field : String) (v : UInt32) (rest : Octets) :
    (u32 field).run (be32 v ++ rest) = .ok (v, rest) := by
  unfold u32
  rw [StateT.run_bind, run_take field rest (length_be32 v)]
  show Except.ok (UInt32.ofNat _, rest) = _
  simp

@[simp] theorem run_u64 (field : String) (v : UInt64) (rest : Octets) :
    (u64 field).run (be64 v ++ rest) = .ok (v, rest) := by
  unfold u64
  rw [StateT.run_bind, run_take field rest (length_be64 v)]
  show Except.ok (UInt64.ofNat _, rest) = _
  simp

@[simp] theorem run_ipv4 (field : String) (a : Ipv4) (rest : Octets) :
    (ipv4 field).run (a.octets ++ rest) = .ok (a, rest) := by
  unfold ipv4
  rw [StateT.run_bind, run_take field rest a.length_octets]
  show Except.ok (Ipv4.ofOctets a.octets, rest) = _
  simp

@[simp] theorem run_ipv6 (field : String) (a : Ipv6) (rest : Octets) :
    (ipv6 field).run (a.octets ++ rest) = .ok (a, rest) := by
  unfold ipv6
  rw [StateT.run_bind, run_take field rest a.length_octets]
  show Except.ok (Ipv6.ofOctets a.octets, rest) = _
  simp

end Reader

/-! ## §2. Optional fields. -/

/-- An optional field in octets: its writing, or nothing. -/
def optionalBytes {α : Type} (write : α → Octets) : Option α → Octets
  | none => []
  | some a => write a

/-- A field that is there when its flag says so reads back. -/
theorem Reader.run_present {α : Type} {r : Reader α} {write : α → Octets} {there : Bool}
    {v : Option α} {rest : Octets} (hflag : there = v.isSome)
    (hread : ∀ a rest, r.run (write a ++ rest) = .ok (a, rest)) :
    (present there r).run (optionalBytes write v ++ rest) = .ok (v, rest) := by
  subst hflag
  cases v with
  | none => rfl
  | some a =>
    show (do return some (← r)).run (write a ++ rest) = _
    rw [StateT.run_bind, hread]
    rfl

/-- A field that was read is there exactly when its flag said so. -/
theorem Reader.isSome_of_run_present {α : Type} {r : Reader α} {there : Bool}
    {v : Option α} {bs rest : Octets} (h : (present there r).run bs = .ok (v, rest)) :
    v.isSome = there := by
  cases there with
  | false =>
    have hp : Except.ok (none, bs) = (Except.ok (v, rest) : Decoded (Option α × Octets)) := h
    cases hp
    rfl
  | true =>
    simp only [present, if_true, StateT.run_bind] at h
    cases hr : r.run bs with
    | error e => rw [hr] at h; cases h
    | ok p =>
      rw [hr] at h
      cases h
      rfl

end UserPlane
