/-
  UserPlane.Address.Ip
  ────────────────────
  **INTERNET ADDRESSES.**

  An address is its bits: 32 of them or 128.  This module gives the two kinds
  their octets (most significant first), the eight 16-bit groups in which the
  longer kind is written, and the sum type of both.
-/
import UserPlane.Octets

namespace UserPlane

/-- An IPv4 address. -/
structure Ipv4 where
  bits : BitVec 32
  deriving DecidableEq, Repr

/-- An IPv6 address. -/
structure Ipv6 where
  bits : BitVec 128
  deriving DecidableEq, Repr

/-- An address of either kind. -/
inductive Ip where
  | v4 (address : Ipv4)
  | v6 (address : Ipv6)
  deriving DecidableEq, Repr

namespace Ipv4

/-- The four octets of the address. -/
def octets (a : Ipv4) : Octets := Octets.ofNat 4 a.bits.toNat

/-- The address with the given octets, of which the last four count. -/
def ofOctets (bs : Octets) : Ipv4 := ⟨BitVec.ofNat 32 (Octets.toNat bs)⟩

/-- The address of the node itself. -/
def localhost : Ipv4 := ⟨0x7F000001#32⟩

/-- Whether the address stands for "any address of this node". -/
def isUnspecified (a : Ipv4) : Bool := a.bits == 0#32

@[simp] theorem length_octets (a : Ipv4) : a.octets.length = 4 := Octets.length_ofNat 4 _

@[simp] theorem ofOctets_octets (a : Ipv4) : ofOctets a.octets = a := by
  have h : a.bits.toNat < Octets.bound 4 := a.bits.isLt
  rw [ofOctets, octets, Octets.toNat_ofNat, Nat.mod_eq_of_lt h, BitVec.ofNat_toNat,
    BitVec.setWidth_eq]

end Ipv4

namespace Ipv6

/-- The sixteen octets of the address. -/
def octets (a : Ipv6) : Octets := Octets.ofNat 16 a.bits.toNat

/-- The address with the given octets, of which the last sixteen count. -/
def ofOctets (bs : Octets) : Ipv6 := ⟨BitVec.ofNat 128 (Octets.toNat bs)⟩

/-- Whether the address stands for "any address of this node". -/
def isUnspecified (a : Ipv6) : Bool := a.bits == 0#128

@[simp] theorem length_octets (a : Ipv6) : a.octets.length = 16 := Octets.length_ofNat 16 _

@[simp] theorem ofOctets_octets (a : Ipv6) : ofOctets a.octets = a := by
  have h : a.bits.toNat < Octets.bound 16 := a.bits.isLt
  rw [ofOctets, octets, Octets.toNat_ofNat, Nat.mod_eq_of_lt h, BitVec.ofNat_toNat,
    BitVec.setWidth_eq]

/-- The `i`-th 16-bit group, group 0 being the most significant. -/
def group (a : Ipv6) (i : Nat) : Nat := (a.bits.toNat >>> (16 * (7 - i))) % 65536

/-- The eight 16-bit groups, most significant first. -/
def groups (a : Ipv6) : List Nat := (List.range 8).map a.group

/-- The address with the given groups, of which the last eight count. -/
def ofGroups (gs : List Nat) : Ipv6 :=
  ⟨BitVec.ofNat 128 (gs.foldl (fun acc g => acc * 65536 + g) 0)⟩

end Ipv6

namespace Ip

/-- Whether the address is an IPv4 one. -/
def isV4 : Ip → Bool
  | .v4 _ => true
  | .v6 _ => false

/-- Whether the address stands for "any address of this node". -/
def isUnspecified : Ip → Bool
  | .v4 a => a.isUnspecified
  | .v6 a => a.isUnspecified

/-- The octets of the address: four or sixteen. -/
def octets : Ip → Octets
  | .v4 a => a.octets
  | .v6 a => a.octets

end Ip

end UserPlane
