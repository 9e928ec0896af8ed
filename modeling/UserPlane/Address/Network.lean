/-
  UserPlane.Address.Network
  ─────────────────────────
  **NETWORKS: ADDRESSES THAT SHARE THEIR FIRST BITS.**

  A network of addresses of `w` bits is its first address and the count of
  leading bits its addresses share.  `Network.make?` refuses a length past the
  width and a first address with bits set behind the length; `Network.around`
  clears those bits instead.

  A network is written `address/length`.  Two readings are in use:

      Flow descriptions   the address strictly, the length behind the first `/`
      Address pools       the length behind the last `/`, and an IPv4 address
                          may stop after fewer than four numbers, each of
                          which may have leading zeros or a plus sign
-/
import UserPlane.Address.Reading
import UserPlane.Address.Text
import UserPlane.Text.Words

namespace UserPlane

/-- The addresses of `w` bits that start with the first `length` bits of
`first`. -/
structure Network (w : Nat) where
  first : BitVec w
  length : Nat
  deriving DecidableEq, Repr

/-- Why a text or a pair of address and length is no network. -/
inductive NetworkError where
  | address (v4 : Bool)
  | length (cause : NumeralError)
  | tooLong (length : Nat) (v4 : Bool)
  | hostPart
  deriving DecidableEq, Repr

namespace NetworkError

/-- The name of an address kind and its width. -/
def kind (v4 : Bool) : String := if v4 then "Ipv4" else "Ipv6"

/-- The error in words. -/
def message : NetworkError → String
  | .address v4 =>
    "couldn't parse address in network: invalid " ++ (if v4 then "IPv4" else "IPv6")
      ++ " address syntax"
  | .length cause => "couldn't parse length in network: " ++ cause.message
  | .tooLong n v4 =>
    s!"invalid length for network: Network length {n} is too long for {kind v4} (maximum: "
      ++ (if v4 then "32)" else "128)")
  | .hostPart => "host part of address was not zero"

end NetworkError

namespace Network

/-- The bits in front of position `length`. -/
def mask (w length : Nat) : BitVec w := BitVec.allOnes w <<< (w - length)

/-- The network of `length` leading bits that `address` lies in. -/
def around {w : Nat} (address : BitVec w) (length : Nat) : Network w :=
  ⟨address &&& mask w length, length⟩

/-- The network with this first address and length, if they fit together. -/
def make? {w : Nat} (first : BitVec w) (length : Nat) : Except NetworkError (Network w) :=
  if w < length then .error (.tooLong length (w == 32))
  else if first &&& mask w length = first then .ok ⟨first, length⟩
  else .error .hostPart

/-- How many bits tell the addresses of the network apart. -/
def hostBits {w : Nat} (n : Network w) : Nat := w - n.length

/-- The cut-down network of an address is always well made. -/
theorem make?_around {w : Nat} (address : BitVec w) {length : Nat} (h : length ≤ w) :
    make? (around address length).first length = .ok (around address length) := by
  have : ¬ w < length := by omega
  simp [make?, around, this, BitVec.and_assoc]

end Network

/-! ## §1. Networks of either kind. -/

/-- A network of IPv4 or of IPv6 addresses. -/
inductive IpNetwork where
  | v4 (network : Network 32)
  | v6 (network : Network 128)
  deriving DecidableEq, Repr

namespace IpNetwork

/-- The first address of the network. -/
def first : IpNetwork → Ip
  | .v4 n => .v4 ⟨n.first⟩
  | .v6 n => .v6 ⟨n.first⟩

/-- How many leading bits its addresses share. -/
def length : IpNetwork → Nat
  | .v4 n => n.length
  | .v6 n => n.length

/-- The network with this first address and length, if they fit together. -/
def make? (first : Ip) (length : Nat) : Except NetworkError IpNetwork :=
  match first with
  | .v4 a => (Network.make? a.bits length).map .v4
  | .v6 a => (Network.make? a.bits length).map .v6

end IpNetwork

/-- The width of an address in bits. -/
def Ip.width : Ip → Nat
  | .v4 _ => 32
  | .v6 _ => 128

/-- The address with every bit behind the first `length` cleared. -/
def Ip.truncate (length : Nat) : Ip → Ip
  | .v4 a => .v4 ⟨a.bits &&& Network.mask 32 length⟩
  | .v6 a => .v6 ⟨a.bits &&& Network.mask 128 length⟩

/-! ## §2. Pools in writing. -/

/-- One to four numbers with points between them, which fill the leading
octets of an IPv4 address; the other octets are zero. -/
def Ipv4.ofLooseText? (cs : List Char) : Option Ipv4 := do
  let parts := splitAll '.' cs
  guard (parts.length ≤ 4)
  let octets ← parts.mapM fun p => (Numeral.readDecimal 255 p).toOption
  return ⟨BitVec.ofNat 32
    ((octets ++ List.replicate (4 - octets.length) 0).foldl (fun acc o => acc * 256 + o) 0)⟩

/-- The pieces of a pool's text: what stands before the last `/`, and what
stands behind it. -/
def splitLast (sep : Char) (cs : List Char) : List Char × Option (List Char) :=
  match splitOnce sep cs.reverse with
  | (_, none) => (cs, none)
  | (tail, some front) => (front.reverse, some tail.reverse)

namespace Network

/-- A network in writing, the address read by `address?`; without a length it
is the network of that one address. -/
def ofText {w : Nat} (address? : List Char → Option (BitVec w)) (s : String) :
    Except NetworkError (Network w) := do
  let (addr, length) := splitLast '/' s.toList
  let first ←
    match address? addr with
    | some a => .ok a
    | none => .error (.address (w == 32))
  match length with
  | none => make? first w
  | some digits =>
    match Numeral.readDecimal 255 digits with
    | .ok n => make? first n
    | .error e => .error (.length e)

/-- The IPv4 network that a pool's text writes. -/
def ofText4 (s : String) : Except NetworkError (Network 32) :=
  ofText (fun cs => ((Ipv4.ofText? cs).orElse fun _ => Ipv4.ofLooseText? cs).map (·.bits)) s

/-- The IPv6 network that a pool's text writes. -/
def ofText6 (s : String) : Except NetworkError (Network 128) :=
  ofText (fun cs => (Ipv6.ofText? cs).map (·.bits)) s

end Network

end UserPlane
