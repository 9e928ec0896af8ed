/-
  UserPlane.Pool
  ──────────────
  **ADDRESSES AND TUNNEL IDS HANDED OUT TO SESSIONS.**

      AddressPool   the addresses of a network; a session holds one
      TeidPool      the tunnel ids from one on; a session holds one for a rule
      Pools         both kinds of addresses and the tunnel ids

  Whoever asks again for what it already holds gets the same again.  A network
  with more than one host bit does not hand out its first address.
-/
import UserPlane.Address.Network
import UserPlane.Pool.Cursor
import UserPlane.Table

namespace UserPlane

/-! ## §1. Addresses. -/

/-- The addresses of a network, and the offset that each session holds. -/
structure AddressPool (w : Nat) where
  network : Network w
  offsets : Cursor
  held : Table UInt64 Nat
  deriving DecidableEq, Repr

namespace AddressPool

variable {w : Nat}

/-- How many addresses a network has, as far as 128 bits can tell. -/
def networkSize (hostBits : Nat) : Nat := min (1 <<< hostBits) ((1 <<< 128) - 1)

/-- The offsets of a network that are handed out. -/
def offsetsOf (hostBits : Nat) : Cursor where
  next := if 1 < hostBits then 1 else 0
  stop := networkSize hostBits

/-- The pool of a network, nothing handed out. -/
def ofNetwork (n : Network w) : AddressPool w := ⟨n, offsetsOf n.hostBits, .empty⟩

/-- The address at an offset. -/
def address (p : AddressPool w) (offset : Nat) : BitVec w :=
  p.network.first + BitVec.ofNat w offset

/-- An address for a session: the one it holds, else the next one. -/
def allocate (p : AddressPool w) (session : UInt64) : Option (BitVec w × AddressPool w) :=
  match p.held.get? session with
  | some offset => some (p.address offset, p)
  | none =>
    p.offsets.take?.map fun (offset, offsets) =>
      (p.address offset, { p with offsets, held := p.held.insert session offset })

/-- Takes back what a session holds. -/
def release (p : AddressPool w) (session : UInt64) : AddressPool w :=
  match p.held.get? session with
  | some offset =>
    { p with offsets := p.offsets.giveBack offset, held := p.held.erase session }
  | none => p

end AddressPool

/-! ## §2. Tunnel ids. -/

/-- The tunnel ids from one on, and those each session holds, rule by rule. -/
structure TeidPool where
  ids : Cursor
  held : Table UInt64 (Table UInt16 Nat)
  deriving DecidableEq, Repr

namespace TeidPool

/-- The tunnel ids from one to `size`. -/
def make (size : Nat) : TeidPool := ⟨{ next := 1, stop := 1 + size }, .empty⟩

/-- The tunnel ids that a session holds, by rule. -/
def heldBy (p : TeidPool) (session : UInt64) : Table UInt16 Nat :=
  (p.held.get? session).getD .empty

/-- A tunnel id for a rule of a session: the one it holds, else the next. -/
def allocate (p : TeidPool) (session : UInt64) (rule : UInt16) : Option (Nat × TeidPool) :=
  match (p.heldBy session).get? rule with
  | some teid => some (teid, p)
  | none =>
    p.ids.take?.map fun (teid, ids) =>
      (teid, ⟨ids, p.held.insert session ((p.heldBy session).insert rule teid)⟩)

/-- Takes back what a session holds, the least tunnel id first. -/
def release (p : TeidPool) (session : UInt64) : TeidPool where
  ids := ((p.heldBy session).values.mergeSort).foldl Cursor.giveBack p.ids
  held := p.held.erase session

end TeidPool

/-! ## §3. All pools. -/

/-- Why nothing could be handed out. -/
inductive PoolError where
  | noFreeIp
  | noFreeTeid
  | noIpv6Pool
  deriving DecidableEq, Repr

/-- The error in words. -/
def PoolError.message : PoolError → String
  | .noFreeIp => "no free ip available"
  | .noFreeTeid => "no free TEID available"
  | .noIpv6Pool => "no IPv6 pool is configured"

/-- What is handed out to sessions. -/
structure Pools where
  ipv4 : AddressPool 32
  ipv6 : Option (AddressPool 128)
  teids : TeidPool
  deriving DecidableEq, Repr

namespace Pools

/-- Pools with nothing handed out. -/
def make (ipv4 : Network 32) (ipv6 : Option (Network 128)) (teids : Nat) : Pools :=
  ⟨.ofNetwork ipv4, ipv6.map .ofNetwork, .make teids⟩

/-- An IPv4 address for a session. -/
def allocateIpv4 (p : Pools) (session : UInt64) : Except PoolError (Ipv4 × Pools) :=
  match p.ipv4.allocate session with
  | some (bits, ipv4) => .ok (⟨bits⟩, { p with ipv4 })
  | none => .error .noFreeIp

/-- An IPv6 address for a session. -/
def allocateIpv6 (p : Pools) (session : UInt64) : Except PoolError (Ipv6 × Pools) :=
  match p.ipv6 with
  | none => .error .noIpv6Pool
  | some pool =>
    match pool.allocate session with
    | some (bits, pool) => .ok (⟨bits⟩, { p with ipv6 := some pool })
    | none => .error .noFreeIp

/-- A tunnel id for a rule of a session. -/
def allocateTeid (p : Pools) (session : UInt64) (rule : UInt16) :
    Except PoolError (UInt32 × Pools) :=
  match p.teids.allocate session rule with
  | some (teid, teids) => .ok (UInt32.ofNat teid, { p with teids })
  | none => .error .noFreeTeid

/-- Takes back the addresses that a session holds. -/
def releaseIp (p : Pools) (session : UInt64) : Pools :=
  { p with ipv4 := p.ipv4.release session, ipv6 := p.ipv6.map (·.release session) }

/-- Takes back the tunnel ids that a session holds. -/
def releaseTeid (p : Pools) (session : UInt64) : Pools :=
  { p with teids := p.teids.release session }

/-- How many IPv4 addresses can be handed out. -/
def freeIpv4 (p : Pools) : Nat := p.ipv4.offsets.remaining

/-- How many tunnel ids can be handed out. -/
def freeTeids (p : Pools) : Nat := p.teids.ids.remaining

end Pools

end UserPlane
