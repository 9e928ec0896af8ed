/-
  UserPlane.Plane
  ───────────────
  **THE FORWARDING PLANE.**

  What treats packets, as far as sessions can see: one table of detection
  rules, looked up by what a packet shows (`Detection`), and two sets of slots
  with forwarding and QoS rules, which detection rules name by number.
-/
import UserPlane.Flow
import UserPlane.Plane.Slots

namespace UserPlane

/-! ## §1. Rules. -/

/-- What a packet shows: the tunnel it came through, or the subscriber's
address it goes to. -/
inductive Detection where
  | uplink (teid : UInt32)
  | downlink4 (address : Ipv4)
  | downlink6 (address : Ipv6)
  deriving DecidableEq, Repr

/-- The detection that goes by a subscriber's address. -/
def Detection.downlink : Ip → Detection
  | .v4 a => .downlink4 a
  | .v6 a => .downlink6 a

/-- What is done with a detected packet: the slots of its other rules. -/
structure PdrInfo where
  outerHeaderRemoval : Option UInt8 := none
  farSlot : Option Nat := none
  qerSlot : Option Nat := none
  flow : Option Flow := none
  deriving DecidableEq, Repr

/-- How packets are forwarded. -/
structure FarInfo where
  action : UInt8 := 0
  outerHeaderCreation : UInt8 := 0
  teid : UInt32 := 0
  remoteIp : Option Ip := none
  localIp : Option Ip := none
  transportLevelMarking : UInt16 := 0
  deriving DecidableEq, Repr

/-- How much of a flow passes; rates are in bits per second. -/
structure QerInfo where
  gateUplink : UInt8 := 0
  gateDownlink : UInt8 := 0
  qfi : UInt8 := 0
  maxBitrateUplink : UInt64 := 0
  maxBitrateDownlink : UInt64 := 0
  deriving DecidableEq, Repr

/-! ## §2. Errors. -/

/-- The kinds of rules that live in slots. -/
inductive SlotKind where
  | far | qer
  deriving DecidableEq, Repr

/-- The kind in writing. -/
def SlotKind.text : SlotKind → String
  | .far => "FAR"
  | .qer => "QER"

/-- Why the plane did not do as told. -/
inductive PlaneError where
  | noFreeSlot (kind : SlotKind)
  | noDetection (detection : Detection)
  | noRule (kind : SlotKind) (slot : Nat)
  deriving DecidableEq, Repr

/-- The error of a tracker without a free slot, in words. -/
def exhaustedMessage : String := "pool exhausted"

/-- The error in words. -/
def PlaneError.message : PlaneError → String
  | .noFreeSlot kind => s!"no free {kind.text} slot: {exhaustedMessage}"
  | .noDetection (.uplink teid) => s!"uplink PDR {teid.toNat} not found"
  | .noDetection (.downlink4 a) => s!"downlink PDR {a.text} not found"
  | .noDetection (.downlink6 a) => s!"downlink PDR {a.text} not found"
  | .noRule kind slot => s!"{kind.text} {slot} not found"

/-! ## §3. The plane. -/

/-- The forwarding plane. -/
structure Plane where
  pdrs : Table Detection PdrInfo
  fars : Slots FarInfo
  qers : Slots QerInfo
  deriving DecidableEq, Repr

namespace Plane

/-- A plane without rules. -/
def make (farSlots qerSlots : Nat) : Plane := ⟨.empty, .make farSlots, .make qerSlots⟩

/-- Writes the rule for a detection, new or not. -/
def putPdr (p : Plane) (d : Detection) (info : PdrInfo) : Plane :=
  { p with pdrs := p.pdrs.insert d info }

/-- Replaces the rule for a detection. -/
def updatePdr (p : Plane) (d : Detection) (info : PdrInfo) : Except PlaneError Plane :=
  if p.pdrs.contains d then .ok (p.putPdr d info) else .error (.noDetection d)

/-- Removes the rule for a detection. -/
def deletePdr (p : Plane) (d : Detection) : Except PlaneError Plane :=
  if p.pdrs.contains d then .ok { p with pdrs := p.pdrs.erase d }
  else .error (.noDetection d)

/-- Puts a forwarding rule into a free slot. -/
def newFar (p : Plane) (info : FarInfo) : Except PlaneError (Nat × Plane) :=
  match p.fars.install info with
  | some (slot, fars) => .ok (slot, { p with fars })
  | none => .error (.noFreeSlot .far)

/-- Replaces the forwarding rule in a slot. -/
def updateFar (p : Plane) (slot : Nat) (info : FarInfo) : Except PlaneError Plane :=
  match p.fars.replace slot info with
  | some fars => .ok { p with fars }
  | none => .error (.noRule .far slot)

/-- Removes the forwarding rule in a slot. -/
def deleteFar (p : Plane) (slot : Nat) : Except PlaneError Plane :=
  match p.fars.remove slot with
  | some fars => .ok { p with fars }
  | none => .error (.noRule .far slot)

/-- Puts a QoS rule into a free slot. -/
def newQer (p : Plane) (info : QerInfo) : Except PlaneError (Nat × Plane) :=
  match p.qers.install info with
  | some (slot, qers) => .ok (slot, { p with qers })
  | none => .error (.noFreeSlot .qer)

/-- Replaces the QoS rule in a slot. -/
def updateQer (p : Plane) (slot : Nat) (info : QerInfo) : Except PlaneError Plane :=
  match p.qers.replace slot info with
  | some qers => .ok { p with qers }
  | none => .error (.noRule .qer slot)

/-- Removes the QoS rule in a slot. -/
def deleteQer (p : Plane) (slot : Nat) : Except PlaneError Plane :=
  match p.qers.remove slot with
  | some qers => .ok { p with qers }
  | none => .error (.noRule .qer slot)

end Plane

end UserPlane
