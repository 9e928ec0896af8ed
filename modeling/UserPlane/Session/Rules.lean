/-
  UserPlane.Session.Rules
  ───────────────────────
  **RULE BY RULE: WHAT A REQUEST DOES TO A SESSION.**

  The rules of a request are handled one by one on a workbench: the session,
  the forwarding plane and the pools as they stand, and what the request has
  had chosen so far.  A rule that fails ends the request, but what was done
  before it, the failing rule's own first steps included, stays done.

  Detection rules are keyed by a tunnel id if they have one, else by the
  subscriber's address.  A key that the request leaves to the node is taken
  from the pools, and reported as a `CreatedPdr`.
-/
import UserPlane.Session
import UserPlane.Session.Treatment

namespace UserPlane

/-- What the rules of one request work on. -/
structure Workbench where
  session : Session
  plane : Plane
  pools : Pools
  /-- The address at which tunnels end. -/
  n3 : Ipv4
  /-- The tunnel ids chosen in this request, by the number of the wish. -/
  chosen : Table UInt8 UInt32 := .empty
  /-- What was chosen in this request. -/
  created : List CreatedPdr := []
  deriving DecidableEq, Repr

/-- A step of a request, which may fail; what it did before stays done. -/
abbrev RuleStep (α : Type) := ExceptT SessionError (StateM Workbench) α

namespace RuleStep

/-- Has a step work on a workbench; tells how it went and what the workbench
looks like after it. -/
def work {α : Type} (step : RuleStep α) (b : Workbench) : Except SessionError α × Workbench :=
  StateT.run (ExceptT.run step) b

/-! ## §1. Parts of the workbench. -/

/-- Changes the session. -/
def onSession (f : Session → Session) : RuleStep Unit :=
  modify fun b => { b with session := f b.session }

/-- What the session says to a question. -/
def ofSession {α : Type} (f : Session → Except SessionError α) : RuleStep α := do
  match f (← get).session with
  | .ok a => return a
  | .error e => throw e

/-- Has the plane do something; on failure it stays as it is. -/
def onPlane (f : Plane → Except PlaneError Plane) : RuleStep Unit := do
  match f (← get).plane with
  | .ok plane => modify fun b => { b with plane }
  | .error e => throw (.plane e)

/-- Has the plane give something out; on failure it stays as it is. -/
def fromPlane {α : Type} (f : Plane → Except PlaneError (α × Plane)) : RuleStep α := do
  match f (← get).plane with
  | .ok (a, plane) =>
    modify fun b => { b with plane }
    return a
  | .error e => throw (.plane e)

/-- Has the pools give something to the session; on failure they stay as they
are. -/
def fromPools {α : Type} (f : Pools → UInt64 → Except PoolError (α × Pools)) :
    RuleStep α := do
  let b ← get
  match f b.pools b.session.resourceKey with
  | .ok (a, pools) =>
    modify fun b => { b with pools }
    return a
  | .error e => throw (.pool e)

/-! ## §2. Forwarding rules. -/

/-- Makes a forwarding rule.  If the session had one of that number, the new
one is in place before the old one goes. -/
def createFar (r : CreateFar) : RuleStep Unit := do
  let info := FarInfo.ofCreate r (← get).n3
  -- the slot is taken first: without a free one the session stays as it is
  let slot ← fromPlane (·.newFar info)
  let previous := (← get).session.fars.get? r.farId.ruleId
  onSession fun s => { s with fars := s.fars.insert r.farId.ruleId ⟨slot, info⟩ }
  match previous with
  | some far => onPlane (·.deleteFar far.slot)
  | none => pure ()

/-- Changes a forwarding rule. -/
def updateFar (r : UpdateFar) : RuleStep Unit := do
  let b ← get
  match b.session.fars.get? r.farId.ruleId with
  | none => throw (.unknownFar r.farId.ruleId)
  | some far =>
    let info := far.info.update r b.n3
    onSession fun s => { s with fars := s.fars.insert r.farId.ruleId { far with info } }
    onPlane (·.updateFar far.slot info)

/-- Takes a forwarding rule away; one that is not there is passed over. -/
def removeFar (id : UInt32) : RuleStep Unit := do
  match (← get).session.fars.get? id with
  | none => pure ()
  | some far =>
    onSession fun s => { s with fars := s.fars.erase id }
    onPlane (·.deleteFar far.slot)

/-! ## §3. QoS rules. -/

/-- Makes a QoS rule.  If the session had one of that number, the new one is
in place before the old one goes. -/
def createQer (r : CreateQer) : RuleStep Unit := do
  let info := QerInfo.ofCreate r
  -- the slot is taken first: without a free one the session stays as it is
  let slot ← fromPlane (·.newQer info)
  let previous := (← get).session.qers.get? r.qerId.ruleId
  onSession fun s => { s with qers := s.qers.insert r.qerId.ruleId ⟨slot, info⟩ }
  match previous with
  | some qer => onPlane (·.deleteQer qer.slot)
  | none => pure ()

/-- Changes a QoS rule. -/
def updateQer (r : UpdateQer) : RuleStep Unit := do
  match (← get).session.qers.get? r.qerId.ruleId with
  | none => throw (.unknownQer r.qerId.ruleId)
  | some qer =>
    let info := qer.info.update r
    onSession fun s => { s with qers := s.qers.insert r.qerId.ruleId { qer with info } }
    onPlane (·.updateQer qer.slot info)

/-- Takes a QoS rule away; one that is not there is passed over. -/
def removeQer (id : UInt32) : RuleStep Unit := do
  match (← get).session.qers.get? id with
  | none => pure ()
  | some qer =>
    onSession fun s => { s with qers := s.qers.erase id }
    onPlane (·.deleteQer qer.slot)

/-! ## §4. What a detection rule is keyed by. -/

/-- The subscriber's address, and the element that reports it if it was
chosen. -/
def ueAddress (p : Pdi) : RuleStep (Option Ip × Option UeIpAddress) := do
  match p.ueIpAddress with
  | none => return (none, none)
  | some a =>
    let destination := UeIpAddress.sd.isSet a.flags.toNat
    if UeIpAddress.chv4.isSet a.flags.toNat then
      let ip := Ip.v4 (← fromPools Pools.allocateIpv4)
      return (some ip, some (.ofIp ip destination))
    else if UeIpAddress.chv6.isSet a.flags.toNat then
      let ip := Ip.v6 (← fromPools Pools.allocateIpv6)
      return (some ip, some (.ofIp ip destination))
    else return ((a.ipv4.map Ip.v4).or (a.ipv6.map Ip.v6), none)

/-- A tunnel id for a wish.  Wishes of one number get one tunnel id. -/
def chooseTeid (pdrId : UInt16) (chooseId : Option UInt8) : RuleStep UInt32 := do
  match chooseId.bind (← get).chosen.get? with
  | some teid => return teid
  | none =>
    let teid ← fromPools fun pools session => pools.allocateTeid session pdrId
    match chooseId with
    | some id => modify fun b => { b with chosen := b.chosen.insert id teid }
    | none => pure ()
    return teid

/-- The tunnel id, and the element that reports it if it was chosen. -/
def localTeid (pdrId : UInt16) (t : FTeid) : RuleStep (UInt32 × Option FTeid) := do
  if t.isChoose then
    let teid ← chooseTeid pdrId t.chooseId
    return (teid, some (.ofIp (.v4 (← get).n3) teid))
  else
    match t.teid with
    | some teid => return (teid, none)
    | none => throw (.missingElement "F-TEID")

/-- What a rule is keyed by: a tunnel id if it has one, else an address. -/
def detection (pdrId : UInt16) (p : Pdi) : RuleStep Detection := do
  let (address, chosenAddress) ← ueAddress p
  let (detection, chosenTeid) ←
    match p.localFTeid, address with
    | some t, _ => do
      let (teid, chosen) ← localTeid pdrId t
      pure (Detection.uplink teid, chosen)
    | none, some ip => pure (Detection.downlink ip, none)
    | none, none => throw (.missingElement "F-TEID or UE IP Address")
  if chosenTeid.isSome || chosenAddress.isSome then
    modify fun b => { b with created := b.created ++ [⟨⟨pdrId⟩, chosenTeid, chosenAddress⟩] }
  return detection

/-- The flow of detection information. -/
def flow (p : Pdi) : RuleStep (Option Flow) := do
  match p.flow with
  | .ok f => return f
  | .error e => throw (.flow e)

/-! ## §5. Detection rules. -/

/-- Gives up what a rule was keyed by.  Another rule of the session with the
same key takes the entry over; without one the entry goes. -/
def giveUp (d : Detection) (pdrId : UInt16) : RuleStep Unit := do
  match (← get).session.otherWith pdrId d with
  | some info => onPlane fun p => .ok (p.putPdr d info)
  | none => onPlane (·.deletePdr d)

/-- Makes a detection rule, in place of one of its number. -/
def createPdr (r : CreatePdr) : RuleStep Unit := do
  let id := r.pdrId.ruleId
  let farId := r.farId.map (·.ruleId)
  let qerId := r.qerId.map (·.ruleId)
  -- what is chosen here stays with the session even if a later step fails
  let key ← detection id r.pdi
  let farSlot ← ofSession (·.farSlot farId)
  let qerSlot ← ofSession (·.qerSlot qerId)
  let flow ← flow r.pdi
  let info : PdrInfo := ⟨r.outerHeaderRemoval.map removalCode, farSlot, qerSlot, flow⟩
  -- nothing fails from here on but giving up the key of the replaced rule
  match (← get).session.pdrs.get? id with
  | some previous => if previous.detection ≠ key then giveUp previous.detection id
  | none => pure ()
  onPlane fun p => .ok (p.putPdr key info)
  onSession fun s => { s with pdrs := s.pdrs.insert id ⟨key, farId, qerId, info⟩ }

/-- Replaces the rules that a detection rule names by those that are given. -/
def renamed (pdr : SessionPdr) (r : UpdatePdr) : RuleStep SessionPdr := do
  let mut pdr := pdr
  if let some removal := r.outerHeaderRemoval then
    pdr := { pdr with info.outerHeaderRemoval := some (removalCode removal) }
  if let some far := r.farId then
    let slot ← ofSession (·.farSlot (some far.ruleId))
    pdr := { pdr with farId := some far.ruleId, info.farSlot := slot }
  if let some qer := r.qerId then
    let slot ← ofSession (·.qerSlot (some qer.ruleId))
    pdr := { pdr with qerId := some qer.ruleId, info.qerSlot := slot }
  return pdr

/-- Replaces the key and the flow of a detection rule if they are given. -/
def rekeyed (pdr : SessionPdr) (r : UpdatePdr) : RuleStep SessionPdr := do
  match r.pdi with
  | none => return pdr
  | some pdi =>
    let key ← detection r.pdrId.ruleId pdi
    let flow ← flow pdi
    return { pdr with detection := key, info.flow := flow }

/-- Changes a detection rule. -/
def updatePdr (r : UpdatePdr) : RuleStep Unit := do
  let id := r.pdrId.ruleId
  match (← get).session.pdrs.get? id with
  | none => throw (.unknownPdr id)
  | some previous =>
    -- names are looked up before a key is chosen
    let pdr ← rekeyed (← renamed previous r) r
    if previous.detection = pdr.detection then
      onPlane (·.updatePdr pdr.detection pdr.info)
    else
      giveUp previous.detection id
      onPlane fun p => .ok (p.putPdr pdr.detection pdr.info)
    onSession fun s => { s with pdrs := s.pdrs.insert id pdr }

/-- Takes a detection rule away; one that is not there is passed over. -/
def removePdr (id : UInt16) : RuleStep Unit := do
  match (← get).session.pdrs.get? id with
  | none => pure ()
  | some pdr =>
    onSession fun s => { s with pdrs := s.pdrs.erase id }
    giveUp pdr.detection id

end RuleStep

end UserPlane
