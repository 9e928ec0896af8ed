/-
  UserPlane.Proofs.Session.Rules
  ──────────────────────────────
  **WHAT EACH RULE OPERATION LEAVES ALONE.**

  An operation on forwarding rules touches the session's forwarding rules and
  their slots, and nothing else of the workbench; the same for QoS rules.  An
  operation on detection rules first drafts the rule, which touches nothing
  but what the session holds of the pools, and then files the draft.

      besidesFars, besidesQers, besidesPdrs    the workbench without a part
      createPdr_eq, updatePdr_eq               drafting, then filing
      fixed                                    what every operation keeps
-/
import UserPlane.Proofs.Session.Work

namespace UserPlane

/-! ## §1. Parts of a workbench. -/

namespace Workbench

/-- All but the forwarding rules and their slots. -/
def besidesFars (b : Workbench) : Workbench :=
  { b with session := { b.session with fars := .empty }, plane := { b.plane with fars := .make 0 } }

/-- All but the QoS rules and their slots. -/
def besidesQers (b : Workbench) : Workbench :=
  { b with session := { b.session with qers := .empty }, plane := { b.plane with qers := .make 0 } }

/-- All but the forwarding and QoS rules and their slots. -/
def besidesTreatment (b : Workbench) : Workbench := b.besidesFars.besidesQers

/-- What the pools have, apart from what the session holds of them. -/
def poolRest (b : Workbench) : Pools.Rest := b.pools.rest b.session.resourceKey

/-- All but the detection rules, and what the request has had chosen. -/
def besidesPdrs (b : Workbench) : Session × Slots FarInfo × Slots QerInfo × Ipv4 × Pools.Rest :=
  ({ b.session with pdrs := .empty }, b.plane.fars, b.plane.qers, b.n3, b.poolRest)

/-- All but what the request has had chosen. -/
def standing (b : Workbench) : Session × Plane × Ipv4 × Pools.Rest :=
  (b.session, b.plane, b.n3, b.poolRest)

/-- What no operation changes: whose workbench it is, and what is not the
session's in the pools. -/
def fixed (b : Workbench) : UInt64 × UInt64 × UInt64 × Ipv4 × Pools.Rest :=
  (b.session.localSeid, b.session.remoteSeid, b.session.resourceKey, b.n3, b.poolRest)

/-- A part of the workbench to which detection rules do not belong, neither the
session's nor the plane's. -/
structure BesidePdrs {γ : Type} (part : Workbench → γ) : Prop where
  session : ∀ b pdrs, part { b with session := { b.session with pdrs } } = part b
  plane : ∀ b pdrs, part { b with plane := { b.plane with pdrs } } = part b

theorem besidePdrs_besidesPdrs : BesidePdrs besidesPdrs := ⟨fun _ _ => rfl, fun _ _ => rfl⟩

end Workbench

namespace RuleStep

/-! ## §2. Forwarding rules. -/

theorem keeps_newFar (info : FarInfo) :
    Keeps Workbench.besidesFars (fromPlane (·.newFar info)) :=
  .fromPlane fun b slot plane h => by
    unfold Plane.newFar at h
    split at h <;> cases h
    rfl

theorem keeps_updateSlotFar (slot : Nat) (info : FarInfo) :
    Keeps Workbench.besidesFars (onPlane (·.updateFar slot info)) :=
  .onPlane fun b plane h => by
    unfold Plane.updateFar at h
    split at h <;> cases h
    rfl

theorem keeps_deleteFar (slot : Nat) :
    Keeps Workbench.besidesFars (onPlane (·.deleteFar slot)) :=
  .onPlane fun b plane h => by
    unfold Plane.deleteFar at h
    split at h <;> cases h
    rfl

theorem keeps_createFar (r : CreateFar) : Keeps Workbench.besidesFars (createFar r) := by
  unfold createFar
  refine .bind .get fun b => .bind (keeps_newFar _) fun slot => .bind .get fun b' =>
    .bind (.onSession fun _ => rfl) fun _ => ?_
  -- the rule that had the number, if any, is deleted last
  cases b'.session.fars.get? r.farId.ruleId with
  | none => exact .pure _
  | some far => exact keeps_deleteFar _

theorem keeps_updateFar (r : UpdateFar) : Keeps Workbench.besidesFars (updateFar r) := by
  unfold updateFar
  apply Keeps.bind .get
  intro b
  cases b.session.fars.get? r.farId.ruleId with
  | none => exact .throw _
  | some far => exact .bind (.onSession fun _ => rfl) fun _ => keeps_updateSlotFar _ _

theorem keeps_removeFar (id : UInt32) : Keeps Workbench.besidesFars (removeFar id) := by
  unfold removeFar
  apply Keeps.bind .get
  intro b
  cases b.session.fars.get? id with
  | none => exact .pure _
  | some far => exact .bind (.onSession fun _ => rfl) fun _ => keeps_deleteFar _

/-! ## §3. QoS rules. -/

theorem keeps_newQer (info : QerInfo) :
    Keeps Workbench.besidesQers (fromPlane (·.newQer info)) :=
  .fromPlane fun b slot plane h => by
    unfold Plane.newQer at h
    split at h <;> cases h
    rfl

theorem keeps_updateSlotQer (slot : Nat) (info : QerInfo) :
    Keeps Workbench.besidesQers (onPlane (·.updateQer slot info)) :=
  .onPlane fun b plane h => by
    unfold Plane.updateQer at h
    split at h <;> cases h
    rfl

theorem keeps_deleteQer (slot : Nat) :
    Keeps Workbench.besidesQers (onPlane (·.deleteQer slot)) :=
  .onPlane fun b plane h => by
    unfold Plane.deleteQer at h
    split at h <;> cases h
    rfl

theorem keeps_createQer (r : CreateQer) : Keeps Workbench.besidesQers (createQer r) := by
  unfold createQer
  refine .bind (keeps_newQer _) fun slot => .bind .get fun b' =>
    .bind (.onSession fun _ => rfl) fun _ => ?_
  -- the rule that had the number, if any, is deleted last
  cases b'.session.qers.get? r.qerId.ruleId with
  | none => exact .pure _
  | some qer => exact keeps_deleteQer _

theorem keeps_updateQer (r : UpdateQer) : Keeps Workbench.besidesQers (updateQer r) := by
  unfold updateQer
  apply Keeps.bind .get
  intro b
  cases b.session.qers.get? r.qerId.ruleId with
  | none => exact .throw _
  | some qer => exact .bind (.onSession fun _ => rfl) fun _ => keeps_updateSlotQer _ _

theorem keeps_removeQer (id : UInt32) : Keeps Workbench.besidesQers (removeQer id) := by
  unfold removeQer
  apply Keeps.bind .get
  intro b
  cases b.session.qers.get? id with
  | none => exact .pure _
  | some qer => exact .bind (.onSession fun _ => rfl) fun _ => keeps_deleteQer _

/-! ## §4. Drafting detection rules. -/

theorem keeps_ueAddress (p : Pdi) : Keeps Workbench.standing (ueAddress p) := by
  unfold ueAddress
  cases p.ueIpAddress with
  | none => exact .pure _
  | some a =>
    -- an address is taken in the session's name, which leaves the rest of the pools alone
    have hipv4 : Keeps Workbench.standing (fromPools Pools.allocateIpv4) :=
      .fromPools fun b x pools h => by
        simp only [Workbench.standing, Workbench.poolRest, Pools.rest_allocateIpv4 h]
    have hipv6 : Keeps Workbench.standing (fromPools Pools.allocateIpv6) :=
      .fromPools fun b x pools h => by
        simp only [Workbench.standing, Workbench.poolRest, Pools.rest_allocateIpv6 h]
    dsimp only
    split
    · exact .bind hipv4 fun _ => .pure _
    · split
      · exact .bind hipv6 fun _ => .pure _
      · exact .pure _

theorem keeps_chooseTeid (pdrId : UInt16) (chooseId : Option UInt8) :
    Keeps Workbench.standing (chooseTeid pdrId chooseId) := by
  unfold chooseTeid
  apply Keeps.bind .get
  intro b
  -- a number that was chosen under this choose id before is used again
  split
  · exact .pure _
  · refine .bind (.fromPools fun b x pools h => ?_) fun teid => ?_
    · simp only [Workbench.standing, Workbench.poolRest, Pools.rest_allocateTeid h]
    · cases chooseId with
      | none => exact .pure _
      | some id => exact .bind (.modifying fun _ => rfl) fun _ => .pure _

theorem keeps_localTeid (pdrId : UInt16) (t : FTeid) :
    Keeps Workbench.standing (localTeid pdrId t) := by
  unfold localTeid
  split
  · exact .bind (keeps_chooseTeid _ _) fun _ => .bind .get fun _ => .pure _
  · split
    · exact .pure _
    · exact .throw _

theorem keeps_detection (pdrId : UInt16) (p : Pdi) :
    Keeps Workbench.standing (detection pdrId p) := by
  have hreport : ∀ (c : Bool) (created : List CreatedPdr) (d : Detection),
      Keeps Workbench.standing (do
        if c then modify fun b => { b with created := b.created ++ created }
        return d) := by
    intro c created d
    cases c with
    | true => exact .bind (.modifying fun _ => rfl) fun _ => .pure _
    | false => exact .pure _
  unfold detection
  apply Keeps.bind (keeps_ueAddress p)
  intro a
  obtain ⟨address, chosenAddress⟩ := a
  -- what was chosen is reported behind every way of finding the key
  dsimp only
  split
  · exact .bind (keeps_localTeid _ _) fun t => .bind (.pure _) fun d => hreport _ _ _
  · exact .bind (.pure _) fun d => hreport _ _ _
  · exact .bind (.throw _) fun d => hreport _ _ _

theorem keeps_flow {γ : Type} {part : Workbench → γ} (p : Pdi) : Keeps part (flow p) := by
  unfold flow
  split
  · exact .pure _
  · exact .throw _

/-- Drafts the rule that a request asks for. -/
def drafted (r : CreatePdr) : RuleStep SessionPdr := do
  let key ← detection r.pdrId.ruleId r.pdi
  let farSlot ← ofSession (·.farSlot (r.farId.map (·.ruleId)))
  let qerSlot ← ofSession (·.qerSlot (r.qerId.map (·.ruleId)))
  let flow ← flow r.pdi
  return ⟨key, r.farId.map (·.ruleId), r.qerId.map (·.ruleId),
    ⟨r.outerHeaderRemoval.map removalCode, farSlot, qerSlot, flow⟩⟩

/-- Finds the rule that a request is about, and drafts what it is to become. -/
def redrafted (r : UpdatePdr) : RuleStep (SessionPdr × SessionPdr) := do
  match (← get).session.pdrs.get? r.pdrId.ruleId with
  | none => throw (.unknownPdr r.pdrId.ruleId)
  | some previous => return (previous, ← rekeyed (← renamed previous r) r)

theorem keeps_drafted (r : CreatePdr) : Keeps Workbench.standing (drafted r) :=
  .bind (keeps_detection _ _) fun _ => .bind (.ofSession _) fun _ => .bind (.ofSession _) fun _ =>
    .bind (keeps_flow _) fun _ => .pure _

/-- The rule with the header removal that is given. -/
def renamedRemoval (pdr : SessionPdr) (r : UpdatePdr) : SessionPdr :=
  match r.outerHeaderRemoval with
  | some removal => { pdr with info.outerHeaderRemoval := some (removalCode removal) }
  | none => pdr

/-- The rule with the forwarding rule that is given. -/
def renamedFar (pdr : SessionPdr) (r : UpdatePdr) : RuleStep SessionPdr := do
  match r.farId with
  | some far =>
    let slot ← ofSession (·.farSlot (some far.ruleId))
    return { pdr with farId := some far.ruleId, info.farSlot := slot }
  | none => return pdr

/-- The rule with the QoS rule that is given. -/
def renamedQer (pdr : SessionPdr) (r : UpdatePdr) : RuleStep SessionPdr := do
  match r.qerId with
  | some qer =>
    let slot ← ofSession (·.qerSlot (some qer.ruleId))
    return { pdr with qerId := some qer.ruleId, info.qerSlot := slot }
  | none => return pdr

theorem renamed_eq (pdr : SessionPdr) (r : UpdatePdr) :
    renamed pdr r = renamedFar (renamedRemoval pdr r) r >>= fun pdr => renamedQer pdr r := by
  unfold renamed renamedFar renamedQer renamedRemoval
  -- the request gives or leaves out each of the three
  cases r.outerHeaderRemoval <;> cases r.farId <;> cases r.qerId <;>
    simp only [bind_assoc, pure_bind, bind_pure]

section

variable {γ : Type} {part : Workbench → γ}

theorem keeps_renamedFar (pdr : SessionPdr) (r : UpdatePdr) : Keeps part (renamedFar pdr r) := by
  unfold renamedFar
  cases r.farId with
  | some far => exact .bind (.ofSession _) fun _ => .pure _
  | none => exact .pure _

theorem keeps_renamedQer (pdr : SessionPdr) (r : UpdatePdr) : Keeps part (renamedQer pdr r) := by
  unfold renamedQer
  cases r.qerId with
  | some qer => exact .bind (.ofSession _) fun _ => .pure _
  | none => exact .pure _

/-- Names are looked up, and nothing is touched. -/
theorem keeps_renamed (pdr : SessionPdr) (r : UpdatePdr) : Keeps part (renamed pdr r) := by
  rw [renamed_eq]
  exact .bind (keeps_renamedFar _ r) fun _ => keeps_renamedQer _ r

end

theorem keeps_rekeyed (pdr : SessionPdr) (r : UpdatePdr) :
    Keeps Workbench.standing (rekeyed pdr r) := by
  unfold rekeyed
  cases r.pdi with
  | none => exact .pure _
  | some pdi => exact .bind (keeps_detection _ _) fun _ => .bind (keeps_flow _) fun _ => .pure _

theorem keeps_redrafted (r : UpdatePdr) : Keeps Workbench.standing (redrafted r) := by
  unfold redrafted
  apply Keeps.bind .get
  intro b
  cases b.session.pdrs.get? r.pdrId.ruleId with
  | none => exact .throw _
  | some previous =>
    exact .bind (keeps_renamed _ _) fun _ => .bind (keeps_rekeyed _ _) fun _ => .pure _

/-- What is redrafted is the rule of that number; it is given its names, and
then its key. -/
theorem redrafted_eq_ok {r : UpdatePdr} {b b' : Workbench} {previous pdr : SessionPdr}
    (h : (redrafted r).work b = (.ok (previous, pdr), b')) :
    b.session.pdrs.get? r.pdrId.ruleId = some previous
      ∧ ∃ mid b₁, (renamed previous r).work b = (.ok mid, b₁)
        ∧ (rekeyed mid r).work b₁ = (.ok pdr, b') := by
  unfold redrafted at h
  rw [work_bind_ok (work_get b)] at h
  cases hget : b.session.pdrs.get? r.pdrId.ruleId with
  | none =>
    rw [hget] at h
    cases h
  | some p =>
    rw [hget] at h
    obtain ⟨mid, b₁, hrenamed, h⟩ := work_bind_eq_ok h
    obtain ⟨last, b₂, hrekeyed, h⟩ := work_bind_eq_ok h
    cases h
    exact ⟨rfl, mid, b₁, hrenamed, hrekeyed⟩

/-! ## §5. Filing them. -/

/-- Files a rule in place of one of its number. -/
def filed (id : UInt16) (pdr : SessionPdr) : RuleStep Unit := do
  match (← get).session.pdrs.get? id with
  | some previous => if previous.detection ≠ pdr.detection then giveUp previous.detection id
  | none => pure ()
  onPlane fun p => .ok (p.putPdr pdr.detection pdr.info)
  onSession fun s => { s with pdrs := s.pdrs.insert id pdr }

/-- Files what a rule has become. -/
def refiled (id : UInt16) (previous pdr : SessionPdr) : RuleStep Unit := do
  if previous.detection = pdr.detection then
    onPlane (·.updatePdr pdr.detection pdr.info)
  else
    giveUp previous.detection id
    onPlane fun p => .ok (p.putPdr pdr.detection pdr.info)
  onSession fun s => { s with pdrs := s.pdrs.insert id pdr }

/-- **Making a rule** is drafting it and filing the draft. -/
theorem createPdr_eq (r : CreatePdr) : createPdr r = drafted r >>= filed r.pdrId.ruleId := by
  unfold createPdr drafted
  -- the steps of the draft are taken out of it one by one, up to the rule that it returns
  refine Eq.symm ((bind_assoc _ _ _).trans (congrArg _ (funext fun key => ?_)))
  refine (bind_assoc _ _ _).trans (congrArg _ (funext fun farSlot => ?_))
  refine (bind_assoc _ _ _).trans (congrArg _ (funext fun qerSlot => ?_))
  refine (bind_assoc _ _ _).trans (congrArg _ (funext fun flow => ?_))
  exact pure_bind _ _

/-- **Changing a rule** is drafting what it becomes and filing the draft. -/
theorem updatePdr_eq (r : UpdatePdr) :
    updatePdr r = redrafted r >>= fun p => refiled r.pdrId.ruleId p.1 p.2 := by
  unfold updatePdr redrafted
  rw [bind_assoc]
  apply bind_congr
  intro b
  cases b.session.pdrs.get? r.pdrId.ruleId with
  | none => rfl
  | some previous =>
    -- both sides rename, rekey and refile
    simp only [refiled, bind_assoc, pure_bind]

section

variable {γ : Type} {part : Workbench → γ}

theorem keeps_put (h : Workbench.BesidePdrs part) (d : Detection) (info : PdrInfo) :
    Keeps part (onPlane fun p => .ok (p.putPdr d info)) :=
  .onPlane fun b plane hplane => by
    cases hplane
    exact h.plane b _

theorem keeps_deletePdr (h : Workbench.BesidePdrs part) (d : Detection) :
    Keeps part (onPlane (·.deletePdr d)) :=
  .onPlane fun b plane hplane => by
    unfold Plane.deletePdr at hplane
    split at hplane <;> cases hplane
    exact h.plane b _

theorem keeps_giveUp (h : Workbench.BesidePdrs part) (d : Detection) (id : UInt16) :
    Keeps part (giveUp d id) := by
  unfold giveUp
  apply Keeps.bind .get
  intro b
  -- the entry goes, or is written over with that of another rule
  cases b.session.otherWith id d with
  | none => exact keeps_deletePdr h d
  | some info => exact keeps_put h d info

theorem keeps_file (h : Workbench.BesidePdrs part) (id : UInt16) (pdr : SessionPdr) :
    Keeps part (onSession fun s => { s with pdrs := s.pdrs.insert id pdr }) :=
  .onSession fun b => h.session b _

theorem keeps_filed (h : Workbench.BesidePdrs part) (id : UInt16) (pdr : SessionPdr) :
    Keeps part (filed id pdr) := by
  unfold filed
  apply Keeps.bind .get
  intro b
  cases b.session.pdrs.get? id with
  | none => exact .bind (keeps_put h _ _) fun _ => keeps_file h _ _
  | some previous =>
    dsimp only
    split
    · exact .bind (keeps_giveUp h _ _) fun _ => .bind (keeps_put h _ _) fun _ => keeps_file h _ _
    · exact .bind (keeps_put h _ _) fun _ => keeps_file h _ _

theorem keeps_refiled (h : Workbench.BesidePdrs part) (id : UInt16) (previous pdr : SessionPdr) :
    Keeps part (refiled id previous pdr) := by
  unfold refiled
  split
  · refine .bind (.onPlane fun b plane hplane => ?_) fun _ => keeps_file h _ _
    unfold Plane.updatePdr at hplane
    split at hplane <;> cases hplane
    exact h.plane b _
  · exact .bind (keeps_giveUp h _ _) fun _ => .bind (keeps_put h _ _) fun _ => keeps_file h _ _

theorem keeps_removal (h : Workbench.BesidePdrs part) (id : UInt16) :
    Keeps part (removePdr id) := by
  unfold removePdr
  apply Keeps.bind .get
  intro b
  cases b.session.pdrs.get? id with
  | none => exact .pure _
  | some pdr =>
    exact .bind (.onSession fun b => h.session b _) fun _ => keeps_giveUp h _ _

end

/-! ## §6. Detection rules. -/

theorem besidesPdrs_of_standing {α : Type} {x : RuleStep α} (h : Keeps Workbench.standing x) :
    Keeps Workbench.besidesPdrs x :=
  h.map fun p => ({ p.1 with pdrs := .empty }, p.2.1.fars, p.2.1.qers, p.2.2.1, p.2.2.2)

theorem keeps_createPdr (r : CreatePdr) : Keeps Workbench.besidesPdrs (createPdr r) := by
  rw [createPdr_eq]
  exact .bind (besidesPdrs_of_standing (keeps_drafted r)) fun pdr =>
    keeps_filed Workbench.besidePdrs_besidesPdrs _ _

theorem keeps_updatePdr (r : UpdatePdr) : Keeps Workbench.besidesPdrs (updatePdr r) := by
  rw [updatePdr_eq]
  exact .bind (besidesPdrs_of_standing (keeps_redrafted r)) fun p =>
    keeps_refiled Workbench.besidePdrs_besidesPdrs _ _ _

theorem keeps_removePdr (id : UInt16) : Keeps Workbench.besidesPdrs (removePdr id) :=
  keeps_removal Workbench.besidePdrs_besidesPdrs id

end RuleStep

/-! ## §7. Every operation. -/

/-- **An operation about no detection rule** changes nothing but forwarding and QoS
rules and their slots. -/
theorem RuleOp.keeps_besidesTreatment {op : RuleOp} (h : op.subject? = none) :
    RuleStep.Keeps Workbench.besidesTreatment op.step := by
  cases op with
  | createFar r => exact (RuleStep.keeps_createFar r).map Workbench.besidesQers
  | updateFar r => exact (RuleStep.keeps_updateFar r).map Workbench.besidesQers
  | removeFar id => exact (RuleStep.keeps_removeFar id).map Workbench.besidesQers
  | createQer r => exact (RuleStep.keeps_createQer r).map Workbench.besidesFars
  | updateQer r => exact (RuleStep.keeps_updateQer r).map Workbench.besidesFars
  | removeQer id => exact (RuleStep.keeps_removeQer id).map Workbench.besidesFars
  | _ => cases h

/-- **No operation changes** whose workbench it is, or what is not the
session's in the pools. -/
theorem RuleOp.keeps_fixed (op : RuleOp) : RuleStep.Keeps Workbench.fixed op.step := by
  cases op with
  | createPdr r =>
    exact (RuleStep.keeps_createPdr r).map fun p =>
      (p.1.localSeid, p.1.remoteSeid, p.1.resourceKey, p.2.2.2.1, p.2.2.2.2)
  | updatePdr r =>
    exact (RuleStep.keeps_updatePdr r).map fun p =>
      (p.1.localSeid, p.1.remoteSeid, p.1.resourceKey, p.2.2.2.1, p.2.2.2.2)
  | removePdr id =>
    exact (RuleStep.keeps_removePdr id).map fun p =>
      (p.1.localSeid, p.1.remoteSeid, p.1.resourceKey, p.2.2.2.1, p.2.2.2.2)
  | _ => exact (keeps_besidesTreatment rfl).map Workbench.fixed

end UserPlane
