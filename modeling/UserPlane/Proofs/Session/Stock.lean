/-
  UserPlane.Proofs.Session.Stock
  ──────────────────────────────
  **WHAT A SESSION HAS IN THE SLOTS OF THE PLANE.**

  A session's share of the slots is what its forwarding and QoS rules record:
  a slot and the information in it.  Whatever else the slots hold is not the
  session's, and no operation on the session's rules touches it
  (`RuleOp.keeps_stocked`).  As long as the slots hold what the session
  records, replacing and removing its rules never fails, and taking the
  session down leaves exactly what is not the session's
  (`Session.teardown_spec`).
-/
import UserPlane.Proofs.Plane.Slots
import UserPlane.Proofs.Session.Rules

namespace UserPlane

/-- A forwarding rule's slot, and what is in it. -/
def SessionFar.share (far : SessionFar) : Nat × FarInfo := (far.slot, far.info)

/-- A QoS rule's slot, and what is in it. -/
def SessionQer.share (qer : SessionQer) : Nat × QerInfo := (qer.slot, qer.info)

/-- What the session has in the slots of forwarding rules. -/
def Session.farStock (s : Session) : Multiset (Nat × FarInfo) := s.fars.stock SessionFar.share

/-- What the session has in the slots of QoS rules. -/
def Session.qerStock (s : Session) : Multiset (Nat × QerInfo) := s.qers.stock SessionQer.share

namespace RuleStep

variable {b : Workbench} {size : Nat}

/-! ## §1. Forwarding rules. -/

section Fars

variable {others : Multiset (Nat × FarInfo)}

/-- The workbench with other forwarding rules, and other slots for them. -/
def withFars (b : Workbench) (fars : Table UInt32 SessionFar) (slots : Slots FarInfo) : Workbench :=
  { b with session := { b.session with fars }, plane := { b.plane with fars := slots } }

/-- **Making a forwarding rule** fails without a trace for want of a slot, or
puts the rule into a slot that was free. -/
theorem createFar_work (r : CreateFar)
    (h : b.plane.fars.Stocked size (b.session.farStock + others)) :
    (createFar r).work b = (.error (.plane (.noFreeSlot .far)), b) ∨
    ∃ slot slots, b.plane.fars.get? slot = none ∧
      let fars := b.session.fars.insert r.farId.ruleId ⟨slot, FarInfo.ofCreate r b.n3⟩
      (createFar r).work b = (.ok (), withFars b fars slots)
        ∧ slots.Stocked size (fars.stock SessionFar.share + others) := by
  unfold createFar
  rw [work_bind_ok (work_get b), work_bind, work_fromPlane]
  unfold Plane.newFar
  -- the slot is looked for before anything is changed
  cases hinstall : b.plane.fars.install (FarInfo.ofCreate r b.n3) with
  | none => exact .inl rfl
  | some p =>
    obtain ⟨slot, slots⟩ := p
    have hnone := (h.install hinstall).1
    refine .inr ⟨slot, ?_⟩
    dsimp only
    rw [work_bind_ok (work_get _), work_bind_ok (work_onSession _ _)]
    dsimp only
    cases hprevious : b.session.fars.get? r.farId.ruleId with
    | none => exact ⟨slots, hnone, rfl, h.create hprevious hinstall rfl⟩
    | some far =>
      -- the rule that had the number goes once the new one has its slot
      obtain ⟨slots', hremove, hslots'⟩ := h.recreate hprevious hinstall ⟨slot, _⟩ rfl
      refine ⟨slots', hnone, ?_, hslots'⟩
      have hdelete : slots.remove far.slot = some slots' := hremove
      apply work_onPlane_ok
      simp only [Plane.deleteFar, hdelete]

/-- **Changing a forwarding rule** fails without a trace if there is none of
that number, or changes what is in its slot. -/
theorem updateFar_work (r : UpdateFar)
    (h : b.plane.fars.Stocked size (b.session.farStock + others)) :
    (updateFar r).work b = (.error (.unknownFar r.farId.ruleId), b) ∨
    ∃ far slots, b.session.fars.get? r.farId.ruleId = some far ∧
      let fars := b.session.fars.insert r.farId.ruleId { far with info := far.info.update r b.n3 }
      (updateFar r).work b = (.ok (), withFars b fars slots)
        ∧ slots.Stocked size (fars.stock SessionFar.share + others) := by
  unfold updateFar
  rw [work_bind_ok (work_get b)]
  cases hfar : b.session.fars.get? r.farId.ruleId with
  | none => exact .inl rfl
  | some far =>
    -- the rule is in the slot that the session records, so it can be replaced there
    obtain ⟨slots, hreplace, hslots⟩ := h.update hfar ⟨far.slot, _⟩ rfl
    refine .inr ⟨far, slots, rfl, ?_, hslots⟩
    have hupdate : b.plane.fars.replace far.slot (far.info.update r b.n3) = some slots := hreplace
    dsimp only
    rw [work_bind_ok (work_onSession _ _)]
    apply work_onPlane_ok
    simp only [Plane.updateFar, hupdate]

/-- **Removing a forwarding rule** passes over one that is not there, or frees
its slot. -/
theorem removeFar_work (id : UInt32)
    (h : b.plane.fars.Stocked size (b.session.farStock + others)) :
    (removeFar id).work b = (.ok (), b) ∧ b.session.fars.get? id = none ∨
    ∃ slots, (removeFar id).work b = (.ok (), withFars b (b.session.fars.erase id) slots)
      ∧ slots.Stocked size ((b.session.fars.erase id).stock SessionFar.share + others) := by
  unfold removeFar
  rw [work_bind_ok (work_get b)]
  cases hfar : b.session.fars.get? id with
  | none => exact .inl ⟨rfl, rfl⟩
  | some far =>
    obtain ⟨slots, hremove, hslots⟩ := h.discard hfar
    refine .inr ⟨slots, ?_, hslots⟩
    have hdelete : b.plane.fars.remove far.slot = some slots := hremove
    dsimp only
    rw [work_bind_ok (work_onSession _ _)]
    apply work_onPlane_ok
    simp only [Plane.deleteFar, hdelete]

end Fars

/-! ## §2. QoS rules. -/

section Qers

variable {others : Multiset (Nat × QerInfo)}

/-- The workbench with other QoS rules, and other slots for them. -/
def withQers (b : Workbench) (qers : Table UInt32 SessionQer) (slots : Slots QerInfo) : Workbench :=
  { b with session := { b.session with qers }, plane := { b.plane with qers := slots } }

/-- **Making a QoS rule** fails without a trace for want of a slot, or puts the
rule into a slot that was free. -/
theorem createQer_work (r : CreateQer)
    (h : b.plane.qers.Stocked size (b.session.qerStock + others)) :
    (createQer r).work b = (.error (.plane (.noFreeSlot .qer)), b) ∨
    ∃ slot slots, b.plane.qers.get? slot = none ∧
      let qers := b.session.qers.insert r.qerId.ruleId ⟨slot, QerInfo.ofCreate r⟩
      (createQer r).work b = (.ok (), withQers b qers slots)
        ∧ slots.Stocked size (qers.stock SessionQer.share + others) := by
  unfold createQer
  rw [work_bind, work_fromPlane]
  unfold Plane.newQer
  -- the slot is looked for before anything is changed
  cases hinstall : b.plane.qers.install (QerInfo.ofCreate r) with
  | none => exact .inl rfl
  | some p =>
    obtain ⟨slot, slots⟩ := p
    have hnone := (h.install hinstall).1
    refine .inr ⟨slot, ?_⟩
    dsimp only
    rw [work_bind_ok (work_get _), work_bind_ok (work_onSession _ _)]
    dsimp only
    cases hprevious : b.session.qers.get? r.qerId.ruleId with
    | none => exact ⟨slots, hnone, rfl, h.create hprevious hinstall rfl⟩
    | some qer =>
      -- the rule that had the number goes once the new one has its slot
      obtain ⟨slots', hremove, hslots'⟩ := h.recreate hprevious hinstall ⟨slot, _⟩ rfl
      refine ⟨slots', hnone, ?_, hslots'⟩
      have hdelete : slots.remove qer.slot = some slots' := hremove
      apply work_onPlane_ok
      simp only [Plane.deleteQer, hdelete]

/-- **Changing a QoS rule** fails without a trace if there is none of that
number, or changes what is in its slot. -/
theorem updateQer_work (r : UpdateQer)
    (h : b.plane.qers.Stocked size (b.session.qerStock + others)) :
    (updateQer r).work b = (.error (.unknownQer r.qerId.ruleId), b) ∨
    ∃ qer slots, b.session.qers.get? r.qerId.ruleId = some qer ∧
      let qers := b.session.qers.insert r.qerId.ruleId { qer with info := qer.info.update r }
      (updateQer r).work b = (.ok (), withQers b qers slots)
        ∧ slots.Stocked size (qers.stock SessionQer.share + others) := by
  unfold updateQer
  rw [work_bind_ok (work_get b)]
  cases hqer : b.session.qers.get? r.qerId.ruleId with
  | none => exact .inl rfl
  | some qer =>
    -- the rule is in the slot that the session records, so it can be replaced there
    obtain ⟨slots, hreplace, hslots⟩ := h.update hqer ⟨qer.slot, _⟩ rfl
    refine .inr ⟨qer, slots, rfl, ?_, hslots⟩
    have hupdate : b.plane.qers.replace qer.slot (qer.info.update r) = some slots := hreplace
    dsimp only
    rw [work_bind_ok (work_onSession _ _)]
    apply work_onPlane_ok
    simp only [Plane.updateQer, hupdate]

/-- **Removing a QoS rule** passes over one that is not there, or frees its
slot. -/
theorem removeQer_work (id : UInt32)
    (h : b.plane.qers.Stocked size (b.session.qerStock + others)) :
    (removeQer id).work b = (.ok (), b) ∧ b.session.qers.get? id = none ∨
    ∃ slots, (removeQer id).work b = (.ok (), withQers b (b.session.qers.erase id) slots)
      ∧ slots.Stocked size ((b.session.qers.erase id).stock SessionQer.share + others) := by
  unfold removeQer
  rw [work_bind_ok (work_get b)]
  cases hqer : b.session.qers.get? id with
  | none => exact .inl ⟨rfl, rfl⟩
  | some qer =>
    obtain ⟨slots, hremove, hslots⟩ := h.discard hqer
    refine .inr ⟨slots, ?_, hslots⟩
    have hdelete : b.plane.qers.remove qer.slot = some slots := hremove
    dsimp only
    rw [work_bind_ok (work_onSession _ _)]
    apply work_onPlane_ok
    simp only [Plane.deleteQer, hdelete]

end Qers

end RuleStep

/-! ## §3. Every operation. -/

/-- The slots hold what the session records and what others have there. -/
structure Workbench.Stocked (b : Workbench) (farSlots qerSlots : Nat)
    (fars : Multiset (Nat × FarInfo)) (qers : Multiset (Nat × QerInfo)) : Prop where
  fars : b.plane.fars.Stocked farSlots (b.session.farStock + fars)
  qers : b.plane.qers.Stocked qerSlots (b.session.qerStock + qers)

section

variable {b : Workbench} {farSlots qerSlots : Nat} {fars : Multiset (Nat × FarInfo)}
  {qers : Multiset (Nat × QerInfo)}

theorem Workbench.Stocked.of_besidesPdrs {b' : Workbench}
    (h : b.Stocked farSlots qerSlots fars qers) (heq : b'.besidesPdrs = b.besidesPdrs) :
    b'.Stocked farSlots qerSlots fars qers := by
  have hfars : b'.session.fars = b.session.fars := congrArg (·.1.fars) heq
  have hqers : b'.session.qers = b.session.qers := congrArg (·.1.qers) heq
  have hfarSlots : b'.plane.fars = b.plane.fars := congrArg (·.2.1) heq
  have hqerSlots : b'.plane.qers = b.plane.qers := congrArg (·.2.2.1) heq
  constructor
  · unfold Session.farStock
    rw [hfarSlots, hfars]
    exact h.fars
  · unfold Session.qerStock
    rw [hqerSlots, hqers]
    exact h.qers

/-- **No operation touches what others have in the slots.** -/
theorem RuleOp.keeps_stocked (op : RuleOp) (h : b.Stocked farSlots qerSlots fars qers) :
    (op.step.work b).2.Stocked farSlots qerSlots fars qers := by
  -- what fails changes nothing; what succeeds exchanges the session's own share
  cases op with
  | createFar r =>
    rcases RuleStep.createFar_work r h.fars with hwork | ⟨_, slots, -, hwork, hslots⟩
    · rw [RuleOp.step, hwork]
      exact h
    · rw [RuleOp.step, hwork]
      exact ⟨hslots, h.qers⟩
  | updateFar r =>
    rcases RuleStep.updateFar_work r h.fars with hwork | ⟨_, slots, -, hwork, hslots⟩
    · rw [RuleOp.step, hwork]
      exact h
    · rw [RuleOp.step, hwork]
      exact ⟨hslots, h.qers⟩
  | removeFar id =>
    rcases RuleStep.removeFar_work id h.fars with ⟨hwork, -⟩ | ⟨slots, hwork, hslots⟩
    · rw [RuleOp.step, hwork]
      exact h
    · rw [RuleOp.step, hwork]
      exact ⟨hslots, h.qers⟩
  | createQer r =>
    rcases RuleStep.createQer_work r h.qers with hwork | ⟨_, slots, -, hwork, hslots⟩
    · rw [RuleOp.step, hwork]
      exact h
    · rw [RuleOp.step, hwork]
      exact ⟨h.fars, hslots⟩
  | updateQer r =>
    rcases RuleStep.updateQer_work r h.qers with hwork | ⟨_, slots, -, hwork, hslots⟩
    · rw [RuleOp.step, hwork]
      exact h
    · rw [RuleOp.step, hwork]
      exact ⟨h.fars, hslots⟩
  | removeQer id =>
    rcases RuleStep.removeQer_work id h.qers with ⟨hwork, -⟩ | ⟨slots, hwork, hslots⟩
    · rw [RuleOp.step, hwork]
      exact h
    · rw [RuleOp.step, hwork]
      exact ⟨h.fars, hslots⟩
  | createPdr r => exact h.of_besidesPdrs (RuleStep.keeps_createPdr r b)
  | updatePdr r => exact h.of_besidesPdrs (RuleStep.keeps_updatePdr r b)
  | removePdr id => exact h.of_besidesPdrs (RuleStep.keeps_removePdr id b)

/-- **No request touches what others have in the slots.** -/
theorem Workbench.Stocked.carryOut (h : b.Stocked farSlots qerSlots fars qers)
    (ops : List RuleOp) : (b.carryOut ops).2.Stocked farSlots qerSlots fars qers := by
  refine Workbench.carryOut_induction (P := fun _ b => b.Stocked farSlots qerSlots fars qers)
    ?_ ?_ ops [] h
  · intro _ op b₁ b₂ h₁ hwork
    have h₂ := op.keeps_stocked h₁
    rwa [hwork] at h₂
  · intro _ op b₁ b₂ e h₁ hwork
    have h₂ := op.keeps_stocked h₁
    rwa [hwork] at h₂

end

/-! ## §4. Taking a session down. -/

namespace Teardown

theorem foldl_deleteFar {size : Nat} {others : Multiset (Nat × FarInfo)} (l : List SessionFar)
    {t : Teardown}
    (h : t.plane.fars.Stocked size ((l.map fun far => {far.share}).sum + others)) :
    ∃ slots, l.foldl (fun t far => t.attempt (·.deleteFar far.slot)) t
        = { t with plane := { t.plane with fars := slots } } ∧ slots.Stocked size others := by
  induction l generalizing t with
  | nil => exact ⟨t.plane.fars, rfl, by simpa using h⟩
  | cons far l ih =>
    -- the slot of the first rule is in use, so that removing it does not fail
    rw [List.map_cons, List.sum_cons, add_assoc, Multiset.singleton_add] at h
    obtain ⟨slots, hremove, hslots⟩ := h.remove
    have hdelete : t.plane.fars.remove far.slot = some slots := hremove
    have hattempt : t.attempt (·.deleteFar far.slot)
        = { t with plane := { t.plane with fars := slots } } := by
      simp only [attempt, Plane.deleteFar, hdelete]
    rw [List.foldl_cons, hattempt]
    exact ih hslots

theorem foldl_deleteQer {size : Nat} {others : Multiset (Nat × QerInfo)} (l : List SessionQer)
    {t : Teardown}
    (h : t.plane.qers.Stocked size ((l.map fun qer => {qer.share}).sum + others)) :
    ∃ slots, l.foldl (fun t qer => t.attempt (·.deleteQer qer.slot)) t
        = { t with plane := { t.plane with qers := slots } } ∧ slots.Stocked size others := by
  induction l generalizing t with
  | nil => exact ⟨t.plane.qers, rfl, by simpa using h⟩
  | cons qer l ih =>
    -- the slot of the first rule is in use, so that removing it does not fail
    rw [List.map_cons, List.sum_cons, add_assoc, Multiset.singleton_add] at h
    obtain ⟨slots, hremove, hslots⟩ := h.remove
    have hdelete : t.plane.qers.remove qer.slot = some slots := hremove
    have hattempt : t.attempt (·.deleteQer qer.slot)
        = { t with plane := { t.plane with qers := slots } } := by
      simp only [attempt, Plane.deleteQer, hdelete]
    rw [List.foldl_cons, hattempt]
    exact ih hslots

theorem attempt_deletePdr (t : Teardown) (d : Detection) :
    t.attempt (·.deletePdr d) =
      if t.plane.pdrs.contains d then
        { t with plane := { t.plane with pdrs := t.plane.pdrs.erase d } }
      else { t with firstError := t.firstError.or (some (.noDetection d)) } := by
  unfold attempt Plane.deletePdr
  by_cases h : t.plane.pdrs.contains d = true <;> simp [h]

theorem foldl_deletePdr_slots (l : List Detection) (t : Teardown) :
    (l.foldl (fun t d => t.attempt (·.deletePdr d)) t).plane.fars = t.plane.fars
      ∧ (l.foldl (fun t d => t.attempt (·.deletePdr d)) t).plane.qers = t.plane.qers := by
  induction l generalizing t with
  | nil => exact ⟨rfl, rfl⟩
  | cons d l ih =>
    rw [List.foldl_cons]
    obtain ⟨hfars, hqers⟩ := ih (t.attempt (·.deletePdr d))
    -- whether the entry was there or not
    rw [hfars, hqers, attempt_deletePdr]
    split <;> exact ⟨rfl, rfl⟩

end Teardown

/-- Removes the entries of the session's detection rules from the plane. -/
def Session.teardownPdrs (s : Session) (plane : Plane) : Teardown :=
  s.detections.foldl (fun t d => t.attempt (·.deletePdr d)) { plane }

/-- **Taking a session down** leaves in the slots exactly what is not the
session's.  Nothing can fail but the removal of its detection rules. -/
theorem Session.teardown_spec {s : Session} {plane : Plane} {farSlots qerSlots : Nat}
    {fars : Multiset (Nat × FarInfo)} {qers : Multiset (Nat × QerInfo)}
    (hfars : plane.fars.Stocked farSlots (s.farStock + fars))
    (hqers : plane.qers.Stocked qerSlots (s.qerStock + qers)) :
    (s.teardown plane).plane.fars.Stocked farSlots fars
      ∧ (s.teardown plane).plane.qers.Stocked qerSlots qers
      ∧ (s.teardown plane).plane.pdrs = (s.teardownPdrs plane).plane.pdrs
      ∧ (s.teardown plane).firstError = (s.teardownPdrs plane).firstError := by
  -- detection rules go first, and touch no slots
  obtain ⟨hkeptFars, hkeptQers⟩ := Teardown.foldl_deletePdr_slots s.detections { plane }
  have hshareFars : s.farStock = (s.fars.values.map fun far => {far.share}).sum :=
    (Table.sum_values (fun far : SessionFar => ({far.share} : Multiset (Nat × FarInfo))) _).symm
  have hshareQers : s.qerStock = (s.qers.values.map fun qer => {qer.share}).sum :=
    (Table.sum_values (fun qer : SessionQer => ({qer.share} : Multiset (Nat × QerInfo))) _).symm
  have h₁ : (s.teardownPdrs plane).plane.fars.Stocked farSlots
      ((s.fars.values.map fun far => {far.share}).sum + fars) := by
    rw [teardownPdrs, hkeptFars, ← hshareFars]
    exact hfars
  -- then the forwarding rules, one by one
  obtain ⟨slots₁, heq₁, hslots₁⟩ := Teardown.foldl_deleteFar s.fars.values h₁
  have h₂ : ({ s.teardownPdrs plane with
      plane := { (s.teardownPdrs plane).plane with fars := slots₁ } } : Teardown).plane.qers.Stocked
        qerSlots ((s.qers.values.map fun qer => {qer.share}).sum + qers) := by
    show (s.teardownPdrs plane).plane.qers.Stocked _ _
    rw [teardownPdrs, hkeptQers, ← hshareQers]
    exact hqers
  -- and the QoS rules
  obtain ⟨slots₂, heq₂, hslots₂⟩ := Teardown.foldl_deleteQer s.qers.values h₂
  have heq : s.teardown plane = { s.teardownPdrs plane with
      plane := { (s.teardownPdrs plane).plane with fars := slots₁, qers := slots₂ } } := by
    unfold teardown
    show s.qers.values.foldl _ (s.fars.values.foldl _ (s.teardownPdrs plane)) = _
    rw [heq₁, heq₂]
  rw [heq]
  exact ⟨hslots₁, hslots₂, rfl, rfl⟩

end UserPlane
