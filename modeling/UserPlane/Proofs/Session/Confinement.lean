/-
  UserPlane.Proofs.Session.Confinement
  ────────────────────────────────────
  **WHICH ENTRIES OF THE PLANE A REQUEST CAN CHANGE.**

  A request finds keys for the detection rules that it makes or changes.  It
  changes no entry of the plane but those under keys that the session used
  before, and under keys that it found (`Workbench.confined_carryOut`), whether
  its operations succeed or fail.  Taking the session down changes no entry but
  those under keys that the session uses.

      RuleOp.key?      the key that an operation finds for its rule
      keysFound        the keys that the operations of a request find
      Confined         used keys and changed entries stay within a set
      Confines         a step keeps them there
-/
import UserPlane.Proofs.Session.Life

namespace UserPlane

/-! ## §1. Keys that are found. -/

/-- The key that is found for the rule that an operation makes or changes. -/
def RuleOp.key? (op : RuleOp) (b : Workbench) : Option Detection :=
  match op with
  | .createPdr r => ((RuleStep.detection r.pdrId.ruleId r.pdi).work b).1.toOption
  | .updatePdr r => r.pdi.bind fun pdi =>
      ((RuleStep.detection r.pdrId.ruleId pdi).work b).1.toOption
  | _ => none

/-- The keys that operations find, up to the first that fails. -/
def keysFound : List RuleOp → Workbench → List Detection
  | [], _ => []
  | op :: ops, b =>
    (op.key? b).toList ++
      match op.step.work b with
      | (.ok _, b') => keysFound ops b'
      | (.error _, _) => []

namespace RuleStep

variable {b b' : Workbench} {pdr previous : SessionPdr}

theorem work_flow (p : Pdi) (b : Workbench) :
    (flow p).work b = (p.flow.mapError SessionError.flow, b) := by
  unfold flow
  cases p.flow <;> rfl

/-- A rule that is drafted has the key that is found for it, and the rest of the
draft changes nothing on the workbench. -/
theorem drafted_key {r : CreatePdr} (h : (drafted r).work b = (.ok pdr, b')) :
    (detection r.pdrId.ruleId r.pdi).work b = (.ok pdr.detection, b') := by
  unfold drafted at h
  obtain ⟨key, b₁, hkey, h⟩ := work_bind_eq_ok h
  obtain ⟨farSlot, b₂, hfar, h⟩ := work_bind_eq_ok h
  obtain ⟨qerSlot, b₃, hqer, h⟩ := work_bind_eq_ok h
  obtain ⟨flow, b₄, hflow, h⟩ := work_bind_eq_ok h
  rw [work_ofSession, Prod.mk.injEq] at hfar hqer
  rw [work_flow, Prod.mk.injEq] at hflow
  obtain ⟨-, rfl⟩ := hfar
  obtain ⟨-, rfl⟩ := hqer
  obtain ⟨-, rfl⟩ := hflow
  cases h
  exact hkey

/-- Looking up names changes nothing on the workbench, and no key. -/
theorem renamed_key {r : UpdatePdr} (h : (renamed previous r).work b = (.ok pdr, b')) :
    b' = b ∧ pdr.detection = previous.detection := by
  rw [renamed_eq] at h
  obtain ⟨mid, b₁, hfar, hqer⟩ := work_bind_eq_ok h
  have hremoval : (renamedRemoval previous r).detection = previous.detection := by
    unfold renamedRemoval
    cases r.outerHeaderRemoval <;> rfl
  have hmid : b₁ = b ∧ mid.detection = (renamedRemoval previous r).detection := by
    unfold renamedFar at hfar
    cases hid : r.farId with
    | none =>
      rw [hid] at hfar
      cases hfar
      exact ⟨rfl, rfl⟩
    | some far =>
      rw [hid] at hfar
      obtain ⟨slot, b₂, hslot, hfar⟩ := work_bind_eq_ok hfar
      rw [work_ofSession, Prod.mk.injEq] at hslot
      cases hfar
      exact ⟨hslot.2.symm, rfl⟩
  have hlast : b' = b₁ ∧ pdr.detection = mid.detection := by
    unfold renamedQer at hqer
    cases hid : r.qerId with
    | none =>
      rw [hid] at hqer
      cases hqer
      exact ⟨rfl, rfl⟩
    | some qer =>
      rw [hid] at hqer
      obtain ⟨slot, b₂, hslot, hqer⟩ := work_bind_eq_ok hqer
      rw [work_ofSession, Prod.mk.injEq] at hslot
      cases hqer
      exact ⟨hslot.2.symm, rfl⟩
  exact ⟨hlast.1.trans hmid.1, (hlast.2.trans hmid.2).trans hremoval⟩

/-- A rule that is redrafted keeps its key, or has the key that is found for
it. -/
theorem redrafted_key {r : UpdatePdr} (h : (redrafted r).work b = (.ok (previous, pdr), b')) :
    b.session.pdrs.get? r.pdrId.ruleId = some previous
    ∧ ((r.pdi = none ∧ pdr.detection = previous.detection ∧ b' = b)
      ∨ ∃ pdi, r.pdi = some pdi
        ∧ (detection r.pdrId.ruleId pdi).work b = (.ok pdr.detection, b')) := by
  obtain ⟨hprevious, mid, b₁, hrenamed, hrekeyed⟩ := redrafted_eq_ok h
  obtain ⟨rfl, hmid⟩ := renamed_key hrenamed
  refine ⟨hprevious, ?_⟩
  unfold rekeyed at hrekeyed
  cases hpdi : r.pdi with
  | none =>
    rw [hpdi] at hrekeyed
    cases hrekeyed
    exact .inl ⟨rfl, hmid, rfl⟩
  | some pdi =>
    rw [hpdi] at hrekeyed
    obtain ⟨key, b₂, hkey, hrekeyed⟩ := work_bind_eq_ok hrekeyed
    obtain ⟨flow, b₃, hflow, hrekeyed⟩ := work_bind_eq_ok hrekeyed
    rw [work_flow, Prod.mk.injEq] at hflow
    obtain ⟨-, rfl⟩ := hflow
    cases hrekeyed
    exact .inr ⟨pdi, rfl, hkey⟩

end RuleStep

/-! ## §2. Confinement. -/

/-- From one workbench to the other no entry changed but under keys in a set,
and the session uses no other keys. -/
structure Workbench.Confined (within : Detection → Prop) (b b' : Workbench) : Prop where
  entries : ∀ d, ¬ within d → b'.plane.pdrs.get? d = b.plane.pdrs.get? d
  uses : ∀ d, DetectionRules.Uses b'.session.pdrs d → within d

/-- A step changes no entry but under keys in a set, and has the session use no
other keys. -/
def RuleStep.Confines (within : Detection → Prop) {α : Type} (x : RuleStep α) : Prop :=
  ∀ b₀ b : Workbench, b₀.Confined within b → b₀.Confined within (x.work b).2

namespace Workbench.Confined

variable {within : Detection → Prop} {b₀ b b' : Workbench}

/-- What is changed besides detection rules does not matter. -/
theorem of_eq (h : b₀.Confined within b) (hpdrs : b'.session.pdrs = b.session.pdrs)
    (hentries : b'.plane.pdrs = b.plane.pdrs) : b₀.Confined within b' := by
  constructor
  · rw [hentries]
    exact h.entries
  · rw [hpdrs]
    exact h.uses

theorem of_standing (h : b₀.Confined within b) (heq : b'.standing = b.standing) :
    b₀.Confined within b' :=
  h.of_eq (congrArg (·.1.pdrs) heq) (congrArg (·.2.1.pdrs) heq)

end Workbench.Confined

namespace RuleStep

variable {within : Detection → Prop}

theorem Confines.bind {α β : Type} {x : RuleStep α} {f : α → RuleStep β}
    (hx : Confines within x) (hf : ∀ a, Confines within (f a)) : Confines within (x >>= f) := by
  intro b₀ b h
  have hb := hx b₀ b h
  rw [work_bind]
  cases hwork : x.work b with
  | mk r b' =>
    rw [hwork] at hb
    cases r with
    | ok a => exact hf a b₀ b' hb
    | error e => exact hb

theorem confines_put {d : Detection} (hd : within d) (info : PdrInfo) :
    Confines within (onPlane fun p => .ok (p.putPdr d info)) := by
  intro b₀ b h
  refine ⟨fun d' hd' => ?_, h.uses⟩
  have hne : d' ≠ d := fun e => hd' (e ▸ hd)
  show (b.plane.pdrs.insert d info).get? d' = _
  rw [Table.get?_insert, if_neg hne]
  exact h.entries d' hd'

theorem confines_update {d : Detection} (hd : within d) (info : PdrInfo) :
    Confines within (onPlane (·.updatePdr d info)) := by
  intro b₀ b h
  rw [work_onPlane]
  unfold Plane.updatePdr
  split
  · next plane hplane =>
    split at hplane
    · cases hplane
      exact confines_put hd info b₀ b h
    · cases hplane
  · exact h

theorem confines_delete {d : Detection} (hd : within d) :
    Confines within (onPlane (·.deletePdr d)) := by
  intro b₀ b h
  rw [work_onPlane]
  unfold Plane.deletePdr
  split
  · next plane hplane =>
    split at hplane
    · cases hplane
      refine ⟨fun d' hd' => ?_, h.uses⟩
      have hne : d' ≠ d := fun e => hd' (e ▸ hd)
      show (b.plane.pdrs.erase d).get? d' = _
      rw [Table.get?_erase, if_neg hne]
      exact h.entries d' hd'
    · cases hplane
  · exact h

theorem confines_giveUp {d : Detection} (hd : within d) (id : UInt16) :
    Confines within (giveUp d id) := by
  intro b₀ b h
  unfold giveUp
  rw [work_bind_ok (work_get b)]
  cases b.session.otherWith id d with
  | none => exact confines_delete hd b₀ b h
  | some info => exact confines_put hd info b₀ b h

theorem confines_file (id : UInt16) {pdr : SessionPdr} (hd : within pdr.detection) :
    Confines within (onSession fun s => { s with pdrs := s.pdrs.insert id pdr }) := by
  intro b₀ b h
  refine ⟨h.entries, fun d huses => ?_⟩
  obtain ⟨id', pdr', hget, rfl⟩ := huses
  have hget : (b.session.pdrs.insert id pdr).get? id' = some pdr' := hget
  rw [Table.get?_insert] at hget
  split at hget
  · cases hget
    exact hd
  · exact h.uses _ ⟨id', pdr', hget, rfl⟩

theorem confines_filed (id : UInt16) {pdr : SessionPdr} (hd : within pdr.detection) :
    Confines within (filed id pdr) := by
  have hput : Confines within (do
      onPlane fun p => .ok (p.putPdr pdr.detection pdr.info)
      onSession fun s => { s with pdrs := s.pdrs.insert id pdr }) :=
    .bind (confines_put hd _) fun _ => confines_file id hd
  intro b₀ b h
  unfold filed
  rw [work_bind_ok (work_get b)]
  cases hprevious : b.session.pdrs.get? id with
  | none => exact hput b₀ b h
  | some previous =>
    dsimp only
    -- the key that is given up was the session's
    have hd' : within previous.detection := h.uses _ ⟨id, previous, hprevious, rfl⟩
    split
    · exact (Confines.bind (confines_giveUp hd' id) fun _ => hput) b₀ b h
    · exact hput b₀ b h

theorem confines_refiled (id : UInt16) {previous pdr : SessionPdr}
    (hprevious : within previous.detection) (hd : within pdr.detection) :
    Confines within (refiled id previous pdr) := by
  unfold refiled
  split
  · exact .bind (confines_update hd _) fun _ => confines_file id hd
  · exact .bind (confines_giveUp hprevious id) fun _ => .bind (confines_put hd _) fun _ =>
      confines_file id hd

theorem confines_removePdr (id : UInt16) : Confines within (removePdr id) := by
  intro b₀ b h
  unfold removePdr
  rw [work_bind_ok (work_get b)]
  cases hpdr : b.session.pdrs.get? id with
  | none => exact h
  | some pdr =>
    dsimp only
    rw [work_bind_ok (work_onSession _ _)]
    refine confines_giveUp (h.uses _ ⟨id, pdr, hpdr, rfl⟩) id b₀ _ ⟨h.entries, fun d huses => ?_⟩
    exact h.uses d (DetectionRules.Uses.of_erase huses)

end RuleStep

/-! ## §3. Every operation, and every request. -/

/-- **An operation** changes no entry but under keys that the session used, and
under the key that it finds. -/
theorem RuleOp.confined (op : RuleOp) {within : Detection → Prop} {b₀ b : Workbench}
    (h : b₀.Confined within b) (hkey : ∀ d, op.key? b = some d → within d) :
    b₀.Confined within (op.step.work b).2 := by
  cases op with
  | createPdr r =>
    rw [RuleOp.step, RuleStep.createPdr_eq, RuleStep.work_bind]
    have hstanding := RuleStep.keeps_drafted r b
    cases hdrafted : (RuleStep.drafted r).work b with
    | mk result b₁ =>
      rw [hdrafted] at hstanding
      have h₁ := h.of_standing hstanding
      cases result with
      | error e => exact h₁
      | ok pdr =>
        have hfound := RuleStep.drafted_key hdrafted
        exact RuleStep.confines_filed _ (hkey _ (by simp [key?, hfound, Except.toOption])) b₀ b₁ h₁
  | updatePdr r =>
    rw [RuleOp.step, RuleStep.updatePdr_eq, RuleStep.work_bind]
    have hstanding := RuleStep.keeps_redrafted r b
    cases hredrafted : (RuleStep.redrafted r).work b with
    | mk result b₁ =>
      rw [hredrafted] at hstanding
      have h₁ := h.of_standing hstanding
      cases result with
      | error e => exact h₁
      | ok p =>
        obtain ⟨previous, pdr⟩ := p
        obtain ⟨hget, hfound⟩ := RuleStep.redrafted_key hredrafted
        have hprevious : within previous.detection := h.uses _ ⟨_, previous, hget, rfl⟩
        have hpdr : within pdr.detection := by
          rcases hfound with ⟨-, hsame, -⟩ | ⟨pdi, hpdi, hfound⟩
          · rwa [hsame]
          · exact hkey _ (by simp [key?, hpdi, hfound, Except.toOption])
        exact RuleStep.confines_refiled _ hprevious hpdr b₀ b₁ h₁
  | removePdr id => exact RuleStep.confines_removePdr id b₀ b h
  | _ =>
    exact h.of_eq (congrArg (·.session.pdrs) (keeps_besidesTreatment rfl b))
      (congrArg (·.plane.pdrs) (keeps_besidesTreatment rfl b))

theorem Workbench.Confined.carryOut {within : Detection → Prop} {b₀ : Workbench}
    (ops : List RuleOp) {b : Workbench} (h : b₀.Confined within b)
    (hkeys : ∀ d ∈ keysFound ops b, within d) : b₀.Confined within (b.carryOut ops).2 := by
  induction ops generalizing b with
  | nil => exact h
  | cons op ops ih =>
    unfold keysFound at hkeys
    have hstep := op.confined h fun d hd => hkeys d (by simp [hd])
    rw [carryOut_cons]
    cases hwork : op.step.work b with
    | mk result b' =>
      rw [hwork] at hkeys hstep
      cases result with
      | error e => exact hstep
      | ok u => exact ih hstep fun d hd => hkeys d (List.mem_append_right _ hd)

/-- **A request** changes no entry but under keys that the session used, and
under keys that it finds. -/
theorem Workbench.entries_carryOut (ops : List RuleOp) {b : Workbench} {d : Detection}
    (hunused : ¬ DetectionRules.Uses b.session.pdrs d) (hnot : d ∉ keysFound ops b) :
    (b.carryOut ops).2.plane.pdrs.get? d = b.plane.pdrs.get? d := by
  have hbegin : b.Confined
      (fun d => DetectionRules.Uses b.session.pdrs d ∨ d ∈ keysFound ops b) b :=
    ⟨fun _ _ => rfl, fun _ => .inl⟩
  exact (hbegin.carryOut ops fun _ => .inr).entries d fun hd => hd.elim hunused hnot

/-! ## §4. Taking a session down. -/

namespace Teardown

theorem entries_foldl_deletePdr {d : Detection} (l : List Detection) (hd : d ∉ l) (t : Teardown) :
    (l.foldl (fun t d => t.attempt (·.deletePdr d)) t).plane.pdrs.get? d
      = t.plane.pdrs.get? d := by
  induction l generalizing t with
  | nil => rfl
  | cons d' l ih =>
    rw [List.mem_cons, not_or] at hd
    rw [List.foldl_cons, ih hd.2, attempt_deletePdr]
    split
    · show (t.plane.pdrs.erase d').get? d = _
      rw [Table.get?_erase, if_neg hd.1]
    · rfl

/-- What is not about detection rules leaves their entries alone. -/
theorem pdrs_foldl_attempt {α : Type} {f : α → Plane → Except PlaneError Plane}
    (hf : ∀ a p p', f a p = .ok p' → p'.pdrs = p.pdrs) (l : List α) (t : Teardown) :
    (l.foldl (fun t a => t.attempt (f a)) t).plane.pdrs = t.plane.pdrs := by
  induction l generalizing t with
  | nil => rfl
  | cons a l ih =>
    rw [List.foldl_cons, ih]
    unfold attempt
    cases hplane : f a t.plane with
    | ok plane => exact hf a _ _ hplane
    | error e => rfl

end Teardown

theorem Plane.pdrs_deleteFar {p p' : Plane} {slot : Nat} (h : p.deleteFar slot = .ok p') :
    p'.pdrs = p.pdrs := by
  unfold deleteFar at h
  split at h <;> cases h
  rfl

theorem Plane.pdrs_deleteQer {p p' : Plane} {slot : Nat} (h : p.deleteQer slot = .ok p') :
    p'.pdrs = p.pdrs := by
  unfold deleteQer at h
  split at h <;> cases h
  rfl

/-- **Taking a session down** changes no entry but under keys that it uses. -/
theorem Session.entries_teardown (s : Session) (plane : Plane) {d : Detection}
    (hunused : ¬ DetectionRules.Uses s.pdrs d) :
    (s.teardown plane).plane.pdrs.get? d = plane.pdrs.get? d := by
  have hqers := Teardown.pdrs_foldl_attempt
    (f := fun (qer : SessionQer) p => p.deleteQer qer.slot) (fun _ _ _ => Plane.pdrs_deleteQer)
    s.qers.values
  have hfars := Teardown.pdrs_foldl_attempt
    (f := fun (far : SessionFar) p => p.deleteFar far.slot) (fun _ _ _ => Plane.pdrs_deleteFar)
    s.fars.values
  unfold teardown
  dsimp only
  rw [hqers, hfars]
  exact Teardown.entries_foldl_deletePdr s.detections
    (fun hd => hunused ((s.mem_detections d).mp hd)) _

end UserPlane
