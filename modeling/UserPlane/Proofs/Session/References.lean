/-
  UserPlane.Proofs.Session.References
  ───────────────────────────────────
  **DETECTION RULES THAT NAME OTHER RULES.**

  A detection rule names a forwarding and a QoS rule by the session's numbers,
  and has their slots.  A slot is looked up when the detection rule is made or
  changed, and is not looked up again: making the named rule anew gives it
  another slot, and removing it frees the slot.  So a reference is current as
  long as, since an operation gave the detection rule that name, the rule it
  names was neither made anew nor removed (`Undisturbed`).

      RuleOp.slot?_step      a slot changes only with its rule made anew or removed
      RuleOp.became          a detection rule stays, or is filed as it was drafted
      RuleOp.referred        a reference stays, or is looked up
      References.carryOut    references that are undisturbed are current
-/
import UserPlane.Proofs.Session.Stock

namespace UserPlane

/-! ## §1. Names and slots, of both kinds. -/

/-- The rule of a kind that a detection rule names. -/
def SessionPdr.ruleId (pdr : SessionPdr) : SlotKind → Option UInt32
  | .far => pdr.farId
  | .qer => pdr.qerId

/-- The slot of a kind that a detection rule sends packets to. -/
def SessionPdr.slot (pdr : SessionPdr) : SlotKind → Option Nat
  | .far => pdr.info.farSlot
  | .qer => pdr.info.qerSlot

/-- The slot of a rule that is named, if one is named. -/
def Session.slotOf (s : Session) : SlotKind → Option UInt32 → Except SessionError (Option Nat)
  | .far => s.farSlot
  | .qer => s.qerSlot

/-- The slot of a rule. -/
def Session.slot? (s : Session) (kind : SlotKind) (id : UInt32) : Option Nat :=
  match kind with
  | .far => (s.fars.get? id).map (·.slot)
  | .qer => (s.qers.get? id).map (·.slot)

/-- The rule of a kind that a request to make a detection rule names. -/
def CreatePdr.ruleId (r : CreatePdr) : SlotKind → Option UInt32
  | .far => r.farId.map (·.ruleId)
  | .qer => r.qerId.map (·.ruleId)

/-- The rule of a kind that a request to change a detection rule names. -/
def UpdatePdr.ruleId (r : UpdatePdr) : SlotKind → Option UInt32
  | .far => r.farId.map (·.ruleId)
  | .qer => r.qerId.map (·.ruleId)

/-- What is looked up under no number is no slot, and under a number the slot
of the rule. -/
theorem Session.slotOf_eq_ok {s : Session} {kind : SlotKind} {id : Option UInt32}
    {slot : Option Nat} :
    s.slotOf kind id = .ok slot ↔
      match id with
      | none => slot = none
      | some id => slot.isSome ∧ s.slot? kind id = slot := by
  cases id with
  | none => cases kind <;> simp [slotOf, farSlot, qerSlot, eq_comm]
  | some id =>
    cases kind with
    | far =>
      simp only [slotOf, farSlot, slot?]
      cases s.fars.get? id <;> cases slot <;> simp
    | qer =>
      simp only [slotOf, qerSlot, slot?]
      cases s.qers.get? id <;> cases slot <;> simp

/-! ## §2. Which operations matter to a reference. -/

namespace RuleOp

/-- The operation gives a detection rule the name of a rule. -/
def Names (kind : SlotKind) (pdr : UInt16) (id : UInt32) : RuleOp → Prop
  | createPdr r => r.pdrId.ruleId = pdr ∧ r.ruleId kind = some id
  | updatePdr r => r.pdrId.ruleId = pdr ∧ r.ruleId kind = some id
  | _ => False

/-- The operation makes a rule anew, or removes it. -/
def Replaces (kind : SlotKind) (id : UInt32) : RuleOp → Prop
  | createFar r => kind = .far ∧ r.farId.ruleId = id
  | removeFar id' => kind = .far ∧ id' = id
  | createQer r => kind = .qer ∧ r.qerId.ruleId = id
  | removeQer id' => kind = .qer ∧ id' = id
  | _ => False

end RuleOp

/-- Since an operation gave the detection rule that name, the rule it names
was neither made anew nor removed. -/
def Undisturbed (kind : SlotKind) (pdr : UInt16) (id : UInt32) (done : List RuleOp) : Prop :=
  ∃ before op after, done = before ++ op :: after ∧ op.Names kind pdr id
    ∧ ∀ later ∈ after, ¬ later.Replaces kind id

theorem Undisturbed.of_append_singleton {kind : SlotKind} {pdr : UInt16} {id : UInt32}
    {done : List RuleOp} {op : RuleOp} (h : Undisturbed kind pdr id (done ++ [op])) :
    op.Names kind pdr id ∨ Undisturbed kind pdr id done ∧ ¬ op.Replaces kind id := by
  obtain ⟨before, op', after, heq, hnames, hafter⟩ := h
  -- the last operation gave the name, or comes after the one that did
  cases after using List.reverseRecOn with
  | nil =>
    obtain ⟨-, hlast⟩ := List.append_inj' heq rfl
    cases hlast
    exact .inl hnames
  | append_singleton after last =>
    rw [← List.cons_append, ← List.append_assoc] at heq
    obtain ⟨rfl, hlast⟩ := List.append_inj' heq rfl
    cases hlast
    exact .inr ⟨⟨before, op', after, rfl, hnames, fun later hl =>
      hafter later (List.mem_append_left _ hl)⟩, hafter op (by simp)⟩

/-! ## §3. What an operation does to slots and references. -/

section

variable {b b' : Workbench} {farSlots qerSlots : Nat} {fars : Multiset (Nat × FarInfo)}
  {qers : Multiset (Nat × QerInfo)}

theorem Session.slot?_congr {s s' : Session} (hfars : s'.fars = s.fars) (hqers : s'.qers = s.qers)
    (kind : SlotKind) (id : UInt32) : s'.slot? kind id = s.slot? kind id := by
  unfold slot?
  rw [hfars, hqers]

/-- An operation on detection rules moves no rule to another slot. -/
theorem Session.slot?_of_besidesPdrs (heq : b'.besidesPdrs = b.besidesPdrs) (kind : SlotKind)
    (id : UInt32) : b'.session.slot? kind id = b.session.slot? kind id :=
  slot?_congr (congrArg (·.1.fars) heq) (congrArg (·.1.qers) heq) kind id

/-- **A rule's slot changes** only when the rule is made anew or removed. -/
theorem RuleOp.slot?_step {op : RuleOp} (h : b.Stocked farSlots qerSlots fars qers)
    {kind : SlotKind} {id : UInt32} (hkept : ¬ op.Replaces kind id) :
    (op.step.work b).2.session.slot? kind id = b.session.slot? kind id := by
  -- one case per operation: what fails moves nothing, and what succeeds is about another
  -- rule, or about the rule's information and not its slot
  cases op with
  | createFar r =>
    rcases RuleStep.createFar_work r h.fars with hwork | ⟨slot, slots, -, hwork, -⟩
    · rw [RuleOp.step, hwork]
    · rw [RuleOp.step, hwork]
      cases kind with
      | far =>
        have hne : ¬ id = r.farId.ruleId := fun e => hkept ⟨rfl, e.symm⟩
        simp [RuleStep.withFars, Session.slot?, hne]
      | qer => rfl
  | updateFar r =>
    rcases RuleStep.updateFar_work r h.fars with hwork | ⟨far, slots, hfar, hwork, -⟩
    · rw [RuleOp.step, hwork]
    · rw [RuleOp.step, hwork]
      cases kind with
      | far =>
        by_cases hid : id = r.farId.ruleId
        · simp [RuleStep.withFars, Session.slot?, hid, hfar]
        · simp [RuleStep.withFars, Session.slot?, hid]
      | qer => rfl
  | removeFar id' =>
    rcases RuleStep.removeFar_work id' h.fars with ⟨hwork, -⟩ | ⟨slots, hwork, -⟩
    · rw [RuleOp.step, hwork]
    · rw [RuleOp.step, hwork]
      cases kind with
      | far =>
        have hne : ¬ id = id' := fun e => hkept ⟨rfl, e.symm⟩
        simp [RuleStep.withFars, Session.slot?, hne]
      | qer => rfl
  | createQer r =>
    rcases RuleStep.createQer_work r h.qers with hwork | ⟨slot, slots, -, hwork, -⟩
    · rw [RuleOp.step, hwork]
    · rw [RuleOp.step, hwork]
      cases kind with
      | far => rfl
      | qer =>
        have hne : ¬ id = r.qerId.ruleId := fun e => hkept ⟨rfl, e.symm⟩
        simp [RuleStep.withQers, Session.slot?, hne]
  | updateQer r =>
    rcases RuleStep.updateQer_work r h.qers with hwork | ⟨qer, slots, hqer, hwork, -⟩
    · rw [RuleOp.step, hwork]
    · rw [RuleOp.step, hwork]
      cases kind with
      | far => rfl
      | qer =>
        by_cases hid : id = r.qerId.ruleId
        · simp [RuleStep.withQers, Session.slot?, hid, hqer]
        · simp [RuleStep.withQers, Session.slot?, hid]
  | removeQer id' =>
    rcases RuleStep.removeQer_work id' h.qers with ⟨hwork, -⟩ | ⟨slots, hwork, -⟩
    · rw [RuleOp.step, hwork]
    · rw [RuleOp.step, hwork]
      cases kind with
      | far => rfl
      | qer =>
        have hne : ¬ id = id' := fun e => hkept ⟨rfl, e.symm⟩
        simp [RuleStep.withQers, Session.slot?, hne]
  | createPdr r => exact Session.slot?_of_besidesPdrs (RuleStep.keeps_createPdr r b) kind id
  | updatePdr r => exact Session.slot?_of_besidesPdrs (RuleStep.keeps_updatePdr r b) kind id
  | removePdr id' => exact Session.slot?_of_besidesPdrs (RuleStep.keeps_removePdr id' b) kind id

end

/-- **An operation that fails** moves no rule to another slot. -/
theorem RuleOp.slot?_of_error {op : RuleOp} {b b' : Workbench} {farSlots qerSlots : Nat}
    {fars : Multiset (Nat × FarInfo)} {qers : Multiset (Nat × QerInfo)} {e : SessionError}
    (h : b.Stocked farSlots qerSlots fars qers) (herror : op.step.work b = (.error e, b'))
    (kind : SlotKind) (id : UInt32) : b'.session.slot? kind id = b.session.slot? kind id := by
  have hb' : b' = (op.step.work b).2 := by rw [herror]
  by_cases hkept : op.Replaces kind id
  · -- what replaces a rule fails without a trace, or not at all
    cases op with
    | createFar r =>
      rcases RuleStep.createFar_work r h.fars with hwork | ⟨_, _, -, hwork, -⟩
      · cases herror.symm.trans hwork
        rfl
      · cases herror.symm.trans hwork
    | removeFar id' =>
      rcases RuleStep.removeFar_work id' h.fars with ⟨hwork, -⟩ | ⟨_, hwork, -⟩
      · cases herror.symm.trans hwork
      · cases herror.symm.trans hwork
    | createQer r =>
      rcases RuleStep.createQer_work r h.qers with hwork | ⟨_, _, -, hwork, -⟩
      · cases herror.symm.trans hwork
        rfl
      · cases herror.symm.trans hwork
    | removeQer id' =>
      rcases RuleStep.removeQer_work id' h.qers with ⟨hwork, -⟩ | ⟨_, hwork, -⟩
      · cases herror.symm.trans hwork
      · cases herror.symm.trans hwork
    | _ => cases hkept
  · rw [hb']
    exact RuleOp.slot?_step h hkept

/-! ## §4. Where references come from. -/

namespace RuleStep

variable {b b' : Workbench} {pdr previous : SessionPdr}

theorem session_of_work {α : Type} {x : RuleStep α} {a : Except SessionError α}
    (hx : Keeps Workbench.standing x) (h : x.work b = (a, b')) : b'.session = b.session := by
  have hstanding := hx b
  rw [h] at hstanding
  exact congrArg (·.1) hstanding

/-- **A rule that is drafted** has the slots of the rules it names. -/
theorem drafted_spec {r : CreatePdr} (h : (drafted r).work b = (.ok pdr, b')) (kind : SlotKind) :
    pdr.ruleId kind = r.ruleId kind
      ∧ b.session.slotOf kind (pdr.ruleId kind) = .ok (pdr.slot kind) := by
  unfold drafted at h
  -- the slots are looked up in the session as it was at the start
  obtain ⟨key, b₁, hkey, h⟩ := work_bind_eq_ok h
  have hsession := session_of_work (keeps_detection _ _) hkey
  obtain ⟨farSlot, b₂, hfar, h⟩ := work_bind_eq_ok h
  rw [work_ofSession, hsession, Prod.mk.injEq] at hfar
  obtain ⟨hfar, rfl⟩ := hfar
  obtain ⟨qerSlot, b₃, hqer, h⟩ := work_bind_eq_ok h
  rw [work_ofSession, hsession, Prod.mk.injEq] at hqer
  obtain ⟨hqer, rfl⟩ := hqer
  obtain ⟨flow, b₄, -, h⟩ := work_bind_eq_ok h
  cases h
  cases kind with
  | far => exact ⟨rfl, hfar⟩
  | qer => exact ⟨rfl, hqer⟩

/-- A rule keeps the name it had, or is given one and the slot of that rule. -/
def Renames (s : Session) (r : UpdatePdr) (previous pdr : SessionPdr) (kind : SlotKind) : Prop :=
  (r.ruleId kind = none ∧ pdr.ruleId kind = previous.ruleId kind
      ∧ pdr.slot kind = previous.slot kind)
    ∨ r.ruleId kind = pdr.ruleId kind ∧ s.slotOf kind (pdr.ruleId kind) = .ok (pdr.slot kind)

theorem renamedFar_spec {r : UpdatePdr} (h : (renamedFar previous r).work b = (.ok pdr, b')) :
    Renames b.session r previous pdr .far ∧ pdr.qerId = previous.qerId
      ∧ pdr.info.qerSlot = previous.info.qerSlot := by
  unfold renamedFar at h
  cases hfar : r.farId with
  | none =>
    rw [hfar] at h
    cases h
    exact ⟨.inl ⟨by simp [UpdatePdr.ruleId, hfar], rfl, rfl⟩, rfl, rfl⟩
  | some far =>
    rw [hfar] at h
    obtain ⟨slot, b₁, hslot, h⟩ := work_bind_eq_ok h
    rw [work_ofSession, Prod.mk.injEq] at hslot
    cases h
    exact ⟨.inr ⟨by simp [UpdatePdr.ruleId, SessionPdr.ruleId, hfar], hslot.1⟩, rfl, rfl⟩

theorem renamedQer_spec {r : UpdatePdr} (h : (renamedQer previous r).work b = (.ok pdr, b')) :
    Renames b.session r previous pdr .qer ∧ pdr.farId = previous.farId
      ∧ pdr.info.farSlot = previous.info.farSlot := by
  unfold renamedQer at h
  cases hqer : r.qerId with
  | none =>
    rw [hqer] at h
    cases h
    exact ⟨.inl ⟨by simp [UpdatePdr.ruleId, hqer], rfl, rfl⟩, rfl, rfl⟩
  | some qer =>
    rw [hqer] at h
    obtain ⟨slot, b₁, hslot, h⟩ := work_bind_eq_ok h
    rw [work_ofSession, Prod.mk.injEq] at hslot
    cases h
    exact ⟨.inr ⟨by simp [UpdatePdr.ruleId, SessionPdr.ruleId, hqer], hslot.1⟩, rfl, rfl⟩

theorem renamed_spec {r : UpdatePdr} (h : (renamed previous r).work b = (.ok pdr, b'))
    (kind : SlotKind) : Renames b.session r previous pdr kind := by
  rw [renamed_eq] at h
  obtain ⟨mid, b₁, hfar, hqer⟩ := work_bind_eq_ok h
  have hsession := session_of_work (keeps_renamedFar _ _) hfar
  obtain ⟨hfar, hqerId, hqerSlot⟩ := renamedFar_spec hfar
  obtain ⟨hqer, hfarId, hfarSlot⟩ := renamedQer_spec hqer
  -- names and slots do not depend on the header removal
  have hid : ∀ kind, (renamedRemoval previous r).ruleId kind = previous.ruleId kind := by
    intro kind
    unfold renamedRemoval
    cases r.outerHeaderRemoval <;> cases kind <;> rfl
  have hslot : ∀ kind, (renamedRemoval previous r).slot kind = previous.slot kind := by
    intro kind
    unfold renamedRemoval
    cases r.outerHeaderRemoval <;> cases kind <;> rfl
  unfold Renames at *
  -- each kind is renamed in one of the two steps and left alone in the other
  cases kind with
  | far =>
    have hid' : pdr.ruleId .far = mid.ruleId .far := hfarId
    have hslot' : pdr.slot .far = mid.slot .far := hfarSlot
    rwa [hid', hslot', ← hid, ← hslot]
  | qer =>
    have hid' : mid.ruleId .qer = previous.ruleId .qer := hqerId.trans (hid .qer)
    have hslot' : mid.slot .qer = previous.slot .qer := hqerSlot.trans (hslot .qer)
    rwa [hsession, hid', hslot'] at hqer

theorem rekeyed_spec {r : UpdatePdr} (h : (rekeyed previous r).work b = (.ok pdr, b'))
    (kind : SlotKind) :
    pdr.ruleId kind = previous.ruleId kind ∧ pdr.slot kind = previous.slot kind := by
  unfold rekeyed at h
  cases hpdi : r.pdi with
  | none =>
    rw [hpdi] at h
    cases h
    exact ⟨rfl, rfl⟩
  | some pdi =>
    rw [hpdi] at h
    obtain ⟨key, b₁, -, h⟩ := work_bind_eq_ok h
    obtain ⟨flow, b₂, -, h⟩ := work_bind_eq_ok h
    cases h
    cases kind <;> exact ⟨rfl, rfl⟩

/-- **A rule that is redrafted** keeps its names and slots, or has the slots of
the rules it is given. -/
theorem redrafted_spec {r : UpdatePdr} (h : (redrafted r).work b = (.ok (previous, pdr), b')) :
    b.session.pdrs.get? r.pdrId.ruleId = some previous
      ∧ ∀ kind, Renames b.session r previous pdr kind := by
  obtain ⟨hprevious, mid, b₁, hrenamed, hrekeyed⟩ := redrafted_eq_ok h
  refine ⟨hprevious, ?_⟩
  intro kind
  obtain ⟨hid, hslot⟩ := rekeyed_spec hrekeyed kind
  have hrenames := renamed_spec hrenamed kind
  unfold Renames at *
  rwa [hid, hslot]

/-! ## §5. What an operation does to detection rules. -/

theorem keeps_session_giveUp (d : Detection) (id : UInt16) :
    Keeps Workbench.session (giveUp d id) := by
  unfold giveUp
  apply Keeps.bind .get
  intro b
  cases b.session.otherWith id d with
  | none => exact .onPlane fun _ _ _ => rfl
  | some info => exact .onPlane fun _ _ _ => rfl

/-- A step writes a rule into the session, or fails and writes nothing. -/
def Writes (id : UInt16) (pdr : SessionPdr) (x : RuleStep Unit) : Prop :=
  ∀ b, (∃ e, (x.work b).1 = .error e ∧ (x.work b).2.session = b.session)
    ∨ (x.work b).1 = .ok ()
      ∧ (x.work b).2.session = { b.session with pdrs := b.session.pdrs.insert id pdr }

namespace Writes

variable {id : UInt16} {pdr : SessionPdr}

theorem onSession :
    Writes id pdr (RuleStep.onSession fun s => { s with pdrs := s.pdrs.insert id pdr }) :=
  fun _ => .inr ⟨rfl, rfl⟩

theorem bind {α : Type} {x : RuleStep α} {f : α → RuleStep Unit}
    (hx : Keeps Workbench.session x) (hf : ∀ a, Writes id pdr (f a)) :
    Writes id pdr (x >>= f) := by
  intro b
  have hsession := hx b
  rw [work_bind]
  cases hwork : x.work b with
  | mk result b₁ =>
    rw [hwork] at hsession
    dsimp only at hsession
    cases result with
    | error e => exact .inl ⟨e, rfl, hsession⟩
    | ok a =>
      have hnext := hf a b₁
      rwa [hsession] at hnext

end Writes

theorem filed_writes (id : UInt16) (pdr : SessionPdr) : Writes id pdr (filed id pdr) := by
  have hput : Writes id pdr (do
      onPlane fun p => .ok (p.putPdr pdr.detection pdr.info)
      onSession fun s => { s with pdrs := s.pdrs.insert id pdr }) :=
    .bind (.onPlane fun _ _ _ => rfl) fun _ => .onSession
  unfold filed
  apply Writes.bind .get
  intro b
  cases b.session.pdrs.get? id with
  | none => exact hput
  | some previous =>
    dsimp only
    split
    · exact .bind (keeps_session_giveUp _ _) fun _ => hput
    · exact hput

theorem refiled_writes (id : UInt16) (previous pdr : SessionPdr) :
    Writes id pdr (refiled id previous pdr) := by
  unfold refiled
  split
  · exact .bind (.onPlane fun _ _ _ => rfl) fun _ => .onSession
  · exact .bind (keeps_session_giveUp _ _) fun _ => .bind (.onPlane fun _ _ _ => rfl) fun _ =>
      .onSession

end RuleStep

/-- The detection rule that an operation makes or changes. -/
def RuleOp.pdrId? : RuleOp → Option UInt16
  | createPdr r => some r.pdrId.ruleId
  | updatePdr r => some r.pdrId.ruleId
  | _ => none

/-- What became of a detection rule in the step of an operation: it stayed as it
was, and the operation, if it succeeded, is not about it; or the operation
succeeded and filed what it drafted. -/
inductive Became (op : RuleOp) (b : Workbench) (p : UInt16) (pdr : SessionPdr) : Prop where
  | stayed (hget : b.session.pdrs.get? p = some pdr)
      (hother : (op.step.work b).1 = .ok () → op.pdrId? ≠ some p)
  | made {r : CreatePdr} {b₁ : Workbench} (hop : op = .createPdr r) (hid : r.pdrId.ruleId = p)
      (hok : (op.step.work b).1 = .ok ()) (hdraft : (RuleStep.drafted r).work b = (.ok pdr, b₁))
      (hpools : (op.step.work b).2.pools = b₁.pools)
  | changed {r : UpdatePdr} {previous : SessionPdr} {b₁ : Workbench} (hop : op = .updatePdr r)
      (hid : r.pdrId.ruleId = p) (hok : (op.step.work b).1 = .ok ())
      (hdraft : (RuleStep.redrafted r).work b = (.ok (previous, pdr), b₁))
      (hpools : (op.step.work b).2.pools = b₁.pools)

section

variable {b : Workbench} {p : UInt16} {pdr : SessionPdr}

theorem besidePdrs_pools : Workbench.BesidePdrs Workbench.pools :=
  ⟨fun _ _ => rfl, fun _ _ => rfl⟩

/-- What is filed was drafted, and everything else stays. -/
theorem became_of_draft {α : Type} {op : RuleOp} {draft : RuleStep α} {file : α → RuleStep Unit}
    {id : UInt16} {written : α → SessionPdr} (hstep : op.step = draft >>= file)
    (hid : op.pdrId? = some id) (hdraft : RuleStep.Keeps Workbench.standing draft)
    (hfile : ∀ a, RuleStep.Writes id (written a) (file a))
    (hpools : ∀ a, RuleStep.Keeps Workbench.pools (file a))
    (hget : (op.step.work b).2.session.pdrs.get? p = some pdr) :
    (b.session.pdrs.get? p = some pdr ∧ ((op.step.work b).1 = .ok () → op.pdrId? ≠ some p))
      ∨ ∃ a b₁, draft.work b = (.ok a, b₁) ∧ pdr = written a ∧ id = p
        ∧ (op.step.work b).1 = .ok () ∧ (op.step.work b).2.pools = b₁.pools := by
  have hwork : op.step.work b = (draft >>= file).work b := by rw [hstep]
  rw [RuleStep.work_bind] at hwork
  cases hdrafted : draft.work b with
  | mk result b₁ =>
    have hsession := RuleStep.session_of_work hdraft hdrafted
    rw [hdrafted] at hwork
    cases result with
    | error e =>
      -- a draft that fails leaves the session as it is
      rw [hwork, hsession] at hget
      refine .inl ⟨hget, fun hok => ?_⟩
      rw [hwork] at hok
      cases hok
    | ok a =>
      have hpools := hpools a b₁
      rcases hfile a b₁ with ⟨e, herror, hkept⟩ | ⟨hok, hwritten⟩
      · rw [hwork, hkept, hsession] at hget
        refine .inl ⟨hget, fun hok => ?_⟩
        rw [hwork, herror] at hok
        cases hok
      · rw [hwork, hwritten, hsession, Table.get?_insert] at hget
        by_cases hp : p = id
        · rw [if_pos hp] at hget
          exact .inr ⟨a, b₁, rfl, (Option.some.inj hget).symm, hp.symm, by rw [hwork, hok],
            by rw [hwork, hpools]⟩
        · rw [if_neg hp] at hget
          refine .inl ⟨hget, fun _ heq => hp ?_⟩
          exact Option.some.inj (heq.symm.trans hid)

theorem became_createPdr (r : CreatePdr)
    (hget : ((RuleOp.createPdr r).step.work b).2.session.pdrs.get? p = some pdr) :
    Became (.createPdr r) b p pdr := by
  have hstep : (RuleOp.createPdr r).step = _ := RuleStep.createPdr_eq r
  rcases became_of_draft hstep rfl (RuleStep.keeps_drafted r)
      (RuleStep.filed_writes r.pdrId.ruleId) (fun _ => RuleStep.keeps_filed besidePdrs_pools _ _)
      hget with ⟨hget, hother⟩ | ⟨draft, b₁, hdraft, rfl, hid, hok, hpools⟩
  · exact .stayed hget hother
  · exact .made rfl hid hok hdraft hpools

theorem became_updatePdr (r : UpdatePdr)
    (hget : ((RuleOp.updatePdr r).step.work b).2.session.pdrs.get? p = some pdr) :
    Became (.updatePdr r) b p pdr := by
  have hstep : (RuleOp.updatePdr r).step = _ := RuleStep.updatePdr_eq r
  rcases became_of_draft hstep rfl (RuleStep.keeps_redrafted r)
      (fun q => RuleStep.refiled_writes r.pdrId.ruleId q.1 q.2)
      (fun _ => RuleStep.keeps_refiled besidePdrs_pools _ _ _) hget with
    ⟨hget, hother⟩ | ⟨⟨previous, draft⟩, b₁, hdraft, rfl, hid, hok, hpools⟩
  · exact .stayed hget hother
  · exact .changed rfl hid hok hdraft hpools

theorem became_removePdr (id : UInt16)
    (hget : ((RuleOp.removePdr id).step.work b).2.session.pdrs.get? p = some pdr) :
    Became (.removePdr id) b p pdr := by
  have hpdrs : ((RuleOp.removePdr id).step.work b).2.session.pdrs = b.session.pdrs.erase id := by
    show ((RuleStep.removePdr id).work b).2.session.pdrs = b.session.pdrs.erase id
    unfold RuleStep.removePdr
    rw [RuleStep.work_bind_ok (RuleStep.work_get b)]
    cases hprevious : b.session.pdrs.get? id with
    | none => exact (Table.erase_of_get?_none hprevious).symm
    | some previous =>
      dsimp only
      rw [RuleStep.work_bind_ok (RuleStep.work_onSession _ _)]
      exact congrArg Session.pdrs (RuleStep.keeps_session_giveUp previous.detection id _)
  rw [hpdrs] at hget
  refine .stayed (Table.get?_of_erase hget).2 fun _ heq => ?_
  cases heq

/-- **A detection rule stays as it is, or is filed as it was drafted.** -/
theorem RuleOp.became (op : RuleOp) (hget : (op.step.work b).2.session.pdrs.get? p = some pdr) :
    Became op b p pdr := by
  -- operations on forwarding and QoS rules change no detection rule
  have hother : (op.step.work b).2.session.pdrs = b.session.pdrs → op.pdrId? = none →
      Became op b p pdr := by
    intro hsame hnone
    rw [hsame] at hget
    refine .stayed hget fun _ heq => ?_
    rw [hnone] at heq
    cases heq
  cases op with
  | createPdr r => exact became_createPdr r hget
  | updatePdr r => exact became_updatePdr r hget
  | removePdr id => exact became_removePdr id hget
  | _ => exact hother (congrArg (·.session.pdrs) (keeps_besidesTreatment rfl b)) rfl

end

/-! ## §6. What an operation does to references. -/

/-- What became of a detection rule's reference in a step of an operation: it
stayed, and the operation, if it succeeded, did not name another rule; or the
operation succeeded and named it, and it has the slot that the session has for
the rule. -/
def Referred (op : RuleOp) (b : Workbench) (p : UInt16) (pdr : SessionPdr) (kind : SlotKind) :
    Prop :=
  (∃ before, b.session.pdrs.get? p = some before ∧ pdr.ruleId kind = before.ruleId kind
      ∧ pdr.slot kind = before.slot kind
      ∧ ((op.step.work b).1 = .ok () → ∀ id, ¬ op.Names kind p id))
    ∨ (op.step.work b).1 = .ok () ∧ (∀ id, pdr.ruleId kind = some id → op.Names kind p id)
      ∧ (op.step.work b).2.session.slotOf kind (pdr.ruleId kind) = .ok (pdr.slot kind)

section

variable {b : Workbench} {p : UInt16} {pdr : SessionPdr}

theorem RuleOp.Names.pdrId {op : RuleOp} {kind : SlotKind} {id : UInt32} (h : op.Names kind p id) :
    op.pdrId? = some p := by
  cases op with
  | createPdr r => exact congrArg some h.1
  | updatePdr r => exact congrArg some h.1
  | _ => cases h

theorem Session.slotOf_of_besidesPdrs {b' : Workbench} (heq : b'.besidesPdrs = b.besidesPdrs)
    (kind : SlotKind) (id : Option UInt32) :
    b'.session.slotOf kind id = b.session.slotOf kind id := by
  have hfars : b'.session.fars = b.session.fars := congrArg (·.1.fars) heq
  have hqers : b'.session.qers = b.session.qers := congrArg (·.1.qers) heq
  cases id with
  | none => cases kind <;> rfl
  | some id =>
    cases kind with
    | far => rw [slotOf, slotOf, farSlot, farSlot, hfars]
    | qer => rw [slotOf, slotOf, qerSlot, qerSlot, hqers]

/-- **A reference stays as it is, or is looked up.** -/
theorem RuleOp.referred (op : RuleOp)
    (hget : (op.step.work b).2.session.pdrs.get? p = some pdr) (kind : SlotKind) :
    Referred op b p pdr kind := by
  cases op.became hget with
  | stayed hget hother =>
    exact .inl ⟨pdr, hget, rfl, rfl, fun hok id hnames => hother hok hnames.pdrId⟩
  | @made r b₁ hop hp hok hdraft _ =>
    subst hop
    -- the rule that was made has the slots that were looked up for it
    obtain ⟨hid, hslot⟩ := RuleStep.drafted_spec hdraft kind
    refine .inr ⟨hok, fun id hsome => ⟨hp, hid ▸ hsome⟩, ?_⟩
    exact (Session.slotOf_of_besidesPdrs (RuleStep.keeps_createPdr r b) kind _).trans hslot
  | @changed r previous b₁ hop hp hok hdraft _ =>
    subst hop
    obtain ⟨hprevious, hrenames⟩ := RuleStep.redrafted_spec hdraft
    rcases hrenames kind with ⟨hnone, hid, hslot⟩ | ⟨hid, hlookup⟩
    · -- the request leaves the name out, so that the reference stays
      refine .inl ⟨previous, hp ▸ hprevious, hid, hslot, ?_⟩
      intro _ id hnames
      have hsome : r.ruleId kind = some id := hnames.2
      rw [hnone] at hsome
      cases hsome
    · refine .inr ⟨hok, fun id hsome => ⟨hp, hid.trans hsome⟩, ?_⟩
      exact (Session.slotOf_of_besidesPdrs (RuleStep.keeps_updatePdr r b) kind _).trans hlookup

end

/-! ## §7. References along a request. -/

/-- What holds of the detection rules of a session along the operations that
were carried out. -/
structure References (done : List RuleOp) (s : Session) : Prop where
  /-- An operation gave the detection rule the name of the rule that it names. -/
  named : ∀ p pdr kind id, s.pdrs.get? p = some pdr → pdr.ruleId kind = some id →
    ∃ op ∈ done, op.Names kind p id
  /-- A reference that is undisturbed is current: what it names is a rule of
  the session, in the slot that it has.  A detection rule that names no rule
  has no slot. -/
  current : ∀ p pdr kind, s.pdrs.get? p = some pdr →
    (∀ id, pdr.ruleId kind = some id → Undisturbed kind p id done) →
    s.slotOf kind (pdr.ruleId kind) = .ok (pdr.slot kind)

section

variable {b b' : Workbench} {farSlots qerSlots : Nat} {fars : Multiset (Nat × FarInfo)}
  {qers : Multiset (Nat × QerInfo)} {done : List RuleOp}

/-- What was current is current if the rule that is named has the same slot. -/
theorem Session.slotOf_of_slot? {s s' : Session} {kind : SlotKind} {id : Option UInt32}
    {slot : Option Nat} (h : s.slotOf kind id = .ok slot)
    (hslot : ∀ i, id = some i → s'.slot? kind i = s.slot? kind i) :
    s'.slotOf kind id = .ok slot := by
  rw [slotOf_eq_ok] at h ⊢
  cases id with
  | none => exact h
  | some i =>
    dsimp only at h ⊢
    rw [hslot i rfl]
    exact h

theorem References.of_ok {op : RuleOp} (hrefs : References done b.session)
    (h : b.Stocked farSlots qerSlots fars qers) (hwork : op.step.work b = (.ok (), b')) :
    References (done ++ [op]) b'.session := by
  have hb' : b' = (op.step.work b).2 := by rw [hwork]
  subst hb'
  constructor
  · intro p pdr kind id hget hsome
    rcases op.referred hget kind with ⟨before, hbefore, hid, -, -⟩ | ⟨-, hnames, -⟩
    · obtain ⟨op', hmem, hnames⟩ := hrefs.named p before kind id hbefore (hid ▸ hsome)
      exact ⟨op', List.mem_append_left _ hmem, hnames⟩
    · exact ⟨op, List.mem_append_right _ (List.mem_singleton_self op), hnames id hsome⟩
  · intro p pdr kind hget hundisturbed
    rcases op.referred hget kind with ⟨before, hbefore, hid, hslot, hnames⟩ | ⟨-, -, hlookup⟩
    · -- the reference stayed, so it was undisturbed before, and its rule stays where it is
      have hcases : ∀ id, before.ruleId kind = some id →
          Undisturbed kind p id done ∧ ¬ op.Replaces kind id := by
        intro id hsome
        rcases (hundisturbed id (hid.trans hsome)).of_append_singleton with hnamed | hrest
        · exact absurd hnamed (hnames (by rw [hwork]) id)
        · exact hrest
      have hcurrent := hrefs.current p before kind hbefore fun id hsome => (hcases id hsome).1
      rw [hid, hslot]
      exact Session.slotOf_of_slot? hcurrent fun id hsome =>
        RuleOp.slot?_step h (hcases id hsome).2
    · exact hlookup

theorem References.of_error {op : RuleOp} {e : SessionError} (hrefs : References done b.session)
    (h : b.Stocked farSlots qerSlots fars qers) (hwork : op.step.work b = (.error e, b')) :
    References done b'.session := by
  have hb' : b' = (op.step.work b).2 := by rw [hwork]
  have hstayed : ∀ p pdr kind, b'.session.pdrs.get? p = some pdr →
      ∃ before, b.session.pdrs.get? p = some before ∧ pdr.ruleId kind = before.ruleId kind
        ∧ pdr.slot kind = before.slot kind := by
    intro p pdr kind hget
    rw [hb'] at hget
    rcases op.referred hget kind with ⟨before, hbefore, hid, hslot, -⟩ | ⟨hok, -⟩
    · exact ⟨before, hbefore, hid, hslot⟩
    · rw [hwork] at hok
      cases hok
  constructor
  · intro p pdr kind id hget hsome
    obtain ⟨before, hbefore, hid, -⟩ := hstayed p pdr kind hget
    exact hrefs.named p before kind id hbefore (hid ▸ hsome)
  · intro p pdr kind hget hundisturbed
    obtain ⟨before, hbefore, hid, hslot⟩ := hstayed p pdr kind hget
    have hcurrent := hrefs.current p before kind hbefore fun id hsome =>
      hundisturbed id (hid.trans hsome)
    rw [hid, hslot]
    exact Session.slotOf_of_slot? hcurrent fun id _ => RuleOp.slot?_of_error h hwork kind id

/-- **References along a request**: those that the operations carried out so
far leave undisturbed are current. -/
theorem References.carryOut (hrefs : References done b.session)
    (h : b.Stocked farSlots qerSlots fars qers) (ops : List RuleOp) :
    References (done ++ carriedOut ops b) (b.carryOut ops).2.session := by
  have hall := Workbench.carryOut_induction
    (P := fun done b => b.Stocked farSlots qerSlots fars qers ∧ References done b.session)
    ?_ ?_ ops done ⟨h, hrefs⟩
  · exact hall.2
  · intro done op b b' ⟨h, hrefs⟩ hwork
    have h' := op.keeps_stocked h
    rw [hwork] at h'
    exact ⟨h', hrefs.of_ok h hwork⟩
  · intro done op b b' e ⟨h, hrefs⟩ hwork
    have h' := op.keeps_stocked h
    rw [hwork] at h'
    exact ⟨h', hrefs.of_error h hwork⟩

end

end UserPlane
