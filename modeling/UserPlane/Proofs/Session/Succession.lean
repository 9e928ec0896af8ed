/-
  UserPlane.Proofs.Session.Succession
  ───────────────────────────────────
  **WHO TAKES AN ENTRY OVER.**

  When a rule leaves its key, the first other rule of the session with that key
  takes the entry over, and only if there is none the entry goes.  Which one is
  first depends on the order of the session's rules, and on nothing else: an
  operation goes the same way in every order and leaves the same entries but at the
  key that its rule leaves; there each rule that still has the key is first in some
  order.

      RuleOp.rekeyed_of_ok      the entries that an operation leaves
      RuleOp.sparesEntries      … and that it leaves alone if it fails
      Leaves.entry              at the key that a rule leaves
      Alike.entry               at every other key
      entries_of_orders         what the order decides, and what it does not
-/
import UserPlane.Proofs.Session.Reordering

namespace UserPlane

/-! ## §1. The entries that an operation leaves. -/

/-- The rule of a number has a key. -/
def DetectionRules.KeyedBy (rules : DetectionRules) (id : UInt16) (d : Detection) : Prop :=
  ∃ pdr, rules.get? id = some pdr ∧ pdr.detection = d

/-- What becomes of the entries when one rule is made, changed or removed: the rule
has its own; at the key that it left is the first other rule's that has the key, or
none; the others stay. -/
structure Rekeyed (id : UInt16) (b b' : Workbench) : Prop where
  elsewhere : ∀ i, i ≠ id → b'.session.pdrs.get? i = b.session.pdrs.get? i
  own : ∀ pdr, b'.session.pdrs.get? id = some pdr →
    b'.plane.pdrs.get? pdr.detection = some pdr.info
  left : ∀ d, DetectionRules.KeyedBy b.session.pdrs id d →
    ¬ DetectionRules.KeyedBy b'.session.pdrs id d →
    b'.plane.pdrs.get? d = b.session.otherWith id d
  rest : ∀ d, ¬ DetectionRules.KeyedBy b.session.pdrs id d →
    ¬ DetectionRules.KeyedBy b'.session.pdrs id d → b'.plane.pdrs.get? d = b.plane.pdrs.get? d

theorem Session.otherWith_erase (s : Session) (id : UInt16) (d : Detection) :
    { s with pdrs := s.pdrs.erase id }.otherWith id d = s.otherWith id d := by
  unfold otherWith
  show (List.find? _ (s.pdrs.entries.filter _)).map _ = _
  rw [List.find?_filter]
  congr 2
  funext e
  by_cases h : e.1 = id <;> simp [h]

namespace RuleStep

variable {b b' : Workbench} {id : UInt16} {d : Detection} {pdr previous : SessionPdr}

/-- **A key that is given up** is taken over by the first other rule that has it. -/
theorem giveUp_eq_ok (h : (giveUp d id).work b = (.ok (), b')) :
    ∃ entries, b' = { b with plane := { b.plane with pdrs := entries } }
      ∧ entries.get? d = b.session.otherWith id d
      ∧ ∀ d', d' ≠ d → entries.get? d' = b.plane.pdrs.get? d' := by
  unfold giveUp at h
  rw [work_bind_ok (work_get b)] at h
  cases hother : b.session.otherWith id d with
  | some info =>
    rw [hother] at h
    cases h
    exact ⟨b.plane.pdrs.insert d info, rfl, by simp, fun d' hne => by
      rw [Table.get?_insert, if_neg hne]⟩
  | none =>
    rw [hother] at h
    dsimp only at h
    rw [work_onPlane] at h
    unfold Plane.deletePdr at h
    by_cases hthere : b.plane.pdrs.contains d = true
    · rw [if_pos hthere] at h
      cases h
      exact ⟨b.plane.pdrs.erase d, rfl, by simp, fun d' hne => by
        rw [Table.get?_erase, if_neg hne]⟩
    · rw [if_neg hthere] at h
      cases h

/-- What is written for a rule that had another key, or none, before. -/
theorem rekeyed_of_put (entries : Table Detection PdrInfo)
    (hleft : ∀ d, DetectionRules.KeyedBy b.session.pdrs id d → d ≠ pdr.detection →
      entries.get? d = b.session.otherWith id d)
    (hrest : ∀ d, ¬ DetectionRules.KeyedBy b.session.pdrs id d → d ≠ pdr.detection →
      entries.get? d = b.plane.pdrs.get? d)
    (h : b' = withPdrs b (b.session.pdrs.insert id pdr) (entries.insert pdr.detection pdr.info)) :
    Rekeyed id b b' := by
  subst h
  have hkeyed : ∀ d, ¬ DetectionRules.KeyedBy (b.session.pdrs.insert id pdr) id d →
      d ≠ pdr.detection := by
    rintro d hnot rfl
    exact hnot ⟨pdr, by simp, rfl⟩
  refine ⟨fun i hne => ?_, fun pdr' hget => ?_, fun d hbefore hafter => ?_,
    fun d hbefore hafter => ?_⟩
  · exact (Table.get?_insert _ _ _ _).trans (if_neg hne)
  · have hget : (b.session.pdrs.insert id pdr).get? id = some pdr' := hget
    rw [Table.get?_insert, if_pos rfl] at hget
    cases hget
    simp [withPdrs]
  · exact (Table.get?_insert _ _ _ _).trans ((if_neg (hkeyed d hafter)).trans
      (hleft d hbefore (hkeyed d hafter)))
  · exact (Table.get?_insert _ _ _ _).trans ((if_neg (hkeyed d hafter)).trans
      (hrest d hbefore (hkeyed d hafter)))

theorem filed_rekeyed (h : (filed id pdr).work b = (.ok (), b')) : Rekeyed id b b' := by
  unfold filed at h
  rw [work_bind_ok (work_get b)] at h
  cases hprevious : b.session.pdrs.get? id with
  | none =>
    rw [hprevious] at h
    cases h
    refine rekeyed_of_put b.plane.pdrs (fun d hkeyed => ?_) (fun _ _ _ => rfl) rfl
    obtain ⟨_, hget, -⟩ := hkeyed
    cases hprevious.symm.trans hget
  | some previous =>
    rw [hprevious] at h
    dsimp only at h
    split at h
    · next hkey =>
      obtain ⟨⟨⟩, b₁, hgiveUp, h⟩ := work_bind_eq_ok h
      obtain ⟨entries, rfl, hleft, hrest⟩ := giveUp_eq_ok hgiveUp
      cases h
      refine rekeyed_of_put entries (fun d hkeyed _ => ?_) (fun d hkeyed _ => ?_) rfl
      · obtain ⟨_, hget, rfl⟩ := hkeyed
        cases hprevious.symm.trans hget
        exact hleft
      · exact hrest d fun heq => hkeyed ⟨previous, hprevious, heq.symm⟩
    · next hkey =>
      cases h
      refine rekeyed_of_put b.plane.pdrs (fun d hkeyed hne => ?_) (fun _ _ _ => rfl) rfl
      obtain ⟨_, hget, rfl⟩ := hkeyed
      cases hprevious.symm.trans hget
      exact absurd (not_not.mp hkey) hne

theorem refiled_rekeyed (hprevious : b.session.pdrs.get? id = some previous)
    (h : (refiled id previous pdr).work b = (.ok (), b')) : Rekeyed id b b' := by
  -- an entry that was replaced is there, and else both give the old key up
  have hsame : (filed id pdr).work b = (refiled id previous pdr).work b := by
    by_cases hkey : previous.detection = pdr.detection
    · refine (refiled_work pdr hprevious ?_).symm
      rw [hkey]
      by_contra hnot
      unfold refiled at h
      rw [if_pos hkey, work_bind, work_onPlane, Plane.updatePdr, if_neg hnot] at h
      cases h
    · unfold refiled filed
      rw [work_bind_ok (work_get b), hprevious, if_neg hkey]
      dsimp only
      rw [if_pos hkey]
  exact filed_rekeyed (hsame.trans h)

end RuleStep

section

variable {b b₁ b' : Workbench} {id : UInt16}

theorem Rekeyed.of_standing (h : Rekeyed id b₁ b') (heq : b₁.standing = b.standing) :
    Rekeyed id b b' := by
  have hsession : b₁.session = b.session := congrArg (·.1) heq
  have hplane : b₁.plane = b.plane := congrArg (·.2.1) heq
  obtain ⟨helsewhere, hown, hleft, hrest⟩ := h
  rw [hsession] at helsewhere hleft hrest
  rw [hplane] at hrest
  exact ⟨helsewhere, hown, hleft, hrest⟩

theorem createPdr_rekeyed {r : CreatePdr}
    (h : (RuleOp.createPdr r).step.work b = (.ok (), b')) : Rekeyed r.pdrId.ruleId b b' := by
  rw [RuleOp.step, RuleStep.createPdr_eq] at h
  obtain ⟨pdr, b₁, hdraft, hfile⟩ := RuleStep.work_bind_eq_ok h
  have hstanding := RuleStep.keeps_drafted r b
  rw [hdraft] at hstanding
  exact (RuleStep.filed_rekeyed hfile).of_standing hstanding

theorem updatePdr_rekeyed {r : UpdatePdr}
    (h : (RuleOp.updatePdr r).step.work b = (.ok (), b')) : Rekeyed r.pdrId.ruleId b b' := by
  rw [RuleOp.step, RuleStep.updatePdr_eq] at h
  obtain ⟨⟨previous, pdr⟩, b₁, hdraft, hfile⟩ := RuleStep.work_bind_eq_ok h
  have hstanding := RuleStep.keeps_redrafted r b
  rw [hdraft] at hstanding
  have hprevious := (RuleStep.redrafted_eq_ok hdraft).1
  have hsession : b₁.session = b.session := congrArg (·.1) hstanding
  rw [← hsession] at hprevious
  exact (RuleStep.refiled_rekeyed hprevious hfile).of_standing hstanding

theorem removePdr_rekeyed (h : (RuleOp.removePdr id).step.work b = (.ok (), b')) :
    Rekeyed id b b' := by
  unfold RuleOp.step RuleStep.removePdr at h
  dsimp only at h
  rw [RuleStep.work_bind_ok (RuleStep.work_get b)] at h
  cases hprevious : b.session.pdrs.get? id with
  | none =>
    -- what is not there has no key to leave
    rw [hprevious] at h
    cases h
    have hnot : ∀ pdr, b.session.pdrs.get? id ≠ some pdr := by simp [hprevious]
    exact ⟨fun _ _ => rfl, fun pdr hget => absurd hget (hnot pdr),
      fun d ⟨pdr, hget, _⟩ => absurd hget (hnot pdr), fun _ _ _ => rfl⟩
  | some pdr =>
    rw [hprevious] at h
    dsimp only at h
    rw [RuleStep.work_bind_ok (RuleStep.work_onSession _ _)] at h
    obtain ⟨entries, rfl, hleft, hrest⟩ := RuleStep.giveUp_eq_ok h
    have hother := b.session.otherWith_erase id pdr.detection
    have hgone : ∀ d, ¬ DetectionRules.KeyedBy (b.session.pdrs.erase id) id d := by
      rintro d ⟨pdr', hget, -⟩
      exact (Table.get?_of_erase hget).1 rfl
    refine ⟨fun i hne => ?_, fun pdr' hget => ?_, fun d hkeyed _ => ?_, fun d hkeyed _ => ?_⟩
    · exact (Table.get?_erase _ _ _).trans (if_neg hne)
    · exact absurd ⟨pdr', hget, rfl⟩ (hgone pdr'.detection)
    · obtain ⟨_, hget, rfl⟩ := hkeyed
      cases hprevious.symm.trans hget
      exact hleft.trans hother
    · exact hrest d fun heq => hkeyed ⟨pdr, hprevious, heq.symm⟩

namespace RuleOp

/-- **An operation on a detection rule that succeeds** rekeys the rule. -/
theorem rekeyed_of_ok {op : RuleOp} (hsubject : op.subject? = some id)
    (h : op.step.work b = (.ok (), b')) : Rekeyed id b b' := by
  cases op with
  | createPdr r =>
    cases hsubject
    exact createPdr_rekeyed h
  | updatePdr r =>
    cases hsubject
    exact updatePdr_rekeyed h
  | removePdr i =>
    cases hsubject
    exact removePdr_rekeyed h
  | _ => cases hsubject

end RuleOp

end

/-! ## §2. Operations that fail. -/

namespace RuleStep

variable {α β : Type} {x : RuleStep α} {f : α → RuleStep β}

/-- A step that fails leaves the entries alone. -/
def SparesEntries (x : RuleStep α) : Prop :=
  ∀ b b' e, x.work b = (.error e, b') → b'.plane.pdrs = b.plane.pdrs

namespace SparesEntries

theorem of_keeps (h : Keeps (·.plane.pdrs) x) : SparesEntries x := by
  intro b b' e hwork
  have hb := h b
  rw [hwork] at hb
  exact hb

theorem onPlane (f : Plane → Except PlaneError Plane) : SparesEntries (RuleStep.onPlane f) := by
  intro b b' e hwork
  rw [work_onPlane] at hwork
  cases hresult : f b.plane <;> rw [hresult] at hwork <;> cases hwork
  rfl

/-- The first of two steps leaves the entries alone anyway. -/
theorem after (hx : Keeps (·.plane.pdrs) x) (hf : ∀ a, SparesEntries (f a)) :
    SparesEntries (x >>= f) := by
  intro b b' e hwork
  have hb := hx b
  rw [work_bind] at hwork
  cases hwork₁ : x.work b with
  | mk r b₁ =>
    rw [hwork₁] at hwork hb
    cases r with
    | ok a => exact (hf a b₁ b' e hwork).trans hb
    | error e' =>
      cases hwork
      exact hb

/-- The second of two steps does not fail. -/
theorem before (hx : SparesEntries x) (hf : ∀ a b, ((f a).work b).1.isOk = true) :
    SparesEntries (x >>= f) := by
  intro b b' e hwork
  rw [work_bind] at hwork
  cases hwork₁ : x.work b with
  | mk r b₁ =>
    rw [hwork₁] at hwork
    cases r with
    | ok a =>
      have hok := hf a b₁
      change (f a).work b₁ = _ at hwork
      rw [hwork] at hok
      cases hok
    | error e' =>
      cases hwork
      exact hx b _ _ hwork₁

end SparesEntries

theorem sparesEntries_giveUp (d : Detection) (id : UInt16) : SparesEntries (giveUp d id) := by
  unfold giveUp
  refine .after .get fun b => ?_
  cases b.session.otherWith id d with
  | some info => exact .onPlane _
  | none => exact .onPlane _

theorem sparesEntries_filed (id : UInt16) (pdr : SessionPdr) : SparesEntries (filed id pdr) := by
  unfold filed
  refine .after .get fun b => ?_
  cases b.session.pdrs.get? id with
  | none => exact .before (.onPlane _) fun _ _ => rfl
  | some previous =>
    dsimp only
    split
    · exact .before (sparesEntries_giveUp _ _) fun _ _ => rfl
    · exact .before (.onPlane _) fun _ _ => rfl

theorem sparesEntries_refiled (id : UInt16) (previous pdr : SessionPdr) :
    SparesEntries (refiled id previous pdr) := by
  unfold refiled
  split
  · exact .before (.onPlane _) fun _ _ => rfl
  · exact .before (sparesEntries_giveUp _ _) fun _ _ => rfl

theorem sparesEntries_removePdr (id : UInt16) : SparesEntries (removePdr id) := by
  unfold removePdr
  refine .after .get fun b => ?_
  cases b.session.pdrs.get? id with
  | none => exact .of_keeps (.pure _)
  | some pdr => exact .after (.onSession fun _ => rfl) fun _ => sparesEntries_giveUp _ _

end RuleStep

/-- **An operation that fails** leaves all entries alone. -/
theorem RuleOp.sparesEntries (op : RuleOp) : RuleStep.SparesEntries op.step := by
  cases op with
  | createPdr r =>
    rw [step, RuleStep.createPdr_eq]
    exact .after ((RuleStep.keeps_drafted r).map (·.2.1.pdrs)) fun _ =>
      RuleStep.sparesEntries_filed _ _
  | updatePdr r =>
    rw [step, RuleStep.updatePdr_eq]
    exact .after ((RuleStep.keeps_redrafted r).map (·.2.1.pdrs)) fun _ =>
      RuleStep.sparesEntries_refiled _ _ _
  | removePdr id => exact RuleStep.sparesEntries_removePdr id
  | _ => exact .of_keeps ((keeps_besidesTreatment rfl).map (·.plane.pdrs))

/-! ## §3. What the order decides. -/

/-- Another rule of the session than that of the number has the key, and this
information. -/
def Session.Others (s : Session) (id : UInt16) (d : Detection) (info : PdrInfo) : Prop :=
  ∃ i pdr, i ≠ id ∧ s.pdrs.get? i = some pdr ∧ pdr.detection = d ∧ pdr.info = info

/-- The workbench with the detection rules of the session in another order. -/
def Workbench.reordered (b : Workbench) (rules : DetectionRules) : Workbench :=
  { b with session := { b.session with pdrs := rules } }

/-- The operation succeeds, and a rule loses its key to it. -/
def RuleOp.Leaves (op : RuleOp) (b : Workbench) (id : UInt16) (d : Detection) : Prop :=
  (op.step.work b).1 = .ok () ∧ DetectionRules.KeyedBy b.session.pdrs id d
    ∧ ¬ DetectionRules.KeyedBy (op.step.work b).2.session.pdrs id d

section

variable {b b' : Workbench} {rules : DetectionRules} {op : RuleOp} {id : UInt16} {d : Detection}
  {info : PdrInfo}

/-- What is found is one of the others, and nothing only if there is none. -/
theorem Session.otherWith_eq_some {s : Session} (h : s.otherWith id d = some info) :
    s.Others id d info := by
  obtain ⟨i, pdr, hget, hd, hinfo⟩ := backs_of_otherWith h
  obtain ⟨hne, hget⟩ := Table.get?_of_erase hget
  exact ⟨i, pdr, hne, hget, hd, hinfo⟩

theorem Session.otherWith_eq_none {s : Session} :
    s.otherWith id d = none ↔ ∀ info, ¬ s.Others id d info := by
  constructor
  · rintro h info ⟨i, pdr, hne, hget, hd, -⟩
    exact not_uses_of_otherWith h ⟨i, pdr, by rw [Table.get?_erase, if_neg hne, hget], hd⟩
  · intro h
    cases hother : s.otherWith id d with
    | none => rfl
    | some info => exact absurd (otherWith_eq_some hother) (h info)

theorem Session.others_reordered {s : Session} (h : rules.entries.Perm s.pdrs.entries) :
    { s with pdrs := rules }.Others id d info ↔ s.Others id d info := by
  unfold Others
  simp only [Table.perm_iff.mp h]

/-- What is found in another order is one of the others, too. -/
theorem Session.others_of_reordered {s : Session} (h : rules.entries.Perm s.pdrs.entries)
    (hother : { s with pdrs := rules }.otherWith id d = some info) : s.Others id d info :=
  (others_reordered h).mp (otherWith_eq_some hother)

/-- **Where the others agree**, the same is found in every order. -/
theorem Session.otherWith_reordered {s : Session} (h : rules.entries.Perm s.pdrs.entries)
    (hagree : ∀ info info', s.Others id d info → s.Others id d info' → info = info') :
    { s with pdrs := rules }.otherWith id d = s.otherWith id d := by
  cases hother : s.otherWith id d with
  | none =>
    rw [otherWith_eq_none] at hother ⊢
    exact fun info => mt (others_reordered h).mp (hother info)
  | some info =>
    have hfirst := otherWith_eq_some hother
    cases hother' : { s with pdrs := rules }.otherWith id d with
    | none => exact absurd ((others_reordered h).mpr hfirst) (otherWith_eq_none.mp hother' info)
    | some info' => rw [hagree info' info (others_of_reordered h hother') hfirst]

/-- **Each of the others is first in some order.** -/
theorem Session.exists_order {s : Session} (h : s.Others id d info) :
    ∃ rules : DetectionRules, rules.entries.Perm s.pdrs.entries
      ∧ { s with pdrs := rules }.otherWith id d = some info := by
  obtain ⟨i, pdr, hne, hget, hd, hinfo⟩ := h
  refine ⟨s.pdrs.fronted i pdr, Table.perm_iff.mpr (Table.get?_fronted hget), ?_⟩
  unfold otherWith Table.fronted
  rw [List.find?_cons_of_pos (by simp [hne, hd]), Option.map_some, hinfo]

theorem Workbench.alike_reordered (h : rules.entries.Perm b.session.pdrs.entries) :
    b.Alike (b.reordered rules) :=
  ⟨Table.perm_iff.mp h, fun _ => rfl, rfl⟩

theorem DetectionRules.keyedBy_congr {rules rules' : DetectionRules}
    (h : ∀ id, rules'.get? id = rules.get? id) : KeyedBy rules' id d ↔ KeyedBy rules id d := by
  unfold KeyedBy
  rw [h]

theorem Workbench.Alike.leaves_iff (h : b.Alike b') : op.Leaves b' id d ↔ op.Leaves b id d := by
  obtain ⟨hresult, hafter⟩ := op.agree b b' h
  unfold RuleOp.Leaves
  rw [hresult, DetectionRules.keyedBy_congr h.rules, DetectionRules.keyedBy_congr hafter.rules]

/-- **At the key that a rule leaves** is the first of the others that have it. -/
theorem RuleOp.Leaves.entry (h : op.Leaves b id d) :
    (op.step.work b).2.plane.pdrs.get? d = b.session.otherWith id d := by
  obtain ⟨hok, ⟨pdr, hget, hd⟩, hafter⟩ := h
  cases hsubject : op.subject? with
  | none =>
    have hrules := congrArg (·.session.pdrs) (RuleOp.keeps_besidesTreatment hsubject b)
    exact absurd ⟨pdr, (congrArg (·.get? id) hrules).trans hget, hd⟩ hafter
  | some i =>
    have hrekeyed := RuleOp.rekeyed_of_ok hsubject (Prod.ext hok rfl)
    -- only the rule that the operation is about can leave its key
    have hi : id = i := by
      by_contra hne
      exact hafter ⟨pdr, (hrekeyed.elsewhere id hne).trans hget, hd⟩
    subst hi
    exact hrekeyed.left d ⟨pdr, hget, hd⟩ hafter

/-- … in whatever order the session has its rules. -/
theorem RuleOp.Leaves.entry_reordered (h : op.Leaves b id d)
    (hperm : rules.entries.Perm b.session.pdrs.entries) :
    (op.step.work (b.reordered rules)).2.plane.pdrs.get? d
      = { b.session with pdrs := rules }.otherWith id d :=
  ((Workbench.alike_reordered hperm).leaves_iff.mpr h).entry

/-- **At every other key** the order does not matter. -/
theorem Workbench.Alike.entry (h : b.Alike b') (hentries : b'.plane.pdrs = b.plane.pdrs)
    (hstays : ∀ id, ¬ op.Leaves b id d) :
    (op.step.work b').2.plane.pdrs.get? d = (op.step.work b).2.plane.pdrs.get? d := by
  obtain ⟨hresult, hafter⟩ := op.agree b b' h
  cases hsubject : op.subject? with
  | none =>
    have hkept := congrArg (·.plane.pdrs) (RuleOp.keeps_besidesTreatment hsubject b)
    have hkept' := congrArg (·.plane.pdrs) (RuleOp.keeps_besidesTreatment hsubject b')
    exact congrArg (·.get? d) (hkept'.trans (hentries.trans hkept.symm))
  | some id =>
    cases hok : (op.step.work b).1 with
    | error e =>
      have hkept := op.sparesEntries b _ e (Prod.ext hok rfl)
      have hkept' := op.sparesEntries b' _ e (Prod.ext (hresult.trans hok) rfl)
      rw [hkept', hkept, hentries]
    | ok u =>
      have hrekeyed := RuleOp.rekeyed_of_ok hsubject (Prod.ext hok rfl)
      have hrekeyed' := RuleOp.rekeyed_of_ok hsubject (Prod.ext (hresult.trans hok) rfl)
      by_cases hhas : DetectionRules.KeyedBy (op.step.work b).2.session.pdrs id d
      · -- the rule has the key, and the entry is its own
        obtain ⟨pdr, hget, rfl⟩ := hhas
        rw [hrekeyed.own pdr hget, hrekeyed'.own pdr ((hafter.rules id).trans hget)]
      · -- it has it not, and had it not before, or else it would have left it
        have hhad : ¬ DetectionRules.KeyedBy b.session.pdrs id d := fun hhad =>
          hstays id ⟨hok, hhad, hhas⟩
        rw [hrekeyed.rest d hhad hhas, ← hentries]
        exact hrekeyed'.rest d (mt (DetectionRules.keyedBy_congr h.rules).mp hhad)
          (mt (DetectionRules.keyedBy_congr hafter.rules).mp hhas)

end

/-- **What the order decides, and what it does not.**  Take any operation on the rules of
a session, and the session's detection rules in any order.  The operation goes the
same way in all of them, and leaves the same rules and the same plane, but for the
entry at a key that a rule leaves.  There is none if no other rule of the session has
the key; else it is what one of those rules has, and each of them has it in some
order.  So the planes are the same in all orders exactly if those rules agree. -/
theorem Session.entries_of_orders (b : Workbench) (op : RuleOp) :
    (∀ rules : DetectionRules, rules.entries.Perm b.session.pdrs.entries →
      let after := op.step.work b
      let after' := op.step.work (b.reordered rules)
      after'.1 = after.1
        ∧ after'.2.session.pdrs.entries.Perm after.2.session.pdrs.entries
        ∧ after'.2.besidesDetection = after.2.besidesDetection
        ∧ ∀ d, (∀ id, ¬ op.Leaves b id d) →
          after'.2.plane.pdrs.get? d = after.2.plane.pdrs.get? d)
    ∧ (∀ id d, op.Leaves b id d →
      (∀ rules : DetectionRules, rules.entries.Perm b.session.pdrs.entries →
        ((op.step.work (b.reordered rules)).2.plane.pdrs.get? d = none
          ↔ ∀ info, ¬ b.session.Others id d info))
      ∧ ∀ info, b.session.Others id d info
        ↔ ∃ rules : DetectionRules, rules.entries.Perm b.session.pdrs.entries
          ∧ (op.step.work (b.reordered rules)).2.plane.pdrs.get? d = some info)
    ∧ ((∀ rules : DetectionRules, rules.entries.Perm b.session.pdrs.entries →
        ∀ d, (op.step.work (b.reordered rules)).2.plane.pdrs.get? d
          = (op.step.work b).2.plane.pdrs.get? d)
      ↔ ∀ id d, op.Leaves b id d → ∀ info info', b.session.Others id d info →
        b.session.Others id d info' → info = info') := by
  refine ⟨fun rules hperm => ?_,
    fun id d hleaves => ⟨fun rules hperm => ?_, fun info => ⟨fun h => ?_, ?_⟩⟩,
    fun h => ?_, fun h => ?_⟩
  · have halike := Workbench.alike_reordered hperm
    obtain ⟨hresult, hafter⟩ := op.agree b _ halike
    exact ⟨hresult, Table.perm_iff.mpr hafter.rules, hafter.rest,
      fun d hstays => halike.entry rfl hstays⟩
  · rw [hleaves.entry_reordered hperm, otherWith_eq_none]
    simp only [others_reordered hperm]
  · obtain ⟨rules, hperm, hother⟩ := exists_order h
    exact ⟨rules, hperm, (hleaves.entry_reordered hperm).trans hother⟩
  · rintro ⟨rules, hperm, hget⟩
    exact others_of_reordered hperm ((hleaves.entry_reordered hperm).symm.trans hget)
  · -- two others that are each first in some order have what is there in every order
    intro id d hleaves info info' h₁ h₂
    obtain ⟨rules, hperm, hother⟩ := exists_order h₁
    obtain ⟨rules', hperm', hother'⟩ := exists_order h₂
    have hsame := (h rules hperm d).trans (h rules' hperm' d).symm
    rw [hleaves.entry_reordered hperm, hleaves.entry_reordered hperm', hother, hother'] at hsame
    exact Option.some.inj hsame
  · intro rules hperm d
    by_cases hstays : ∀ id, ¬ op.Leaves b id d
    · exact (Workbench.alike_reordered hperm).entry rfl hstays
    · push Not at hstays
      obtain ⟨id, hleaves⟩ := hstays
      rw [hleaves.entry_reordered hperm, hleaves.entry]
      exact otherWith_reordered hperm (h id d hleaves)

/-- A new session on a plane without slots. -/
def Workbench.bare : Workbench where
  session := { localSeid := 1, remoteSeid := 1, resourceKey := 1 }
  plane := .make 0 0
  pools := .make ⟨0, 24⟩ none 8
  n3 := ⟨0⟩

/-- Three rules with one tunnel id, of which the last takes an outer header off. -/
def RuleOp.threesome : List RuleOp :=
  let pdi : Pdi :=
    { sourceInterface := .access, localFTeid := some { flags := 1, teid := some 5 } }
  [.createPdr { pdrId := ⟨1⟩, pdi }, .createPdr { pdrId := ⟨2⟩, pdi },
   .createPdr { pdrId := ⟨3⟩, pdi, outerHeaderRemoval := some ⟨.gtpUdpIpv4, none⟩ }]

/-- **The order does decide something.**  When the first of three rules with one key is
removed, either of the others may be found there afterwards, with different
information. -/
theorem Session.removed_among_three :
    ∃ (b : Workbench) (rules : DetectionRules) (op : RuleOp) (d : Detection),
      b = (Workbench.bare.carryOut RuleOp.threesome).2
      ∧ (Workbench.bare.carryOut RuleOp.threesome).1 = .ok ()
      ∧ rules.entries.Perm b.session.pdrs.entries
      ∧ (op.step.work b).1 = .ok () ∧ (op.step.work (b.reordered rules)).1 = .ok ()
      ∧ (op.step.work (b.reordered rules)).2.plane.pdrs.get? d
        ≠ (op.step.work b).2.plane.pdrs.get? d := by
  let b := (Workbench.bare.carryOut RuleOp.threesome).2
  let rules : DetectionRules := ⟨b.session.pdrs.entries.reverse, by decide⟩
  exact ⟨b, rules, .removePdr 1, .uplink 5, rfl, by decide, List.reverse_perm _, by decide,
    by decide, by decide⟩

end UserPlane
