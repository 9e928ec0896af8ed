/-
  UserPlane.Proofs.Session.Footprint
  ──────────────────────────────────
  **A SESSION'S ENTRIES IN THE DETECTION TABLE.**

  Several rules of a session may be keyed by the same detection; the plane has
  one entry for them, that of one of the rules.  When this rule goes, or moves
  to another detection, another of them takes the entry over.  As long as
  nobody else uses the session's detections, its entries are exactly those of
  its rules (`Footprint`), whatever operation succeeds or fails
  (`RuleOp.keeps_footprint`).
-/
import UserPlane.Proofs.Session.Stock

namespace UserPlane

/-! ## §1. Footprints. -/

/-- The detection rules of a session, by number. -/
abbrev DetectionRules := Table UInt16 SessionPdr

/-- A rule has this detection and this information. -/
def DetectionRules.Backs (rules : DetectionRules) (d : Detection) (info : PdrInfo) : Prop :=
  ∃ id pdr, rules.get? id = some pdr ∧ pdr.detection = d ∧ pdr.info = info

/-- A rule has this detection. -/
def DetectionRules.Uses (rules : DetectionRules) (d : Detection) : Prop :=
  ∃ id pdr, rules.get? id = some pdr ∧ pdr.detection = d

/-- At a detection, the plane has the entry of a rule that has the detection;
without such a rule it has what there is elsewhere. -/
structure FootprintAt (rules : DetectionRules) (entries : Table Detection PdrInfo)
    (elsewhere : Detection → Option PdrInfo) (d : Detection) : Prop where
  own : rules.Uses d →
    elsewhere d = none ∧ ∃ info, entries.get? d = some info ∧ rules.Backs d info
  rest : ¬ rules.Uses d → entries.get? d = elsewhere d

/-- **The footprint is exact**: at every detection. -/
def Footprint (rules : DetectionRules) (entries : Table Detection PdrInfo)
    (elsewhere : Detection → Option PdrInfo) : Prop := ∀ d, FootprintAt rules entries elsewhere d

section

variable {rules : DetectionRules} {entries entries' : Table Detection PdrInfo}
  {elsewhere : Detection → Option PdrInfo} {id : UInt16} {pdr : SessionPdr} {d : Detection}

theorem DetectionRules.uses_of_get? (h : rules.get? id = some pdr) : rules.Uses pdr.detection :=
  ⟨id, pdr, h, rfl⟩

theorem DetectionRules.Uses.of_erase (h : DetectionRules.Uses (rules.erase id) d) :
    rules.Uses d := by
  obtain ⟨id', pdr', hget, hd⟩ := h
  exact ⟨id', pdr', (Table.get?_of_erase hget).2, hd⟩

/-- Without a rule the others still have what they had. -/
theorem DetectionRules.backs_erase {info : PdrInfo} (h : rules.Backs d info)
    (hother : ∀ pdr, rules.get? id = some pdr → pdr.detection ≠ d) :
    DetectionRules.Backs (rules.erase id) d info := by
  obtain ⟨id', pdr', hget, hd, hinfo⟩ := h
  -- the rule that backs the entry is not the one that goes
  refine ⟨id', pdr', ?_, hd, hinfo⟩
  rw [Table.get?_erase, if_neg ?_, hget]
  rintro rfl
  exact hother pdr' hget hd

theorem DetectionRules.uses_erase (h : rules.Uses d)
    (hother : ∀ pdr, rules.get? id = some pdr → pdr.detection ≠ d) :
    DetectionRules.Uses (rules.erase id) d := by
  obtain ⟨id', pdr', hget, hd⟩ := h
  obtain ⟨id'', pdr'', hget', hd', -⟩ := backs_erase ⟨id', pdr', hget, hd, rfl⟩ hother
  exact ⟨id'', pdr'', hget', hd'⟩

/-- A footprint at one detection depends only on the entry there. -/
theorem FootprintAt.congr (h : FootprintAt rules entries elsewhere d)
    (hentries : entries'.get? d = entries.get? d) : FootprintAt rules entries' elsewhere d := by
  constructor
  · rw [hentries]
    exact h.own
  · rw [hentries]
    exact h.rest

/-- A rule with another detection may go. -/
theorem FootprintAt.erase_other (h : FootprintAt rules entries elsewhere d)
    (hother : ∀ pdr, rules.get? id = some pdr → pdr.detection ≠ d) :
    FootprintAt (rules.erase id) entries elsewhere d := by
  constructor
  · intro huses
    obtain ⟨hapart, info, hentry, hbacks⟩ := h.own huses.of_erase
    exact ⟨hapart, info, hentry, DetectionRules.backs_erase hbacks hother⟩
  · intro hnot
    exact h.rest fun huses => hnot (DetectionRules.uses_erase huses hother)

/-- **Writing a rule and its entry**: the footprint may have been wrong at the
rule's detection, and the rule's number may have been another rule's. -/
theorem Footprint.put
    (h : ∀ d, d ≠ pdr.detection → FootprintAt (rules.erase id) entries elsewhere d)
    (hapart : elsewhere pdr.detection = none) :
    Footprint (rules.insert id pdr) (entries.insert pdr.detection pdr.info) elsewhere := by
  intro d
  have hinserted : (rules.insert id pdr).get? id = some pdr := by simp
  by_cases hd : d = pdr.detection
  · -- the entry at the rule's own detection is the rule's
    subst hd
    constructor
    · intro _
      exact ⟨hapart, pdr.info, by simp, id, pdr, hinserted, rfl, rfl⟩
    · intro hnot
      exact absurd (DetectionRules.uses_of_get? hinserted) hnot
  · -- no other detection is changed by the rule
    have hother : ∀ p, (rules.insert id pdr).get? id = some p → p.detection ≠ d := by
      intro p hp
      rw [hinserted] at hp
      cases hp
      exact fun e => hd e.symm
    have hentry : (entries.insert pdr.detection pdr.info).get? d = entries.get? d := by
      rw [Table.get?_insert, if_neg hd]
    have hat := (h d hd).congr hentry
    rw [← Table.erase_insert rules id pdr] at hat
    constructor
    · intro huses
      obtain ⟨hnone, info, hget, id', pdr', hget', hd', hinfo⟩ :=
        hat.own (DetectionRules.uses_erase huses hother)
      exact ⟨hnone, info, hget, id', pdr', (Table.get?_of_erase hget').2, hd', hinfo⟩
    · intro hnot
      exact hat.rest fun huses => hnot huses.of_erase

end

/-! ## §2. Handing an entry over. -/

theorem Session.backs_of_otherWith {s : Session} {id : UInt16} {d : Detection} {info : PdrInfo}
    (h : s.otherWith id d = some info) : DetectionRules.Backs (s.pdrs.erase id) d info := by
  -- the search looks for a rule of another number with the same detection
  obtain ⟨⟨id', pdr⟩, hfind, rfl⟩ := Option.map_eq_some_iff.mp h
  have htest := List.find?_some hfind
  simp only [decide_eq_true_eq] at htest
  have hget := (Table.mem_entries_iff s.pdrs id' pdr).mp (List.mem_of_find?_eq_some hfind)
  exact ⟨id', pdr, by rw [Table.get?_erase, if_neg htest.1, hget], htest.2, rfl⟩

theorem Session.not_uses_of_otherWith {s : Session} {id : UInt16} {d : Detection}
    (h : s.otherWith id d = none) : ¬ DetectionRules.Uses (s.pdrs.erase id) d := by
  rintro ⟨id', pdr, hget, hd⟩
  obtain ⟨hne, hget⟩ := Table.get?_of_erase hget
  have hfind := Option.map_eq_none_iff.mp h
  have hmem := (Table.mem_entries_iff s.pdrs id' pdr).mpr hget
  exact List.find?_eq_none.mp hfind _ hmem (by simp [hne, hd])

namespace RuleStep

variable {b : Workbench} {elsewhere : Detection → Option PdrInfo}

/-- The workbench with other detection rules, and other entries for them. -/
def withPdrs (b : Workbench) (rules : DetectionRules) (entries : Table Detection PdrInfo) :
    Workbench :=
  { b with session := { b.session with pdrs := rules }, plane := { b.plane with pdrs := entries } }

/-- **Giving up a rule's detection** never fails while the footprint is exact,
and leaves it exact without the rule. -/
theorem giveUp_work {rules : DetectionRules} {id : UInt16} {previous : SessionPdr}
    (h : Footprint rules b.plane.pdrs elsewhere) (hprevious : rules.get? id = some previous)
    (hrules : b.session.pdrs.erase id = rules.erase id) :
    ∃ entries, (giveUp previous.detection id).work b
        = (.ok (), { b with plane := { b.plane with pdrs := entries } })
      ∧ Footprint (rules.erase id) entries elsewhere := by
  obtain ⟨hapart, info₀, hentry, -⟩ :=
    (h previous.detection).own (DetectionRules.uses_of_get? hprevious)
  -- at every other detection the footprint stays exact without the rule
  have hother : ∀ d, d ≠ previous.detection →
      FootprintAt (rules.erase id) b.plane.pdrs elsewhere d := by
    intro d hd
    apply (h d).erase_other
    intro p hp
    rw [hprevious] at hp
    cases hp
    exact hd.symm
  unfold giveUp
  rw [work_bind_ok (work_get b)]
  cases hsuccessor : b.session.otherWith id previous.detection with
  | some info =>
    -- another rule has the detection, and takes the entry over
    have hbacks := Session.backs_of_otherWith hsuccessor
    rw [hrules] at hbacks
    refine ⟨b.plane.pdrs.insert previous.detection info, rfl, ?_⟩
    intro d
    by_cases hd : d = previous.detection
    · subst hd
      constructor
      · intro _
        exact ⟨hapart, info, by simp, hbacks⟩
      · intro hnot
        obtain ⟨id', pdr', hget, hd', -⟩ := hbacks
        exact absurd ⟨id', pdr', hget, hd'⟩ hnot
    · exact (hother d hd).congr (by rw [Table.get?_insert, if_neg hd])
  | none =>
    -- no other rule has it: the entry is there, and goes
    have hnot := Session.not_uses_of_otherWith hsuccessor
    rw [hrules] at hnot
    have hcontains : b.plane.pdrs.contains previous.detection = true := by
      simp [Table.contains, hentry]
    refine ⟨b.plane.pdrs.erase previous.detection, ?_, ?_⟩
    · apply work_onPlane_ok
      simp [Plane.deletePdr, hcontains]
    · intro d
      by_cases hd : d = previous.detection
      · subst hd
        constructor
        · intro huses
          exact absurd huses hnot
        · intro _
          rw [Table.get?_erase, if_pos rfl, hapart]
      · exact (hother d hd).congr (by rw [Table.get?_erase, if_neg hd])

/-- **Filing a rule** never fails while the footprint is exact, and leaves it
exact if nobody else has the rule's detection. -/
theorem filed_work (id : UInt16) (pdr : SessionPdr)
    (h : Footprint b.session.pdrs b.plane.pdrs elsewhere) :
    ∃ entries, (filed id pdr).work b = (.ok (), withPdrs b (b.session.pdrs.insert id pdr) entries)
      ∧ (elsewhere pdr.detection = none →
        Footprint (b.session.pdrs.insert id pdr) entries elsewhere) := by
  unfold filed
  rw [work_bind_ok (work_get b)]
  cases hprevious : b.session.pdrs.get? id with
  | none =>
    refine ⟨b.plane.pdrs.insert pdr.detection pdr.info, rfl, Footprint.put fun d hd => ?_⟩
    apply (h d).erase_other
    intro p hp
    rw [hprevious] at hp
    cases hp
  | some previous =>
    dsimp only
    by_cases hkey : previous.detection = pdr.detection
    · -- the entry that is there is written over
      rw [if_neg (not_not_intro hkey)]
      refine ⟨b.plane.pdrs.insert pdr.detection pdr.info, rfl, Footprint.put fun d hd => ?_⟩
      apply (h d).erase_other
      intro p hp
      rw [hprevious] at hp
      cases hp
      exact fun e => hd (e.symm.trans hkey)
    · -- the old entry is given up before the new one is written
      rw [if_pos hkey]
      obtain ⟨entries, hwork, hfootprint⟩ := giveUp_work h hprevious rfl
      refine ⟨entries.insert pdr.detection pdr.info, ?_, Footprint.put fun d _ => hfootprint d⟩
      rw [work_bind_ok hwork]
      rfl

/-- What a rule has become is filed like a rule that is made. -/
theorem refiled_work {id : UInt16} {previous : SessionPdr} (pdr : SessionPdr)
    (hprevious : b.session.pdrs.get? id = some previous)
    (h : b.plane.pdrs.contains previous.detection = true) :
    (refiled id previous pdr).work b = (filed id pdr).work b := by
  unfold refiled filed
  rw [work_bind_ok (work_get b), hprevious]
  by_cases hkey : previous.detection = pdr.detection
  · -- updating an entry that is there writes it
    have hupdate : b.plane.updatePdr pdr.detection pdr.info
        = .ok (b.plane.putPdr pdr.detection pdr.info) := by
      rw [← hkey, Plane.updatePdr, if_pos h]
    rw [if_pos hkey]
    dsimp only
    rw [if_neg (not_not_intro hkey)]
    exact work_bind_ok (work_onPlane_ok hupdate)
  · rw [if_neg hkey]
    dsimp only
    rw [if_pos hkey]

/-- **Removing a rule** never fails while the footprint is exact, and leaves it
exact. -/
theorem removePdr_work (id : UInt16) (h : Footprint b.session.pdrs b.plane.pdrs elsewhere) :
    ∃ entries, (removePdr id).work b = (.ok (), withPdrs b (b.session.pdrs.erase id) entries)
      ∧ Footprint (b.session.pdrs.erase id) entries elsewhere := by
  unfold removePdr
  rw [work_bind_ok (work_get b)]
  cases hprevious : b.session.pdrs.get? id with
  | none =>
    rw [Table.erase_of_get?_none hprevious]
    exact ⟨b.plane.pdrs, rfl, h⟩
  | some pdr =>
    -- the rule is gone from the session by the time its detection is given up
    dsimp only
    rw [work_bind_ok (work_onSession _ _)]
    exact giveUp_work h hprevious (Table.erase_erase _ _)

end RuleStep

/-! ## §3. Every operation. -/

theorem Footprint.of_standing {b b' : Workbench} {elsewhere : Detection → Option PdrInfo}
    (h : Footprint b.session.pdrs b.plane.pdrs elsewhere) (heq : b'.standing = b.standing) :
    Footprint b'.session.pdrs b'.plane.pdrs elsewhere := by
  have hrules : b'.session.pdrs = b.session.pdrs := congrArg (·.1.pdrs) heq
  have hentries : b'.plane.pdrs = b.plane.pdrs := congrArg (·.2.1.pdrs) heq
  rwa [hrules, hentries]

namespace RuleStep

variable {b : Workbench} {elsewhere : Detection → Option PdrInfo}

theorem createPdr_footprint (r : CreatePdr) (h : Footprint b.session.pdrs b.plane.pdrs elsewhere)
    (hapart : ∀ id pdr, ((createPdr r).work b).2.session.pdrs.get? id = some pdr →
      elsewhere pdr.detection = none) :
    Footprint ((createPdr r).work b).2.session.pdrs ((createPdr r).work b).2.plane.pdrs
      elsewhere := by
  -- drafting touches neither rules nor entries
  have hstanding := keeps_drafted r b
  rw [createPdr_eq, work_bind] at hapart ⊢
  cases hdraft : (drafted r).work b with
  | mk result b₁ =>
    rw [hdraft] at hapart hstanding
    have h₁ := h.of_standing hstanding
    cases result with
    | error e => exact h₁
    | ok pdr =>
      obtain ⟨entries, hwork, hfootprint⟩ := filed_work r.pdrId.ruleId pdr h₁
      dsimp only at hapart ⊢
      rw [hwork] at hapart ⊢
      exact hfootprint (hapart r.pdrId.ruleId pdr (by simp [withPdrs]))

theorem updatePdr_footprint (r : UpdatePdr) (h : Footprint b.session.pdrs b.plane.pdrs elsewhere)
    (hapart : ∀ id pdr, ((updatePdr r).work b).2.session.pdrs.get? id = some pdr →
      elsewhere pdr.detection = none) :
    Footprint ((updatePdr r).work b).2.session.pdrs ((updatePdr r).work b).2.plane.pdrs
      elsewhere := by
  -- drafting touches neither rules nor entries
  have hstanding := keeps_redrafted r b
  rw [updatePdr_eq, work_bind] at hapart ⊢
  cases hdraft : (redrafted r).work b with
  | mk result b₁ =>
    rw [hdraft] at hapart hstanding
    have h₁ := h.of_standing hstanding
    cases result with
    | error e => exact h₁
    | ok p =>
      obtain ⟨previous, pdr⟩ := p
      -- the rule's old entry is there, so that it can be written over
      obtain ⟨hprevious, -⟩ := redrafted_eq_ok hdraft
      have hrules : b₁.session.pdrs = b.session.pdrs := congrArg (·.1.pdrs) hstanding
      rw [← hrules] at hprevious
      obtain ⟨-, info, hentry, -⟩ := (h₁ _).own (DetectionRules.uses_of_get? hprevious)
      have hcontains : b₁.plane.pdrs.contains previous.detection = true := by
        simp [Table.contains, hentry]
      obtain ⟨entries, hwork, hfootprint⟩ := filed_work r.pdrId.ruleId pdr h₁
      dsimp only at hapart ⊢
      rw [refiled_work pdr hprevious hcontains, hwork] at hapart ⊢
      exact hfootprint (hapart r.pdrId.ruleId pdr (by simp [withPdrs]))

end RuleStep

/-- **Every operation leaves the footprint exact**, whether it succeeds or
fails, if nobody else has the detections that the session then has. -/
theorem RuleOp.keeps_footprint (op : RuleOp) {b : Workbench}
    {elsewhere : Detection → Option PdrInfo}
    (h : Footprint b.session.pdrs b.plane.pdrs elsewhere)
    (hapart : ∀ id pdr, (op.step.work b).2.session.pdrs.get? id = some pdr →
      elsewhere pdr.detection = none) :
    Footprint (op.step.work b).2.session.pdrs (op.step.work b).2.plane.pdrs elsewhere := by
  have hsame : ∀ b' : Workbench, b'.besidesTreatment = b.besidesTreatment →
      Footprint b'.session.pdrs b'.plane.pdrs elsewhere := by
    intro b' heq
    have hrules : b'.session.pdrs = b.session.pdrs := congrArg (·.session.pdrs) heq
    have hentries : b'.plane.pdrs = b.plane.pdrs := congrArg (·.plane.pdrs) heq
    rwa [hrules, hentries]
  cases op with
  | createPdr r => exact RuleStep.createPdr_footprint r h hapart
  | updatePdr r => exact RuleStep.updatePdr_footprint r h hapart
  | removePdr id =>
    obtain ⟨entries, hwork, hfootprint⟩ := RuleStep.removePdr_work id h
    rw [RuleOp.step, hwork]
    exact hfootprint
  -- operations on forwarding and QoS rules do not come near the detection rules
  | _ => exact hsame _ (keeps_besidesTreatment rfl b)

end UserPlane
