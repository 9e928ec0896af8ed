/-
  UserPlane.Proofs.Session.Life
  ─────────────────────────────
  **A SESSION FROM ITS BEGINNING TO ITS RELEASE.**

  A session begins without rules on a plane where others may have some, and
  goes through operations on its rules, while the others go on with what is
  theirs.  If nobody else uses its detections, its footprint is exact all
  along, and taking the session down meets no failure and removes that
  footprint and nothing else.
-/
import UserPlane.Proofs.Session.Footprint

namespace UserPlane

/-! ## §1. The life of a session. -/

/-- What others have in the plane. -/
structure Elsewhere where
  entries : Detection → Option PdrInfo
  fars : Multiset (Nat × FarInfo)
  qers : Multiset (Nat × QerInfo)

/-- **A session's life.**  It begins without rules, on a plane where others may
have some.  Operations on its rules follow, successful or failing, of which
none ends with a detection that others have.  In between the others may do what
they like with what is theirs, and a new request may begin. -/
inductive Life (farSlots qerSlots : Nat) : Elsewhere → Workbench → Prop where
  | begin {others : Elsewhere} {b : Workbench}
      (hpdrs : b.session.pdrs = .empty) (hfars : b.session.fars = .empty)
      (hqers : b.session.qers = .empty)
      (hentries : ∀ d, b.plane.pdrs.get? d = others.entries d)
      (hfarSlots : b.plane.fars.Stocked farSlots others.fars)
      (hqerSlots : b.plane.qers.Stocked qerSlots others.qers) :
      Life farSlots qerSlots others b
  | operation {others : Elsewhere} {b : Workbench} (h : Life farSlots qerSlots others b)
      (op : RuleOp)
      (hapart : ∀ id pdr, (op.step.work b).2.session.pdrs.get? id = some pdr →
        others.entries pdr.detection = none) :
      Life farSlots qerSlots others (op.step.work b).2
  | meanwhile {others others' : Elsewhere} {b b' : Workbench}
      (h : Life farSlots qerSlots others b)
      (hpdrs : b'.session.pdrs = b.session.pdrs) (hfars : b'.session.fars = b.session.fars)
      (hqers : b'.session.qers = b.session.qers)
      (hown : ∀ id pdr, b.session.pdrs.get? id = some pdr →
        b'.plane.pdrs.get? pdr.detection = b.plane.pdrs.get? pdr.detection
          ∧ others'.entries pdr.detection = none)
      (hentries : ∀ d, ¬ DetectionRules.Uses b.session.pdrs d →
        b'.plane.pdrs.get? d = others'.entries d)
      (hslots : b'.Stocked farSlots qerSlots others'.fars others'.qers) :
      Life farSlots qerSlots others' b'

namespace Life

variable {farSlots qerSlots : Nat} {others : Elsewhere} {b : Workbench}

theorem stocked (h : Life farSlots qerSlots others b) :
    b.Stocked farSlots qerSlots others.fars others.qers := by
  induction h with
  | begin hpdrs hfars hqers hentries hfarSlots hqerSlots =>
    constructor
    · unfold Session.farStock
      rw [hfars]
      simpa [Table.stock] using hfarSlots
    · unfold Session.qerStock
      rw [hqers]
      simpa [Table.stock] using hqerSlots
  | operation h op hapart ih => exact op.keeps_stocked ih
  | meanwhile h hpdrs hfars hqers hown hentries hslots ih => exact hslots

/-- **The footprint stays exact** through a session's life. -/
theorem footprint (h : Life farSlots qerSlots others b) :
    Footprint b.session.pdrs b.plane.pdrs others.entries := by
  induction h with
  | begin hpdrs hfars hqers hentries hfarSlots hqerSlots =>
    -- a session without rules uses no detection
    intro d
    rw [hpdrs]
    constructor
    · rintro ⟨id, pdr, hget, -⟩
      cases hget
    · intro _
      exact hentries d
  | operation h op hapart ih => exact op.keeps_footprint ih hapart
  | @meanwhile others others' b b' h hpdrs hfars hqers hown hentries hslots ih =>
    -- the session's own entries are still there, and nobody came to use them
    intro d
    rw [hpdrs]
    constructor
    · rintro ⟨id, pdr, hget, rfl⟩
      obtain ⟨-, info, hentry, hbacks⟩ := (ih pdr.detection).own ⟨id, pdr, hget, rfl⟩
      obtain ⟨hkept, hnone⟩ := hown id pdr hget
      exact ⟨hnone, info, hkept.trans hentry, hbacks⟩
    · exact hentries d

end Life

/-! ## §2. Release. -/

theorem nodup_eraseDups (l : List Detection) : l.eraseDups.Nodup := by
  -- on the length: what is looked at next is the tail without one value
  induction hn : l.length using Nat.strongRecOn generalizing l with
  | ind n ih =>
    cases l with
    | nil => exact List.nodup_nil
    | cons d l =>
      rw [List.eraseDups_cons, List.nodup_cons, List.mem_eraseDups]
      have hlt : (l.filter fun b => !b == d).length < n := by
        have hle := List.length_filter_le (fun b => !b == d) l
        rw [List.length_cons] at hn
        omega
      exact ⟨by simp, ih _ hlt _ rfl⟩

/-- Entries that are all there are removed without a failure. -/
theorem Teardown.foldl_deletePdr (l : List Detection) (hnodup : l.Nodup) {t : Teardown}
    (hall : ∀ d ∈ l, t.plane.pdrs.contains d = true) :
    let t' := l.foldl (fun t d => t.attempt (·.deletePdr d)) t
    t'.firstError = t.firstError
      ∧ ∀ d, t'.plane.pdrs.get? d = if d ∈ l then none else t.plane.pdrs.get? d := by
  induction l generalizing t with
  | nil => exact ⟨rfl, fun d => by simp⟩
  | cons d₀ l ih =>
    obtain ⟨hnot, hnodup⟩ := List.nodup_cons.mp hnodup
    have hattempt : t.attempt (·.deletePdr d₀)
        = { t with plane := { t.plane with pdrs := t.plane.pdrs.erase d₀ } } := by
      rw [Teardown.attempt_deletePdr, if_pos (hall d₀ List.mem_cons_self)]
    have hrest : ∀ d ∈ l, (t.plane.pdrs.erase d₀).contains d = true := by
      intro d hd
      have hne : d ≠ d₀ := fun e => hnot (e ▸ hd)
      rw [Table.contains_erase_of_ne _ hne]
      exact hall d (List.mem_cons_of_mem _ hd)
    obtain ⟨herror, hget⟩ := ih hnodup
      (t := { t with plane := { t.plane with pdrs := t.plane.pdrs.erase d₀ } }) hrest
    rw [List.foldl_cons, hattempt]
    refine ⟨herror, ?_⟩
    intro d
    -- the first entry is gone, and comes up no more
    rw [hget d, Table.get?_erase]
    by_cases hd : d = d₀ <;> simp [hd]

theorem Session.mem_detections (s : Session) (d : Detection) :
    d ∈ s.detections ↔ DetectionRules.Uses s.pdrs d := by
  unfold detections
  rw [List.mem_eraseDups, List.mem_map]
  constructor
  · rintro ⟨pdr, hpdr, hd⟩
    obtain ⟨id, hget⟩ := (Table.mem_values_iff s.pdrs pdr).mp hpdr
    exact ⟨id, pdr, hget, hd⟩
  · rintro ⟨id, pdr, hget, hd⟩
    exact ⟨pdr, (Table.mem_values_iff s.pdrs pdr).mpr ⟨id, hget⟩, hd⟩

/-- While the footprint is exact, its entries are removed without a failure. -/
theorem Footprint.teardownPdrs {s : Session} {plane : Plane}
    {elsewhere : Detection → Option PdrInfo} (h : Footprint s.pdrs plane.pdrs elsewhere) :
    (s.teardownPdrs plane).firstError = none
      ∧ ∀ d, (s.teardownPdrs plane).plane.pdrs.get? d
        = if d ∈ s.detections then none else plane.pdrs.get? d := by
  refine Teardown.foldl_deletePdr s.detections (nodup_eraseDups _) (t := { plane }) ?_
  intro d hd
  obtain ⟨-, info, hentry, -⟩ := (h d).own ((s.mem_detections d).mp hd)
  show plane.pdrs.contains d = true
  simp [Table.contains, hentry]

namespace Life

variable {farSlots qerSlots : Nat} {others : Elsewhere} {b : Workbench}

/-- **A session's footprint, and its end.**  Through a session's life the
detections under which the plane has an entry that is not the others' are
exactly those of the session's rules, and the entry under each is that of a
rule that has it.  Taking the session down meets no failure, removes these
entries, and leaves every other as it is. -/
theorem footprint_exact_until_release (h : Life farSlots qerSlots others b) :
    (∀ d, DetectionRules.Uses b.session.pdrs d ↔
      b.plane.pdrs.contains d = true ∧ others.entries d = none)
    ∧ (∀ d, DetectionRules.Uses b.session.pdrs d →
      ∃ info, b.plane.pdrs.get? d = some info ∧ DetectionRules.Backs b.session.pdrs d info)
    ∧ (b.session.teardown b.plane).firstError = none
    ∧ (∀ d, DetectionRules.Uses b.session.pdrs d →
      (b.session.teardown b.plane).plane.pdrs.get? d = none)
    ∧ ∀ d, ¬ DetectionRules.Uses b.session.pdrs d →
      (b.session.teardown b.plane).plane.pdrs.get? d = b.plane.pdrs.get? d := by
  have hfootprint := h.footprint
  obtain ⟨-, -, hpdrs, herror⟩ := Session.teardown_spec h.stocked.fars h.stocked.qers
  obtain ⟨hnone, hget⟩ := hfootprint.teardownPdrs
  refine ⟨fun d => ⟨?_, ?_⟩, ?_, herror.trans hnone, ?_, ?_⟩
  · intro huses
    obtain ⟨hapart, info, hinfo, -⟩ := (hfootprint d).own huses
    exact ⟨by simp [Table.contains, hinfo], hapart⟩
  · intro hentry
    -- an entry that no rule of the session has would be the others'
    by_contra hnot
    have hrest := (hfootprint d).rest hnot
    rw [hentry.2] at hrest
    simp [Table.contains, hrest] at hentry
  · intro d huses
    exact ((hfootprint d).own huses).2
  · intro d huses
    rw [hpdrs, hget d, if_pos ((b.session.mem_detections d).mpr huses)]
  · intro d hnot
    rw [hpdrs, hget d, if_neg fun hd => hnot ((b.session.mem_detections d).mp hd)]

/-- Where nobody else has a detection rule, any operations may follow. -/
theorem carryOut_alone {fars : Multiset (Nat × FarInfo)} {qers : Multiset (Nat × QerInfo)}
    (h : Life farSlots qerSlots ⟨fun _ => none, fars, qers⟩ b) (ops : List RuleOp) :
    Life farSlots qerSlots ⟨fun _ => none, fars, qers⟩ (b.carryOut ops).2 := by
  refine Workbench.carryOut_induction (P := fun _ b => Life farSlots qerSlots _ b)
    ?_ ?_ ops [] h
  · intro _ op b₁ b₂ h₁ hwork
    have h₂ := h₁.operation op fun _ _ _ => rfl
    rwa [hwork] at h₂
  · intro _ op b₁ b₂ e h₁ hwork
    have h₂ := h₁.operation op fun _ _ _ => rfl
    rwa [hwork] at h₂

/-- A new session on a plane of two slots of each kind. -/
def newcomer : Workbench where
  session := ⟨1, 1, 1, .empty, .empty, .empty⟩
  plane := .make 2 2
  pools := .make ⟨0, 24⟩ none 8
  n3 := ⟨0⟩

/-- Two rules with one tunnel id, of which the first goes, and then a change of
a forwarding rule that is not there. -/
def sharing : List RuleOp :=
  let pdi : Pdi :=
    { sourceInterface := .access, localFTeid := some { flags := 1, teid := some 5 } }
  [.createFar { farId := ⟨1⟩, applyAction := ⟨2⟩ },
   .createPdr { pdrId := ⟨1⟩, pdi, farId := some ⟨1⟩ }, .createPdr { pdrId := ⟨2⟩, pdi },
   .removePdr 1, .updateFar { farId := ⟨7⟩ }]

theorem sharing_released :
    Life 2 2 ⟨fun _ => none, 0, 0⟩ (newcomer.carryOut sharing).2
    ∧ (newcomer.carryOut sharing).2.plane.pdrs.get? (.uplink 5) = some {}
    ∧ ((newcomer.carryOut sharing).2.session.teardown
        (newcomer.carryOut sharing).2.plane).firstError = none := by
  -- nobody else has anything on this plane
  have hbegin : Life 2 2 ⟨fun _ => none, 0, 0⟩ newcomer :=
    .begin rfl rfl rfl (fun _ => rfl) (.make 2) (.make 2)
  have hlife := hbegin.carryOut_alone sharing
  exact ⟨hlife, by decide, hlife.footprint_exact_until_release.2.2.1⟩

end Life

end UserPlane
