/-
  UserPlane.Proofs.Session.Disclosure
  ───────────────────────────────────
  **WHAT IS REPORTED IS ALL THERE IS TO REPORT, AND TRUE.**

  A request that succeeds has reported on exactly those rules that left a tunnel
  id or an address to the node, in the order in which they were keyed.  If it is
  about no rule twice, every report is still true at its end: the rule has the
  key that was reported, the plane has an entry for it, and the session holds
  the address (`Discloses`).  Tunnel ids are shared by those rules whose wishes
  have the same number, and by no others (`SharesByNumber`).

      keyings, subjects          the rules that operations key, and are about
      Stands                     a rule has a key, and the key an entry
      RuleOp.upholds             … while operations are about other rules
      Workbench.Accounted        what is known amid a request
      Workbench.accounted        … and therefore at its end
-/
import UserPlane.Proofs.Session.Repetition
import UserPlane.Proofs.Session.Search

namespace UserPlane

/-! ## §1. Rules that operations are about. -/

/-- The detection rule that an operation keys, with the detection information
that it is keyed by. -/
def RuleOp.keying? : RuleOp → Option (UInt16 × Pdi)
  | createPdr r => some (r.pdrId.ruleId, r.pdi)
  | updatePdr r => r.pdi.map fun pdi => (r.pdrId.ruleId, pdi)
  | _ => none

/-- The detection rules that operations key, in order. -/
def keyings (ops : List RuleOp) : List (UInt16 × Pdi) := ops.filterMap RuleOp.keying?

/-- The detection rules that operations are about, in order. -/
def subjects (ops : List RuleOp) : List UInt16 := ops.filterMap RuleOp.subject?

/-- Detection information leaves something to the node. -/
def Pdi.asks (p : Pdi) : Bool := p.asksTeid || p.asksIp

theorem RuleOp.subject_of_keying {op : RuleOp} {k : UInt16 × Pdi} (h : op.keying? = some k) :
    op.subject? = some k.1 := by
  cases op with
  | createPdr r =>
    cases h
    rfl
  | updatePdr r =>
    obtain ⟨pdi, -, rfl⟩ := Option.map_eq_some_iff.mp h
    rfl
  | _ => cases h

theorem mem_subjects_of_keyings {ops : List RuleOp} {k : UInt16 × Pdi} (h : k ∈ keyings ops) :
    k.1 ∈ subjects ops := by
  obtain ⟨op, hop, hk⟩ := List.mem_filterMap.mp h
  exact List.mem_filterMap.mpr ⟨op, hop, RuleOp.subject_of_keying hk⟩

theorem sublist_subjects (ops : List RuleOp) :
    ((keyings ops).map Prod.fst).Sublist (subjects ops) := by
  unfold keyings subjects
  induction ops with
  | nil => exact .slnil
  | cons op ops ih =>
    cases hk : op.keying? with
    | some k =>
      rw [List.filterMap_cons_some hk, List.filterMap_cons_some (RuleOp.subject_of_keying hk)]
      exact ih.cons_cons _
    | none =>
      rw [List.filterMap_cons_none hk, List.filterMap_cons]
      -- a rule may be what an operation is about without being keyed by it
      split
      · exact ih
      · exact ih.cons _

/-- **Operations that are about no rule twice** key none in two ways. -/
theorem keyings_unique {ops : List RuleOp} (h : (subjects ops).Nodup) {k k' : UInt16 × Pdi}
    (hk : k ∈ keyings ops) (hk' : k' ∈ keyings ops) (heq : k.1 = k'.1) : k = k' :=
  List.inj_on_of_nodup_map (h.sublist (sublist_subjects ops)) hk hk' heq

/-! ## §2. Rules that stand. -/

/-- The rule of a number has a key, and the plane has an entry for the key. -/
structure Workbench.Stands (b : Workbench) (id : UInt16) (d : Detection) : Prop where
  key : (b.session.pdrs.get? id).map (·.detection) = some d
  entry : b.plane.pdrs.contains d = true

namespace RuleStep

variable {α β γ : Type} {b b' : Workbench} {id other : UInt16} {d d' : Detection}

/-- A step upholds what is true of the workbench, even if it fails. -/
def Upholds (P : Workbench → Prop) (x : RuleStep α) : Prop := ∀ b, P b → P (x.work b).2

namespace Upholds

variable {P : Workbench → Prop} {x : RuleStep α}

theorem bind {f : α → RuleStep β} (hx : Upholds P x) (hf : ∀ a, Upholds P (f a)) :
    Upholds P (x >>= f) := by
  intro b hb
  have hb := hx b hb
  rw [work_bind]
  cases hwork : x.work b with
  | mk r b₁ =>
    rw [hwork] at hb
    cases r with
    | ok a => exact hf a b₁ hb
    | error e => exact hb

theorem pure (a : α) : Upholds P (Pure.pure a : RuleStep α) := fun _ hb => hb

/-- What keeps the rules and their entries, upholds that a rule stands. -/
theorem of_keeps (h : Keeps (fun b => (b.session.pdrs, b.plane.pdrs)) x) :
    Upholds (fun b => b.Stands id d) x := by
  intro b hb
  have hkept := h b
  have hrules : (x.work b).2.session.pdrs = b.session.pdrs := congrArg (·.1) hkept
  have hentries : (x.work b).2.plane.pdrs = b.plane.pdrs := congrArg (·.2) hkept
  constructor
  · rw [hrules]
    exact hb.key
  · rw [hentries]
    exact hb.entry

end Upholds

theorem upholds_put (d' : Detection) (info : PdrInfo) :
    Upholds (fun b => b.Stands id d) (onPlane fun p => .ok (p.putPdr d' info)) := by
  intro b hb
  refine ⟨hb.key, ?_⟩
  show ((b.plane.pdrs.insert d' info).get? d).isSome = true
  rw [Table.get?_insert]
  split
  · rfl
  · exact hb.entry

theorem upholds_file (hne : other ≠ id) (pdr : SessionPdr) :
    Upholds (fun b => b.Stands other d)
      (onSession fun s => { s with pdrs := s.pdrs.insert id pdr }) := by
  intro b hb
  refine ⟨?_, hb.entry⟩
  show ((b.session.pdrs.insert id pdr).get? other).map _ = _
  rw [Table.get?_insert, if_neg hne]
  exact hb.key

/-- **Giving up a key** leaves the entries of other rules: one that has the same
key takes the entry over. -/
theorem upholds_giveUp (hne : other ≠ id) (d' : Detection) :
    Upholds (fun b => b.Stands other d) (giveUp d' id) := by
  intro b hb
  unfold giveUp
  rw [work_bind_ok (work_get b)]
  cases hsuccessor : b.session.otherWith id d' with
  | some info => exact upholds_put d' info b hb
  | none =>
    -- no other rule has the key that is given up
    have hd : d ≠ d' := by
      rintro rfl
      obtain ⟨pdr, hget, hkey⟩ := Option.map_eq_some_iff.mp hb.key
      refine Session.not_uses_of_otherWith hsuccessor ⟨other, pdr, ?_, hkey⟩
      rw [Table.get?_erase, if_neg hne, hget]
    dsimp only
    rw [work_onPlane]
    unfold Plane.deletePdr
    split
    · next plane hdelete =>
      split at hdelete <;> cases hdelete
      refine ⟨hb.key, ?_⟩
      show (b.plane.pdrs.erase d').contains d = true
      rw [Table.contains_erase_of_ne _ hd]
      exact hb.entry
    · exact hb

theorem upholds_filed (hne : other ≠ id) (pdr : SessionPdr) :
    Upholds (fun b => b.Stands other d) (filed id pdr) := by
  have hput : Upholds (fun b => b.Stands other d) (do
      onPlane fun p => .ok (p.putPdr pdr.detection pdr.info)
      onSession fun s => { s with pdrs := s.pdrs.insert id pdr }) :=
    .bind (upholds_put _ _) fun _ => upholds_file hne pdr
  unfold filed
  refine .bind (fun _ hb => hb) fun b => ?_
  cases b.session.pdrs.get? id with
  | none => exact hput
  | some previous =>
    dsimp only
    split
    · exact .bind (upholds_giveUp hne _) fun _ => hput
    · exact hput

theorem upholds_refiled (hne : other ≠ id) (previous pdr : SessionPdr) :
    Upholds (fun b => b.Stands other d) (refiled id previous pdr) := by
  unfold refiled
  split
  · refine .bind (fun b hb => ?_) fun _ => upholds_file hne pdr
    rw [work_onPlane]
    unfold Plane.updatePdr
    by_cases hentry : b.plane.pdrs.contains pdr.detection = true
    · rw [if_pos hentry]
      exact upholds_put pdr.detection pdr.info b hb
    · rw [if_neg hentry]
      exact hb
  · exact .bind (upholds_giveUp hne _) fun _ => .bind (upholds_put _ _) fun _ =>
      upholds_file hne pdr

theorem upholds_removePdr (hne : other ≠ id) :
    Upholds (fun b => b.Stands other d) (removePdr id) := by
  unfold removePdr
  refine .bind (fun _ hb => hb) fun b => ?_
  cases b.session.pdrs.get? id with
  | none => exact .pure _
  | some pdr =>
    refine .bind (fun b hb => ⟨?_, hb.entry⟩) fun _ => upholds_giveUp hne _
    show ((b.session.pdrs.erase id).get? other).map _ = _
    rw [Table.get?_erase, if_neg hne]
    exact hb.key

end RuleStep

/-- **A rule stands while operations are about other rules.** -/
theorem RuleOp.upholds {op : RuleOp} {id : UInt16} {d : Detection} (h : op.subject? ≠ some id) :
    RuleStep.Upholds (fun b => b.Stands id d) op.step := by
  cases op with
  | createPdr r =>
    have hne : id ≠ r.pdrId.ruleId := fun heq => h (congrArg some heq.symm)
    rw [RuleOp.step, RuleStep.createPdr_eq]
    exact .bind (.of_keeps ((RuleStep.keeps_drafted r).map fun p => (p.1.pdrs, p.2.1.pdrs)))
      fun pdr => RuleStep.upholds_filed hne pdr
  | updatePdr r =>
    have hne : id ≠ r.pdrId.ruleId := fun heq => h (congrArg some heq.symm)
    rw [RuleOp.step, RuleStep.updatePdr_eq]
    exact .bind (.of_keeps ((RuleStep.keeps_redrafted r).map fun p => (p.1.pdrs, p.2.1.pdrs)))
      fun p => RuleStep.upholds_refiled hne p.1 p.2
  | removePdr gone => exact RuleStep.upholds_removePdr fun heq => h (congrArg some heq.symm)
  | _ => exact .of_keeps ((keeps_besidesTreatment rfl).map fun b => (b.session.pdrs, b.plane.pdrs))

/-! ## §3. What operations have chosen and report. -/

/-- What a request has had chosen and has reported, for whom, and from where. -/
def Workbench.dealings (b : Workbench) :
    Pools × UInt64 × Ipv4 × Table UInt8 UInt32 × List CreatedPdr :=
  (b.pools, b.session.resourceKey, b.n3, b.chosen, b.created)

theorem Workbench.besidePdrs_dealings : BesidePdrs dealings := ⟨fun _ _ => rfl, fun _ _ => rfl⟩

namespace RuleStep

variable {b b' : Workbench} {id : UInt16}

/-- What is filed in place of another rule stands. -/
theorem filed_stands {pdr : SessionPdr} (h : (filed id pdr).work b = (.ok (), b')) :
    b'.Stands id pdr.detection := by
  obtain ⟨hsession, hplane⟩ := filed_eq_ok h
  exact ⟨by rw [hsession]; rfl, by simp [Table.contains, hplane]⟩

theorem refiled_stands {previous pdr : SessionPdr}
    (h : (refiled id previous pdr).work b = (.ok (), b')) : b'.Stands id pdr.detection := by
  have hput : ∀ b₁ : Workbench, (do
      onPlane fun p => .ok (p.putPdr pdr.detection pdr.info)
      onSession fun s => { s with pdrs := s.pdrs.insert id pdr } : RuleStep Unit).work b₁
        = (.ok (), b') → b'.Stands id pdr.detection := by
    intro b₁ h₁
    cases (work_put id pdr b₁).symm.trans h₁
    exact ⟨by simp, by simp [Plane.putPdr, Table.contains]⟩
  unfold refiled at h
  split at h
  · -- the entry that is there is written over
    obtain ⟨u, b₁, hupdate, h⟩ := work_bind_eq_ok h
    refine hput b ?_
    rw [work_onPlane] at hupdate
    unfold Plane.updatePdr at hupdate
    split at hupdate
    · next plane heq =>
      split at heq <;> cases heq
      cases hupdate
      exact h
    · cases hupdate
  · obtain ⟨u, b₁, -, h⟩ := work_bind_eq_ok h
    exact hput b₁ h

end RuleStep

section

variable {op : RuleOp} {b b' : Workbench}

/-- An operation that keys no rule deals in nothing. -/
theorem RuleOp.dealings_of_keying_none (h : op.keying? = none)
    (hwork : op.step.work b = (.ok (), b')) : b'.dealings = b.dealings := by
  have hkept : RuleStep.Keeps Workbench.dealings op.step → b'.dealings = b.dealings := by
    intro hkeeps
    have hb := hkeeps b
    rwa [hwork] at hb
  cases op with
  | removePdr id => exact hkept (RuleStep.keeps_removal Workbench.besidePdrs_dealings id)
  | createPdr r => cases h
  | updatePdr r =>
    -- without detection information no key is looked for
    have hpdi : r.pdi = none := Option.map_eq_none_iff.mp h
    rw [RuleOp.step, RuleStep.updatePdr_eq] at hwork
    obtain ⟨⟨previous, pdr⟩, b₁, hdraft, hfile⟩ := RuleStep.work_bind_eq_ok hwork
    have hfiled := RuleStep.keeps_refiled Workbench.besidePdrs_dealings r.pdrId.ruleId previous pdr b₁
    dsimp only at hfile
    rw [hfile] at hfiled
    obtain ⟨-, ⟨-, -, rfl⟩ | ⟨pdi, hsome, -⟩⟩ := RuleStep.redrafted_key hdraft
    · exact hfiled
    · rw [hpdi] at hsome
      cases hsome
  | _ => exact hkept ((keeps_besidesTreatment rfl).map Workbench.dealings)

/-- **An operation that keys a rule** finds a key for it, which the rule has then. -/
theorem RuleOp.found_of_keying {k : UInt16 × Pdi} (h : op.keying? = some k)
    (hwork : op.step.work b = (.ok (), b')) :
    ∃ d b₁, KeyFound k.1 k.2 b (.ok d) b₁ ∧ b'.dealings = b₁.dealings ∧ b'.Stands k.1 d := by
  cases op with
  | createPdr r =>
    cases h
    rw [RuleOp.step, RuleStep.createPdr_eq] at hwork
    obtain ⟨pdr, b₁, hdraft, hfile⟩ := RuleStep.work_bind_eq_ok hwork
    have hfiled := RuleStep.keeps_filed Workbench.besidePdrs_dealings r.pdrId.ruleId pdr b₁
    rw [hfile] at hfiled
    exact ⟨pdr.detection, b₁, RuleStep.detection_found_of_eq (RuleStep.drafted_key hdraft), hfiled,
      RuleStep.filed_stands hfile⟩
  | updatePdr r =>
    obtain ⟨pdi, hpdi, rfl⟩ := Option.map_eq_some_iff.mp h
    rw [RuleOp.step, RuleStep.updatePdr_eq] at hwork
    obtain ⟨⟨previous, pdr⟩, b₁, hdraft, hfile⟩ := RuleStep.work_bind_eq_ok hwork
    have hfiled := RuleStep.keeps_refiled Workbench.besidePdrs_dealings r.pdrId.ruleId previous pdr b₁
    dsimp only at hfile
    rw [hfile] at hfiled
    obtain ⟨-, ⟨hnone, -, -⟩ | ⟨pdi', hpdi', hkey⟩⟩ := RuleStep.redrafted_key hdraft
    · rw [hpdi] at hnone
      cases hnone
    · cases hpdi.symm.trans hpdi'
      exact ⟨pdr.detection, b₁, RuleStep.detection_found_of_eq hkey, hfiled,
        RuleStep.refiled_stands hfile⟩
  | _ => cases h

end

/-! ## §4. Disclosure. -/

/-- What a report says is what was chosen, of the tunnel end and of the address;
and what was to be chosen is reported. -/
structure Pdi.Disclosed (p : Pdi) (d : Detection) (n3 : Ipv4) (holds : Ip → Prop)
    (r : CreatedPdr) : Prop where
  localFTeid : p.asksTeid = false ∧ r.localFTeid = none
    ∨ p.asksTeid = true ∧ ∃ teid, d = .uplink teid ∧ r.localFTeid = some (.ofIp (.v4 n3) teid)
  ueIpAddress : p.asksIp = false ∧ r.ueIpAddress = none
    ∨ p.asksIp = true ∧ ∃ ip destination, r.ueIpAddress = some (.ofIp ip destination) ∧ holds ip
      ∧ (p.localFTeid = none → d = .downlink ip)

/-- **A report is true of a rule as it stands**: the rule has the key that was
chosen for it, the plane has an entry for the key, and the session holds the
address that was chosen. -/
structure Workbench.Discloses (b : Workbench) (k : UInt16 × Pdi) (r : CreatedPdr) : Prop where
  pdrId : r.pdrId = ⟨k.1⟩
  stands : ∃ d, b.Stands k.1 d
    ∧ k.2.Disclosed d b.n3 (b.pools.HoldsIp b.session.resourceKey) r

/-- Of the rules that leave their tunnel ids to the node, those have one tunnel id
whose wishes have one number. -/
def Workbench.SharesByNumber (b : Workbench) (ks : List (UInt16 × Pdi)) : Prop :=
  ∀ k ∈ ks, ∀ k' ∈ ks, k.1 ≠ k'.1 → ∀ wish wish',
    k.2.ChoosesTeid wish → k'.2.ChoosesTeid wish' → ∃ teid teid',
      b.Stands k.1 (.uplink teid) ∧ b.Stands k'.1 (.uplink teid')
        ∧ (teid = teid' ↔ ∃ number, wish = some number ∧ wish' = some number)

section Found

variable {b b₁ : Workbench} {p : Pdi} {id : UInt16} {d : Detection}

/-- What is said of an address that is found. -/
theorem AddressFound.disclosed {address : Option Ip} {report : Option UeIpAddress}
    (h : AddressFound p b (.ok (address, report)) b₁) :
    (b₁.session.resourceKey, b₁.n3, b₁.chosen, b₁.created)
      = (b.session.resourceKey, b.n3, b.chosen, b.created)
    ∧ (p.asksIp = false ∧ report = none ∨ p.asksIp = true ∧ ∃ ip destination,
        report = some (.ofIp ip destination) ∧ b₁.pools.HoldsIp b.session.resourceKey ip
          ∧ address = some ip) := by
  cases h with
  | stated hasks => exact ⟨rfl, .inl ⟨hasks, rfl⟩⟩
  | ipv4 ha hchv4 hgrant =>
    exact ⟨rfl, .inr ⟨by simp [Pdi.asksIp, ha, UeIpAddress.isChoose, hchv4], _, _, rfl,
      (Pools.grows_allocateIpv4 hgrant).2, rfl⟩⟩
  | ipv6 ha hchv4 hchv6 hgrant =>
    exact ⟨rfl, .inr ⟨by simp [Pdi.asksIp, ha, UeIpAddress.isChoose, hchv6], _, _, rfl,
      (Pools.grows_allocateIpv6 hgrant).2, rfl⟩⟩

/-- What is said of a tunnel id that is found. -/
theorem TunnelFound.disclosed {t : FTeid} {teid : UInt32} {report : Option FTeid}
    (h : TunnelFound id t b (.ok (teid, report)) b₁) :
    b.pools.Grows b₁.pools ∧ b₁.created = b.created
    ∧ (t.isChoose = false ∧ report = none
      ∨ t.isChoose = true ∧ report = some (.ofIp (.v4 b.n3) teid)) := by
  cases h with
  | stated hasks => exact ⟨.refl _, rfl, .inl ⟨hasks, rfl⟩⟩
  | again hasks => exact ⟨.refl _, rfl, .inr ⟨hasks, rfl⟩⟩
  | granted hasks _ hgrant => exact ⟨(Pools.grows_allocateTeid hgrant).1, rfl, .inr ⟨hasks, rfl⟩⟩

/-- **What is said of a key that is found**: the report is as it should be. -/
theorem KeyFound.disclosed (h : KeyFound id p b (.ok d) b₁) :
    ∃ r, b₁.created = b.created ++ (if p.asks then [r] else []) ∧ r.pdrId = ⟨id⟩
      ∧ p.Disclosed d b.n3 (b₁.pools.HoldsIp b.session.resourceKey) r := by
  cases h with
  | @tunnel address chosenAddress b₁ t teid chosenTeid b₂ haddress ht hteid =>
    obtain ⟨hsame, haddress⟩ := haddress.disclosed
    obtain ⟨hgrows, hcreated, hteid⟩ := hteid.disclosed
    have hn3 : b₁.n3 = b.n3 := congrArg (·.2.1) hsame
    have hcreated₁ : b₁.created = b.created := congrArg (·.2.2.2) hsame
    refine ⟨⟨⟨id⟩, chosenTeid, chosenAddress⟩, ?_, rfl, ?_, ?_⟩
    · -- there is a report exactly if something was to be chosen
      have hteid' : chosenTeid.isSome = p.asksTeid := by
        unfold Pdi.asksTeid
        rw [ht, Option.any_some]
        rcases hteid with ⟨hasks, rfl⟩ | ⟨hasks, rfl⟩ <;> rw [hasks] <;> rfl
      have haddress' : chosenAddress.isSome = p.asksIp := by
        rcases haddress with ⟨hasks, rfl⟩ | ⟨hasks, ip, destination, rfl, -⟩ <;> rw [hasks] <;> rfl
      unfold Workbench.reporting Pdi.asks
      rw [hcreated, hcreated₁, hteid', haddress']
    · unfold Pdi.asksTeid
      rw [ht, Option.any_some]
      exact hteid.imp_right fun ⟨hasks, hsome⟩ => ⟨hasks, teid, rfl, hn3 ▸ hsome⟩
    · refine haddress.imp_right fun ⟨hasks, ip, destination, hsome, hholds, _⟩ => ?_
      exact ⟨hasks, ip, destination, hsome, (hgrows.kept _).ip ip hholds,
        fun hnone => by cases ht.symm.trans hnone⟩
  | @address ip chosenAddress b₁ haddress ht =>
    obtain ⟨hsame, haddress⟩ := haddress.disclosed
    have hcreated₁ : b₁.created = b.created := congrArg (·.2.2.2) hsame
    have hteid : p.asksTeid = false := by simp [Pdi.asksTeid, ht]
    refine ⟨⟨⟨id⟩, none, chosenAddress⟩, ?_, rfl, .inl ⟨hteid, rfl⟩, ?_⟩
    · have haddress' : chosenAddress.isSome = p.asksIp := by
        rcases haddress with ⟨hasks, rfl⟩ | ⟨hasks, ip, destination, rfl, -⟩ <;> rw [hasks] <;> rfl
      unfold Workbench.reporting Pdi.asks
      rw [hcreated₁, hteid, haddress']
      rfl
    · refine haddress.imp_right fun ⟨hasks, ip', destination, hsome, hholds, hip⟩ => ?_
      cases hip
      exact ⟨hasks, ip, destination, hsome, hholds, fun _ => rfl⟩

/-- **How a tunnel id comes to be chosen**: it was chosen before for a wish of the
same number, or it is held for the rule now. -/
theorem KeyFound.noted (h : KeyFound id p b (.ok d) b₁) :
    p.asksTeid = false ∧ b₁.chosen = b.chosen
    ∨ ∃ wish teid, p.ChoosesTeid wish ∧ d = .uplink teid
      ∧ ((∃ number, wish = some number ∧ b.chosen.get? number = some teid
          ∧ b₁.chosen = b.chosen)
        ∨ wish.bind b.chosen.get? = none ∧ b₁.chosen = b.chosen.noting wish teid
          ∧ b₁.pools.HoldsTeid b.session.resourceKey id teid) := by
  cases h with
  | @tunnel _ _ b₁ t teid _ b₂ haddress ht hteid =>
    obtain ⟨hsame, -⟩ := haddress.disclosed
    have hkey : b₁.session.resourceKey = b.session.resourceKey := congrArg (·.1) hsame
    have hchosen : b₁.chosen = b.chosen := congrArg (·.2.2.1) hsame
    cases hteid with
    | stated hasks => exact .inl ⟨by simp [Pdi.asksTeid, ht, hasks], hchosen⟩
    | again hasks hagain =>
      obtain ⟨number, hwish, hget⟩ := Option.bind_eq_some_iff.mp hagain
      exact .inr ⟨_, teid, ⟨t, ht, hasks, rfl⟩, rfl,
        .inl ⟨number, hwish, hchosen ▸ hget, hchosen⟩⟩
    | granted hasks hnew hgrant =>
      rw [hchosen] at hnew
      rw [hkey] at hgrant
      refine .inr ⟨_, teid, ⟨t, ht, hasks, rfl⟩, rfl, .inr ⟨hnew, ?_, ?_⟩⟩
      · show b₁.chosen.noting t.chooseId teid = _
        rw [hchosen]
      · exact (Pools.grows_allocateTeid hgrant).2
  | address haddress ht =>
    exact .inl ⟨by simp [Pdi.asksTeid, ht], congrArg (·.2.2.1) haddress.disclosed.1⟩

end Found

/-! ## §5. Along a request. -/

namespace Table

variable {chosen : Table UInt8 UInt32} {wish : Option UInt8} {number : UInt8} {teid teid' : UInt32}

theorem get?_of_noting (h : (chosen.noting wish teid).get? number = some teid') :
    chosen.get? number = some teid' ∨ wish = some number ∧ teid = teid' := by
  cases wish with
  | none => exact .inl h
  | some n =>
    have h : (chosen.insert n teid).get? number = some teid' := h
    rw [get?_insert] at h
    split at h
    · next heq => exact .inr ⟨congrArg some heq.symm, Option.some.inj h⟩
    · exact .inl h

theorem get?_noting_self : (chosen.noting (some number) teid).get? number = some teid := by
  show (chosen.insert number teid).get? number = _
  rw [get?_insert, if_pos rfl]

/-- What is noted under a new number leaves what was noted. -/
theorem get?_noting_of_new (hnew : wish.bind chosen.get? = none)
    (h : chosen.get? number = some teid') :
    (chosen.noting wish teid).get? number = some teid' := by
  cases wish with
  | none => exact h
  | some n =>
    have hnew : chosen.get? n = none := hnew
    show (chosen.insert n teid).get? number = _
    rw [get?_insert, if_neg, h]
    rintro rfl
    cases hnew.symm.trans h

end Table

/-- **What is known amid a request** of the rules that were keyed so far: the
reports are true, and every chosen tunnel id is held for one rule, whose wish
has the number that it is noted under. -/
structure Workbench.Accounted (done : List RuleOp) (b : Workbench) : Prop where
  sound : b.pools.Sound
  reports : List.Forall₂ b.Discloses ((keyings done).filter fun k => k.2.asks) b.created
  noted : ∀ number teid, b.chosen.get? number = some teid →
    ∃ k ∈ keyings done, k.2.ChoosesTeid (some number)
      ∧ b.pools.HoldsTeid b.session.resourceKey k.1 teid
  chosen : ∀ k ∈ keyings done, ∀ wish, k.2.ChoosesTeid wish →
    ∃ teid, b.Stands k.1 (.uplink teid) ∧ match wish with
      | some number => b.chosen.get? number = some teid
      | none => b.pools.HoldsTeid b.session.resourceKey k.1 teid

namespace Workbench

variable {done : List RuleOp} {op : RuleOp} {b b' : Workbench}

/-- A report stays true while nothing is taken away and the rule stands. -/
theorem Discloses.mono {k : UInt16 × Pdi} {r : CreatedPdr} (h : b.Discloses k r)
    (hstands : ∀ d, b.Stands k.1 d → b'.Stands k.1 d) (hgrows : b.Grows b') (hn3 : b'.n3 = b.n3) :
    b'.Discloses k r := by
  obtain ⟨d, hd, hteid, haddress⟩ := h.stands
  refine ⟨h.pdrId, d, hstands d hd, hn3 ▸ hteid, haddress.imp_right ?_⟩
  rintro ⟨hasks, ip, destination, hsome, hholds, hkey⟩
  rw [hgrows.resourceKey]
  exact ⟨hasks, ip, destination, hsome, (hgrows.pools.kept _).ip ip hholds, hkey⟩

/-- **What an operation leaves** of what is known: all of it, for the rules that
it is not about. -/
theorem Accounted.kept (h : b.Accounted done) (hfresh : ∀ id ∈ subjects done, op.subject? ≠ some id)
    (hwork : op.step.work b = (.ok (), b')) :
    b'.pools.Sound ∧ List.Forall₂ b'.Discloses ((keyings done).filter fun k => k.2.asks) b.created
    ∧ (∀ k ∈ keyings done, ∀ d, b.Stands k.1 d → b'.Stands k.1 d) ∧ b.Grows b' := by
  have hgrows := op.grows b
  have hn3 := op.keeps_fixed b
  rw [hwork] at hgrows hn3
  have hstands : ∀ k ∈ keyings done, ∀ d, b.Stands k.1 d → b'.Stands k.1 d := by
    intro k hk d hd
    have hupheld := RuleOp.upholds (hfresh k.1 (mem_subjects_of_keyings hk)) b hd
    rwa [hwork] at hupheld
  refine ⟨hgrows.pools.sound h.sound, ?_, hstands, hgrows⟩
  -- the reports so far are about rules that stand still
  have hreports := List.forall₂_iff_zip.mp h.reports
  refine List.forall₂_iff_zip.mpr ⟨hreports.1, fun {k r} hzip => ?_⟩
  have hk := List.mem_of_mem_filter (List.of_mem_zip hzip).1
  exact (hreports.2 hzip).mono (hstands k hk) hgrows (congrArg (·.2.2.2.1) hn3)

/-- **What is known amid a request is known after one more operation.** -/
theorem Accounted.of_ok (h : b.Accounted done)
    (hfresh : ∀ id ∈ subjects done, op.subject? ≠ some id)
    (hwork : op.step.work b = (.ok (), b')) : b'.Accounted (done ++ [op]) := by
  obtain ⟨hsound, hreports, hstands, hgrows⟩ := h.kept hfresh hwork
  have hheld : ∀ rule teid, b.pools.HoldsTeid b.session.resourceKey rule teid →
      b'.pools.HoldsTeid b'.session.resourceKey rule teid := by
    rw [hgrows.resourceKey]
    exact (hgrows.pools.kept _).teid
  cases hkeying : op.keying? with
  | none =>
    have hdealings := RuleOp.dealings_of_keying_none hkeying hwork
    have hchosen : b'.chosen = b.chosen := congrArg (·.2.2.2.1) hdealings
    have hcreated : b'.created = b.created := congrArg (·.2.2.2.2) hdealings
    have hsame : keyings (done ++ [op]) = keyings done := by
      simp [keyings, List.filterMap_append, hkeying]
    refine ⟨hsound, by rwa [hsame, hcreated], fun number teid hget => ?_, fun k hk wish hwish => ?_⟩
    · rw [hchosen] at hget
      obtain ⟨k, hk, hchooses, hholds⟩ := h.noted number teid hget
      exact ⟨k, hsame ▸ hk, hchooses, hheld _ _ hholds⟩
    · rw [hsame] at hk
      obtain ⟨teid, hteid, hnoted⟩ := h.chosen k hk wish hwish
      refine ⟨teid, hstands k hk _ hteid, ?_⟩
      cases wish with
      | none => exact hheld _ _ hnoted
      | some number => rwa [hchosen]
  | some k₀ =>
    obtain ⟨d, b₁, hfound, hdealings, hd⟩ := RuleOp.found_of_keying hkeying hwork
    have hpools : b'.pools = b₁.pools := congrArg (·.1) hdealings
    have hchosen : b'.chosen = b₁.chosen := congrArg (·.2.2.2.1) hdealings
    have hcreated : b'.created = b₁.created := congrArg (·.2.2.2.2) hdealings
    have hmore : keyings (done ++ [op]) = keyings done ++ [k₀] := by
      simp [keyings, List.filterMap_append, hkeying]
    have hlast : k₀ ∈ keyings (done ++ [op]) := by simp [hmore]
    have hnoted := hfound.noted
    rw [← hpools, ← hchosen, ← hgrows.resourceKey] at hnoted
    refine ⟨hsound, ?_, ?_, ?_⟩
    · -- the new report is true of the rule that was keyed
      obtain ⟨r, hadded, hid, hdisclosed⟩ := hfound.disclosed
      have hn3 : b'.n3 = b.n3 := by
        have hfixed := op.keeps_fixed b
        rw [hwork] at hfixed
        exact congrArg (·.2.2.2.1) hfixed
      rw [← hn3, ← hpools, ← hgrows.resourceKey] at hdisclosed
      rw [hmore, List.filter_append, hcreated, hadded]
      refine List.rel_append hreports ?_
      cases hasks : k₀.2.asks with
      | false => simp [hasks]
      | true => simpa [hasks] using ⟨hid, d, hd, hdisclosed⟩
    · intro number teid hget
      have hold : b.chosen.get? number = some teid → ∃ k ∈ keyings (done ++ [op]),
          k.2.ChoosesTeid (some number)
            ∧ b'.pools.HoldsTeid b'.session.resourceKey k.1 teid := by
        intro hget
        obtain ⟨k, hk, hchooses, hholds⟩ := h.noted number teid hget
        exact ⟨k, by simp [hmore, hk], hchooses, hheld _ _ hholds⟩
      rcases hnoted with ⟨-, hsame⟩ | ⟨wish, new, hwish, -, ⟨_, -, -, hsame⟩ | ⟨-, hsame, hholds⟩⟩
      · exact hold (hsame ▸ hget)
      · exact hold (hsame ▸ hget)
      · rw [hsame] at hget
        rcases Table.get?_of_noting hget with hget | ⟨rfl, rfl⟩
        · exact hold hget
        · exact ⟨k₀, hlast, hwish, hholds⟩
    · intro k hk wish hwish
      rw [hmore, List.mem_append, List.mem_singleton] at hk
      rcases hk with hk | rfl
      · -- what was noted before stays noted
        obtain ⟨teid, hteid, hbefore⟩ := h.chosen k hk wish hwish
        refine ⟨teid, hstands k hk _ hteid, ?_⟩
        cases wish with
        | none => exact hheld _ _ hbefore
        | some number =>
          rcases hnoted with ⟨-, hsame⟩ | ⟨_, _, -, -, ⟨_, -, -, hsame⟩ | ⟨hnew, hsame, -⟩⟩
          · rwa [hsame]
          · rwa [hsame]
          · rw [hsame]
            exact Table.get?_noting_of_new hnew hbefore
      · have hasks := k.2.asksTeid_iff.mpr ⟨wish, hwish⟩
        rcases hnoted with ⟨hnot, -⟩ | ⟨wish', teid, hwish', rfl, hnoted⟩
        · rw [hasks] at hnot
          cases hnot
        · obtain rfl := hwish.wish_eq hwish'
          refine ⟨teid, hd, ?_⟩
          rcases hnoted with ⟨number, rfl, hget, hsame⟩ | ⟨-, hsame, hholds⟩
          · rwa [hsame]
          · cases wish with
            | none => exact hholds
            | some number =>
              rw [hsame]
              exact Table.get?_noting_self

/-- **Every chosen tunnel id is held for one rule**, whose wish is the same; for
the rule itself if the wish has no number. -/
theorem Accounted.holder (h : b.Accounted done) {k : UInt16 × Pdi} (hk : k ∈ keyings done)
    {wish : Option UInt8} (hwish : k.2.ChoosesTeid wish) :
    ∃ teid, b.Stands k.1 (.uplink teid) ∧ (∀ number, wish = some number →
      b.chosen.get? number = some teid) ∧ ∃ k' ∈ keyings done, k'.2.ChoosesTeid wish
        ∧ b.pools.HoldsTeid b.session.resourceKey k'.1 teid ∧ (wish = none → k' = k) := by
  obtain ⟨teid, hteid, hnoted⟩ := h.chosen k hk wish hwish
  cases wish with
  | none => exact ⟨teid, hteid, nofun, k, hk, hwish, hnoted, fun _ => rfl⟩
  | some number =>
    obtain ⟨k', hk', hwish', hholds⟩ := h.noted number teid hnoted
    refine ⟨teid, hteid, ?_, k', hk', hwish', hholds, nofun⟩
    rintro _ ⟨⟩
    exact hnoted

/-- **Tunnel ids are shared by number.** -/
theorem Accounted.sharesByNumber (h : b.Accounted done) (hnodup : (subjects done).Nodup) :
    b.SharesByNumber (keyings done) := by
  intro k hk k' hk' hne wish wish' hwish hwish'
  obtain ⟨teid, hteid, hnoted, l, hl, hlwish, hholds, hown⟩ := h.holder hk hwish
  obtain ⟨teid', hteid', hnoted', l', hl', hlwish', hholds', hown'⟩ := h.holder hk' hwish'
  refine ⟨teid, teid', hteid, hteid', ?_, ?_⟩
  · rintro rfl
    -- one rule holds the tunnel id, and has one wish
    obtain rfl := keyings_unique hnodup hl hl' (h.sound.holdsTeid_unique hholds hholds').2
    obtain rfl := hlwish.wish_eq hlwish'
    cases wish with
    | none =>
      cases (hown rfl).symm.trans (hown' rfl)
      exact absurd rfl hne
    | some number => exact ⟨number, rfl, rfl⟩
  · rintro ⟨number, rfl, rfl⟩
    exact Option.some.inj ((hnoted number rfl).symm.trans (hnoted' number rfl))

/-- Before a request nothing was chosen in it, and nothing reported. -/
theorem accounted_nil (hsound : b.pools.Sound) (hchosen : b.chosen = .empty)
    (hcreated : b.created = []) : b.Accounted [] := by
  refine ⟨hsound, ?_, fun number teid hget => ?_, fun k hk => ?_⟩
  · rw [hcreated]
    exact .nil
  · rw [hchosen] at hget
    cases hget
  · cases hk

/-- **What is known at the end of a request** that is about no rule twice. -/
theorem Accounted.carryOut {ops : List RuleOp} (h : b.Accounted done)
    (hnodup : (subjects (done ++ ops)).Nodup) (hwork : b.carryOut ops = (.ok (), b')) :
    b'.Accounted (done ++ ops) := by
  -- along the operations, with those that were done carried along
  induction ops generalizing done b with
  | nil =>
    cases hwork
    rwa [List.append_nil]
  | cons op ops ih =>
    rw [carryOut_cons] at hwork
    cases hop : op.step.work b with
    | mk result b₁ =>
      rw [hop] at hwork
      cases result with
      | error e => cases hwork
      | ok u =>
        have hsplit : done ++ op :: ops = (done ++ [op]) ++ ops := by simp
        rw [hsplit] at hnodup ⊢
        refine ih (h.of_ok (fun id hid hop => ?_) hop) hnodup hwork
        -- a rule that was dealt with does not come up again
        unfold subjects at hnodup hid
        rw [List.filterMap_append, List.filterMap_append, List.filterMap_cons_some hop] at hnodup
        have hleft := hnodup.sublist (List.sublist_append_left _ _)
        exact (List.nodup_append.mp hleft).2.2 id hid id (by simp) rfl

end Workbench

end UserPlane
