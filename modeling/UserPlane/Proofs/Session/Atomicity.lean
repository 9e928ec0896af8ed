/-
  UserPlane.Proofs.Session.Atomicity
  ──────────────────────────────────
  **NO RULE IS LEFT HALF DONE.**

  An operation looks for all that it needs before it changes anything, and
  what it then changes cannot fail while the session agrees with the plane.
  So an operation that fails leaves the rules of the session and the plane as
  they were.  What it has had chosen by then stays with the session, and is
  found again by whoever asks next in its name.

      Session.Agrees              the plane has what the session records
      createFar_error, …          what fails has changed nothing
      filed_succeeds, …           what is drafted can be filed
      Pools.MovedFor              what a draft may have taken from the pools
      RuleOp.failure_unmarked     an operation that fails
-/
import UserPlane.Proofs.Pool.Conservation
import UserPlane.Proofs.Session.Life
import UserPlane.Proofs.Session.Repetition
import UserPlane.Proofs.Session.Search

namespace UserPlane

/-! ## §1. Agreement. -/

/-- A session agrees with the plane: what it records of a slot is in the slot,
and there is an entry for each of its detections. -/
structure Session.Agrees (s : Session) (plane : Plane) : Prop where
  fars : ∀ id far, s.fars.get? id = some far → plane.fars.get? far.slot = some far.info
  qers : ∀ id qer, s.qers.get? id = some qer → plane.qers.get? qer.slot = some qer.info
  pdrs : ∀ id pdr, s.pdrs.get? id = some pdr → plane.pdrs.contains pdr.detection = true

/-- Agreement is seen by going through the rules. -/
theorem Session.agrees_iff (s : Session) (plane : Plane) :
    s.Agrees plane ↔ (∀ e ∈ s.fars.entries, plane.fars.get? e.2.slot = some e.2.info)
      ∧ (∀ e ∈ s.qers.entries, plane.qers.get? e.2.slot = some e.2.info)
      ∧ ∀ e ∈ s.pdrs.entries, plane.pdrs.contains e.2.detection = true := by
  constructor
  · intro h
    exact ⟨fun e he => h.fars _ _ ((Table.mem_entries_iff _ _ _).mp he),
      fun e he => h.qers _ _ ((Table.mem_entries_iff _ _ _).mp he),
      fun e he => h.pdrs _ _ ((Table.mem_entries_iff _ _ _).mp he)⟩
  · intro ⟨hfars, hqers, hpdrs⟩
    exact ⟨fun id far h => hfars (id, far) ((Table.mem_entries_iff _ _ _).mpr h),
      fun id qer h => hqers (id, qer) ((Table.mem_entries_iff _ _ _).mpr h),
      fun id pdr h => hpdrs (id, pdr) ((Table.mem_entries_iff _ _ _).mpr h)⟩

instance (s : Session) (plane : Plane) : Decidable (s.Agrees plane) :=
  decidable_of_iff' _ (s.agrees_iff plane)

namespace Slots

variable {α : Type} {s s' : Slots α} {slot k : Nat} {a b : α}

theorem contains_of_get? (h : s.get? slot = some a) : s.rules.contains slot = true := by
  show (s.get? slot).isSome = true
  rw [h]
  rfl

/-- A slot that is in use stays in use when another is taken. -/
theorem contains_install (h : s.rules.contains slot = true)
    (hinstall : s.install b = some (k, s')) : s'.rules.contains slot = true := by
  obtain ⟨⟨k', tracker⟩, -, heq⟩ := Option.map_eq_some_iff.mp hinstall
  cases heq
  show ((s.rules.insert k b).get? slot).isSome = true
  rw [Table.get?_insert]
  split
  · rfl
  · exact h

end Slots

namespace RuleStep

variable {α β γ : Type} {b b' : Workbench} {e : SessionError}

/-! ## §2. Forwarding and QoS rules. -/

theorem createFar_error {r : CreateFar} (h : b.session.Agrees b.plane)
    (hwork : (createFar r).work b = (.error e, b')) : b' = b := by
  unfold createFar at hwork
  rw [work_bind_ok (work_get b), work_bind, work_fromPlane] at hwork
  unfold Plane.newFar at hwork
  cases hinstall : b.plane.fars.install (FarInfo.ofCreate r b.n3) with
  | none =>
    rw [hinstall] at hwork
    cases hwork
    rfl
  | some p =>
    obtain ⟨slot, slots⟩ := p
    rw [hinstall] at hwork
    dsimp only at hwork
    rw [work_bind_ok (work_get _), work_bind_ok (work_onSession _ _)] at hwork
    dsimp only at hwork
    -- the slot of the rule that had the number is in use, so that it can be freed
    cases hprevious : b.session.fars.get? r.farId.ruleId with
    | none =>
      rw [hprevious] at hwork
      cases hwork
    | some far =>
      have hslot := Slots.contains_install
        (Slots.contains_of_get? (h.fars _ far hprevious)) hinstall
      rw [hprevious] at hwork
      dsimp only at hwork
      rw [work_onPlane] at hwork
      simp only [Plane.deleteFar, Slots.remove, if_pos hslot] at hwork
      cases hwork

theorem updateFar_error {r : UpdateFar} (h : b.session.Agrees b.plane)
    (hwork : (updateFar r).work b = (.error e, b')) : b' = b := by
  unfold updateFar at hwork
  rw [work_bind_ok (work_get b)] at hwork
  cases hfar : b.session.fars.get? r.farId.ruleId with
  | none =>
    rw [hfar] at hwork
    cases hwork
    rfl
  | some far =>
    have hslot := Slots.contains_of_get? (h.fars _ far hfar)
    rw [hfar] at hwork
    dsimp only at hwork
    rw [work_bind_ok (work_onSession _ _), work_onPlane] at hwork
    simp only [Plane.updateFar, Slots.replace, if_pos hslot] at hwork
    cases hwork

theorem removeFar_error {id : UInt32} (h : b.session.Agrees b.plane)
    (hwork : (removeFar id).work b = (.error e, b')) : b' = b := by
  unfold removeFar at hwork
  rw [work_bind_ok (work_get b)] at hwork
  cases hfar : b.session.fars.get? id with
  | none =>
    rw [hfar] at hwork
    cases hwork
  | some far =>
    have hslot := Slots.contains_of_get? (h.fars _ far hfar)
    rw [hfar] at hwork
    dsimp only at hwork
    rw [work_bind_ok (work_onSession _ _), work_onPlane] at hwork
    simp only [Plane.deleteFar, Slots.remove, if_pos hslot] at hwork
    cases hwork

theorem createQer_error {r : CreateQer} (h : b.session.Agrees b.plane)
    (hwork : (createQer r).work b = (.error e, b')) : b' = b := by
  unfold createQer at hwork
  rw [work_bind, work_fromPlane] at hwork
  unfold Plane.newQer at hwork
  cases hinstall : b.plane.qers.install (QerInfo.ofCreate r) with
  | none =>
    rw [hinstall] at hwork
    cases hwork
    rfl
  | some p =>
    obtain ⟨slot, slots⟩ := p
    rw [hinstall] at hwork
    dsimp only at hwork
    rw [work_bind_ok (work_get _), work_bind_ok (work_onSession _ _)] at hwork
    dsimp only at hwork
    -- the slot of the rule that had the number is in use, so that it can be freed
    cases hprevious : b.session.qers.get? r.qerId.ruleId with
    | none =>
      rw [hprevious] at hwork
      cases hwork
    | some qer =>
      have hslot := Slots.contains_install
        (Slots.contains_of_get? (h.qers _ qer hprevious)) hinstall
      rw [hprevious] at hwork
      dsimp only at hwork
      rw [work_onPlane] at hwork
      simp only [Plane.deleteQer, Slots.remove, if_pos hslot] at hwork
      cases hwork

theorem updateQer_error {r : UpdateQer} (h : b.session.Agrees b.plane)
    (hwork : (updateQer r).work b = (.error e, b')) : b' = b := by
  unfold updateQer at hwork
  rw [work_bind_ok (work_get b)] at hwork
  cases hqer : b.session.qers.get? r.qerId.ruleId with
  | none =>
    rw [hqer] at hwork
    cases hwork
    rfl
  | some qer =>
    have hslot := Slots.contains_of_get? (h.qers _ qer hqer)
    rw [hqer] at hwork
    dsimp only at hwork
    rw [work_bind_ok (work_onSession _ _), work_onPlane] at hwork
    simp only [Plane.updateQer, Slots.replace, if_pos hslot] at hwork
    cases hwork

theorem removeQer_error {id : UInt32} (h : b.session.Agrees b.plane)
    (hwork : (removeQer id).work b = (.error e, b')) : b' = b := by
  unfold removeQer at hwork
  rw [work_bind_ok (work_get b)] at hwork
  cases hqer : b.session.qers.get? id with
  | none =>
    rw [hqer] at hwork
    cases hwork
  | some qer =>
    have hslot := Slots.contains_of_get? (h.qers _ qer hqer)
    rw [hqer] at hwork
    dsimp only at hwork
    rw [work_bind_ok (work_onSession _ _), work_onPlane] at hwork
    simp only [Plane.deleteQer, Slots.remove, if_pos hslot] at hwork
    cases hwork

/-! ## §3. Filing detection rules. -/

/-- A key that has an entry can be given up. -/
theorem giveUp_succeeds {d : Detection} (id : UInt16) (h : b.plane.pdrs.contains d = true) :
    ∃ entries, (giveUp d id).work b
      = (.ok (), { b with plane := { b.plane with pdrs := entries } }) := by
  unfold giveUp
  rw [work_bind_ok (work_get b)]
  cases b.session.otherWith id d with
  | some info => exact ⟨_, rfl⟩
  | none => exact ⟨b.plane.pdrs.erase d, work_onPlane_ok (by simp only [Plane.deletePdr, if_pos h])⟩

/-- What is drafted can be filed. -/
theorem filed_succeeds (id : UInt16) (pdr : SessionPdr) (h : b.session.Agrees b.plane) :
    ∃ entries, (filed id pdr).work b
      = (.ok (), withPdrs b (b.session.pdrs.insert id pdr) entries) := by
  unfold filed
  rw [work_bind_ok (work_get b)]
  cases hprevious : b.session.pdrs.get? id with
  | none => exact ⟨_, work_put id pdr b⟩
  | some previous =>
    dsimp only
    split
    · -- the key of the rule that is replaced has an entry
      obtain ⟨entries, hgiveUp⟩ := giveUp_succeeds id (h.pdrs id previous hprevious)
      rw [work_bind_ok hgiveUp]
      exact ⟨_, work_put id pdr _⟩
    · exact ⟨_, work_put id pdr b⟩

theorem removePdr_succeeds (id : UInt16) (h : b.session.Agrees b.plane) :
    ((removePdr id).work b).1 = .ok () := by
  unfold removePdr
  rw [work_bind_ok (work_get b)]
  cases hprevious : b.session.pdrs.get? id with
  | none => rfl
  | some pdr =>
    dsimp only
    rw [work_bind_ok (work_onSession _ _)]
    obtain ⟨entries, hgiveUp⟩ :=
      @giveUp_succeeds { b with session := { b.session with pdrs := b.session.pdrs.erase id } }
        pdr.detection id (h.pdrs id pdr hprevious)
    rw [hgiveUp]

theorem work_eq_error_of_bind {x : RuleStep α} {f : α → RuleStep β}
    (hf : ∀ a b₁, x.work b = (.ok a, b₁) → ((f a).work b₁).1.isOk)
    (h : (x >>= f).work b = (.error e, b')) : x.work b = (.error e, b') := by
  rw [work_bind] at h
  cases hx : x.work b with
  | mk r b₁ =>
    rw [hx] at h
    cases r with
    | error e' =>
      cases h
      rfl
    | ok a =>
      have hok := hf a b₁ hx
      dsimp only at h
      rw [h] at hok
      cases hok

/-- **A rule that cannot be made** could not be drafted. -/
theorem createPdr_error {r : CreatePdr} (h : b.session.Agrees b.plane)
    (hwork : (createPdr r).work b = (.error e, b')) :
    (drafted r).work b = (.error e, b') := by
  rw [createPdr_eq] at hwork
  refine work_eq_error_of_bind (fun pdr b₁ hdraft => ?_) hwork
  have hstanding := keeps_drafted r b
  rw [hdraft] at hstanding
  have hsession : b₁.session = b.session := congrArg (·.1) hstanding
  have hplane : b₁.plane = b.plane := congrArg (·.2.1) hstanding
  rw [← hsession, ← hplane] at h
  obtain ⟨entries, hfile⟩ := filed_succeeds r.pdrId.ruleId pdr h
  rw [hfile]
  rfl

/-- **A rule that cannot be changed** could not be drafted. -/
theorem updatePdr_error {r : UpdatePdr} (h : b.session.Agrees b.plane)
    (hwork : (updatePdr r).work b = (.error e, b')) :
    (redrafted r).work b = (.error e, b') := by
  rw [updatePdr_eq] at hwork
  refine work_eq_error_of_bind (fun p b₁ hdraft => ?_) hwork
  obtain ⟨previous, pdr⟩ := p
  have hstanding := keeps_redrafted r b
  rw [hdraft] at hstanding
  have hsession : b₁.session = b.session := congrArg (·.1) hstanding
  have hplane : b₁.plane = b.plane := congrArg (·.2.1) hstanding
  obtain ⟨hprevious, -⟩ := redrafted_eq_ok hdraft
  rw [← hsession] at hprevious
  rw [← hsession, ← hplane] at h
  -- the rule's old entry is there, so that it can be written over
  obtain ⟨entries, hfile⟩ := filed_succeeds r.pdrId.ruleId pdr h
  dsimp only
  rw [refiled_work pdr hprevious (h.pdrs _ previous hprevious), hfile]
  rfl

end RuleStep

/-! ## §4. What a draft takes from the pools. -/

/-- The pools have moved, if at all, by what was given to a key, a tunnel id to
one of its rules.  The key holds it, and whoever asks again in its name is given
the same again, and nothing more. -/
structure Pools.MovedFor (p p' : Pools) (key : UInt64) (rule : Option UInt16) : Prop where
  ipv4 : p'.ipv4 = p.ipv4 ∨ ∃ a, p.allocateIpv4 key = .ok (a, { p with ipv4 := p'.ipv4 })
    ∧ p'.HoldsIp key (.v4 a) ∧ p'.allocateIpv4 key = .ok (a, p')
  ipv6 : p'.ipv6 = p.ipv6 ∨ ∃ a, p.allocateIpv6 key = .ok (a, { p with ipv6 := p'.ipv6 })
    ∧ p'.HoldsIp key (.v6 a) ∧ p'.allocateIpv6 key = .ok (a, p')
  teids : p'.teids = p.teids ∨ ∃ id teid, rule = some id
    ∧ p.allocateTeid key id = .ok (teid, { p with teids := p'.teids })
    ∧ p'.HoldsTeid key id teid ∧ p'.allocateTeid key id = .ok (teid, p')

namespace Pools

variable {p p₁ p' : Pools} {key : UInt64}

theorem MovedFor.refl (p : Pools) (key : UInt64) (rule : Option UInt16) :
    p.MovedFor p key rule := ⟨.inl rfl, .inl rfl, .inl rfl⟩

/-- Only an address is taken, if anything is. -/
def TakesAddress (p p' : Pools) (key : UInt64) : Prop :=
  p' = p ∨ (∃ a, p.allocateIpv4 key = .ok (a, p')) ∨ ∃ a, p.allocateIpv6 key = .ok (a, p')

/-- Only a tunnel id is taken, if anything is. -/
def TakesTeid (p p' : Pools) (key : UInt64) (id : UInt16) : Prop :=
  p' = p ∨ ∃ teid, p.allocateTeid key id = .ok (teid, p')

/-- **An address, and then a tunnel id**: neither is in the way of the other. -/
theorem TakesAddress.movedFor {id : UInt16} (h : p.TakesAddress p₁ key)
    (h' : p₁.TakesTeid p' key id) : p.MovedFor p' key (some id) := by
  -- the tunnel id leaves the addresses alone
  have hips : p'.ipv4 = p₁.ipv4 ∧ p'.ipv6 = p₁.ipv6 := by
    rcases h' with rfl | ⟨teid, hteid⟩
    · exact ⟨rfl, rfl⟩
    · obtain ⟨_, _, _, _, rfl⟩ := allocateTeid_ok hteid
      exact ⟨rfl, rfl⟩
  have hteids : p₁.teids = p.teids := by
    rcases h with rfl | ⟨a, ha⟩ | ⟨a, ha⟩
    · rfl
    · obtain ⟨_, _, rfl⟩ := allocateIpv4_ok ha
      rfl
    · obtain ⟨_, _, _, _, rfl⟩ := allocateIpv6_ok ha
      rfl
  constructor
  · rcases h with rfl | ⟨a, ha⟩ | ⟨a, ha⟩
    · exact .inl hips.1
    · have hheld : p₁.ipv4.Holds key a.bits := (grows_allocateIpv4 ha).2
      obtain ⟨pool, -, rfl⟩ := allocateIpv4_ok ha
      refine .inr ⟨a, by rw [ha, hips.1], ?_, allocateIpv4_again ha hips.1⟩
      show p'.ipv4.Holds key a.bits
      rw [hips.1]
      exact hheld
    · obtain ⟨_, _, _, _, rfl⟩ := allocateIpv6_ok ha
      exact .inl hips.1
  · rcases h with rfl | ⟨a, ha⟩ | ⟨a, ha⟩
    · exact .inl hips.2
    · obtain ⟨_, _, rfl⟩ := allocateIpv4_ok ha
      exact .inl hips.2
    · have hheld : ∃ pool, p₁.ipv6 = some pool ∧ pool.Holds key a.bits := (grows_allocateIpv6 ha).2
      obtain ⟨_, _, _, _, rfl⟩ := allocateIpv6_ok ha
      refine .inr ⟨a, by rw [ha, hips.2], ?_, allocateIpv6_again ha hips.2⟩
      show ∃ pool, p'.ipv6 = some pool ∧ pool.Holds key a.bits
      rw [hips.2]
      exact hheld
  · rcases h' with rfl | ⟨teid, hteid⟩
    · exact .inl hteids
    · refine .inr ⟨id, teid, rfl, ?_, (grows_allocateTeid hteid).2, allocateTeid_again hteid rfl⟩
      -- which tunnel id is next does not depend on the addresses
      obtain ⟨n, teids, hn, rfl, rfl⟩ := allocateTeid_ok hteid
      rw [hteids] at hn
      simp only [allocateTeid, hn]

end Pools

namespace RuleStep

variable {α β γ : Type} {b b' : Workbench} {e : SessionError}

/-- What the second step keeps is as the first left it. -/
theorem Keeps.work_bind (part : Workbench → γ) {x : RuleStep α} {f : α → RuleStep β}
    (hf : ∀ a, Keeps part (f a)) (b : Workbench) :
    part ((x >>= f).work b).2 = part (x.work b).2 := by
  rw [RuleStep.work_bind]
  cases x.work b with
  | mk r b₁ =>
    cases r with
    | ok a => exact hf a b₁
    | error e => rfl

/-- What the search for an address takes from the pools. -/
theorem takesAddress_of_found {p : Pdi} {r : Except SessionError (Option Ip × Option UeIpAddress)}
    (h : AddressFound p b r b') :
    b.pools.TakesAddress b'.pools b.session.resourceKey
      ∧ b'.session.resourceKey = b.session.resourceKey := by
  cases h with
  | stated => exact ⟨.inl rfl, rfl⟩
  | ipv4 _ _ hgrant => exact ⟨.inr (.inl ⟨_, hgrant⟩), rfl⟩
  | noIpv4 => exact ⟨.inl rfl, rfl⟩
  | ipv6 _ _ _ hgrant => exact ⟨.inr (.inr ⟨_, hgrant⟩), rfl⟩
  | noIpv6 => exact ⟨.inl rfl, rfl⟩

/-- What the search for a tunnel id takes from the pools. -/
theorem takesTeid_of_found {id : UInt16} {t : FTeid}
    {r : Except SessionError (UInt32 × Option FTeid)} (h : TunnelFound id t b r b') :
    b.pools.TakesTeid b'.pools b.session.resourceKey id := by
  cases h with
  | granted _ _ hgrant => exact .inr ⟨_, hgrant⟩
  | _ => exact .inl rfl

/-- **What the search for a key takes from the pools**, found or not. -/
theorem detection_moved (id : UInt16) (p : Pdi) (b : Workbench) :
    b.pools.MovedFor ((detection id p).work b).2.pools b.session.resourceKey (some id) := by
  cases hwork : (detection id p).work b with
  | mk r b' =>
    -- an address, and then a tunnel id if one is to be found
    cases detection_found_of_eq hwork with
    | noAddress haddress => exact (takesAddress_of_found haddress).1.movedFor (.inl rfl)
    | tunnel haddress _ hteid =>
      obtain ⟨haddress, hkey⟩ := takesAddress_of_found haddress
      have hteid := takesTeid_of_found hteid
      rw [hkey] at hteid
      exact haddress.movedFor hteid
    | noTunnel haddress _ hteid =>
      obtain ⟨haddress, hkey⟩ := takesAddress_of_found haddress
      have hteid := takesTeid_of_found hteid
      rw [hkey] at hteid
      exact haddress.movedFor hteid
    | address haddress => exact (takesAddress_of_found haddress).1.movedFor (.inl rfl)
    | neither haddress => exact (takesAddress_of_found haddress).1.movedFor (.inl rfl)

theorem drafted_moved (r : CreatePdr) (b : Workbench) :
    b.pools.MovedFor ((drafted r).work b).2.pools b.session.resourceKey
      (some r.pdrId.ruleId) := by
  unfold drafted
  rw [Keeps.work_bind Workbench.pools fun _ => .bind (.ofSession _) fun _ =>
    .bind (.ofSession _) fun _ => .bind (keeps_flow _) fun _ => .pure _]
  exact detection_moved _ _ b

theorem rekeyed_moved (pdr : SessionPdr) (r : UpdatePdr) (b : Workbench) :
    b.pools.MovedFor ((rekeyed pdr r).work b).2.pools b.session.resourceKey
      (some r.pdrId.ruleId) := by
  unfold rekeyed
  cases r.pdi with
  | none => exact .refl _ _ _
  | some pdi =>
    dsimp only
    rw [Keeps.work_bind Workbench.pools fun _ => .bind (keeps_flow _) fun _ => .pure _]
    exact detection_moved _ _ b

theorem redrafted_moved (r : UpdatePdr) (b : Workbench) :
    b.pools.MovedFor ((redrafted r).work b).2.pools b.session.resourceKey
      (some r.pdrId.ruleId) := by
  unfold redrafted
  rw [work_bind_ok (work_get b)]
  cases b.session.pdrs.get? r.pdrId.ruleId with
  | none => exact .refl _ _ _
  | some previous =>
    dsimp only
    -- looking names up touches nothing
    have hkeeps : Keeps id (renamed previous r) := keeps_renamed previous r
    have hrenamed := hkeeps b
    rw [work_bind]
    cases hwork : (renamed previous r).work b with
    | mk found b₁ =>
      obtain rfl : b₁ = b := by rwa [hwork] at hrenamed
      cases found with
      | error e => exact .refl _ _ _
      | ok mid =>
        dsimp only
        rw [Keeps.work_bind Workbench.pools fun _ => .pure _]
        exact rekeyed_moved mid r b₁

end RuleStep

/-! ## §5. Every operation. -/

/-- **An operation that fails leaves no mark** on the rules of a session that
agrees with the plane, or on the plane.  What it took from the pools by then is
held in the session's name, and is not taken twice. -/
theorem RuleOp.failure_unmarked (op : RuleOp) {b b' : Workbench} {e : SessionError}
    (hagrees : b.session.Agrees b.plane) (hwork : op.step.work b = (.error e, b')) :
    b'.session = b.session ∧ b'.plane = b.plane
      ∧ b.pools.MovedFor b'.pools b.session.resourceKey op.pdrId? := by
  have hnothing : b' = b → b'.session = b.session ∧ b'.plane = b.plane
      ∧ b.pools.MovedFor b'.pools b.session.resourceKey op.pdrId? := by
    rintro rfl
    exact ⟨rfl, rfl, .refl _ _ _⟩
  cases op with
  | createFar r => exact hnothing (RuleStep.createFar_error hagrees hwork)
  | updateFar r => exact hnothing (RuleStep.updateFar_error hagrees hwork)
  | removeFar id => exact hnothing (RuleStep.removeFar_error hagrees hwork)
  | createQer r => exact hnothing (RuleStep.createQer_error hagrees hwork)
  | updateQer r => exact hnothing (RuleStep.updateQer_error hagrees hwork)
  | removeQer id => exact hnothing (RuleStep.removeQer_error hagrees hwork)
  | createPdr r =>
    -- what fails is the draft, which touches nothing that stands
    have hdraft := RuleStep.createPdr_error hagrees hwork
    have hstanding := RuleStep.keeps_drafted r b
    have hmoved := RuleStep.drafted_moved r b
    rw [hdraft] at hstanding hmoved
    exact ⟨congrArg (·.1) hstanding, congrArg (·.2.1) hstanding, hmoved⟩
  | updatePdr r =>
    have hdraft := RuleStep.updatePdr_error hagrees hwork
    have hstanding := RuleStep.keeps_redrafted r b
    have hmoved := RuleStep.redrafted_moved r b
    rw [hdraft] at hstanding hmoved
    exact ⟨congrArg (·.1) hstanding, congrArg (·.2.1) hstanding, hmoved⟩
  | removePdr id =>
    have hok := RuleStep.removePdr_succeeds id hagrees
    rw [show (RuleStep.removePdr id).work b = _ from hwork] at hok
    cases hok

/-- A detection rule for which a tunnel id and an address are chosen before its
forwarding rule turns out not to be there. -/
def RuleOp.hasty : RuleOp :=
  .createPdr
    { pdrId := ⟨9⟩
      pdi :=
        { sourceInterface := .access
          localFTeid := some (.choose true false none)
          ueIpAddress := some { flags := 16 } }
      farId := some ⟨7⟩ }

theorem RuleOp.failure_unmarked_hasty : ∃ b b',
    b = (Life.newcomer.carryOut Life.sharing).2 ∧ b.session.Agrees b.plane
    ∧ hasty.step.work b = (.error (.unknownFar 7), b')
    ∧ b'.session = b.session ∧ b'.plane = b.plane
    ∧ b.pools.MovedFor b'.pools b.session.resourceKey (some 9)
    ∧ b'.pools.freeIpv4 < b.pools.freeIpv4 ∧ b'.pools.freeTeids < b.pools.freeTeids := by
  have hagrees : (Life.newcomer.carryOut Life.sharing).2.session.Agrees
      (Life.newcomer.carryOut Life.sharing).2.plane := by decide
  have hfails : (hasty.step.work (Life.newcomer.carryOut Life.sharing).2).1
      = .error (.unknownFar 7) := by decide
  have hwork : hasty.step.work (Life.newcomer.carryOut Life.sharing).2
      = (.error (.unknownFar 7), (hasty.step.work (Life.newcomer.carryOut Life.sharing).2).2) :=
    Prod.ext hfails rfl
  obtain ⟨hsession, hplane, hmoved⟩ := hasty.failure_unmarked hagrees hwork
  exact ⟨_, _, rfl, hagrees, hwork, hsession, hplane, hmoved, by decide, by decide⟩

end UserPlane
