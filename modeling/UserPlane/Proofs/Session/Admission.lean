/-
  UserPlane.Proofs.Session.Admission
  ──────────────────────────────────
  **WHICH ESTABLISHMENTS GO THROUGH.**

  The rules of a new session are made one by one, and the first that cannot be
  made ends the request.  If no two of a kind have the same number, whether all
  of them can be made is seen beforehand, from the request and from what is free
  (`Admissible`): every rule takes what it would take alone, and only what has
  to be shared is counted.

      Table.Answers        a table has an entry for each request, and no other
      Slotted.carryOut     rules that take slots, as many as there are
      createPdrs_outcome   detection rules, as long as they are supplied
      establish_outcome    all rules of an establishment
-/
import UserPlane.Proofs.Session.Supply

namespace UserPlane

/-- A request whose number is its own is neither one that was answered nor one that
is left. -/
theorem fresh_of_nodup {ρ κ : Type} {id : ρ → κ} {done rs : List ρ} {r : ρ}
    (h : ((done ++ r :: rs).map id).Nodup) :
    id r ∉ done.map id ∧ ∀ r' ∈ rs, id r' ≠ id r := by
  rw [List.map_append, List.map_cons] at h
  obtain ⟨-, hrest, hapart⟩ := List.nodup_append.mp h
  refine ⟨fun hmem => hapart _ hmem _ List.mem_cons_self rfl, fun r' hr' heq => ?_⟩
  exact (List.nodup_cons.mp hrest).1 (heq ▸ List.mem_map_of_mem hr')

/-- A table has an entry for each request, made for it, and no other. -/
structure Table.Answers {ρ κ β : Type} [DecidableEq κ] (t : Table κ β) (id : ρ → κ)
    (made : ρ → β → Prop) (rs : List ρ) : Prop where
  every : ∀ r ∈ rs, ∃ x, t.get? (id r) = some x ∧ made r x
  only : ∀ k x, t.get? k = some x → k ∈ rs.map id

namespace Table.Answers

variable {ρ κ β : Type} [DecidableEq κ] {t : Table κ β} {id : ρ → κ} {made made' : ρ → β → Prop}
  {rs : List ρ} {r : ρ} {x : β}

theorem nil : (Table.empty : Table κ β).Answers id made [] := ⟨nofun, nofun⟩

theorem get?_none (h : t.Answers id made rs) {k : κ} (hnew : k ∉ rs.map id) :
    t.get? k = none := by
  cases hget : t.get? k with
  | none => rfl
  | some x => exact absurd (h.only k x hget) hnew

/-- One more request is answered by one more entry. -/
theorem insert (h : t.Answers id made rs) (hnew : id r ∉ rs.map id) (hmade : made r x) :
    (t.insert (id r) x).Answers id made (rs ++ [r]) := by
  constructor
  · intro r' hr'
    rcases List.mem_append.mp hr' with hr' | hr'
    · obtain ⟨x', hget, hmade'⟩ := h.every r' hr'
      have hne : id r' ≠ id r := fun heq => hnew (heq ▸ List.mem_map_of_mem hr')
      exact ⟨x', by rw [Table.get?_insert, if_neg hne, hget], hmade'⟩
    · obtain rfl := List.mem_singleton.mp hr'
      exact ⟨x, by rw [Table.get?_insert, if_pos rfl], hmade⟩
  · intro k x' hget
    rw [List.map_append]
    rw [Table.get?_insert] at hget
    split at hget
    · next heq => exact List.mem_append_right _ (by simp [heq])
    · exact List.mem_append_left _ (h.only k x' hget)

theorem imp (h : t.Answers id made rs) (himp : ∀ r x, made r x → made' r x) :
    t.Answers id made' rs :=
  ⟨fun r hr => (h.every r hr).imp fun _ hx => ⟨hx.1, himp _ _ hx.2⟩, h.only⟩

/-- There is an entry exactly for the numbers of the requests. -/
theorem isSome_iff (h : t.Answers id made rs) (k : κ) :
    (t.get? k).isSome = true ↔ k ∈ rs.map id := by
  constructor
  · intro hsome
    obtain ⟨x, hx⟩ := Option.isSome_iff_exists.mp hsome
    exact h.only k x hx
  · intro hmem
    obtain ⟨r, hr, rfl⟩ := List.mem_map.mp hmem
    obtain ⟨x, hx, -⟩ := h.every r hr
    exact Option.isSome_of_eq_some hx

end Table.Answers

/-! ## §1. Rules that take slots. -/

/-- Operations of a kind that each take a slot, put what they make under its
number, and leave the rest alone. -/
structure Slotted {ρ β γ : Type} (op : ρ → RuleOp) (id : ρ → UInt32) (made : γ → ρ → β → Prop)
    (rules : Workbench → Table UInt32 β) (room : Workbench → Nat) (rest : Workbench → γ) :
    Prop where
  granted : ∀ b r, 0 < room b → (rules b).get? (id r) = none →
    ∃ x b', (op r).step.work b = (.ok (), b') ∧ made (rest b) r x
      ∧ rules b' = (rules b).insert (id r) x ∧ room b' + 1 = room b ∧ rest b' = rest b
  refused : ∀ b r, room b = 0 → ∃ e b', (op r).step.work b = (.error e, b')

/-- **Rules that take slots are made as long as there are slots.** -/
theorem Slotted.carryOut {ρ β γ : Type} {op : ρ → RuleOp} {id : ρ → UInt32}
    {made : γ → ρ → β → Prop} {rules : Workbench → Table UInt32 β} {room : Workbench → Nat}
    {rest : Workbench → γ} (h : Slotted op id made rules room rest) (rs : List ρ) (done : List ρ)
    {b : Workbench} (hanswers : (rules b).Answers id (made (rest b)) done)
    (hnodup : ((done ++ rs).map id).Nodup) :
    (rs.length ≤ room b ∧ ∃ b', b.carryOut (rs.map op) = (.ok (), b')
      ∧ (rules b').Answers id (made (rest b)) (done ++ rs) ∧ rest b' = rest b)
    ∨ room b < rs.length ∧ ∃ e b', b.carryOut (rs.map op) = (.error e, b') := by
  -- on the rules that are left, with those that were made carried along
  induction rs generalizing done b with
  | nil => exact .inl ⟨Nat.zero_le _, b, rfl, by rwa [List.append_nil], rfl⟩
  | cons r rs ih =>
    rw [List.map_cons, Workbench.carryOut_cons]
    obtain ⟨hnew, -⟩ := fresh_of_nodup hnodup
    rcases Nat.eq_zero_or_pos (room b) with hroom | hroom
    · obtain ⟨e, b', hwork⟩ := h.refused b r hroom
      rw [hwork]
      exact .inr ⟨by rw [hroom]; exact Nat.succ_pos _, e, b', rfl⟩
    · obtain ⟨x, b₁, hwork, hmade, hrules, hleft, hrest⟩ :=
        h.granted b r hroom (hanswers.get?_none hnew)
      rw [hwork]
      have hanswers₁ : (rules b₁).Answers id (made (rest b₁)) (done ++ [r]) := by
        rw [hrules, hrest]
        exact hanswers.insert hnew hmade
      have hnodup₁ : (((done ++ [r]) ++ rs).map id).Nodup := by
        rwa [List.append_assoc, List.singleton_append]
      rcases ih (done ++ [r]) hanswers₁ hnodup₁ with ⟨hle, b', hwork', hall, hrest'⟩ | ⟨hlt, herror⟩
      · refine .inl ⟨by rw [List.length_cons]; omega, b', hwork', ?_, hrest'.trans hrest⟩
        rwa [hrest, List.append_assoc, List.singleton_append] at hall
      · exact .inr ⟨by rw [List.length_cons]; omega, herror⟩

/-- How many forwarding rules there is room for. -/
def Plane.freeFars (p : Plane) : Nat := p.fars.tracker.available

/-- How many QoS rules there is room for. -/
def Plane.freeQers (p : Plane) : Nat := p.qers.tracker.available

/-- What is installed takes one slot, … -/
theorem Slots.install_of_pos {α : Type} {s : Slots α} (h : 0 < s.tracker.available) (a : α) :
    ∃ slot s', s.install a = some (slot, s')
      ∧ s'.tracker.available + 1 = s.tracker.available := by
  cases htake : s.tracker.take? with
  | none =>
    have hnone := SlotTracker.available_of_take?_none htake
    omega
  | some p =>
    refine ⟨p.1, ⟨s.rules.insert p.1 a, p.2⟩, ?_, SlotTracker.available_of_take? htake⟩
    rw [install, htake]
    rfl

/-- … and nothing is installed where there is none. -/
theorem Slots.install_of_zero {α : Type} {s : Slots α} (h : s.tracker.available = 0) (a : α) :
    s.install a = none := by
  cases htake : s.tracker.take? with
  | none =>
    rw [install, htake]
    rfl
  | some p =>
    have hsome := SlotTracker.available_of_take? htake
    omega

theorem RuleStep.slotted_createFar :
    Slotted RuleOp.createFar (·.farId.ruleId)
      (fun (rest : Workbench) r (far : SessionFar) => far.info = FarInfo.ofCreate r rest.n3)
      (·.session.fars) (·.plane.freeFars) Workbench.besidesFars := by
  constructor
  · intro b r hroom hnew
    obtain ⟨slot, slots, hinstall, hleft⟩ :=
      Slots.install_of_pos hroom (FarInfo.ofCreate r b.n3)
    have hnewFar : b.plane.newFar (FarInfo.ofCreate r b.n3)
        = .ok (slot, { b.plane with fars := slots }) := by
      rw [Plane.newFar, hinstall]
    refine ⟨⟨slot, FarInfo.ofCreate r b.n3⟩, withFars b _ slots, ?_, rfl, rfl, hleft, rfl⟩
    show (RuleStep.createFar r).work b = _
    unfold createFar
    rw [work_bind_ok (work_get b), work_bind, work_fromPlane, hnewFar]
    dsimp only
    rw [work_bind_ok (work_get _), work_bind_ok (work_onSession _ _)]
    dsimp only
    rw [hnew]
    rfl
  · intro b r hroom
    have hnewFar : b.plane.newFar (FarInfo.ofCreate r b.n3) = .error (.noFreeSlot .far) := by
      rw [Plane.newFar, Slots.install_of_zero hroom]
    refine ⟨.plane (.noFreeSlot .far), b, ?_⟩
    show (RuleStep.createFar r).work b = _
    unfold createFar
    rw [work_bind_ok (work_get b), work_bind, work_fromPlane, hnewFar]

theorem RuleStep.slotted_createQer :
    Slotted RuleOp.createQer (·.qerId.ruleId)
      (fun (_ : Workbench) r (qer : SessionQer) => qer.info = QerInfo.ofCreate r)
      (·.session.qers) (·.plane.freeQers) Workbench.besidesQers := by
  constructor
  · intro b r hroom hnew
    obtain ⟨slot, slots, hinstall, hleft⟩ := Slots.install_of_pos hroom (QerInfo.ofCreate r)
    have hnewQer : b.plane.newQer (QerInfo.ofCreate r)
        = .ok (slot, { b.plane with qers := slots }) := by
      rw [Plane.newQer, hinstall]
    refine ⟨⟨slot, QerInfo.ofCreate r⟩, withQers b _ slots, ?_, rfl, rfl, hleft, rfl⟩
    show (RuleStep.createQer r).work b = _
    unfold createQer
    rw [work_bind, work_fromPlane, hnewQer]
    dsimp only
    rw [work_bind_ok (work_get _), work_bind_ok (work_onSession _ _)]
    dsimp only
    rw [hnew]
    rfl
  · intro b r hroom
    have hnewQer : b.plane.newQer (QerInfo.ofCreate r) = .error (.noFreeSlot .qer) := by
      rw [Plane.newQer, Slots.install_of_zero hroom]
    refine ⟨.plane (.noFreeSlot .qer), b, ?_⟩
    show (RuleStep.createQer r).work b = _
    unfold createQer
    rw [work_bind, work_fromPlane, hnewQer]

/-! ## §2. One detection rule. -/

/-- What a detection rule names is there, and its flow can be read. -/
structure CreatePdr.Treatable (r : CreatePdr) (s : Session) : Prop where
  far : ∀ id ∈ r.farId, (s.fars.get? id.ruleId).isSome = true
  qer : ∀ id ∈ r.qerId, (s.qers.get? id.ruleId).isSome = true
  flow : ∃ flow, r.pdi.flow = .ok flow

theorem CreatePdr.Treatable.congr {r : CreatePdr} {s s' : Session} (h : r.Treatable s)
    (hfars : s'.fars = s.fars) (hqers : s'.qers = s.qers) : r.Treatable s' :=
  ⟨hfars ▸ h.far, hqers ▸ h.qer, h.flow⟩

/-- What a session keeps of a detection rule that was asked for, apart from the
key. -/
structure CreatePdr.FiledAs (r : CreatePdr) (s : Session) (pdr : SessionPdr) : Prop where
  farId : pdr.farId = r.farId.map (·.ruleId)
  qerId : pdr.qerId = r.qerId.map (·.ruleId)
  farSlot : s.farSlot pdr.farId = .ok pdr.info.farSlot
  qerSlot : s.qerSlot pdr.qerId = .ok pdr.info.qerSlot
  removal : pdr.info.outerHeaderRemoval = r.outerHeaderRemoval.map removalCode
  flow : r.pdi.flow = .ok pdr.info.flow

theorem CreatePdr.FiledAs.congr {r : CreatePdr} {s s' : Session} {pdr : SessionPdr}
    (h : r.FiledAs s pdr) (hfars : s'.fars = s.fars) (hqers : s'.qers = s.qers) :
    r.FiledAs s' pdr := by
  refine ⟨h.farId, h.qerId, ?_, ?_, h.removal, h.flow⟩
  · rw [← h.farSlot]
    unfold Session.farSlot
    rw [hfars]
  · rw [← h.qerSlot]
    unfold Session.qerSlot
    rw [hqers]

/-- A named forwarding rule has a slot if it is there. -/
theorem Session.farSlot_outcome (s : Session) (id : Option FarId) :
    ((∀ i ∈ id, (s.fars.get? i.ruleId).isSome = true)
      ∧ ∃ slot, s.farSlot (id.map (·.ruleId)) = .ok slot)
    ∨ (¬ ∀ i ∈ id, (s.fars.get? i.ruleId).isSome = true)
      ∧ ∃ e, s.farSlot (id.map (·.ruleId)) = .error e := by
  cases id with
  | none => exact .inl ⟨nofun, none, rfl⟩
  | some i =>
    unfold farSlot
    cases hfar : s.fars.get? i.ruleId with
    | some far => exact .inl ⟨fun j hj => by cases hj; simp [hfar], some far.slot, by simp [hfar]⟩
    | none => exact .inr ⟨fun h => by simpa [hfar] using h i rfl, .unknownFar i.ruleId, by simp [hfar]⟩

/-- A named QoS rule has a slot if it is there. -/
theorem Session.qerSlot_outcome (s : Session) (id : Option QerId) :
    ((∀ i ∈ id, (s.qers.get? i.ruleId).isSome = true)
      ∧ ∃ slot, s.qerSlot (id.map (·.ruleId)) = .ok slot)
    ∨ (¬ ∀ i ∈ id, (s.qers.get? i.ruleId).isSome = true)
      ∧ ∃ e, s.qerSlot (id.map (·.ruleId)) = .error e := by
  cases id with
  | none => exact .inl ⟨nofun, none, rfl⟩
  | some i =>
    unfold qerSlot
    cases hqer : s.qers.get? i.ruleId with
    | some qer => exact .inl ⟨fun j hj => by cases hj; simp [hqer], some qer.slot, by simp [hqer]⟩
    | none => exact .inr ⟨fun h => by simpa [hqer] using h i rfl, .unknownQer i.ruleId, by simp [hqer]⟩

/-- How the drafting of a detection rule can go. -/
inductive Drafting (r : CreatePdr) (b : Workbench) :
    Except SessionError SessionPdr → Workbench → Prop where
  | unkeyed {e : SessionError} {b₁ : Workbench}
      (hkey : KeyFound r.pdrId.ruleId r.pdi b (.error e) b₁) : Drafting r b (.error e) b₁
  | untreated {d : Detection} {e : SessionError} {b₁ : Workbench}
      (hkey : KeyFound r.pdrId.ruleId r.pdi b (.ok d) b₁) (htreat : ¬ r.Treatable b.session) :
      Drafting r b (.error e) b₁
  | drafted {pdr : SessionPdr} {b₁ : Workbench}
      (hkey : KeyFound r.pdrId.ruleId r.pdi b (.ok pdr.detection) b₁)
      (htreat : r.Treatable b.session) (hfiled : r.FiledAs b.session pdr) :
      Drafting r b (.ok pdr) b₁

namespace RuleStep

/-- **A detection rule is drafted** if a key is found and the rule can be
treated. -/
theorem drafted_drafting (r : CreatePdr) (b : Workbench) :
    Drafting r b ((drafted r).work b).1 ((drafted r).work b).2 := by
  have hkey := detection_found r.pdrId.ruleId r.pdi b
  have hstanding := keeps_detection r.pdrId.ruleId r.pdi b
  unfold drafted
  rw [work_bind]
  cases hwork : (detection r.pdrId.ruleId r.pdi).work b with
  | mk result b₁ =>
    rw [hwork] at hkey hstanding
    have hsession : b₁.session = b.session := congrArg (·.1) hstanding
    cases result with
    | error e => exact .unkeyed hkey
    | ok d =>
      dsimp only
      rw [work_bind, work_ofSession, hsession]
      rcases b.session.farSlot_outcome r.farId with ⟨hfar, slot, hslot⟩ | ⟨hfar, e, herror⟩
      · rw [hslot]
        dsimp only
        rw [work_bind, work_ofSession, hsession]
        rcases b.session.qerSlot_outcome r.qerId with ⟨hqer, slot', hslot'⟩ | ⟨hqer, e, herror⟩
        · rw [hslot']
          dsimp only
          rw [work_bind, work_flow]
          cases hflow : r.pdi.flow with
          | ok flow =>
            let pdr : SessionPdr := ⟨d, r.farId.map (·.ruleId), r.qerId.map (·.ruleId),
              ⟨r.outerHeaderRemoval.map removalCode, slot, slot', flow⟩⟩
            have hfiled : r.FiledAs b.session pdr := ⟨rfl, rfl, hslot, hslot', rfl, hflow⟩
            have hdrafted : Drafting r b (.ok pdr) b₁ :=
              .drafted hkey ⟨hfar, hqer, flow, hflow⟩ hfiled
            exact hdrafted
          | error e =>
            refine .untreated hkey fun htreat => ?_
            obtain ⟨flow, hok⟩ := htreat.flow
            cases hflow.symm.trans hok
        · rw [herror]
          exact .untreated hkey fun htreat => hqer htreat.qer
      · rw [herror]
        exact .untreated hkey fun htreat => hfar htreat.far

/-- **A detection rule with a number of its own** is made if it can be supplied
and treated. -/
theorem createPdr_new {r : CreatePdr} {b : Workbench}
    (hnew : b.session.pdrs.get? r.pdrId.ruleId = none) (hnone : b.Teidless r.pdrId.ruleId)
    (hstated : r.pdi.Stated) :
    (∃ pdr b', (createPdr r).work b = (.ok (), b') ∧ r.FiledAs b.session pdr
      ∧ r.Treatable b.session ∧ r.pdi.keyable = true ∧ b.Served r.pdrId.ruleId r.pdi b'
      ∧ b'.session = { b.session with pdrs := b.session.pdrs.insert r.pdrId.ruleId pdr })
    ∨ ∃ e b', (createPdr r).work b = (.error e, b')
      ∧ (b.Lacks r.pdi ∨ ¬ r.Treatable b.session) := by
  have hdrafting := drafted_drafting r b
  have hstanding := keeps_drafted r b
  rw [createPdr_eq, work_bind]
  cases hwork : (drafted r).work b with
  | mk result b₁ =>
    rw [hwork] at hdrafting hstanding
    have hsession : b₁.session = b.session := congrArg (·.1) hstanding
    cases hdrafting with
    | unkeyed hkey => exact .inr ⟨_, b₁, rfl, .inl (hkey.lacks hstated)⟩
    | untreated hkey htreat => exact .inr ⟨_, b₁, rfl, .inr htreat⟩
    | @drafted pdr _ hkey htreat hfiled =>
      obtain ⟨hkeyable, hserved⟩ := hkey.served hnone
      dsimp only
      unfold filed
      rw [work_bind_ok (work_get b₁), hsession, hnew]
      refine .inl ⟨pdr, _, work_put _ pdr b₁, hfiled, htreat, hkeyable, hserved.of_given rfl, ?_⟩
      rw [hsession]

end RuleStep

/-! ## §3. All detection rules. -/

/-- Whatever a list of detection rules needs is there. -/
structure Workbench.Supplies (b : Workbench) (rs : List CreatePdr) : Prop where
  keyable : ∀ r ∈ rs, r.pdi.keyable = true
  treatable : ∀ r ∈ rs, r.Treatable b.session
  teids : b.OffersTeids (rs.filterMap (·.pdi.wish?))
  ipv4 : ∀ r ∈ rs, r.pdi.asksIpv4 = true → b.OffersIpv4
  ipv6 : ∀ r ∈ rs, r.pdi.asksIpv6 = true → b.OffersIpv6

namespace Workbench

variable {b b' : Workbench} {r : CreatePdr} {rs : List CreatePdr}

theorem supplies_nil (b : Workbench) : b.Supplies [] where
  keyable := List.forall_mem_nil _
  treatable := List.forall_mem_nil _
  teids := by
    unfold OffersTeids
    rw [List.filterMap_nil, demand_nil]
    exact Nat.zero_le _
  ipv4 := List.forall_mem_nil _
  ipv6 := List.forall_mem_nil _

theorem filterMap_wish (r : CreatePdr) (rs : List CreatePdr) :
    (r :: rs).filterMap (·.pdi.wish?) = r.pdi.wish?.toList ++ rs.filterMap (·.pdi.wish?) := by
  rw [List.filterMap_cons]
  cases r.pdi.wish? <;> rfl

/-- What a rule that is made leaves is enough for the others exactly if there was
enough for all. -/
theorem Served.supplies_iff {id : UInt16} (h : b.Served id r.pdi b')
    (hkeyable : r.pdi.keyable = true) (htreat : r.Treatable b.session)
    (hfars : b'.session.fars = b.session.fars) (hqers : b'.session.qers = b.session.qers) :
    b.Supplies (r :: rs) ↔ b'.Supplies rs := by
  constructor
  · intro hs
    have hmem : ∀ {r'}, r' ∈ rs → r' ∈ r :: rs := fun hr' => List.mem_cons_of_mem r hr'
    refine ⟨fun r' hr' => hs.keyable r' (hmem hr'),
      fun r' hr' => (hs.treatable r' (hmem hr')).congr hfars hqers, ?_,
      fun r' hr' hasks => h.ipv4_iff.mpr (hs.ipv4 r' (hmem hr') hasks),
      fun r' hr' hasks => h.ipv6_iff.mpr (hs.ipv6 r' (hmem hr') hasks)⟩
    have hteids := hs.teids
    rwa [filterMap_wish, h.teids_iff] at hteids
  · intro hs
    constructor
    · exact List.forall_mem_cons.mpr ⟨hkeyable, hs.keyable⟩
    · exact List.forall_mem_cons.mpr ⟨htreat, fun r' hr' =>
        (hs.treatable r' hr').congr hfars.symm hqers.symm⟩
    · rw [filterMap_wish, h.teids_iff]
      exact hs.teids
    · exact List.forall_mem_cons.mpr ⟨h.ipv4, fun r' hr' hasks =>
        h.ipv4_iff.mp (hs.ipv4 r' hr' hasks)⟩
    · exact List.forall_mem_cons.mpr ⟨h.ipv6, fun r' hr' hasks =>
        h.ipv6_iff.mp (hs.ipv6 r' hr' hasks)⟩

/-- What is lacking for the first is lacking for all. -/
theorem Lacks.not_supplies (h : b.Lacks r.pdi) : ¬ b.Supplies (r :: rs) := by
  intro hs
  cases h with
  | ipv4 hasks hnone => exact hnone (hs.ipv4 r List.mem_cons_self hasks)
  | ipv6 hasks hnone => exact hnone (hs.ipv6 r List.mem_cons_self hasks)
  | teid hnone =>
    have hteids := hs.teids
    rw [filterMap_wish] at hteids
    exact hnone _ hteids
  | key hnone =>
    rw [hs.keyable r List.mem_cons_self] at hnone
    cases hnone

/-- **Detection rules are made as long as they are supplied.** -/
theorem createPdrs_outcome {s : Session} (rs done : List CreatePdr) {b : Workbench}
    (hfars : b.session.fars = s.fars) (hqers : b.session.qers = s.qers)
    (hanswers : b.session.pdrs.Answers (·.pdrId.ruleId) (CreatePdr.FiledAs · s) done)
    (hnodup : ((done ++ rs).map (·.pdrId.ruleId)).Nodup)
    (hnone : ∀ r ∈ rs, b.Teidless r.pdrId.ruleId) (hstated : ∀ r ∈ rs, r.pdi.Stated) :
    (b.Supplies rs ∧ ∃ b', b.carryOut (rs.map .createPdr) = (.ok (), b')
      ∧ b'.session.pdrs.Answers (·.pdrId.ruleId) (CreatePdr.FiledAs · s) (done ++ rs))
    ∨ ¬ b.Supplies rs ∧ ∃ e b', b.carryOut (rs.map .createPdr) = (.error e, b') := by
  -- on the rules that are left, with those that were made carried along
  induction rs generalizing done b with
  | nil =>
    exact .inl ⟨supplies_nil b, b, rfl, by rwa [List.append_nil]⟩
  | cons r rs ih =>
    rw [List.map_cons, carryOut_cons]
    obtain ⟨hnew, hapart⟩ := fresh_of_nodup hnodup
    have hstep := RuleStep.createPdr_new (hanswers.get?_none hnew)
      (hnone r List.mem_cons_self) (hstated r List.mem_cons_self)
    rcases hstep with ⟨pdr, b₁, hwork, hfiled, htreat, hkeyable, hserved, hsession⟩ |
      ⟨e, b₁, hwork, hlacks⟩
    · rw [RuleOp.step, hwork]
      have hfars₁ : b₁.session.fars = b.session.fars := by rw [hsession]
      have hqers₁ : b₁.session.qers = b.session.qers := by rw [hsession]
      rw [hserved.supplies_iff hkeyable htreat hfars₁ hqers₁]
      have hanswers₁ : b₁.session.pdrs.Answers (·.pdrId.ruleId) (CreatePdr.FiledAs · s)
          (done ++ [r]) := by
        rw [hsession]
        exact hanswers.insert hnew (hfiled.congr hfars.symm hqers.symm)
      have hnext := ih (done ++ [r]) (hfars₁.trans hfars) (hqers₁.trans hqers) hanswers₁
        (by rwa [List.append_assoc, List.singleton_append])
        (fun r' hr' => hserved.others _ (hapart r' hr') (hnone r' (List.mem_cons_of_mem r hr')))
        (fun r' hr' => hstated r' (List.mem_cons_of_mem r hr'))
      rwa [List.append_assoc, List.singleton_append] at hnext
    · rw [RuleOp.step, hwork]
      refine .inr ⟨?_, e, b₁, rfl⟩
      rcases hlacks with hlacks | hlacks
      · exact hlacks.not_supplies
      · exact fun hs => hlacks (hs.treatable r List.mem_cons_self)

end Workbench

/-! ## §4. What a session that holds nothing is offered. -/

theorem Cursor.take?_isSome_iff (c : Cursor) : c.take?.isSome = true ↔ 0 < c.remaining := by
  rw [Cursor.remaining_eq]
  cases htake : c.take? with
  | none => simp [Cursor.left_of_take?_none htake]
  | some p =>
    have hleft := Cursor.left_take? htake
    have hceiling : 0 < Cursor.ceiling := by decide
    simp only [Option.isSome_some, true_iff]
    omega

theorem AddressPool.allocate_isSome_iff {w : Nat} {p : AddressPool w} {key : UInt64}
    (h : p.held.get? key = none) : (p.allocate key).isSome = true ↔ 0 < p.offsets.remaining := by
  unfold allocate
  rw [h]
  dsimp only
  rw [Option.isSome_map, Cursor.take?_isSome_iff]

namespace Workbench

variable {b : Workbench}

theorem offersIpv4_iff (h : ¬ b.pools.Busy b.session.resourceKey) :
    b.OffersIpv4 ↔ 0 < b.pools.freeIpv4 :=
  AddressPool.allocate_isSome_iff (Table.get?_of_not_contains fun hheld => h (.inl hheld))

theorem offersIpv6_iff (h : ¬ b.pools.Busy b.session.resourceKey) :
    b.OffersIpv6 ↔ ∃ pool ∈ b.pools.ipv6, 0 < pool.offsets.remaining := by
  unfold OffersIpv6
  cases hpool : b.pools.ipv6 with
  | none => simp
  | some pool =>
    have hnone : pool.held.get? b.session.resourceKey = none :=
      Table.get?_of_not_contains fun hheld => h (.inr (.inl (by
        unfold Pools.heldIpv6
        rwa [hpool])))
    simp [AddressPool.allocate_isSome_iff hnone]

theorem offersTeids_iff (hsound : b.pools.Sound) (hchosen : b.chosen = .empty)
    (wishes : List (Option UInt8)) :
    b.OffersTeids wishes
      ↔ wishes.count none + wishes.reduceOption.dedup.length ≤ b.pools.freeTeids := by
  unfold OffersTeids
  rw [hchosen, demand_empty, hsound.freeTeids_eq_left]

theorem teidless_of_idle (h : ¬ b.pools.Busy b.session.resourceKey) (id : UInt16) :
    b.Teidless id := by
  have hnone : b.pools.teids.held.get? b.session.resourceKey = none :=
    Table.get?_of_not_contains fun hheld => h (.inr (.inr hheld))
  unfold Teidless TeidPool.heldBy
  rw [hnone]
  rfl

end Workbench

/-! ## §5. Establishments. -/

namespace SessionEstablishmentRequest

/-- The wishes for tunnel ids. -/
def wishes (m : SessionEstablishmentRequest) : List (Option UInt8) :=
  m.createPdr.filterMap (·.pdi.wish?)

/-- No two rules of a kind have the same number. -/
structure Distinct (m : SessionEstablishmentRequest) : Prop where
  fars : (m.createFar.map (·.farId.ruleId)).Nodup
  qers : (m.createQer.map (·.qerId.ruleId)).Nodup
  pdrs : (m.createPdr.map (·.pdrId.ruleId)).Nodup

/-- **What an establishment needs**: slots for its rules; for every detection
rule something to key it by, the rules that it names among those of the request,
and a flow that can be read; and of what the node is to choose, a tunnel id for
each wish without a number and for each number, and an address of the kinds that
are asked for. -/
structure Admissible (m : SessionEstablishmentRequest) (plane : Plane) (pools : Pools) :
    Prop where
  fars : m.createFar.length ≤ plane.freeFars
  qers : m.createQer.length ≤ plane.freeQers
  keyable : ∀ r ∈ m.createPdr, r.pdi.keyable = true
  farNamed : ∀ r ∈ m.createPdr, ∀ id ∈ r.farId, id.ruleId ∈ m.createFar.map (·.farId.ruleId)
  qerNamed : ∀ r ∈ m.createPdr, ∀ id ∈ r.qerId, id.ruleId ∈ m.createQer.map (·.qerId.ruleId)
  flows : ∀ r ∈ m.createPdr, ∀ text, r.pdi.sdfFilter.bind (·.flowDescription) = some text →
    ∃ flow, Flow.ofText text = .ok flow
  teids : m.wishes.count none + m.wishes.reduceOption.dedup.length ≤ pools.freeTeids
  ipv4 : ∀ r ∈ m.createPdr, r.pdi.asksIpv4 = true → 0 < pools.freeIpv4
  ipv6 : ∀ r ∈ m.createPdr, r.pdi.asksIpv6 = true →
    ∃ pool ∈ pools.ipv6, 0 < pool.offsets.remaining

/-- **A session has the rules of an establishment**, and no other: each as it was
asked for, and each detection rule keyed as it was to be. -/
structure Carried (m : SessionEstablishmentRequest) (b : Workbench) : Prop where
  fars : b.session.fars.Answers (·.farId.ruleId)
    (fun r far => far.info = FarInfo.ofCreate r b.n3) m.createFar
  qers : b.session.qers.Answers (·.qerId.ruleId)
    (fun r qer => qer.info = QerInfo.ofCreate r) m.createQer
  pdrs : b.session.pdrs.Answers (·.pdrId.ruleId) (CreatePdr.FiledAs · b.session) m.createPdr
  keys : ∀ r ∈ m.createPdr, ∀ pdr, b.session.pdrs.get? r.pdrId.ruleId = some pdr →
    Keyed b.pools b.session.resourceKey r.pdrId.ruleId r.pdi pdr.detection

end SessionEstablishmentRequest

theorem Pdi.flow_ok_iff (p : Pdi) : (∃ flow, p.flow = .ok flow)
    ↔ ∀ text, p.sdfFilter.bind (·.flowDescription) = some text →
      ∃ flow, Flow.ofText text = .ok flow := by
  unfold Pdi.flow
  cases p.sdfFilter.bind (·.flowDescription) with
  | none => simp
  | some text =>
    dsimp only
    cases hflow : Flow.ofText text with
    | ok f => simp [Except.map, hflow]
    | error e => simp [Except.map, hflow]

section

variable {m : SessionEstablishmentRequest} {b : Workbench}

/-- What detection rules need once the rules that they name are made. -/
theorem Workbench.supplies_iff {madeFar : CreateFar → SessionFar → Prop}
    {madeQer : CreateQer → SessionQer → Prop} (hsound : b.pools.Sound)
    (hidle : ¬ b.pools.Busy b.session.resourceKey) (hchosen : b.chosen = .empty)
    (hfars : b.session.fars.Answers (·.farId.ruleId) madeFar m.createFar)
    (hqers : b.session.qers.Answers (·.qerId.ruleId) madeQer m.createQer) {plane : Plane}
    (hroomFars : m.createFar.length ≤ plane.freeFars)
    (hroomQers : m.createQer.length ≤ plane.freeQers) :
    b.Supplies m.createPdr ↔ m.Admissible plane b.pools := by
  constructor
  · intro hs
    refine ⟨hroomFars, hroomQers, hs.keyable, ?_, ?_, ?_, ?_, ?_, ?_⟩
    · exact fun r hr id hid => (hfars.isSome_iff _).mp ((hs.treatable r hr).far id hid)
    · exact fun r hr id hid => (hqers.isSome_iff _).mp ((hs.treatable r hr).qer id hid)
    · exact fun r hr => (Pdi.flow_ok_iff _).mp (hs.treatable r hr).flow
    · exact (offersTeids_iff hsound hchosen _).mp hs.teids
    · exact fun r hr hasks => (offersIpv4_iff hidle).mp (hs.ipv4 r hr hasks)
    · exact fun r hr hasks => (offersIpv6_iff hidle).mp (hs.ipv6 r hr hasks)
  · intro ha
    refine ⟨ha.keyable, fun r hr => ⟨?_, ?_, ?_⟩, ?_, ?_, ?_⟩
    · exact fun id hid => (hfars.isSome_iff _).mpr (ha.farNamed r hr id hid)
    · exact fun id hid => (hqers.isSome_iff _).mpr (ha.qerNamed r hr id hid)
    · exact (Pdi.flow_ok_iff _).mpr (ha.flows r hr)
    · exact (offersTeids_iff hsound hchosen _).mpr ha.teids
    · exact fun r hr hasks => (offersIpv4_iff hidle).mpr (ha.ipv4 r hr hasks)
    · exact fun r hr hasks => (offersIpv6_iff hidle).mpr (ha.ipv6 r hr hasks)

/-- The rule of a number was keyed by the request for it. -/
theorem lastPdi_ops (hdistinct : (m.createPdr.map (·.pdrId.ruleId)).Nodup) {r : CreatePdr}
    (hr : r ∈ m.createPdr) {pdi : Pdi} (hlast : lastPdi m.ops r.pdrId.ruleId = some pdi) :
    pdi = r.pdi := by
  obtain ⟨op, hop, hpdi⟩ := List.exists_of_findSome?_eq_some hlast
  rw [List.mem_reverse] at hop
  unfold SessionEstablishmentRequest.ops at hop
  rcases List.mem_append.mp hop with hop | hop
  · rcases List.mem_append.mp hop with hop | hop
    · obtain ⟨far, -, rfl⟩ := List.mem_map.mp hop
      cases hpdi
    · obtain ⟨qer, -, rfl⟩ := List.mem_map.mp hop
      cases hpdi
  · obtain ⟨r', hr', rfl⟩ := List.mem_map.mp hop
    unfold RuleOp.pdi? at hpdi
    dsimp only at hpdi
    split at hpdi
    · next hid =>
      cases hpdi
      rw [List.inj_on_of_nodup_map hdistinct hr' hr hid]
    · cases hpdi

/-- **Which establishments go through**: those that are admissible, and the
session then has exactly their rules. -/
theorem Workbench.establish_outcome (htraced : b.Traced []) (hdistinct : m.Distinct)
    (hfars : b.session.fars = .empty) (hqers : b.session.qers = .empty)
    (hpdrs : b.session.pdrs = .empty) (hchosen : b.chosen = .empty)
    (hidle : ¬ b.pools.Busy b.session.resourceKey) (hstated : ∀ r ∈ m.createPdr, r.pdi.Stated) :
    (m.Admissible b.plane b.pools ∧ ∃ b', b.carryOut m.ops = (.ok (), b') ∧ m.Carried b')
    ∨ ¬ m.Admissible b.plane b.pools ∧ ∃ e b', b.carryOut m.ops = (.error e, b') := by
  have hwhole := htraced.carryOut m.ops
  have hsplit : b.carryOut m.ops = _ := b.carryOut_append
    (m.createFar.map .createFar ++ m.createQer.map .createQer) (m.createPdr.map .createPdr)
  rw [carryOut_append] at hsplit
  -- the forwarding rules
  have hfarsBefore : b.session.fars.Answers (·.farId.ruleId)
      (fun r far => far.info = FarInfo.ofCreate r b.besidesFars.n3) [] := hfars ▸ .nil
  rcases RuleStep.slotted_createFar.carryOut m.createFar [] hfarsBefore hdistinct.fars with
    ⟨hroomFars, b₁, hwork₁, hfars₁, hrest₁⟩ | ⟨hroom, e, b₁, hwork₁⟩
  case inr =>
    rw [hwork₁] at hsplit
    refine .inr ⟨fun ha => ?_, e, b₁, hsplit⟩
    have hneeded := ha.fars
    omega
  rw [hwork₁] at hsplit
  dsimp only at hsplit
  -- the QoS rules
  have hqers₁ : b₁.session.qers = .empty := (congrArg (·.session.qers) hrest₁).trans hqers
  have hfree₁ : b₁.plane.freeQers = b.plane.freeQers := congrArg (·.plane.freeQers) hrest₁
  have hqersBefore : b₁.session.qers.Answers (·.qerId.ruleId)
      (fun r qer => qer.info = QerInfo.ofCreate r) [] := hqers₁ ▸ .nil
  rcases RuleStep.slotted_createQer.carryOut m.createQer [] hqersBefore hdistinct.qers with
    ⟨hroomQers, b₂, hwork₂, hqers₂, hrest₂⟩ | ⟨hroom, e, b₂, hwork₂⟩
  case inr =>
    rw [hwork₂] at hsplit
    refine .inr ⟨fun ha => ?_, e, b₂, hsplit⟩
    have hneeded := ha.qers
    omega
  rw [hwork₂] at hsplit
  dsimp only at hsplit
  -- the pools are as they were, and the detection rules find the others in place
  have hpools₂ : b₂.pools = b.pools :=
    (congrArg (·.pools) hrest₂).trans (congrArg (·.pools) hrest₁)
  have hkey₂ : b₂.session.resourceKey = b.session.resourceKey :=
    (congrArg (·.session.resourceKey) hrest₂).trans (congrArg (·.session.resourceKey) hrest₁)
  have hchosen₂ : b₂.chosen = .empty :=
    ((congrArg (·.chosen) hrest₂).trans (congrArg (·.chosen) hrest₁)).trans hchosen
  have hpdrs₂ : b₂.session.pdrs = .empty :=
    ((congrArg (·.session.pdrs) hrest₂).trans (congrArg (·.session.pdrs) hrest₁)).trans hpdrs
  have hn3₂ : b₂.n3 = b.n3 := (congrArg (·.n3) hrest₂).trans (congrArg (·.n3) hrest₁)
  have hfars₂ : b₂.session.fars = b₁.session.fars := congrArg (·.session.fars) hrest₂
  have hidle₂ : ¬ b₂.pools.Busy b₂.session.resourceKey := by
    rw [hpools₂, hkey₂]
    exact hidle
  have hsupplies : b₂.Supplies m.createPdr ↔ m.Admissible b.plane b.pools := by
    rw [← hpools₂]
    exact supplies_iff (hpools₂ ▸ htraced.sound) hidle₂ hchosen₂ (hfars₂ ▸ hfars₁) hqers₂ hroomFars
      (hfree₁ ▸ hroomQers)
  have hpdrsBefore : b₂.session.pdrs.Answers (·.pdrId.ruleId)
      (CreatePdr.FiledAs · b₂.session) [] := hpdrs₂ ▸ .nil
  have houtcome := createPdrs_outcome m.createPdr [] rfl rfl hpdrsBefore hdistinct.pdrs
    (fun r _ => teidless_of_idle hidle₂ _) hstated
  rw [hsupplies, ← hsplit] at houtcome
  refine houtcome.imp_left fun ⟨ha, b', hwork, hpdrs'⟩ => ⟨ha, b', hwork, ?_⟩
  -- they leave the others alone
  have hkept : (b₂.carryOut (m.createPdr.map .createPdr)).2.besidesPdrs = b₂.besidesPdrs := by
    refine carryOut_keeps_of_mem (fun op hop => ?_) b₂
    obtain ⟨r, -, rfl⟩ := List.mem_map.mp hop
    exact RuleStep.keeps_createPdr r
  rw [← hsplit, hwork] at hkept
  have hfars' : b'.session.fars = b₂.session.fars := congrArg (·.1.fars) hkept
  have hqers' : b'.session.qers = b₂.session.qers := congrArg (·.1.qers) hkept
  have hn3' : b'.n3 = b.n3 := (congrArg (·.2.2.2.1) hkept).trans hn3₂
  rw [carriedOut_of_ok hwork, hwork] at hwhole
  constructor
  · rw [hfars', hfars₂, hn3']
    exact hfars₁
  · rw [hqers']
    exact hqers₂
  · exact hpdrs'.imp fun r pdr hfiled => hfiled.congr hfars' hqers'
  · intro r hr pdr hget
    obtain ⟨pdi, hlast, hkeyed⟩ := hwhole.provenance _ _ hget
    rwa [lastPdi_ops hdistinct.pdrs hr hlast] at hkeyed

end

end UserPlane
