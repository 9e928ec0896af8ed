/-
  UserPlane.Proofs.Session.Reordering
  ───────────────────────────────────
  **THE ORDER IN WHICH A SESSION HAS ITS RULES.**

  A session's detection rules stand in some order, which nothing looks at but the
  search for a rule that takes an entry over (`Session.otherWith`).  So two sessions
  with the same rules in different orders go the same way through any operations,
  and have entries under the same keys (`Workbench.Alike`), although perhaps not
  the same entries.

      perm_iff                  the same entries in another order
      RuleOp.agree              an operation goes the same way in every order
      Alike.carryOut            … and so does a request
-/
import Mathlib.Data.List.Perm.Basic
import UserPlane.Proofs.Session.Footprint

namespace UserPlane

/-! ## §1. Tables in another order. -/

namespace Table

variable {κ α : Type} [DecidableEq κ]

/-- Two tables have the same entries, in whatever order, if the same is found in
them. -/
theorem perm_iff {t t' : Table κ α} :
    t'.entries.Perm t.entries ↔ ∀ k, t'.get? k = t.get? k := by
  constructor
  · intro h k
    refine Option.ext fun a => ?_
    rw [← mem_entries_iff, ← mem_entries_iff, h.mem_iff]
  · intro h
    refine (List.perm_ext_iff_of_nodup (.of_map _ t'.nodup) (.of_map _ t.nodup)).mpr ?_
    rintro ⟨k, a⟩
    rw [mem_entries_iff, mem_entries_iff, h]

/-- The table with the entry under a key moved to the front. -/
def fronted (t : Table κ α) (k : κ) (a : α) : Table κ α where
  entries := (k, a) :: (t.erase k).entries
  nodup := by
    refine List.nodup_cons.mpr ⟨fun hmem => ?_, (t.erase k).nodup⟩
    obtain ⟨⟨k', a'⟩, he, rfl⟩ := List.mem_map.mp hmem
    have hget := (mem_entries_iff _ _ _).mp he
    rw [get?_erase, if_pos rfl] at hget
    cases hget

theorem get?_fronted {t : Table κ α} {k : κ} {a : α} (h : t.get? k = some a) (k' : κ) :
    (t.fronted k a).get? k' = t.get? k' := by
  show ((k, a) :: (t.erase k).entries).lookup k' = _
  rw [lookup_cons_if]
  by_cases hk : k' = k
  · rw [if_pos hk, hk, h]
  · rw [if_neg hk]
    exact (get?_erase t k k').trans (if_neg hk)

end Table

/-! ## §2. Workbenches that differ in order. -/

namespace Workbench

/-- All but the detection rules of the session and of the plane. -/
def besidesDetection (b : Workbench) : Workbench :=
  { b with session := { b.session with pdrs := .empty }, plane := { b.plane with pdrs := .empty } }

/-- The session has the same detection rules on both workbenches, in whatever order;
the plane has entries under the same keys; and all the rest is the same. -/
structure Alike (b b' : Workbench) : Prop where
  rules : ∀ id, b'.session.pdrs.get? id = b.session.pdrs.get? id
  keys : ∀ d, b'.plane.pdrs.contains d = b.plane.pdrs.contains d
  rest : b'.besidesDetection = b.besidesDetection

namespace Alike

variable {b b' : Workbench}

theorem fars (h : b.Alike b') : b'.session.fars = b.session.fars :=
  congrArg (·.session.fars) h.rest

theorem qers (h : b.Alike b') : b'.session.qers = b.session.qers :=
  congrArg (·.session.qers) h.rest

theorem resourceKey (h : b.Alike b') : b'.session.resourceKey = b.session.resourceKey :=
  congrArg (·.session.resourceKey) h.rest

theorem pools (h : b.Alike b') : b'.pools = b.pools := congrArg (·.pools) h.rest

theorem n3 (h : b.Alike b') : b'.n3 = b.n3 := congrArg (·.n3) h.rest

theorem chosen (h : b.Alike b') : b'.chosen = b.chosen := congrArg (·.chosen) h.rest

/-- The planes differ in their entries only. -/
theorem plane (h : b.Alike b') : b'.plane = { b.plane with pdrs := b'.plane.pdrs } := by
  have hfars : b'.plane.fars = b.plane.fars := congrArg (·.plane.fars) h.rest
  have hqers : b'.plane.qers = b.plane.qers := congrArg (·.plane.qers) h.rest
  show b'.plane = ⟨b'.plane.pdrs, b.plane.fars, b.plane.qers⟩
  rw [← hfars, ← hqers]

/-- Entries are written under one key, whatever they are. -/
theorem put (h : b.Alike b') (d : Detection) (info info' : PdrInfo) :
    Alike { b with plane := b.plane.putPdr d info }
      { b' with plane := b'.plane.putPdr d info' } where
  rules := h.rules
  keys d' := by
    show ((b'.plane.pdrs.insert d info').get? d').isSome
      = ((b.plane.pdrs.insert d info).get? d').isSome
    rw [Table.get?_insert, Table.get?_insert]
    by_cases hd : d' = d
    · rw [if_pos hd, if_pos hd]
      rfl
    · rw [if_neg hd, if_neg hd]
      exact h.keys d'
  rest := h.rest

end Alike

end Workbench

/-! ## §3. Steps that go the same way. -/

namespace RuleStep

variable {α β : Type}

/-- A step goes the same way on workbenches that differ in order, and leaves
workbenches that differ in order. -/
def Agree (x : RuleStep α) : Prop :=
  ∀ b b', b.Alike b' → (x.work b').1 = (x.work b).1 ∧ (x.work b).2.Alike (x.work b').2

namespace Agree

theorem pure (a : α) : Agree (Pure.pure a : RuleStep α) := fun _ _ h => ⟨rfl, h⟩

theorem throw (e : SessionError) : Agree (MonadExcept.throw e : RuleStep α) := fun _ _ h => ⟨rfl, h⟩

theorem bind {x : RuleStep α} {f : α → RuleStep β} (hx : Agree x) (hf : ∀ a, Agree (f a)) :
    Agree (x >>= f) := by
  intro b b' h
  obtain ⟨hresult, hafter⟩ := hx b b' h
  rw [work_bind, work_bind]
  -- if the first step fails, it fails on both
  cases hwork : x.work b with
  | mk r b₁ =>
    cases hwork' : x.work b' with
    | mk r' b₁' =>
      rw [hwork, hwork'] at hresult hafter
      cases hresult
      cases r with
      | ok a => exact hf a b₁ b₁' hafter
      | error e => exact ⟨rfl, hafter⟩

/-- What is read off the workbench is the same, as far as it matters. -/
theorem get_bind {f : Workbench → RuleStep α} (hsame : ∀ b b', b.Alike b' → f b' = f b)
    (hf : ∀ b, Agree (f b)) : Agree (get >>= f) := by
  intro b b' h
  rw [work_bind_ok (work_get b), work_bind_ok (work_get b'), hsame b b' h]
  exact hf b b b' h

theorem modifying {f : Workbench → Workbench} (h : ∀ b b', b.Alike b' → (f b).Alike (f b')) :
    Agree (modify f : RuleStep PUnit) := fun b b' hb => ⟨rfl, h b b' hb⟩

theorem onSession {f : Session → Session}
    (h : ∀ b b' : Workbench, b.Alike b' →
      Workbench.Alike { b with session := f b.session } { b' with session := f b'.session }) :
    Agree (RuleStep.onSession f) := fun b b' hb => ⟨rfl, h b b' hb⟩

theorem ofSession {f : Session → Except SessionError α}
    (h : ∀ b b' : Workbench, b.Alike b' → f b'.session = f b.session) :
    Agree (RuleStep.ofSession f) := by
  intro b b' hb
  rw [work_ofSession, work_ofSession]
  exact ⟨h b b' hb, hb⟩

theorem fromPools {f : Pools → UInt64 → Except PoolError (α × Pools)} :
    Agree (RuleStep.fromPools f) := by
  intro b b' h
  rw [work_fromPools, work_fromPools, h.pools, h.resourceKey]
  cases f b.pools b.session.resourceKey with
  | ok r =>
    have hrest := congrArg (fun c : Workbench => { c with pools := r.2 }) h.rest
    exact ⟨rfl, h.rules, h.keys, hrest⟩
  | error e => exact ⟨rfl, h⟩

/-- What the plane gives out does not depend on its entries. -/
theorem fromPlane {f : Plane → Except PlaneError (α × Plane)}
    (hf : ∀ p pdrs, f { p with pdrs } = (f p).map fun r => (r.1, { r.2 with pdrs })) :
    Agree (RuleStep.fromPlane f) := by
  intro b b' h
  have hown := hf b.plane b.plane.pdrs
  rw [work_fromPlane, work_fromPlane, h.plane, hf]
  change f b.plane = _ at hown
  cases hresult : f b.plane with
  | ok r =>
    rw [hresult] at hown
    obtain ⟨a, p⟩ := r
    have hpdrs : p.pdrs = b.plane.pdrs := congrArg (·.pdrs) (Prod.mk.inj (Except.ok.inj hown)).2
    have hrest := congrArg
      (fun c : Workbench => { c with plane := { p with pdrs := .empty } }) h.rest
    refine ⟨rfl, h.rules, fun d => ?_, hrest⟩
    show b'.plane.pdrs.contains d = p.pdrs.contains d
    rw [hpdrs, h.keys]
  | error e => exact ⟨rfl, h⟩

/-- What the plane does with its slots does not depend on its entries. -/
theorem onSlots {f : Plane → Except PlaneError Plane}
    (hf : ∀ p pdrs, f { p with pdrs } = (f p).map fun p' => { p' with pdrs }) :
    Agree (RuleStep.onPlane f) := by
  intro b b' h
  have hown := hf b.plane b.plane.pdrs
  rw [work_onPlane, work_onPlane, h.plane, hf]
  change f b.plane = _ at hown
  cases hresult : f b.plane with
  | ok p =>
    rw [hresult] at hown
    have hpdrs : p.pdrs = b.plane.pdrs := congrArg (·.pdrs) (Except.ok.inj hown)
    have hrest := congrArg
      (fun c : Workbench => { c with plane := { p with pdrs := .empty } }) h.rest
    refine ⟨rfl, h.rules, fun d => ?_, hrest⟩
    show b'.plane.pdrs.contains d = p.pdrs.contains d
    rw [hpdrs, h.keys]
  | error e => exact ⟨rfl, h⟩

end Agree

/-! ## §4. Forwarding and QoS rules. -/

theorem Agree.onFars (f : Table UInt32 SessionFar → Table UInt32 SessionFar) :
    Agree (RuleStep.onSession fun s => { s with fars := f s.fars }) :=
  .onSession fun _ _ h =>
    ⟨h.rules, h.keys, congrArg (fun c : Workbench => { c with session.fars := f c.session.fars })
      h.rest⟩

theorem Agree.onQers (f : Table UInt32 SessionQer → Table UInt32 SessionQer) :
    Agree (RuleStep.onSession fun s => { s with qers := f s.qers }) :=
  .onSession fun _ _ h =>
    ⟨h.rules, h.keys, congrArg (fun c : Workbench => { c with session.qers := f c.session.qers })
      h.rest⟩

theorem agree_newFar (info : FarInfo) : Agree (fromPlane (·.newFar info)) :=
  .fromPlane fun p pdrs => by
    unfold Plane.newFar
    cases p.fars.install info <;> rfl

theorem agree_updateSlotFar (slot : Nat) (info : FarInfo) :
    Agree (onPlane (·.updateFar slot info)) :=
  .onSlots fun p pdrs => by
    unfold Plane.updateFar
    cases p.fars.replace slot info <;> rfl

theorem agree_deleteFar (slot : Nat) : Agree (onPlane (·.deleteFar slot)) :=
  .onSlots fun p pdrs => by
    unfold Plane.deleteFar
    cases p.fars.remove slot <;> rfl

theorem agree_newQer (info : QerInfo) : Agree (fromPlane (·.newQer info)) :=
  .fromPlane fun p pdrs => by
    unfold Plane.newQer
    cases p.qers.install info <;> rfl

theorem agree_updateSlotQer (slot : Nat) (info : QerInfo) :
    Agree (onPlane (·.updateQer slot info)) :=
  .onSlots fun p pdrs => by
    unfold Plane.updateQer
    cases p.qers.replace slot info <;> rfl

theorem agree_deleteQer (slot : Nat) : Agree (onPlane (·.deleteQer slot)) :=
  .onSlots fun p pdrs => by
    unfold Plane.deleteQer
    cases p.qers.remove slot <;> rfl

theorem agree_createFar (r : CreateFar) : Agree (createFar r) := by
  unfold createFar
  refine .get_bind (fun b b' h => by rw [h.n3]) fun b => .bind (agree_newFar _) fun slot =>
    .get_bind (fun b b' h => by rw [h.fars]) fun b' =>
      .bind (.onFars (·.insert r.farId.ruleId ⟨slot, .ofCreate r b.n3⟩)) fun _ => ?_
  cases b'.session.fars.get? r.farId.ruleId with
  | none => exact .pure _
  | some far => exact agree_deleteFar _

theorem agree_updateFar (r : UpdateFar) : Agree (updateFar r) := by
  unfold updateFar
  refine .get_bind (fun b b' h => by rw [h.fars, h.n3]) fun b => ?_
  cases b.session.fars.get? r.farId.ruleId with
  | none => exact .throw _
  | some far =>
    exact .bind (.onFars (·.insert r.farId.ruleId { far with info := far.info.update r b.n3 }))
      fun _ => agree_updateSlotFar _ _

theorem agree_removeFar (id : UInt32) : Agree (removeFar id) := by
  unfold removeFar
  refine .get_bind (fun b b' h => by rw [h.fars]) fun b => ?_
  cases b.session.fars.get? id with
  | none => exact .pure _
  | some far => exact .bind (.onFars (·.erase id)) fun _ => agree_deleteFar _

theorem agree_createQer (r : CreateQer) : Agree (createQer r) := by
  unfold createQer
  refine .bind (agree_newQer _) fun slot => .get_bind (fun b b' h => by rw [h.qers]) fun b' =>
    .bind (.onQers (·.insert r.qerId.ruleId ⟨slot, .ofCreate r⟩)) fun _ => ?_
  cases b'.session.qers.get? r.qerId.ruleId with
  | none => exact .pure _
  | some qer => exact agree_deleteQer _

theorem agree_updateQer (r : UpdateQer) : Agree (updateQer r) := by
  unfold updateQer
  refine .get_bind (fun b b' h => by rw [h.qers]) fun b => ?_
  cases b.session.qers.get? r.qerId.ruleId with
  | none => exact .throw _
  | some qer =>
    exact .bind (.onQers (·.insert r.qerId.ruleId { qer with info := qer.info.update r }))
      fun _ => agree_updateSlotQer _ _

theorem agree_removeQer (id : UInt32) : Agree (removeQer id) := by
  unfold removeQer
  refine .get_bind (fun b b' h => by rw [h.qers]) fun b => ?_
  cases b.session.qers.get? id with
  | none => exact .pure _
  | some qer => exact .bind (.onQers (·.erase id)) fun _ => agree_deleteQer _

/-! ## §5. Detection rules. -/

theorem agree_ueAddress (p : Pdi) : Agree (ueAddress p) := by
  unfold ueAddress
  cases p.ueIpAddress with
  | none => exact .pure _
  | some a =>
    dsimp only
    split
    · exact .bind .fromPools fun _ => .pure _
    · split
      · exact .bind .fromPools fun _ => .pure _
      · exact .pure _

theorem agree_chooseTeid (pdrId : UInt16) (chooseId : Option UInt8) :
    Agree (chooseTeid pdrId chooseId) := by
  unfold chooseTeid
  refine .get_bind (fun b b' h => by rw [h.chosen]) fun b => ?_
  split
  · exact .pure _
  · refine .bind .fromPools fun teid => ?_
    cases chooseId with
    | none => exact .pure _
    | some id =>
      exact .bind (.modifying fun b b' h => ⟨h.rules, h.keys,
        congrArg (fun c : Workbench => { c with chosen := c.chosen.insert id teid }) h.rest⟩)
        fun _ => .pure _

theorem agree_localTeid (pdrId : UInt16) (t : FTeid) : Agree (localTeid pdrId t) := by
  unfold localTeid
  split
  · exact .bind (agree_chooseTeid _ _) fun _ =>
      .get_bind (fun b b' h => by rw [h.n3]) fun _ => .pure _
  · split
    · exact .pure _
    · exact .throw _

theorem agree_detection (pdrId : UInt16) (p : Pdi) : Agree (detection pdrId p) := by
  have hreport : ∀ (c : Bool) (created : List CreatedPdr) (d : Detection),
      Agree (do
        if c then modify fun b => { b with created := b.created ++ created }
        return d) := by
    intro c created d
    cases c with
    | true =>
      exact .bind (.modifying fun b b' h => ⟨h.rules, h.keys,
        congrArg (fun c : Workbench => { c with created := c.created ++ created }) h.rest⟩)
        fun _ => .pure _
    | false => exact .pure _
  unfold detection
  apply Agree.bind (agree_ueAddress p)
  rintro ⟨address, chosenAddress⟩
  dsimp only
  split
  · exact .bind (agree_localTeid _ _) fun t => .bind (.pure _) fun d => hreport _ _ _
  · exact .bind (.pure _) fun d => hreport _ _ _
  · exact .bind (.throw _) fun d => hreport _ _ _

theorem agree_flow (p : Pdi) : Agree (flow p) := by
  unfold flow
  split
  · exact .pure _
  · exact .throw _

theorem agree_farSlot (id : Option UInt32) : Agree (ofSession (·.farSlot id)) :=
  .ofSession fun b b' h => by
    cases id with
    | none => rfl
    | some id => rw [Session.farSlot, Session.farSlot, h.fars]

theorem agree_qerSlot (id : Option UInt32) : Agree (ofSession (·.qerSlot id)) :=
  .ofSession fun b b' h => by
    cases id with
    | none => rfl
    | some id => rw [Session.qerSlot, Session.qerSlot, h.qers]

theorem agree_drafted (r : CreatePdr) : Agree (drafted r) :=
  .bind (agree_detection _ _) fun _ => .bind (agree_farSlot _) fun _ =>
    .bind (agree_qerSlot _) fun _ => .bind (agree_flow _) fun _ => .pure _

theorem agree_renamed (pdr : SessionPdr) (r : UpdatePdr) : Agree (renamed pdr r) := by
  rw [renamed_eq]
  refine .bind ?_ fun _ => ?_
  · unfold renamedFar
    cases r.farId with
    | some far => exact .bind (agree_farSlot _) fun _ => .pure _
    | none => exact .pure _
  · unfold renamedQer
    cases r.qerId with
    | some qer => exact .bind (agree_qerSlot _) fun _ => .pure _
    | none => exact .pure _

theorem agree_rekeyed (pdr : SessionPdr) (r : UpdatePdr) : Agree (rekeyed pdr r) := by
  unfold rekeyed
  cases r.pdi with
  | none => exact .pure _
  | some pdi => exact .bind (agree_detection _ _) fun _ => .bind (agree_flow _) fun _ => .pure _

theorem agree_redrafted (r : UpdatePdr) : Agree (redrafted r) := by
  unfold redrafted
  refine .get_bind (fun b b' h => by rw [h.rules]) fun b => ?_
  cases b.session.pdrs.get? r.pdrId.ruleId with
  | none => exact .throw _
  | some previous =>
    exact .bind (agree_renamed _ _) fun _ => .bind (agree_rekeyed _ _) fun _ => .pure _

theorem agree_put (d : Detection) (info : PdrInfo) :
    Agree (onPlane fun p => .ok (p.putPdr d info)) := fun _ _ h => ⟨rfl, h.put d info info⟩

theorem agree_replace (d : Detection) (info : PdrInfo) : Agree (onPlane (·.updatePdr d info)) := by
  intro b b' h
  rw [work_onPlane, work_onPlane]
  unfold Plane.updatePdr
  rw [h.keys]
  cases b.plane.pdrs.contains d with
  | true => exact ⟨rfl, h.put d info info⟩
  | false => exact ⟨rfl, h⟩

theorem agree_deletePdr (d : Detection) : Agree (onPlane (·.deletePdr d)) := by
  intro b b' h
  rw [work_onPlane, work_onPlane]
  unfold Plane.deletePdr
  rw [h.keys]
  cases b.plane.pdrs.contains d with
  | true =>
    refine ⟨rfl, h.rules, fun d' => ?_, h.rest⟩
    show (b'.plane.pdrs.erase d).contains d' = (b.plane.pdrs.erase d).contains d'
    rw [Bool.eq_iff_iff, Table.contains_erase, Table.contains_erase, h.keys]
  | false => exact ⟨rfl, h⟩

theorem agree_file (id : UInt16) (pdr : SessionPdr) :
    Agree (onSession fun s => { s with pdrs := s.pdrs.insert id pdr }) :=
  .onSession fun b b' h => by
    refine ⟨fun i => ?_, h.keys, h.rest⟩
    show (b'.session.pdrs.insert id pdr).get? i = (b.session.pdrs.insert id pdr).get? i
    rw [Table.get?_insert, Table.get?_insert, h.rules]

end RuleStep

/-- There is another rule with a detection on both workbenches, or on neither. -/
theorem Workbench.Alike.otherWith_isSome {b b' : Workbench} (h : b.Alike b') (id : UInt16)
    (d : Detection) :
    (b'.session.otherWith id d).isSome = (b.session.otherWith id d).isSome := by
  have hperm := Table.perm_iff.mpr h.rules
  unfold Session.otherWith
  rw [Option.isSome_map, Option.isSome_map, Bool.eq_iff_iff, List.find?_isSome, List.find?_isSome]
  simp only [hperm.mem_iff]

namespace RuleStep

/-- **Giving a key up** goes the same way, whoever takes the entry over. -/
theorem agree_giveUp (d : Detection) (id : UInt16) : Agree (giveUp d id) := by
  intro b b' h
  have hsome := h.otherWith_isSome id d
  unfold giveUp
  rw [work_bind_ok (work_get b), work_bind_ok (work_get b')]
  cases hother : b.session.otherWith id d with
  | some info =>
    rw [hother, Option.isSome_some, Option.isSome_iff_exists] at hsome
    obtain ⟨info', hother'⟩ := hsome
    rw [hother']
    exact ⟨rfl, h.put d info info'⟩
  | none =>
    rw [hother, Option.isSome_none, Option.isSome_eq_false_iff, Option.isNone_iff_eq_none] at hsome
    rw [hsome]
    exact agree_deletePdr d b b' h

theorem agree_filed (id : UInt16) (pdr : SessionPdr) : Agree (filed id pdr) := by
  unfold filed
  refine .get_bind (fun b b' h => by rw [h.rules]) fun b => ?_
  cases b.session.pdrs.get? id with
  | none => exact .bind (agree_put _ _) fun _ => agree_file _ _
  | some previous =>
    dsimp only
    split
    · exact .bind (agree_giveUp _ _) fun _ => .bind (agree_put _ _) fun _ => agree_file _ _
    · exact .bind (agree_put _ _) fun _ => agree_file _ _

theorem agree_refiled (id : UInt16) (previous pdr : SessionPdr) :
    Agree (refiled id previous pdr) := by
  unfold refiled
  split
  · exact .bind (agree_replace _ _) fun _ => agree_file _ _
  · exact .bind (agree_giveUp _ _) fun _ => .bind (agree_put _ _) fun _ => agree_file _ _

theorem agree_removePdr (id : UInt16) : Agree (removePdr id) := by
  unfold removePdr
  refine .get_bind (fun b b' h => by rw [h.rules]) fun b => ?_
  cases b.session.pdrs.get? id with
  | none => exact .pure _
  | some pdr =>
    refine .bind (.onSession fun b b' h => ⟨fun i => ?_, h.keys, h.rest⟩) fun _ =>
      agree_giveUp _ _
    show (b'.session.pdrs.erase id).get? i = (b.session.pdrs.erase id).get? i
    rw [Table.get?_erase, Table.get?_erase, h.rules]

end RuleStep

/-! ## §6. Operations and requests. -/

/-- **An operation goes the same way** in whatever order the session has its rules. -/
theorem RuleOp.agree (op : RuleOp) : RuleStep.Agree op.step := by
  cases op with
  | createFar r => exact RuleStep.agree_createFar r
  | updateFar r => exact RuleStep.agree_updateFar r
  | removeFar id => exact RuleStep.agree_removeFar id
  | createQer r => exact RuleStep.agree_createQer r
  | updateQer r => exact RuleStep.agree_updateQer r
  | removeQer id => exact RuleStep.agree_removeQer id
  | createPdr r =>
    rw [RuleOp.step, RuleStep.createPdr_eq]
    exact .bind (RuleStep.agree_drafted r) fun _ => RuleStep.agree_filed _ _
  | updatePdr r =>
    rw [RuleOp.step, RuleStep.updatePdr_eq]
    exact .bind (RuleStep.agree_redrafted r) fun _ => RuleStep.agree_refiled _ _ _
  | removePdr id => exact RuleStep.agree_removePdr id

/-- **A request goes the same way** in whatever order the session has its rules. -/
theorem Workbench.Alike.carryOut {b b' : Workbench} (h : b.Alike b') (ops : List RuleOp) :
    (b'.carryOut ops).1 = (b.carryOut ops).1 ∧ (b.carryOut ops).2.Alike (b'.carryOut ops).2 := by
  induction ops generalizing b b' with
  | nil => exact ⟨rfl, h⟩
  | cons op ops ih =>
    obtain ⟨hresult, hafter⟩ := op.agree b b' h
    rw [carryOut_cons, carryOut_cons]
    cases hwork : op.step.work b with
    | mk r b₁ =>
      cases hwork' : op.step.work b' with
      | mk r' b₁' =>
        rw [hwork, hwork'] at hresult hafter
        cases hresult
        cases r with
        | ok u => exact ih hafter
        | error e => exact ⟨rfl, hafter⟩

end UserPlane
