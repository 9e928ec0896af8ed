/-
  UserPlane.Proofs.Session.Work
  ─────────────────────────────
  **RULE OPERATIONS AS STEPS OF A WORKBENCH.**

  The rules of a request are a list of operations (`RuleOp`), carried out one
  after the other until one fails.  What every operation keeps, whether it
  fails or not, a whole request keeps (`Workbench.carryOut_keeps`); what depends
  on the operations that succeeded is followed along their list (`carriedOut`).

      work_bind         one step after another
      Keeps             a step leaves a part of the workbench as it was
      Keeps.bind        … and so do two steps in a row
-/
import UserPlane.Node.Sessions
import UserPlane.Proofs.Pool

namespace UserPlane

namespace RuleStep

variable {α β γ : Type}

/-! ## §1. Working step by step. -/

@[simp] theorem work_get (b : Workbench) : (get : RuleStep Workbench).work b = (.ok b, b) := rfl

/-- The second step is taken from where the first ended, unless that failed. -/
theorem work_bind (x : RuleStep α) (f : α → RuleStep β) (b : Workbench) :
    (x >>= f).work b =
      match x.work b with
      | (.ok a, b') => (f a).work b'
      | (.error e, b') => (.error e, b') := by
  show (ExceptT.bindCont f (x.work b).1).run (x.work b).2 = _
  cases x.work b with
  | mk r b' => cases r <;> rfl

theorem work_bind_ok {x : RuleStep α} {f : α → RuleStep β} {b b' : Workbench} {a : α}
    (h : x.work b = (.ok a, b')) : (x >>= f).work b = (f a).work b' := by
  rw [work_bind, h]

/-- Two steps succeed only if both do. -/
theorem work_bind_eq_ok {x : RuleStep α} {f : α → RuleStep β} {b b' : Workbench} {c : β}
    (h : (x >>= f).work b = (.ok c, b')) :
    ∃ a b₁, x.work b = (.ok a, b₁) ∧ (f a).work b₁ = (.ok c, b') := by
  rw [work_bind] at h
  cases hx : x.work b with
  | mk r b₁ =>
    rw [hx] at h
    cases r with
    | ok a => exact ⟨a, b₁, rfl, h⟩
    | error e => cases h

@[simp] theorem work_onSession (f : Session → Session) (b : Workbench) :
    (onSession f).work b = (.ok (), { b with session := f b.session }) := rfl

theorem work_ofSession (f : Session → Except SessionError α) (b : Workbench) :
    (ofSession f).work b = (f b.session, b) := by
  unfold ofSession
  rw [work_bind_ok (work_get b)]
  cases f b.session <;> rfl

theorem work_onPlane (f : Plane → Except PlaneError Plane) (b : Workbench) :
    (onPlane f).work b =
      match f b.plane with
      | .ok plane => (.ok (), { b with plane })
      | .error e => (.error (.plane e), b) := by
  unfold onPlane
  rw [work_bind_ok (work_get b)]
  cases f b.plane <;> rfl

theorem work_onPlane_ok {f : Plane → Except PlaneError Plane} {b : Workbench} {plane : Plane}
    (h : f b.plane = .ok plane) : (onPlane f).work b = (.ok (), { b with plane }) := by
  rw [work_onPlane, h]

theorem work_fromPlane (f : Plane → Except PlaneError (α × Plane)) (b : Workbench) :
    (fromPlane f).work b =
      match f b.plane with
      | .ok (a, plane) => (.ok a, { b with plane })
      | .error e => (.error (.plane e), b) := by
  unfold fromPlane
  rw [work_bind_ok (work_get b)]
  cases f b.plane <;> rfl

theorem work_fromPools (f : Pools → UInt64 → Except PoolError (α × Pools)) (b : Workbench) :
    (fromPools f).work b =
      match f b.pools b.session.resourceKey with
      | .ok (a, pools) => (.ok a, { b with pools })
      | .error e => (.error (.pool e), b) := by
  unfold fromPools
  rw [work_bind_ok (work_get b)]
  cases f b.pools b.session.resourceKey <;> rfl

/-! ## §2. What a step keeps. -/

/-- A step leaves a part of the workbench as it was, even if it fails. -/
def Keeps (part : Workbench → γ) (x : RuleStep α) : Prop := ∀ b, part (x.work b).2 = part b

namespace Keeps

variable {part : Workbench → γ} {x : RuleStep α}

theorem pure (a : α) : Keeps part (Pure.pure a : RuleStep α) := fun _ => rfl

theorem throw (e : SessionError) : Keeps part (MonadExcept.throw e : RuleStep α) := fun _ => rfl

theorem get : Keeps part (MonadState.get : RuleStep Workbench) := fun _ => rfl

theorem bind {f : α → RuleStep β} (hx : Keeps part x) (hf : ∀ a, Keeps part (f a)) :
    Keeps part (x >>= f) := by
  intro b
  rw [work_bind]
  have hb := hx b
  -- if the first step fails, the second is not taken
  cases h : x.work b with
  | mk r b' =>
    rw [h] at hb
    cases r with
    | ok a => exact (hf a b').trans hb
    | error e => exact hb

theorem modifying {f : Workbench → Workbench} (h : ∀ b, part (f b) = part b) :
    Keeps part (modify f : RuleStep PUnit) := h

theorem onSession {f : Session → Session}
    (h : ∀ b, part { b with session := f b.session } = part b) :
    Keeps part (RuleStep.onSession f) := h

theorem ofSession (f : Session → Except SessionError α) : Keeps part (RuleStep.ofSession f) := by
  intro b
  rw [work_ofSession]

theorem onPlane {f : Plane → Except PlaneError Plane}
    (h : ∀ b plane, f b.plane = .ok plane → part { b with plane } = part b) :
    Keeps part (RuleStep.onPlane f) := by
  intro b
  rw [work_onPlane]
  cases hf : f b.plane with
  | ok plane => exact h b plane hf
  | error e => rfl

theorem fromPlane {f : Plane → Except PlaneError (α × Plane)}
    (h : ∀ b a plane, f b.plane = .ok (a, plane) → part { b with plane } = part b) :
    Keeps part (RuleStep.fromPlane f) := by
  intro b
  rw [work_fromPlane]
  cases hf : f b.plane with
  | ok r => exact h b r.1 r.2 hf
  | error e => rfl

theorem fromPools {f : Pools → UInt64 → Except PoolError (α × Pools)}
    (h : ∀ b a pools, f b.pools b.session.resourceKey = .ok (a, pools) →
      part { b with pools } = part b) : Keeps part (RuleStep.fromPools f) := by
  intro b
  rw [work_fromPools]
  cases hf : f b.pools b.session.resourceKey with
  | ok r => exact h b r.1 r.2 hf
  | error e => rfl

/-- What is kept, every part of it is kept. -/
theorem map {δ : Type} (f : γ → δ) (h : Keeps part x) : Keeps (fun b => f (part b)) x :=
  fun b => congrArg f (h b)

end Keeps

end RuleStep

/-! ## §3. Requests as lists of operations. -/

/-- One operation on the rules of a session. -/
inductive RuleOp where
  | createFar (r : CreateFar)
  | updateFar (r : UpdateFar)
  | removeFar (id : UInt32)
  | createQer (r : CreateQer)
  | updateQer (r : UpdateQer)
  | removeQer (id : UInt32)
  | createPdr (r : CreatePdr)
  | updatePdr (r : UpdatePdr)
  | removePdr (id : UInt16)
  deriving DecidableEq, Repr

/-- What is done for an operation. -/
def RuleOp.step : RuleOp → RuleStep Unit
  | createFar r => RuleStep.createFar r
  | updateFar r => RuleStep.updateFar r
  | removeFar id => RuleStep.removeFar id
  | createQer r => RuleStep.createQer r
  | updateQer r => RuleStep.updateQer r
  | removeQer id => RuleStep.removeQer id
  | createPdr r => RuleStep.createPdr r
  | updatePdr r => RuleStep.updatePdr r
  | removePdr id => RuleStep.removePdr id

/-- The detection rule that an operation is about. -/
def RuleOp.subject? : RuleOp → Option UInt16
  | createPdr r => some r.pdrId.ruleId
  | updatePdr r => some r.pdrId.ruleId
  | removePdr id => some id
  | _ => none

/-- The operations of an establishment, in order. -/
def SessionEstablishmentRequest.ops (r : SessionEstablishmentRequest) : List RuleOp :=
  r.createFar.map .createFar ++ r.createQer.map .createQer ++ r.createPdr.map .createPdr

/-- The operations of a modification, in order. -/
def SessionModificationRequest.ops (r : SessionModificationRequest) : List RuleOp :=
  r.createFar.map .createFar ++ r.updateFar.map .updateFar
    ++ r.removeFar.map (fun far => .removeFar far.farId.ruleId)
    ++ r.createQer.map .createQer ++ r.updateQer.map .updateQer
    ++ r.removeQer.map (fun qer => .removeQer qer.qerId.ruleId)
    ++ r.createPdr.map .createPdr ++ r.updatePdr.map .updatePdr
    ++ r.removePdr.map (fun pdr => .removePdr pdr.pdrId.ruleId)

theorem establishRules_eq (r : SessionEstablishmentRequest) :
    establishRules r = r.ops.forM RuleOp.step := by
  -- a loop after a loop is one loop over what both go through
  simp [establishRules, SessionEstablishmentRequest.ops, RuleOp.step, List.forM_eq_forM]

theorem modifyRules_eq (r : SessionModificationRequest) :
    modifyRules r = r.ops.forM RuleOp.step := by
  simp [modifyRules, SessionModificationRequest.ops, RuleOp.step, List.forM_eq_forM]

/-- Carries out operations until one fails. -/
def Workbench.carryOut (b : Workbench) (ops : List RuleOp) :
    Except SessionError Unit × Workbench := (ops.forM RuleOp.step).work b

/-- The operations that succeed. -/
def carriedOut : List RuleOp → Workbench → List RuleOp
  | [], _ => []
  | op :: ops, b =>
    match op.step.work b with
    | (.ok _, b') => op :: carriedOut ops b'
    | (.error _, _) => []

@[simp] theorem Workbench.carryOut_nil (b : Workbench) : b.carryOut [] = (.ok (), b) := rfl

theorem Workbench.carryOut_cons (b : Workbench) (op : RuleOp) (ops : List RuleOp) :
    b.carryOut (op :: ops) =
      match op.step.work b with
      | (.ok _, b') => b'.carryOut ops
      | (.error e, b') => (.error e, b') := by
  have hcons : (op :: ops).forM RuleOp.step = op.step >>= fun _ => ops.forM RuleOp.step := rfl
  unfold carryOut
  rw [hcons, RuleStep.work_bind]
  cases op.step.work b with
  | mk r b' => cases r <;> rfl

/-- Operations after operations are taken from where the first ended. -/
theorem Workbench.carryOut_append (b : Workbench) (ops ops' : List RuleOp) :
    b.carryOut (ops ++ ops') =
      match b.carryOut ops with
      | (.ok _, b') => b'.carryOut ops'
      | (.error e, b') => (.error e, b') := by
  induction ops generalizing b with
  | nil => rfl
  | cons op ops ih =>
    rw [List.cons_append, carryOut_cons, carryOut_cons]
    cases op.step.work b with
    | mk r b' =>
      cases r with
      | ok u => exact ih b'
      | error e => rfl

/-- Of a request that succeeds all operations are carried out. -/
theorem carriedOut_of_ok {ops : List RuleOp} {b b' : Workbench}
    (h : b.carryOut ops = (.ok (), b')) :
    carriedOut ops b = ops := by
  induction ops generalizing b with
  | nil => rfl
  | cons op ops ih =>
    rw [Workbench.carryOut_cons] at h
    unfold carriedOut
    cases hwork : op.step.work b with
    | mk r b₁ =>
      rw [hwork] at h
      cases r with
      | ok u => exact congrArg (op :: ·) (ih h)
      | error e => cases h

/-- **Induction along a request**: what holds of the operations so far and the
workbench is carried on by each operation, whether it succeeds or fails. -/
theorem Workbench.carryOut_induction {P : List RuleOp → Workbench → Prop}
    (hok : ∀ done (op : RuleOp) b b', P done b → op.step.work b = (.ok (), b') →
      P (done ++ [op]) b')
    (herror : ∀ done (op : RuleOp) b b' e, P done b → op.step.work b = (.error e, b') → P done b')
    (ops done : List RuleOp) {b : Workbench} (h : P done b) :
    P (done ++ carriedOut ops b) (b.carryOut ops).2 := by
  -- on the operations that are left, with those that were done carried along
  induction ops generalizing done b with
  | nil => simpa [carriedOut] using h
  | cons op ops ih =>
    rw [Workbench.carryOut_cons]
    unfold carriedOut
    cases hop : op.step.work b with
    | mk r b' =>
      cases r with
      | ok u =>
        have hnext := ih (done ++ [op]) (hok done op b b' h hop)
        rwa [List.append_assoc] at hnext
      | error e =>
        -- what fails is not among what was done, and nothing comes after it
        simpa using herror done op b b' e h hop

/-- What each of its operations keeps, a request keeps. -/
theorem Workbench.carryOut_keeps_of_mem {γ : Type} {part : Workbench → γ} {ops : List RuleOp}
    (h : ∀ op ∈ ops, RuleStep.Keeps part op.step) (b : Workbench) :
    part (b.carryOut ops).2 = part b := by
  induction ops generalizing b with
  | nil => rfl
  | cons op ops ih =>
    have hop := h op List.mem_cons_self b
    rw [carryOut_cons]
    cases hwork : op.step.work b with
    | mk r b' =>
      rw [hwork] at hop
      cases r with
      | ok u => exact (ih (fun op' hop' => h op' (List.mem_cons_of_mem op hop')) b').trans hop
      | error e => exact hop

/-- What every operation keeps, a request keeps. -/
theorem Workbench.carryOut_keeps {γ : Type} {part : Workbench → γ}
    (h : ∀ op : RuleOp, RuleStep.Keeps part op.step) (ops : List RuleOp) (b : Workbench) :
    part (b.carryOut ops).2 = part b := carryOut_keeps_of_mem (fun op _ => h op) b

end UserPlane
