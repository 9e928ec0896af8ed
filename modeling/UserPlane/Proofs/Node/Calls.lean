/-
  UserPlane.Proofs.Node.Calls
  ───────────────────────────
  **CALLS: WHAT HAPPENS TO A NODE AT ONE TIME.**

  The messages of a datagram are treated one after the other, and between two
  of them a timer may act.  A `Call` is what cannot be interrupted: one message,
  one step of a timer, one refresh.  A run of events is a run of calls
  (`Node.run_eq_calls`), and runs of calls interleave in more ways, so that what
  is proved of all runs of calls holds whatever comes between what.

  Two frames say what a call leaves alone:

      Spares key       every association but the one under `key`, and the settings
      Node.Steadied    of every association the failures and the timer

  A message spares all associations but that of the address it came from
  (`spares_treatCut`), and a message about a session leaves them all steadied.
  What a call does to the sessions is entries in the ledger (`Node.ledger_call`).
-/
import UserPlane.Proofs.Node.Run

namespace UserPlane

/-! ## §1. Calls. -/

/-- What happens to a node at one time. -/
inductive Call where
  /-- A message cut off a datagram is treated. -/
  | message (src : SocketAddress) (cut : Header.Cut)
  /-- A timer's next request is due. -/
  | heartbeatDue (key : String) (timer : UInt64)
  /-- A timer's response is overdue. -/
  | heartbeatFailed (key : String) (timer : UInt64)
  /-- The running timer of an association goes on to wait. -/
  | rearmed (key : String) (wait : HeartbeatWait) (after : Nat)
  /-- Timers are started where they are missing. -/
  | refresh
  /-- Time passes. -/
  | elapsed (span : Nat)

/-- The calls that an event comes to. -/
def Event.calls : Event → List Call
  | .datagram octets src => (Header.walk octets).map (.message src)
  | .heartbeatDue key timer => [.heartbeatDue key timer]
  | .heartbeatFailed key timer => [.heartbeatFailed key timer]
  | .refresh => [.refresh]
  | .elapsed span => [.elapsed span]

theorem Message.decode_of_toOption {type : UInt8} {bs : Octets} {m : Message}
    (h : (decode type bs).toOption = some m) : decode type bs = .ok m := by
  cases hdecode : decode type bs with
  | error e =>
    rw [hdecode] at h
    cases h
  | ok m' =>
    rw [hdecode] at h
    rw [Option.some.inj h]

/-- What can be computed of a datagram with one message. -/
theorem Event.message_of_check {octets : Octets} {m : Message} (src : SocketAddress)
    (hcheck : (Header.walk octets).map
      (fun cut => (Message.decode cut.header.type cut.body).toOption) = [some m]) :
    ∃ cut, (Event.datagram octets src).calls = [.message src cut]
      ∧ Message.decode cut.header.type cut.body = .ok m := by
  obtain ⟨cut, hcut, hdecode⟩ := List.map_eq_singleton_iff.mp hcheck
  exact ⟨cut, congrArg (List.map (Call.message src)) hcut, Message.decode_of_toOption hdecode⟩

namespace Node

/-- The node after a call. -/
def call (n : Node) : Call → Node
  | .message src cut => ((treatCut src cut).run n).2
  | .heartbeatDue key timer => ((nextHeartbeat key timer).run n).2
  | .heartbeatFailed key timer => ((recordFailure key timer).run n).2
  | .rearmed key wait after => ((rearm key wait after).run n).2
  | .refresh => (refreshTimers.run n).2
  | .elapsed span => { n with now := n.now + span }

/-- The node after a sequence of calls. -/
def calls (n : Node) (cs : List Call) : Node := cs.foldl call n

/-- The messages of a datagram are treated one after the other. -/
theorem treatDatagram_run (octets : Octets) (src : SocketAddress) (n : Node) :
    ((treatDatagram octets src).run n).2 = n.calls ((Header.walk octets).map (.message src)) := by
  unfold treatDatagram
  induction Header.walk octets generalizing n with
  | nil => rfl
  | cons c cuts ih =>
    rw [List.filterMapM_cons, run_bind, List.map_cons, calls, List.foldl_cons]
    -- an answer is put in front of those that follow
    refine Eq.trans ?_ (ih _)
    cases ((treatCut src c).run n).1 <;> rfl

theorem after_eq_calls (n : Node) (e : Event) : n.after e = n.calls e.calls := by
  cases e with
  | datagram octets src => exact treatDatagram_run octets src n
  | heartbeatDue => rfl
  | heartbeatFailed => rfl
  | refresh => rfl
  | elapsed => rfl

/-- **A run of events is a run of calls.** -/
theorem run_eq_calls (n : Node) (events : List Event) :
    n.run events = n.calls (events.flatMap Event.calls) := by
  induction events generalizing n with
  | nil => rfl
  | cons e events ih =>
    show (n.after e).run events = _
    rw [ih, after_eq_calls, List.flatMap_cons]
    unfold calls
    rw [List.foldl_append]

end Node

/-! ## §2. What a call leaves alone. -/

/-- What is counted of an association: its failures, and the number of its timer. -/
def Association.pulse (a : Association) : UInt32 × Option UInt64 :=
  (a.heartbeatFailures, a.timer.map HeartbeatTimer.id)

/-- From one state to the other nothing changed but the association under a
key, the sessions, and the numbers of sessions and timers. -/
structure Node.Spared (key : String) (n n' : Node) : Prop where
  others : ∀ k, k ≠ key → n'.associations.get? k = n.associations.get? k
  params : n'.params = n.params

/-- From one state to the other no association came, went, failed or was given
a timer. -/
structure Node.Steadied (n n' : Node) : Prop where
  pulses : ∀ k, (n'.associations.get? k).map Association.pulse
    = (n.associations.get? k).map Association.pulse
  nextTimerId : n'.nextTimerId = n.nextTimerId
  params : n'.params = n.params

namespace Node

variable {key : String} {n n' n'' : Node}

theorem Spared.refl (key : String) (n : Node) : Spared key n n := ⟨fun _ _ => rfl, rfl⟩

theorem Spared.trans (h : Spared key n n') (h' : Spared key n' n'') : Spared key n n'' :=
  ⟨fun k hk => (h'.others k hk).trans (h.others k hk), h'.params.trans h.params⟩

theorem Steadied.refl (n : Node) : Steadied n n := ⟨fun _ => rfl, rfl, rfl⟩

theorem Steadied.trans (h : Steadied n n') (h' : Steadied n' n'') : Steadied n n'' :=
  ⟨fun k => (h'.pulses k).trans (h.pulses k), h'.nextTimerId.trans h.nextTimerId,
    h'.params.trans h.params⟩

/-- A node that differs elsewhere only. -/
theorem Spared.of_eq (hassociations : n'.associations = n.associations)
    (hparams : n'.params = n.params) : Spared key n n' :=
  ⟨fun _ _ => by rw [hassociations], hparams⟩

theorem Steadied.of_eq (hassociations : n'.associations = n.associations)
    (htimer : n'.nextTimerId = n.nextTimerId) (hparams : n'.params = n.params) : Steadied n n' :=
  ⟨fun _ => by rw [hassociations], htimer, hparams⟩

theorem get?_withAssociation (n : Node) (key : String) (a : Association) :
    (n.withAssociation key a).associations.get? key = some a := by
  show (n.associations.insert key a).get? key = _
  rw [Table.get?_insert, if_pos rfl]

theorem spared_withAssociation (n : Node) (key : String) (a : Association) :
    Spared key n (n.withAssociation key a) :=
  ⟨fun k hk => by
    show (n.associations.insert key a).get? k = _
    rw [Table.get?_insert, if_neg hk], rfl⟩

theorem steadied_withAssociation {a : Association} (a' : Association)
    (hget : n.associations.get? key = some a) (hpulse : a'.pulse = a.pulse) :
    Steadied n (n.withAssociation key a') where
  pulses k := by
    show ((n.associations.insert key a').get? k).map _ = _
    rw [Table.get?_insert]
    split
    · next hk => rw [hk, hget, Option.map_some, Option.map_some, hpulse]
    · rfl
  nextTimerId := rfl
  params := rfl

theorem withSession_eq {a : Association} (hget : n.associations.get? key = some a) (s : Session) :
    n.withSession key s
      = n.withAssociation key { a with sessions := a.sessions.insert s.localSeid s } := by
  unfold withSession withAssociation Table.modify
  rw [hget]

/-- **An association that ends** takes its sessions with it and nothing else that
is looked at here. -/
theorem dropAssociation_spec (n : Node) (key : String) (a : Association) :
    (n.dropAssociation key a).associations = n.associations.erase key
      ∧ (n.dropAssociation key a).nextTimerId = n.nextTimerId
      ∧ (n.dropAssociation key a).params = n.params := by
  have hrelease : ∀ (l : List Session) (n : Node),
      let n' := l.foldl (fun (n : Node) s => (n.releaseSession s).2) n
      n'.associations = n.associations ∧ n'.nextTimerId = n.nextTimerId
        ∧ n'.params = n.params := by
    intro l
    induction l with
    | nil => exact fun _ => ⟨rfl, rfl, rfl⟩
    | cons s l ih => exact fun n => ih (n.releaseSession s).2
  exact hrelease a.sessions.values { n with associations := n.associations.erase key }

end Node

/-- A step spares all associations but the one under a key. -/
def Spares (key : String) {α : Type} (x : StateM Node α) : Prop :=
  ∀ n : Node, n.Spared key (x.run n).2

section

variable {α β : Type} {key : String}

theorem Spares.pure (a : α) : Spares key (Pure.pure a) := fun n => .refl key n

theorem Spares.bind {x : StateM Node α} {f : α → StateM Node β} (hx : Spares key x)
    (hf : ∀ a, Spares key (f a)) : Spares key (x >>= f) :=
  fun n => (hx n).trans (hf _ _)

end

/-! ## §3. Timers and associations. -/

theorem spares_removeAssociation (key : String) : Spares key (removeAssociation key) := by
  intro n
  rw [removeAssociation_run]
  cases n.associations.get? key with
  | none => exact .refl key n
  | some a =>
    obtain ⟨hassociations, -, hparams⟩ := n.dropAssociation_spec key a
    refine ⟨fun k hk => ?_, hparams⟩
    rw [hassociations, Table.get?_erase, if_neg hk]

theorem spares_enroll (id : NodeId) (src : SocketAddress) :
    Spares (associationKey src) (enroll id src) :=
  fun n => (n.spared_withAssociation (associationKey src) { id := id.text, address := src }).trans
    (.of_eq rfl rfl)

theorem scheduleHeartbeat_run (key : String) (n : Node) :
    ((scheduleHeartbeat key).run n).2 =
      match n.associations.get? key with
      | none => n
      | some a =>
        { n.withAssociation key
            { a with timer := some ⟨n.nextTimerId, .request, n.now + n.params.heartbeatInterval⟩ }
          with nextTimerId := n.nextTimerId + 1 } := rfl

theorem spares_scheduleHeartbeat (key : String) : Spares key (scheduleHeartbeat key) := by
  intro n
  rw [scheduleHeartbeat_run]
  cases n.associations.get? key with
  | none => exact .refl key n
  | some a =>
    exact (n.spared_withAssociation key { a with timer := _ }).trans (.of_eq rfl rfl)

/-- **A timer that is not current** has no request to send, and changes nothing. -/
theorem nextHeartbeat_run_none {n : Node} {key : String} {timer : UInt64}
    (h : timedAssociation n key timer = none) :
    (nextHeartbeat key timer).run n = (none, n) := by
  unfold nextHeartbeat
  rw [run_get_bind, h]
  rfl

theorem nextHeartbeat_run_some {n : Node} {key : String} {timer : UInt64} {a : Association}
    (h : timedAssociation n key timer = some a) :
    (nextHeartbeat key timer).run n
      = (some (a.newSequence.1, a.address), n.withAssociation key a.newSequence.2) := by
  unfold nextHeartbeat
  rw [run_get_bind, h]
  rfl

/-- **A timer that is not current** counts no failure, and changes nothing. -/
theorem recordFailure_run_none {n : Node} {key : String} {timer : UInt64}
    (h : timedAssociation n key timer = none) :
    (recordFailure key timer).run n = (false, n) := by
  unfold recordFailure
  rw [run_get_bind, h]
  rfl

/-- The association with one failure more. -/
def Association.failedOnce (a : Association) : Association :=
  { a with heartbeatFailures := a.heartbeatFailures + 1 }

theorem recordFailure_run_some {n : Node} {key : String} {timer : UInt64} {a : Association}
    (h : timedAssociation n key timer = some a) :
    (recordFailure key timer).run n =
      if n.params.heartbeatRetries < a.heartbeatFailures + 1 then
        (false, (n.withAssociation key a.failedOnce).dropAssociation key a.failedOnce)
      else (true, n.withAssociation key a.failedOnce) := by
  unfold recordFailure
  rw [run_get_bind, h]
  show StateT.run (if a.failedOnce.isExpired n.params.heartbeatRetries = true then _ else _)
    (n.withAssociation key a.failedOnce) = _
  have hget := n.get?_withAssociation key a.failedOnce
  by_cases hexpired : n.params.heartbeatRetries < a.heartbeatFailures + 1
  · have hbool : a.failedOnce.isExpired n.params.heartbeatRetries = true := decide_eq_true hexpired
    rw [if_pos hexpired, if_pos hbool, run_bind, removeAssociation_run, hget]
    rfl
  · have hbool : a.failedOnce.isExpired n.params.heartbeatRetries = false :=
      decide_eq_false hexpired
    rw [if_neg hexpired, if_neg (by simp [hbool])]
    rfl

theorem spares_recordFailure (key : String) (timer : UInt64) :
    Spares key (recordFailure key timer) := by
  intro n
  cases htimed : timedAssociation n key timer with
  | none =>
    rw [recordFailure_run_none htimed]
    exact .refl key n
  | some a =>
    have hcounted := n.spared_withAssociation key a.failedOnce
    rw [recordFailure_run_some htimed]
    split
    · obtain ⟨hassociations, -, hparams⟩ :=
        (n.withAssociation key a.failedOnce).dropAssociation_spec key a.failedOnce
      refine hcounted.trans ⟨fun k hk => ?_, hparams⟩
      rw [hassociations, Table.get?_erase, if_neg hk]
    · exact hcounted

/-! ## §4. Messages about sessions. -/

namespace Node

/-- From one state to the other only sessions of the association under a key
changed, and numbers of sessions. -/
structure Reworked (key : String) (n n' : Node) : Prop where
  spared : Spared key n n'
  steadied : Steadied n n'

variable {key : String} {n n' n'' : Node} {a : Association}

theorem Reworked.refl (key : String) (n : Node) : Reworked key n n := ⟨.refl key n, .refl n⟩

theorem Reworked.trans (h : Reworked key n n') (h' : Reworked key n' n'') : Reworked key n n'' :=
  ⟨h.spared.trans h'.spared, h.steadied.trans h'.steadied⟩

theorem Reworked.of_eq (hassociations : n'.associations = n.associations)
    (htimer : n'.nextTimerId = n.nextTimerId) (hparams : n'.params = n.params) :
    Reworked key n n' :=
  ⟨.of_eq hassociations hparams, .of_eq hassociations htimer hparams⟩

theorem reworked_withAssociation (a' : Association) (hget : n.associations.get? key = some a)
    (hpulse : a'.pulse = a.pulse) : Reworked key n (n.withAssociation key a') :=
  ⟨n.spared_withAssociation key a', steadied_withAssociation a' hget hpulse⟩

theorem reworked_withSession (s : Session) (hget : n.associations.get? key = some a) :
    Reworked key n (n.withSession key s) := by
  rw [withSession_eq hget]
  exact reworked_withAssociation _ hget rfl

/-- A timer that goes on to wait is still the same timer. -/
theorem rearm_reworked (key : String) (wait : HeartbeatWait) (after : Nat) (n : Node) :
    Reworked key n ((rearm key wait after).run n).2 := by
  show Reworked key n { n with associations := n.associations.modify key _ }
  unfold Table.modify
  cases hget : n.associations.get? key with
  | none => exact .of_eq rfl rfl rfl
  | some a =>
    refine reworked_withAssociation _ hget ?_
    unfold Association.pulse
    dsimp only
    cases a.timer <;> rfl

theorem establish_reworked (cp : FSeid) (request : SessionEstablishmentRequest)
    (hget : n.associations.get? key = some a) :
    Reworked key n ((establish key a cp request).run n).2 := by
  have hadvanced : Reworked key n (n.advanced key a) :=
    (reworked_withAssociation a.newLocalSeid.2 hget rfl).trans (.of_eq rfl rfl rfl)
  have hget' : (n.advanced key a).associations.get? key = some a.newLocalSeid.2 :=
    n.get?_withAssociation key a.newLocalSeid.2
  rw [establish_run]
  dsimp only
  split
  · exact hadvanced.trans (.of_eq rfl rfl rfl)
  · next b _ =>
    have hcleared : Reworked key (n.advanced key a) ((n.advanced key a).clear b) :=
      .of_eq rfl rfl rfl
    have hfiled : Reworked key ((n.advanced key a).clear b)
        (((n.advanced key a).clear b).withSession key b.session) :=
      reworked_withSession b.session hget'
    exact ((hadvanced.trans hcleared).trans hfiled).trans (.of_eq rfl rfl rfl)

theorem modifySession_reworked (s : Session) (request : SessionModificationRequest)
    (hget : n.associations.get? key = some a) :
    Reworked key n ((modifySession key s request).run n).2 := by
  rw [modifySession_run]
  dsimp only
  generalize (n.bench (s.renumbered request.cpFSeid)).carryOut request.ops = r
  have hcleared : Reworked key n (n.clear r.2) := .of_eq rfl rfl rfl
  exact hcleared.trans (reworked_withSession r.2.session hget)

theorem deleteSession_reworked (s : Session) (seid : UInt64)
    (hget : n.associations.get? key = some a) :
    Reworked key n ((deleteSession key a s seid).run n).2 := by
  unfold deleteSession
  rw [run_modify_bind, run_get_bind, run_set_bind]
  have herased : Reworked key n
      (n.withAssociation key { a with sessions := a.sessions.erase seid }) :=
    reworked_withAssociation _ hget rfl
  -- a failure on the way down shows in the answer only
  split <;> exact herased.trans (.of_eq rfl rfl rfl)

/-- A request for a session reworks sessions of its sender. -/
theorem handleSessionEstablishment_reworked (h : Header) (m : SessionEstablishmentRequest)
    (src : SocketAddress) (n : Node) :
    Reworked (associationKey src) n ((handleSessionEstablishment h m src).run n).2 := by
  rcases handleSessionEstablishment_cases h src n m with
    ⟨cause, seid, -, hrun⟩ | ⟨id, cp, a, -, -, hget, hrun⟩
  · rw [hrun]
    exact .refl _ n
  · rw [hrun]
    exact establish_reworked cp m hget

/-- So does a request for changes of a session, … -/
theorem handleSessionModification_reworked (h : Header) (m : SessionModificationRequest)
    (src : SocketAddress) (n : Node) :
    Reworked (associationKey src) n ((handleSessionModification h m src).run n).2 := by
  rcases handleSessionModification_cases h src n m with ⟨cause, -, -, hrun⟩ | ⟨a, s, hget, -, hrun⟩
  · rw [hrun]
    exact .refl _ n
  · rw [hrun]
    exact modifySession_reworked s m hget

/-- … and one for its deletion. -/
theorem handleSessionDeletion_reworked (h : Header) (m : SessionDeletionRequest)
    (src : SocketAddress) (n : Node) :
    Reworked (associationKey src) n ((handleSessionDeletion h m src).run n).2 := by
  rcases handleSessionDeletion_cases h src n m with ⟨cause, -, -, hrun⟩ | ⟨a, s, hget, -, hrun⟩
  · rw [hrun]
    exact .refl _ n
  · rw [hrun]
    exact deleteSession_reworked s (h.seid.getD 0) hget

end Node

/-! ## §5. Messages. -/

theorem spares_handleHeartbeatResponse (h : Header) (m : HeartbeatResponse)
    (src : SocketAddress) : Spares (associationKey src) (handleHeartbeatResponse h m src) := by
  intro n
  unfold handleHeartbeatResponse
  dsimp only
  rw [run_get_bind]
  cases n.associations.get? (associationKey src) with
  | none => exact .refl _ n
  | some a =>
    have hanswered := n.spared_withAssociation (associationKey src) a.refreshRetries
    dsimp only
    rw [run_modify_bind, run_get_bind]
    split
    · rw [run_bind]
      exact hanswered.trans (spares_scheduleHeartbeat (associationKey src) _)
    · exact hanswered

theorem spares_handleAssociationSetup (h : Header) (m : AssociationSetupRequest)
    (src : SocketAddress) : Spares (associationKey src) (handleAssociationSetup h m src) := by
  refine .bind (fun n => .refl _ n) fun n => ?_
  cases m.nodeId with
  | none => exact .pure _
  | some id =>
    exact .bind (spares_removeAssociation _) fun _ => .bind (spares_enroll id src) fun _ => .pure _

theorem spares_handleAssociationSetupResponse (h : Header) (m : AssociationSetupResponse)
    (src : SocketAddress) :
    Spares (associationKey src) (handleAssociationSetupResponse h m src) := by
  unfold handleAssociationSetupResponse
  dsimp only
  split
  · refine .bind (fun n => .refl _ n) fun n => ?_
    split
    · exact .pure _
    · exact .bind (spares_enroll m.nodeId src) fun _ => .pure _
  · exact .bind (fun n => .of_eq rfl rfl) fun _ => .pure _

theorem spares_handleAssociationRelease (h : Header) (m : AssociationReleaseRequest)
    (src : SocketAddress) : Spares (associationKey src) (handleAssociationRelease h m src) := by
  refine .bind (fun n => .refl _ n) fun n => ?_
  cases m.nodeId with
  | none => exact .pure _
  | some id =>
    refine .bind (spares_removeAssociation _) fun removed => ?_
    cases removed <;> exact .pure _

/-- A message's handler spares the associations of other peers. -/
theorem spares_handler {h : Header} {m : Message} {src : SocketAddress}
    {handle : StateM Node (Option Reply)} (hsome : handlerFor h m src = some handle) :
    Spares (associationKey src) handle := by
  cases m <;> cases hsome
  case heartbeatRequest m => exact fun n => .refl _ n
  case heartbeatResponse m => exact spares_handleHeartbeatResponse h m src
  case associationSetupRequest m => exact spares_handleAssociationSetup h m src
  case associationSetupResponse m => exact spares_handleAssociationSetupResponse h m src
  case associationUpdateRequest m => exact fun n => .refl _ n
  case associationReleaseRequest m => exact spares_handleAssociationRelease h m src
  case sessionEstablishmentRequest m =>
    exact fun n => (Node.handleSessionEstablishment_reworked h m src n).spared
  case sessionModificationRequest m =>
    exact fun n => (Node.handleSessionModification_reworked h m src n).spared
  case sessionDeletionRequest m =>
    exact fun n => (Node.handleSessionDeletion_reworked h m src n).spared

/-- **What holds after a message's handler holds after the message**, if it is
not about the counts that are kept of messages. -/
theorem treatMessage_holds {Q : Node → Prop}
    (hmetrics : ∀ (n : Node) (metrics : Metrics), Q n → Q { n with metrics })
    (h : Header) (m : Message) (src : SocketAddress) (n : Node)
    (hnone : handlerFor h m src = none → Q n)
    (hsome : ∀ handle, handlerFor h m src = some handle →
      ∀ metrics : Metrics, Q (handle.run { n with metrics }).2) :
    Q ((treatMessage h m src).run n).2 := by
  unfold treatMessage
  rw [run_modify_bind]
  cases hhandler : handlerFor h m src with
  | none => exact hmetrics n _ (hnone hhandler)
  | some handle =>
    dsimp only
    rw [run_bind, run_modify_bind]
    have hhandled := hsome handle hhandler (n.metrics.received m.name)
    generalize handle.run { n with metrics := n.metrics.received m.name } = r at hhandled ⊢
    have hcounted := hmetrics r.2 (r.2.metrics.handled m.name 0) hhandled
    cases r.1 with
    | none => exact hcounted
    | some reply =>
      -- a rejection is counted once more
      dsimp only
      rw [run_bind]
      unfold countRejection
      split
      · split
        · exact hcounted
        · exact hmetrics _ _ hcounted
      · exact hcounted

theorem spares_treatMessage (h : Header) (m : Message) (src : SocketAddress) :
    Spares (associationKey src) (treatMessage h m src) := by
  intro n
  have hmetrics (n' : Node) (metrics : Metrics) (hn : n.Spared (associationKey src) n') :
      n.Spared (associationKey src) { n' with metrics } := hn.trans (.of_eq rfl rfl)
  refine treatMessage_holds hmetrics h m src n (fun _ => .refl _ n) fun handle hhandle metrics => ?_
  have hcounted : n.Spared (associationKey src) { n with metrics } := .of_eq rfl rfl
  exact hcounted.trans (spares_handler hhandle _)

/-- **A message spares the associations of other peers.** -/
theorem spares_treatCut (src : SocketAddress) (c : Header.Cut) :
    Spares (associationKey src) (treatCut src c) := by
  unfold treatCut
  cases Message.decode c.header.type c.body with
  | error e => exact .pure _
  | ok m => exact spares_treatMessage c.header m src

/-! ## §6. Calls as entries. -/

namespace Node

/-- The entries that a call makes. -/
def callEntries (n : Node) : Call → List Entry
  | .message src cut => cut.entries src
  | .heartbeatFailed key timer => n.failureEntries key timer
  | _ => []

/-- A message that cannot be read makes none, … -/
theorem callEntries_of_error (n : Node) (src : SocketAddress) {cut : Header.Cut} {e : WireFault}
    (hdecode : Message.decode cut.header.type cut.body = .error e) :
    n.callEntries (.message src cut) = [] := by
  show cut.entries src = _
  unfold Header.Cut.entries
  rw [hdecode]

/-- … and another those that it stands for. -/
theorem callEntries_of_ok (n : Node) (src : SocketAddress) {cut : Header.Cut} {m : Message}
    (hdecode : Message.decode cut.header.type cut.body = .ok m) :
    n.callEntries (.message src cut) = m.entries cut.header src := by
  show cut.entries src = _
  unfold Header.Cut.entries
  rw [hdecode]

/-- The entries that calls make. -/
def callTrace (n : Node) : List Call → List Entry
  | [] => []
  | c :: cs => n.callEntries c ++ (n.call c).callTrace cs

/-- The books after calls. -/
def callBooks (n : Node) (cs : List Call) : Books := n.newBooks.after (n.callTrace cs)

/-- The history of calls. -/
def callHistory (n : Node) (cs : List Call) : History := (n.callBooks cs).history

theorem enters_rearm (key : String) (wait : HeartbeatWait) (after : Nat) :
    Enters (rearm key wait after) [] := by
  intro n
  show ({ n with associations := n.associations.modify key fun a =>
    { a with timer := a.timer.map fun t => { t with wait, due := n.now + after } } } : Node).ledger
      = n.ledger
  unfold Table.modify
  cases hget : n.associations.get? key with
  | none => rfl
  | some a => exact ledger_withAssociation_of_desk { a with timer := _ } hget rfl

/-- **A call** makes its entries in the ledger. -/
theorem ledger_call (n : Node) (c : Call) :
    (n.call c).ledger = (n.callEntries c).foldl Ledger.enter n.ledger := by
  cases c with
  | message src cut => exact enters_treatCut src cut n
  | heartbeatDue key timer => exact enters_nextHeartbeat key timer n
  | heartbeatFailed key timer => exact ledger_recordFailure key timer n
  | rearmed key wait after => exact enters_rearm key wait after n
  | refresh => exact enters_refreshTimers n
  | elapsed span => rfl

theorem ledger_calls (n : Node) (cs : List Call) :
    (n.calls cs).ledger = (n.callTrace cs).foldl Ledger.enter n.ledger := by
  induction cs generalizing n with
  | nil => rfl
  | cons c cs ih =>
    show ((n.call c).calls cs).ledger = _
    rw [ih, ledger_call, callTrace, List.foldl_append]

/-- **The books after calls** hold the ledger of the node that is reached. -/
theorem ledger_callBooks (n : Node) (cs : List Call) :
    (n.callBooks cs).ledger = (n.calls cs).ledger := by
  rw [ledger_calls]
  exact Books.ledger_after _ _

/-- **Induction over calls**: what holds of the books at the start, and is kept
by every entry, holds of the books after calls. -/
theorem callBooks_induction {P : Books → Prop} (hstep : ∀ w e, P w → P (w.enter e)) {n : Node}
    (hstart : P n.newBooks) (cs : List Call) : P (n.callBooks cs) :=
  Books.holds_after hstep _ hstart

theorem callTrace_append (n : Node) (cs cs' : List Call) :
    n.callTrace (cs ++ cs') = n.callTrace cs ++ (n.calls cs).callTrace cs' := by
  induction cs generalizing n with
  | nil => rfl
  | cons c cs ih =>
    rw [List.cons_append, callTrace, ih, callTrace, List.append_assoc]
    rfl

/-- The books after calls and more calls. -/
theorem callBooks_append (n : Node) (cs cs' : List Call) :
    n.callBooks (cs ++ cs') = (n.callBooks cs).after ((n.calls cs).callTrace cs') := by
  unfold callBooks Books.after
  rw [callTrace_append, List.foldl_append]

/-- The books after one more call. -/
theorem callBooks_concat (n : Node) (cs : List Call) (c : Call) :
    n.callBooks (cs ++ [c]) = (n.callBooks cs).after ((n.calls cs).callEntries c) := by
  rw [callBooks_append, callTrace, callTrace, List.append_nil]

theorem calls_append (n : Node) (cs cs' : List Call) :
    n.calls (cs ++ cs') = (n.calls cs).calls cs' := List.foldl_append

theorem calls_concat (n : Node) (cs : List Call) (c : Call) :
    n.calls (cs ++ [c]) = (n.calls cs).call c := List.foldl_concat _ _ _ _

/-- The entries of an event are those of its calls. -/
theorem callTrace_calls (n : Node) (e : Event) : n.callTrace e.calls = n.entries e := by
  cases e with
  | datagram octets src =>
    show n.callTrace ((Header.walk octets).map (.message src)) = (Header.walk octets).flatMap _
    -- what a message enters does not depend on the node
    induction Header.walk octets generalizing n with
    | nil => rfl
    | cons c cuts ih =>
      rw [List.map_cons, callTrace, ih, List.flatMap_cons]
      rfl
  | heartbeatFailed key timer => exact List.append_nil _
  | heartbeatDue => rfl
  | refresh => rfl
  | elapsed => rfl

/-- The books after a run of events are those after their calls. -/
theorem books_eq_callBooks (n : Node) (events : List Event) :
    n.books events = n.callBooks (events.flatMap Event.calls) := by
  have htrace : ∀ (n : Node), n.trace events = n.callTrace (events.flatMap Event.calls) := by
    induction events with
    | nil => exact fun _ => rfl
    | cons e events ih =>
      intro n
      rw [trace, ih, List.flatMap_cons, callTrace_append, callTrace_calls, after_eq_calls]
  unfold books callBooks
  rw [htrace]

end Node

end UserPlane
