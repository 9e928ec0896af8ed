/-
  UserPlane.Proofs.Node.Rejections
  ────────────────────────────────
  **A REJECTION CHANGES NOTHING.**

  A request can be turned away before anything is looked at: what it needs is
  missing or malformed, its sender has no association, or no such session.  Then
  nothing but the counts of messages changes.  No failure of a rule is answered
  that way.

  A rejection that comes of a rule is an establishment tried and given up, or
  changes of a session that stay half done.  An establishment that is given up
  used a number and a key, and may leave rules behind; nothing else of it stays,
  as long as its key is its own.

      Reply.turnsAway           the answers of the first kind
      turnedAway_unchanged      what they leave behind: nothing
      givenUp_run               an establishment that is given up
      Node.GivenUp              what it leaves behind
-/
import UserPlane.Proofs.Node.Holdings
import UserPlane.Proofs.Node.Interference
import UserPlane.Proofs.Node.Replies

namespace UserPlane

/-! ## §1. Causes. -/

/-- The request was turned away: something is missing or malformed, or there is
no association or no session. -/
def Cause.turnsAway : Cause → Bool
  | .mandatoryIeMissing | .mandatoryIeIncorrect | .noEstablishedAssociation
  | .sessionContextNotFound => true
  | _ => false

/-- The answer turns the request away. -/
def Reply.turnsAway (r : Reply) : Bool := (r.message.cause?.map Cause.turnsAway).getD false

/-- No failure of a rule is answered as if the request was turned away. -/
theorem SessionError.not_turnsAway (e : SessionError) : e.cause.turnsAway = false := by
  unfold SessionError.cause
  split <;> rfl

/-! ## §2. Requests that are turned away. -/

/-- A handler that turns a request away changes nothing. -/
def TurnsAwayUnchanged (handle : StateM Node (Option Reply)) : Prop :=
  ∀ (n : Node) (r : Reply), (handle.run n).1 = some r → r.turnsAway = true → (handle.run n).2 = n

/-- A session that is tried is not turned away. -/
theorem establish_not_turnsAway (key : String) (a : Association) (cp : FSeid)
    (m : SessionEstablishmentRequest) (n : Node) :
    ((establish key a cp m).run n).1.turnsAway = false := by
  rw [establish_run]
  dsimp only
  cases (n.bench (n.newcomer a cp.seid)).carryOut m.ops with
  | mk result b =>
    cases result with
    | error e => exact e.not_turnsAway
    | ok u => rfl

/-- Nor are changes of a session that is there. -/
theorem modifySession_not_turnsAway (key : String) (s : Session) (m : SessionModificationRequest)
    (n : Node) : ((modifySession key s m).run n).1.turnsAway = false := by
  rw [modifySession_run]
  dsimp only
  cases ((n.bench (s.renumbered m.cpFSeid)).carryOut m.ops).1 with
  | error e => exact e.not_turnsAway
  | ok u => rfl

/-- Nor is its deletion. -/
theorem deleteSession_not_turnsAway (key : String) (a : Association) (s : Session) (seid : UInt64)
    (n : Node) : ((deleteSession key a s seid).run n).1.turnsAway = false := by
  unfold deleteSession
  rw [run_modify_bind, run_get_bind]
  dsimp only
  rw [run_set_bind]
  split <;> rfl

section Handlers

variable (h : Header) (src : SocketAddress)

theorem turnedAway_associationSetup (m : AssociationSetupRequest) :
    TurnsAwayUnchanged (handleAssociationSetup h m src) := by
  intro n r hreply hturned
  unfold handleAssociationSetup at hreply ⊢
  rw [run_get_bind] at hreply ⊢
  cases hid : m.nodeId with
  | none => rfl
  | some id =>
    -- a setup that is complete is granted
    rw [hid] at hreply
    cases hreply
    cases hturned

theorem turnedAway_associationRelease (m : AssociationReleaseRequest) :
    TurnsAwayUnchanged (handleAssociationRelease h m src) := by
  intro n r hreply hturned
  unfold handleAssociationRelease at hreply ⊢
  rw [run_get_bind] at hreply ⊢
  cases hid : m.nodeId with
  | none => rfl
  | some id =>
    rw [hid] at hreply
    dsimp only at hreply ⊢
    rw [run_bind, removeAssociation_run] at hreply ⊢
    cases hget : n.associations.get? (associationKey src) with
    | none => rfl
    | some a =>
      -- a release where there is an association is granted
      rw [hget] at hreply
      cases hreply
      cases hturned

theorem turnedAway_sessionEstablishment (m : SessionEstablishmentRequest) :
    TurnsAwayUnchanged (handleSessionEstablishment h m src) := by
  intro n r hreply hturned
  rcases handleSessionEstablishment_cases h src n m with
    ⟨cause, seid, -, hrun⟩ | ⟨id, cp, a, -, -, -, hrun⟩
  · rw [hrun]
  · rw [hrun] at hreply
    cases hreply
    rw [establish_not_turnsAway] at hturned
    cases hturned

theorem turnedAway_sessionModification (m : SessionModificationRequest) :
    TurnsAwayUnchanged (handleSessionModification h m src) := by
  intro n r hreply hturned
  rcases handleSessionModification_cases h src n m with ⟨cause, -, -, hrun⟩ | ⟨a, s, -, -, hrun⟩
  · rw [hrun]
  · rw [hrun] at hreply
    cases hreply
    rw [modifySession_not_turnsAway] at hturned
    cases hturned

theorem turnedAway_sessionDeletion (m : SessionDeletionRequest) :
    TurnsAwayUnchanged (handleSessionDeletion h m src) := by
  intro n r hreply hturned
  rcases handleSessionDeletion_cases h src n m with ⟨cause, -, -, hrun⟩ | ⟨a, s, -, -, hrun⟩
  · rw [hrun]
  · rw [hrun] at hreply
    cases hreply
    rw [deleteSession_not_turnsAway] at hturned
    cases hturned

end Handlers

/-- **Every handler** that turns a request away changes nothing. -/
theorem turnedAway_unchanged {h : Header} {m : Message} {src : SocketAddress}
    {handle : StateM Node (Option Reply)} (hsome : handlerFor h m src = some handle) :
    TurnsAwayUnchanged handle := by
  cases m with
  | heartbeatRequest m =>
    cases hsome
    exact fun _ _ _ _ => rfl
  | associationSetupRequest m =>
    cases hsome
    exact turnedAway_associationSetup h src m
  | associationUpdateRequest m =>
    cases hsome
    exact fun _ _ _ _ => rfl
  | associationReleaseRequest m =>
    cases hsome
    exact turnedAway_associationRelease h src m
  | sessionEstablishmentRequest m =>
    cases hsome
    exact turnedAway_sessionEstablishment h src m
  | sessionModificationRequest m =>
    cases hsome
    exact turnedAway_sessionModification h src m
  | sessionDeletionRequest m =>
    cases hsome
    exact turnedAway_sessionDeletion h src m
  | heartbeatResponse m =>
    -- responses are not answered
    intro n r hreply
    rw [Node.handler_not_asks n rfl hsome] at hreply
    cases hreply
  | associationSetupResponse m =>
    intro n r hreply
    rw [Node.handler_not_asks n rfl hsome] at hreply
    cases hreply
  | _ => cases hsome

/-! ## §3. Messages. -/

/-- Behind a message's handler only counts change. -/
theorem treatMessage_run {h : Header} {m : Message} {src : SocketAddress}
    {handle : StateM Node (Option Reply)} (hsome : handlerFor h m src = some handle) (n : Node) :
    ∃ metrics, ((treatMessage h m src).run n).2
      = { (handle.run { n with metrics := n.metrics.received m.name }).2 with metrics } := by
  unfold treatMessage
  rw [run_modify_bind, hsome]
  dsimp only
  rw [run_bind, run_modify_bind]
  generalize handle.run { n with metrics := n.metrics.received m.name } = answered
  cases answered.1 with
  | none => exact ⟨_, rfl⟩
  | some r =>
    -- a rejection is counted once more
    dsimp only
    rw [run_bind]
    unfold countRejection
    split
    · split <;> exact ⟨_, rfl⟩
    · exact ⟨_, rfl⟩

namespace Node

variable {n : Node} {src : SocketAddress} {cut : Header.Cut} {r : Reply}

/-- What is answered, its handler answers. -/
theorem handler_of_answer (h : n.answer? src cut = some r) :
    ∃ m handle, Message.decode cut.header.type cut.body = .ok m
      ∧ handlerFor cut.header m src = some handle
      ∧ (handle.run { n with metrics := n.metrics.received m.name }).1 = some r := by
  unfold answer? at h
  cases hdecode : Message.decode cut.header.type cut.body with
  | error e =>
    rw [hdecode] at h
    cases h
  | ok m =>
    rw [hdecode] at h
    dsimp only at h
    cases hsome : handlerFor cut.header m src with
    | none =>
      rw [hsome] at h
      cases h
    | some handle =>
      rw [hsome] at h
      exact ⟨m, handle, rfl, hsome, h⟩

/-- **A message that is turned away** changes nothing but the counts of
messages. -/
theorem call_of_turnsAway (h : n.answer? src cut = some r) (hturned : r.turnsAway = true) :
    ∃ metrics, n.call (.message src cut) = { n with metrics } := by
  obtain ⟨m, handle, hdecode, hsome, hreply⟩ := handler_of_answer h
  obtain ⟨metrics, hrun⟩ := treatMessage_run hsome n
  rw [turnedAway_unchanged hsome _ _ hreply hturned] at hrun
  refine ⟨metrics, ?_⟩
  show ((treatCut src cut).run n).2 = _
  unfold treatCut
  rw [hdecode]
  exact hrun

/-- A peer that turns down the node's own setup changes nothing but the counts
of messages. -/
theorem call_of_setup_refused {m : AssociationSetupResponse}
    (hdecode : Message.decode cut.header.type cut.body = .ok (.associationSetupResponse m))
    (hcause : m.cause.isAccepted = false) :
    ∃ metrics, n.call (.message src cut) = { n with metrics } := by
  have hsome : handlerFor cut.header (.associationSetupResponse m) src
      = some (handleAssociationSetupResponse cut.header m src) := rfl
  obtain ⟨metrics, hrun⟩ := treatMessage_run hsome n
  refine ⟨metrics, ?_⟩
  show ((treatCut src cut).run n).2 = _
  unfold treatCut
  rw [hdecode]
  refine hrun.trans ?_
  unfold handleAssociationSetupResponse
  rw [hcause]
  rfl

/-! ## §4. Requests that are worked on. -/

/-- The request is complete, and what it is about is there. -/
def WorkedOn (n : Node) (header : Header) (src : SocketAddress) : Message → Prop
  | .sessionEstablishmentRequest m =>
    m.nodeId.isSome ∧ m.cpFSeid.isSome ∧ (n.associationWith src).isSome
  | .sessionModificationRequest _ | .sessionDeletionRequest _ =>
    (n.live (associationKey src) (header.seid.getD 0)).isSome
  | _ => False

/-- **What is worked on is not turned away**, whatever becomes of its rules. -/
theorem not_turnsAway_of_workedOn {h : Header} {m : Message} {handle : StateM Node (Option Reply)}
    (hsome : handlerFor h m src = some handle) (hworked : n.WorkedOn h src m)
    (hreply : (handle.run n).1 = some r) : r.turnsAway = false := by
  cases m with
  | sessionEstablishmentRequest m =>
    cases hsome
    obtain ⟨hid, hcp, hassociation⟩ := hworked
    obtain ⟨id, hid⟩ := Option.isSome_iff_exists.mp hid
    obtain ⟨cp, hcp⟩ := Option.isSome_iff_exists.mp hcp
    obtain ⟨a, hassociation⟩ := Option.isSome_iff_exists.mp hassociation
    rw [handleSessionEstablishment_run hid hcp hassociation] at hreply
    rw [← Option.some.inj hreply]
    exact establish_not_turnsAway _ a cp m n
  | sessionModificationRequest m =>
    cases hsome
    rcases handleSessionModification_cases h src n m with ⟨-, -, hnone, -⟩ | ⟨a, s, -, -, hrun⟩
    · change (n.live (associationKey src) (h.seid.getD 0)).isSome at hworked
      rw [hnone] at hworked
      cases hworked
    · rw [hrun] at hreply
      cases hreply
      exact modifySession_not_turnsAway _ s m n
  | sessionDeletionRequest m =>
    cases hsome
    rcases handleSessionDeletion_cases h src n m with ⟨-, -, hnone, -⟩ | ⟨a, s, -, -, hrun⟩
    · change (n.live (associationKey src) (h.seid.getD 0)).isSome at hworked
      rw [hnone] at hworked
      cases hworked
    · rw [hrun] at hreply
      cases hreply
      exact deleteSession_not_turnsAway _ a s _ n
  | _ => exact hworked.elim

/-! ## §5. Establishments that are given up. -/

/-- **How an establishment is given up**, and what the node looks like after
it. -/
theorem givenUp_run {h : Header} {m : SessionEstablishmentRequest}
    (hreply : ((handleSessionEstablishment h m src).run n).1 = some r)
    (hturned : r.turnsAway = false) (hcause : r.message.cause? ≠ some .requestAccepted) :
    ∃ a cp e b, n.associationWith src = some a
      ∧ (n.bench (n.newcomer a cp)).carryOut m.ops = (.error e, b)
      ∧ ((handleSessionEstablishment h m src).run n).2
        = { (n.advanced (associationKey src) a).clear b with
            pools := (n.newcomer a cp).releasePools b.pools } := by
  rcases handleSessionEstablishment_cases h src n m with
    ⟨cause, seid, huntried, hrun⟩ | ⟨id, cp, a, -, -, ha, hrun⟩
  · -- what is not tried is turned away
    rw [hrun] at hreply
    cases hreply
    cases huntried <;> cases hturned
  · rw [hrun] at hreply ⊢
    rw [establish_run] at hreply ⊢
    dsimp only at hreply ⊢
    cases hwork : (n.bench (n.newcomer a cp.seid)).carryOut m.ops with
    | mk result b =>
      rw [hwork] at hreply
      cases result with
      | error e => exact ⟨a, cp.seid, e, b, ha, hwork, rfl⟩
      | ok u =>
        -- what went through is accepted
        cases hreply
        exact absurd rfl hcause

/-- What an establishment leaves behind that is given up: the association gives
out its next number, and nothing is different for any session. -/
structure GivenUp (n n' : Node) (key : String) : Prop where
  live : ∀ k i, n'.live k i = n.live k i
  association : ∃ a, n.associations.get? key = some a
    ∧ n'.associations = n.associations.insert key a.newLocalSeid.2
  fars : ∀ k i s, n.live k i = some s → ∀ id far, s.fars.get? id = some far →
    n'.plane.fars.get? far.slot = n.plane.fars.get? far.slot
  qers : ∀ k i s, n.live k i = some s → ∀ id qer, s.qers.get? id = some qer →
    n'.plane.qers.get? qer.slot = n.plane.qers.get? qer.slot

theorem live_advanced {a : Association} {key : String}
    (hget : n.associations.get? key = some a) (k : String) (i : UInt64) :
    ((n.associations.insert key a.newLocalSeid.2).get? k).bind (·.sessions.get? i)
      = n.live k i := by
  unfold live
  rw [Table.get?_insert]
  split
  · next heq =>
    rw [heq, hget]
    rfl
  · rfl

end Node

/-! ## §6. What the pools have. -/

/-- The same keys hold the same, and as much is free. -/
structure Pools.SameHeld (p p' : Pools) : Prop where
  ipv4 : p'.ipv4.held = p.ipv4.held
  ipv6 : p'.heldIpv6 = p.heldIpv6
  teids : p'.teids.held = p.teids.held
  freeIpv4 : p'.freeIpv4 = p.freeIpv4
  freeTeids : p'.freeTeids = p.freeTeids

/-- Work in the name of a key that holds nothing, before and after. -/
theorem Pools.sameHeld_of_rest {p p' : Pools} (key : UInt64) (h : p'.rest key = p.rest key)
    (hidle : ¬ p.Busy key) (hidle' : ¬ p'.Busy key) : p.SameHeld p' := by
  have hipv6 : p'.heldIpv6.erase key = p.heldIpv6.erase key := congrArg Rest.ipv6 h
  rw [Table.erase_of_not_contains fun hk => hidle' (.inr (.inl hk)),
    Table.erase_of_not_contains fun hk => hidle (.inr (.inl hk))] at hipv6
  obtain ⟨hipv4, hteids⟩ := held_of_rest h hidle hidle'
  exact ⟨hipv4, hipv6, hteids, freeIpv4_eq (capacities_of_rest h) hipv4,
    freeTeids_eq (capacities_of_rest h) hteids⟩

/-- **An establishment that is given up** leaves the pools as they were, if its
key was its own. -/
theorem Books.Held.sameHeld_givenUp {w : Books} {capacities : Nat × Nat}
    (h : w.Held capacities) (hnumbered : w.Numbered) (hfew : w.history.tried < UInt64.size)
    (d : Desk) (remoteSeid : UInt64) (ops : List RuleOp) :
    let s := w.ledger.newcomer d remoteSeid
    w.ledger.pools.SameHeld (s.releasePools ((w.ledger.bench s).carryOut ops).2.pools) := by
  intro s
  refine Pools.sameHeld_of_rest s.resourceKey
    ((Pools.rest_releaseAll _ s.resourceKey).trans (w.ledger.rest_carryOut s ops))
    (h.idle_next hnumbered hfew) fun hbusy => ?_
  exact ((Pools.busy_releaseAll _ _ _).mp hbusy).1 rfl

/-! ## §7. Every node that can be reached. -/

namespace Node

open Event

variable {c : Config} {startup : Int} {heartbeats : Bool} {n : Node} {src : SocketAddress}
  {cut : Header.Cut} {r : Reply}

theorem callBooks_held (hstart : Node.start c startup heartbeats = .ok n) (cs : List Call) :
    (n.callBooks cs).Numbered ∧ (n.callBooks cs).Held n.pools.capacities := by
  refine callBooks_induction (P := fun w => w.Numbered ∧ w.Held _) (fun w e hw => ?_)
    ⟨numbered_start hstart, held_start hstart⟩ cs
  have hmove := w.move_enter e
  exact ⟨hmove.numbered hw.1, hmove.held hw.1.filed hw.2⟩

theorem givenUp_call (hstart : Node.start c startup heartbeats = .ok n) (cs : List Call)
    {m : SessionEstablishmentRequest}
    (hdecode : Message.decode cut.header.type cut.body = .ok (.sessionEstablishmentRequest m))
    (hanswer : (n.calls cs).answer? src cut = some r) (hturned : r.turnsAway = false)
    (hcause : r.message.cause? ≠ some .requestAccepted) :
    (n.calls cs).GivenUp (n.calls (cs ++ [.message src cut])) (associationKey src)
      ∧ ((n.callHistory cs).tried < UInt64.size →
        (n.calls cs).pools.SameHeld (n.calls (cs ++ [.message src cut])).pools) := by
  -- the message finds no session that it is about
  have hunaffected := (unaffected_of_apart hstart cs (.message src cut)
    (spares_treatCut src cut _)
    (Books.apart_cut (n.ledger_callBooks cs) (callBooks_stocked hstart cs).1 src cut)).1
  have hnobody (k : String) (i : UInt64) : ¬ cut.Touches src k i := by
    rintro ⟨m', hm', htouches⟩
    cases hdecode.symm.trans hm'
    exact htouches.2
  obtain ⟨m', handle, hdecode', hsome, hreply⟩ := handler_of_answer hanswer
  cases hdecode.symm.trans hdecode'
  obtain ⟨metrics, hrun⟩ := treatMessage_run hsome (n.calls cs)
  cases hsome
  obtain ⟨a, cp, e, b, hassociation, hwork, hstate⟩ := givenUp_run hreply hturned hcause
  have hget : (n.calls cs).associations.get? (associationKey src) = some a := hassociation
  have hcall : n.calls (cs ++ [.message src cut]) = ((treatMessage cut.header
      (.sessionEstablishmentRequest m) src).run (n.calls cs)).2 := by
    rw [calls_concat]
    show ((treatCut src cut).run _).2 = _
    unfold treatCut
    rw [hdecode]
  rw [hrun, hstate] at hcall
  constructor
  · refine ⟨fun k i => ?_, ⟨a, hget, ?_⟩, fun k i s hs => hunaffected.fars k i s hs (hnobody k i),
      fun k i s hs => hunaffected.qers k i s hs (hnobody k i)⟩
    · rw [hcall]
      exact live_advanced hget k i
    · rw [hcall]
      rfl
  · intro hfew
    obtain ⟨hnumbered, hheld⟩ := callBooks_held hstart cs
    have hsame := hheld.sameHeld_givenUp hnumbered hfew a.desk cp m.ops
    rw [ledger_callBooks] at hsame
    -- the counts of messages are not on the workbench
    have hbench : ((n.calls cs).ledger.bench ((n.calls cs).ledger.newcomer a.desk cp)).carryOut
        m.ops = (.error e, b) := hwork
    dsimp only at hsame
    rw [hbench] at hsame
    rw [hcall]
    exact hsame

/-- **A REJECTION CHANGES NOTHING.**  A message that is turned away, and a peer's
refusal of the node's own setup, change nothing but the counts of messages; no
failure of a rule is answered as if the request was turned away.  An
establishment that is given up for any other reason uses a number of its
association and leaves every session as it was, and as long as fewer than 2⁶⁴
establishments were tried before, what is held and what is free as well. -/
theorem rejections_unchanged (hstart : Node.start c startup heartbeats = .ok n) (cs : List Call)
    (src : SocketAddress) (cut : Header.Cut) :
    (∀ r, (n.calls cs).answer? src cut = some r → r.turnsAway = true →
      ∃ metrics, n.calls (cs ++ [.message src cut]) = { n.calls cs with metrics })
    ∧ (∀ m, Message.decode cut.header.type cut.body = .ok (.associationSetupResponse m) →
      m.cause.isAccepted = false →
      ∃ metrics, n.calls (cs ++ [.message src cut]) = { n.calls cs with metrics })
    ∧ (∀ e : SessionError, e.cause.turnsAway = false)
    ∧ (∀ m r, Message.decode cut.header.type cut.body = .ok m →
      (n.calls cs).WorkedOn cut.header src m → (n.calls cs).answer? src cut = some r →
      r.turnsAway = false)
    ∧ ∀ m r, Message.decode cut.header.type cut.body = .ok (.sessionEstablishmentRequest m) →
      (n.calls cs).answer? src cut = some r → r.turnsAway = false →
      r.message.cause? ≠ some .requestAccepted →
      (n.calls cs).GivenUp (n.calls (cs ++ [.message src cut])) (associationKey src)
        ∧ ((n.callHistory cs).tried < UInt64.size →
          (n.calls cs).pools.SameHeld (n.calls (cs ++ [.message src cut])).pools) := by
  refine ⟨fun r hanswer hturned => ?_, fun m hdecode hcause => ?_, SessionError.not_turnsAway,
    fun m r hdecode hworked hanswer => ?_,
    fun m r hdecode hanswer hturned hcause => givenUp_call hstart cs hdecode hanswer hturned hcause⟩
  · rw [calls_concat]
    exact call_of_turnsAway hanswer hturned
  · rw [calls_concat]
    exact call_of_setup_refused hdecode hcause
  · obtain ⟨m', handle, hdecode', hsome, hreply⟩ := handler_of_answer hanswer
    cases hdecode.symm.trans hdecode'
    -- what is worked on does not depend on the counts of messages
    refine not_turnsAway_of_workedOn hsome ?_ hreply
    cases m <;> exact hworked

/-! An establishment with a rule that detects nothing. -/

theorem associationKey_peer : associationKey peer = "10.0.0.1" := by decide +kernel

/-- What the peer asks for in vain. -/
def blindly : SessionEstablishmentRequest :=
  ⟨some (.ofIp peer.ip), some (.ofIp peer.ip 1), [blind], [], []⟩

theorem blind_message : ∃ cut, (establishment [blind] []).calls = [.message peer cut]
    ∧ Message.decode cut.header.type cut.body = .ok (.sessionEstablishmentRequest blindly) :=
  message_of_check peer (by decide +kernel)

/-- It is given up. -/
theorem blind_answer
    (hdecode : Message.decode cut.header.type cut.body = .ok (.sessionEstablishmentRequest blindly))
    (hassociation : (n.associationWith peer).isSome = true) :
    ∃ r, n.answer? peer cut = some r
      ∧ r.message.cause? = some .ruleCreationModificationFailure := by
  obtain ⟨a, hassociation⟩ := Option.isSome_iff_exists.mp hassociation
  have hcounted (metrics : Metrics) :
      ({ n with metrics } : Node).associationWith peer = some a := hassociation
  unfold answer?
  rw [hdecode]
  show ∃ r, ((handleSessionEstablishment cut.header blindly peer).run _).1 = some r ∧ _
  rw [handleSessionEstablishment_run rfl rfl (hcounted _), establish_run]
  exact ⟨_, rfl, rfl⟩

/-- Behind a first session an establishment is given up, and the pools are as
they were. -/
theorem rejections_unchanged_blind :
    let cs := [setup, first].flatMap Event.calls
    Node.start {} 0 false = .ok standard ∧ (standard.callHistory cs).tried < UInt64.size
      ∧ ∃ cut r, (establishment [blind] []).calls = [.message peer cut]
        ∧ (standard.calls cs).answer? peer cut = some r
        ∧ r.message.cause? = some .ruleCreationModificationFailure
        ∧ (standard.calls cs).GivenUp (standard.calls (cs ++ [.message peer cut])) "10.0.0.1"
        ∧ (standard.calls cs).pools.SameHeld
          (standard.calls (cs ++ [.message peer cut])).pools := by
  intro cs
  have hfew : (standard.callHistory cs).tried < UInt64.size := by decide +kernel
  have hthere : ((standard.calls cs).associationWith peer).isSome = true := by decide +kernel
  obtain ⟨cut, hcut, hdecode⟩ := blind_message
  obtain ⟨r, hanswer, hcause⟩ := blind_answer hdecode hthere
  have hturned : r.turnsAway = false := by
    unfold Reply.turnsAway
    rw [hcause]
    rfl
  obtain ⟨hgivenUp, hsame⟩ := (rejections_unchanged start_standard cs peer cut).2.2.2.2 blindly r
    hdecode hanswer hturned (by rw [hcause]; decide)
  rw [associationKey_peer] at hgivenUp
  exact ⟨start_standard, hfew, cut, r, hcut, hanswer, hcause, hgivenUp, hsame hfew⟩

/-- A first session, and behind it establishments that are given up. -/
def inVain (count : Nat) : List Call :=
  ([setup, first] ++ List.replicate count (establishment [blind] [])).flatMap Event.calls

theorem inVain_succ (hcut : (establishment [blind] []).calls = [.message peer cut])
    (count : Nat) : inVain (count + 1) = inVain count ++ [.message peer cut] := by
  unfold inVain
  rw [List.replicate_succ', ← List.append_assoc, List.flatMap_append, List.flatMap_singleton, hcut]

/-- The first session stays, and all keys behind its own are given back. -/
theorem ledger_inVain (count : Nat) :
    ((standard.calls (inVain count)).ledger.live "10.0.0.1" 1).map Session.resourceKey = some 1
    ∧ (standard.calls (inVain count)).ledger.pools
      = ((List.range count).map fun i => (2 : UInt64) + UInt64.ofNat i).foldl Pools.releaseAll
        (standard.books [setup, first]).ledger.pools := by
  have hledger := standard.ledger_books
    ([setup, first] ++ List.replicate count (establishment [blind] []))
  rw [books_append, trace_replicate entries_blind, run_eq_calls] at hledger
  have hnext₁ : ((standard.books [setup, first]).ledger.desks.get? "10.0.0.1").map
      (·.nextSessionId) = some (Desk.seidAfter 1) := by decide +kernel
  have hlive₁ : ((standard.books [setup, first]).ledger.desks.get? "10.0.0.1").bind
      (fun d => (d.sessions.get? 1).map Session.resourceKey) = some 1 := by decide +kernel
  have hkey₁ : (standard.books [setup, first]).ledger.nextResourceKey = 2 := by decide +kernel
  generalize standard.books [setup, first] = w₁ at *
  obtain ⟨⟨next, sessions⟩, hdesk₁, rfl⟩ := Option.map_eq_some_iff.mp hnext₁
  rw [hdesk₁] at hlive₁
  have hfutile : ∀ (l : Ledger) (s : Session),
      ∃ e, (l.bench s).carryOut [.createPdr blind] = (.error e, l.bench s) := fun l s => ⟨_, rfl⟩
  obtain ⟨hdesks, -, -, -, -, -, hpools⟩ :=
    @Books.after_futile w₁ "10.0.0.1" sessions 1 1 _ hdesk₁ hfutile count
  rw [hledger] at hdesks hpools
  rw [hkey₁] at hpools
  refine ⟨?_, hpools⟩
  unfold inVain Ledger.live
  rw [hdesks, Table.get?_insert, if_pos rfl]
  exact hlive₁

/-- As long as the keys last, the first session keeps what it holds. -/
theorem busy_inVain {count : Nat} (hcount : count < 2 ^ 64) :
    (standard.calls (inVain count)).pools.Busy 1 := by
  have hbusy₁ : (standard.books [setup, first]).ledger.pools.Busy 1 := by
    left
    decide +kernel
  show (standard.calls (inVain count)).ledger.pools.Busy 1
  rw [(ledger_inVain count).2]
  refine (Pools.busy_foldl_releaseAll _ fun k hk => ?_).mpr hbusy₁
  exact (one_ne_of_used hk hcount).symm

/-- The key behind the last is the first again. -/
theorem idle_inVain {count : Nat} (hcount : 2 + UInt64.ofNat count = 1) :
    ¬ (standard.calls (inVain (count + 1))).pools.Busy 1 := by
  show ¬ (standard.calls (inVain (count + 1))).ledger.pools.Busy 1
  rw [(ledger_inVain (count + 1)).2, List.range_succ, List.map_append, List.foldl_append]
  show ¬ (Pools.releaseAll _ (2 + UInt64.ofNat count)).Busy 1
  rw [hcount, Pools.busy_releaseAll]
  exact fun hbusy => hbusy.1 rfl

/-- Once the keys are used up, an establishment that is given up can take from
a live session what it holds. -/
theorem holdings_lost : Node.start {} 0 false = .ok standard ∧ ∃ cs cut r,
    (establishment [blind] []).calls = [.message peer cut]
    ∧ (standard.calls cs).answer? peer cut = some r
    ∧ r.message.cause? = some .ruleCreationModificationFailure
    ∧ ((standard.calls cs).live "10.0.0.1" 1).map Session.resourceKey = some 1
    ∧ (standard.calls cs).pools.Busy 1
    ∧ ¬ (standard.calls (cs ++ [.message peer cut])).pools.Busy 1 := by
  obtain ⟨cut, hcut, hdecode⟩ := blind_message
  -- so many that every key but one was given out again
  obtain ⟨count, hcount⟩ : ∃ count, count = 2 ^ 64 - 1 := ⟨_, rfl⟩
  have hlast : (2 : UInt64) + UInt64.ofNat count = 1 := by
    rw [hcount]
    rfl
  have hlive : ((standard.calls (inVain count)).live "10.0.0.1" 1).map Session.resourceKey
      = some 1 := by
    rw [← live_ledger]
    exact (ledger_inVain count).1
  obtain ⟨s, hs, -⟩ := Option.map_eq_some_iff.mp hlive
  obtain ⟨a, hget, -⟩ := Option.bind_eq_some_iff.mp hs
  have hthere : ((standard.calls (inVain count)).associationWith peer).isSome = true := by
    unfold associationWith
    rw [associationKey_peer, hget]
    rfl
  obtain ⟨r, hanswer, hcause⟩ := blind_answer hdecode hthere
  refine ⟨start_standard, inVain count, cut, r, hcut, hanswer, hcause, hlive,
    busy_inVain (by omega), ?_⟩
  rw [← inVain_succ hcut]
  exact idle_inVain hlast

end Node

end UserPlane
