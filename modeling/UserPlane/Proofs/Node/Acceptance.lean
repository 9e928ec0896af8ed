/-
  UserPlane.Proofs.Node.Acceptance
  ────────────────────────────────
  **WHAT A NODE LOOKS LIKE AFTER IT HAS ACCEPTED.**

  An answer that accepts tells that all operations of the request went through,
  and the node is then as they left their workbench: the session is live, and
  the plane and the pools are those that it was worked on with.

      answer_of_handler          an answer is its handler's
      call_of_answer             an answer, and the node behind it
      established_of_accepted    behind an establishment that is accepted
      modified_of_accepted       behind changes that are accepted
      Node.Has                   a node has what a workbench has
      answered_of_check          what can be computed of an answer
-/
import UserPlane.Proofs.Node.Rejections

namespace UserPlane

/-- What a rule fails with is never told as an acceptance. -/
theorem SessionError.cause_ne_accepted (e : SessionError) : e.cause ≠ .requestAccepted := by
  unfold SessionError.cause
  split <;> nofun

/-- A node has a session, a plane and pools as they are on a workbench. -/
structure Node.Has (n : Node) (key : String) (seid : UInt64) (b : Workbench) : Prop where
  session : n.live key seid = some b.session
  plane : n.plane = b.plane
  pools : n.pools = b.pools
  n3 : n.params.n3Address = b.n3

namespace Node

variable {n : Node} {src : SocketAddress} {cut : Header.Cut} {r : Reply} {key : String}
  {a : Association} {s : Session} {b : Workbench}

theorem live_withSession (hget : n.associations.get? key = some a) (s : Session) :
    (n.withSession key s).live key s.localSeid = some s := by
  rw [withSession_eq hget, live, get?_withAssociation]
  show (a.sessions.insert s.localSeid s).get? s.localSeid = some s
  rw [Table.get?_insert, if_pos rfl]

/-- What a message is answered with is what its handler answers, before which the
message is counted and nothing else. -/
theorem answer_of_handler (n : Node) (src : SocketAddress) {m : Message}
    {handle : StateM Node (Option Reply)}
    (hdecode : Message.decode cut.header.type cut.body = .ok m)
    (hsome : handlerFor cut.header m src = some handle) :
    ∃ metrics, n.answer? src cut = (handle.run { n with metrics }).1 := by
  refine ⟨n.metrics.received m.name, ?_⟩
  unfold answer?
  rw [hdecode]
  dsimp only
  rw [hsome]

/-- Behind an answer only the counts of messages differ from what the handler
left. -/
theorem call_of_answer {m : Message} (hdecode : Message.decode cut.header.type cut.body = .ok m)
    (hanswer : n.answer? src cut = some r) :
    ∃ handle metrics metrics', handlerFor cut.header m src = some handle
      ∧ (handle.run { n with metrics }).1 = some r
      ∧ n.call (.message src cut) = { (handle.run { n with metrics }).2 with metrics := metrics' }
      := by
  obtain ⟨m', handle, hdecode', hsome, hreply⟩ := handler_of_answer hanswer
  cases hdecode.symm.trans hdecode'
  obtain ⟨metrics, hrun⟩ := treatMessage_run hsome n
  refine ⟨handle, _, metrics, hsome, hreply, ?_⟩
  show ((treatCut src cut).run n).2 = _
  unfold treatCut
  rw [hdecode]
  exact hrun

/-! ## §1. Establishments. -/

/-- **Behind an establishment that is accepted**: its sender has an association,
and its rules went through for a session with the next numbers. -/
theorem established_of_accepted {m : SessionEstablishmentRequest}
    (hdecode : Message.decode cut.header.type cut.body = .ok (.sessionEstablishmentRequest m))
    (hanswer : n.answer? src cut = some r) (hcause : r.message.cause? = some .requestAccepted) :
    ∃ a cp b, n.associationWith src = some a ∧ m.nodeId.isSome ∧ m.cpFSeid = some cp
      ∧ (n.bench (n.newcomer a cp.seid)).carryOut m.ops = (.ok (), b)
      ∧ r = establishmentResponse n.params .requestAccepted
        (some (.ofIp n.params.nodeIp a.nextSessionId)) b.created cp.seid
      ∧ (n.call (.message src cut)).Has (associationKey src) a.nextSessionId b := by
  obtain ⟨handle, metrics, metrics', hsome, hreply, hcall⟩ := call_of_answer hdecode hanswer
  cases hsome
  rcases handleSessionEstablishment_cases cut.header src { n with metrics } m with
    ⟨cause, seid, huntried, hrun⟩ | ⟨id, cp, a, hid, hcp, ha, hrun⟩
  · -- what is not tried is turned away
    rw [hrun] at hreply
    cases hreply
    cases huntried <;> cases hcause
  · rw [hrun] at hreply hcall
    rw [establish_run] at hreply hcall
    dsimp only at hreply hcall
    cases hwork : (n.bench (n.newcomer a cp.seid)).carryOut m.ops with
    | mk result b =>
      have hwork' : (({ n with metrics } : Node).bench
          (({ n with metrics } : Node).newcomer a cp.seid)).carryOut m.ops = (result, b) := hwork
      rw [hwork'] at hreply hcall
      cases result with
      | error e =>
        cases hreply
        exact absurd (Option.some.inj hcause) e.cause_ne_accepted
      | ok u =>
        have hfixed := ((n.bench (n.newcomer a cp.seid)).carryOut_keeps RuleOp.keeps_fixed m.ops)
        rw [hwork] at hfixed
        have hseid : b.session.localSeid = a.nextSessionId := congrArg (·.1) hfixed
        have hn3 : b.n3 = n.params.n3Address := congrArg (·.2.2.2.1) hfixed
        have hget : ((({ n with metrics } : Node).advanced (associationKey src) a).clear
            b).associations.get? (associationKey src) = some a.newLocalSeid.2 :=
          get?_withAssociation _ _ _
        refine ⟨a, cp, b, ha, by simp [hid], hcp, hwork, (Option.some.inj hreply).symm, ?_⟩
        rw [hcall, ← hseid]
        exact ⟨live_withSession hget b.session, rfl, rfl, hn3.symm⟩

/-! ## §2. Changes. -/

/-- **Behind changes that are accepted**: the sender has the session, and the
operations went through on it under the peer's new number. -/
theorem modified_of_accepted {m : SessionModificationRequest}
    (hdecode : Message.decode cut.header.type cut.body = .ok (.sessionModificationRequest m))
    (hanswer : n.answer? src cut = some r) (hcause : r.message.cause? = some .requestAccepted)
    (hfiled : n.ledger.Filed) :
    ∃ s b, n.live (associationKey src) (cut.header.seid.getD 0) = some s
      ∧ (n.bench (s.renumbered m.cpFSeid)).carryOut m.ops = (.ok (), b)
      ∧ r = modificationResponse .requestAccepted b.created b.session.remoteSeid
      ∧ (n.call (.message src cut)).Has (associationKey src) (cut.header.seid.getD 0) b := by
  obtain ⟨handle, metrics, metrics', hsome, hreply, hcall⟩ := call_of_answer hdecode hanswer
  cases hsome
  rcases handleSessionModification_cases cut.header src { n with metrics } m with
    ⟨cause, hunknown, -, hrun⟩ | ⟨a, s, ha, hs, hrun⟩
  · -- what is about no session is turned away
    rw [hrun] at hreply
    cases hreply
    rcases hunknown with rfl | rfl <;> cases hcause
  · rw [hrun] at hreply hcall
    rw [modifySession_run] at hreply hcall
    dsimp only at hreply hcall
    have hlive : n.live (associationKey src) (cut.header.seid.getD 0) = some s := by
      rw [live_associationKey, show n.associationWith src = some a from ha]
      exact hs
    have hseid := hfiled.localSeid_modified (n.live_ledger _ _ ▸ hlive) m.cpFSeid m.ops
    change ((n.bench (s.renumbered m.cpFSeid)).carryOut m.ops).2.session.localSeid = _ at hseid
    cases hwork : (n.bench (s.renumbered m.cpFSeid)).carryOut m.ops with
    | mk result b =>
      have hwork' : (({ n with metrics } : Node).bench (s.renumbered m.cpFSeid)).carryOut m.ops
          = (result, b) := hwork
      rw [hwork'] at hreply hcall
      cases result with
      | error e =>
        cases hreply
        exact absurd (Option.some.inj hcause) e.cause_ne_accepted
      | ok u =>
        have hfixed := ((n.bench (s.renumbered m.cpFSeid)).carryOut_keeps RuleOp.keeps_fixed m.ops)
        rw [hwork] at hfixed hseid
        have hn3 : b.n3 = n.params.n3Address := congrArg (·.2.2.2.1) hfixed
        have hget : (({ n with metrics } : Node).clear b).associations.get? (associationKey src)
            = some a := ha
        refine ⟨s, b, hlive, hwork, (Option.some.inj hreply).symm, ?_⟩
        rw [hcall, ← hseid]
        exact ⟨live_withSession hget b.session, rfl, rfl, hn3.symm⟩

/-! ## §3. What can be computed of an answer. -/

/-- A datagram with one message, and the cause that it is answered with. -/
theorem answered_of_check {octets : Octets} {src : SocketAddress} {m : Message} {cause : Cause}
    (hcheck : (Header.walk octets).map (fun cut =>
        ((Message.decode cut.header.type cut.body).toOption,
          (n.answer? src cut).bind (·.message.cause?))) = [(some m, some cause)]) :
    ∃ cut r, (Event.datagram octets src).calls = [.message src cut]
      ∧ Message.decode cut.header.type cut.body = .ok m
      ∧ n.answer? src cut = some r ∧ r.message.cause? = some cause := by
  obtain ⟨cut, hcut, hboth⟩ := List.map_eq_singleton_iff.mp hcheck
  obtain ⟨hdecode, hcause⟩ := Prod.mk.inj hboth
  obtain ⟨r, hanswer, hcause⟩ := Option.bind_eq_some_iff.mp hcause
  exact ⟨cut, r, congrArg (List.map (Call.message src)) hcut, Message.decode_of_toOption hdecode,
    hanswer, hcause⟩

end Node

end UserPlane
