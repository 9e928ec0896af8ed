/-
  UserPlane.Proofs.Node.Admission
  ───────────────────────────────
  **EXACTLY WHICH ESTABLISHMENTS ARE ACCEPTED.**

  A request for a session from a peer with an association is carried out for a
  session with the next numbers.  As long as nothing is held under its key, the
  request is accepted exactly if it is admissible as the plane and the pools
  stand.  Once keys are given out again something may be held under it, and the
  session then does with less than the pools would have to give.

      stated_of_decode            a tunnel end that was read has its id, or asks for one
      establishment_answer        how an establishment is answered
      accepted_iff_admissible     in every node that can be reached
-/
import UserPlane.Proofs.Message.Rereading
import UserPlane.Proofs.Node.Disclosure
import UserPlane.Proofs.Session.Admission

namespace UserPlane

/-! ## §1. Requests that were read. -/

theorem Message.establishment_of_decode {type : UInt8} {bs : Octets}
    {m : SessionEstablishmentRequest}
    (h : Message.decode type bs = .ok (.sessionEstablishmentRequest m)) :
    Body.decode bs = .ok m := by
  unfold decode at h
  split at h
  case h_9 =>
    obtain ⟨a, hbody, heq⟩ := body_of_map h
    cases heq
    exact hbody
  case h_15 => cases h
  all_goals
    obtain ⟨a, -, heq⟩ := body_of_map h
    cases heq

/-- A tunnel end that was read has its id, or asks for one. -/
theorem SessionEstablishmentRequest.stated_of_decode {bs : Octets}
    {m : SessionEstablishmentRequest} (h : Body.decode bs = .ok m) {r : CreatePdr}
    (hr : r ∈ m.createPdr) : r.pdi.Stated := by
  have hwf : m.WellFormed := SessionEstablishmentRequest.rewritable.wellFormed h
  have hpdi : r.pdi.WellFormed := hwf.createPdr r hr
  intro t ht hasks
  rw [← (hpdi.localFTeid t ht).teid, hasks]
  rfl

/-! ## §2. Answers. -/

namespace Node

variable {n : Node} {src : SocketAddress} {cut : Header.Cut} {m : SessionEstablishmentRequest}
  {cp : FSeid} {a : Association}

/-- **How an establishment is answered** that tells who asks, and under what number:
it is accepted if its rules go through. -/
theorem establishment_answer
    (hdecode : Message.decode cut.header.type cut.body = .ok (.sessionEstablishmentRequest m))
    (hid : m.nodeId.isSome = true) (hcp : m.cpFSeid = some cp)
    (ha : n.associationWith src = some a) :
    ∃ r, n.answer? src cut = some r ∧ (r.message.cause? = some .requestAccepted
      ↔ ((n.bench (n.newcomer a cp.seid)).carryOut m.ops).1 = .ok ()) := by
  obtain ⟨metrics, hanswer⟩ := answer_of_handler n src hdecode rfl
  rw [hanswer]
  rcases handleSessionEstablishment_cases cut.header src { n with metrics } m with
    ⟨cause, seid, huntried, -⟩ | ⟨id, cp', a', -, hcp', ha', hrun⟩
  · cases huntried with
    | incomplete hmissing =>
      rcases hmissing with hmissing | hmissing
      · rw [hmissing] at hid
        cases hid
      · cases hcp.symm.trans hmissing
    | stranger hnone => cases ha.symm.trans hnone
  · cases hcp.symm.trans hcp'
    cases ha.symm.trans ha'
    rw [hrun]
    refine ⟨_, rfl, ?_⟩
    rw [establish_run]
    dsimp only
    cases hwork : (n.bench (n.newcomer a cp.seid)).carryOut m.ops with
    | mk result b =>
      have hwork' : (({ n with metrics } : Node).bench
          (({ n with metrics } : Node).newcomer a cp.seid)).carryOut m.ops = (result, b) := hwork
      rw [hwork']
      cases result with
      | ok u => exact iff_of_true rfl rfl
      | error e => exact iff_of_false (fun h => e.cause_ne_accepted (Option.some.inj h)) nofun

/-- A session has its rules in a node that has it. -/
theorem Has.carried {key : String} {seid : UInt64} {b : Workbench} (h : n.Has key seid b)
    (hcarried : m.Carried b) : m.Carried (n.bench b.session) := by
  have hpools : (n.bench b.session).pools = b.pools := h.pools
  have hn3 : (n.bench b.session).n3 = b.n3 := h.n3
  refine ⟨?_, hcarried.qers, hcarried.pdrs, ?_⟩
  · rw [hn3]
    exact hcarried.fars
  · rw [hpools]
    exact hcarried.keys

/-! ## §3. Every node that can be reached. -/

variable {c : Config} {startup : Int} {heartbeats : Bool}

/-- **EXACTLY WHICH ESTABLISHMENTS ARE ACCEPTED.**  Take any node that can be reached,
as long as fewer than 2⁶⁴ establishments have been tried, and any request for a
session from a peer with an association, with a node id and the peer's number of
the session, in which no two rules of a kind have the same number.  It is
answered, and accepted if and only if it is admissible; the session that is then
live under its number has exactly the rules of the request. -/
theorem accepted_iff_admissible (hstart : Node.start c startup heartbeats = .ok n)
    (cs : List Call) (hfew : (n.callHistory cs).tried < UInt64.size)
    (hdecode : Message.decode cut.header.type cut.body = .ok (.sessionEstablishmentRequest m))
    (hid : m.nodeId.isSome = true) (hcp : m.cpFSeid = some cp)
    (ha : (n.calls cs).associationWith src = some a) (hdistinct : m.Distinct) :
    let before := n.calls cs
    let after := n.calls (cs ++ [.message src cut])
    ∃ r, before.answer? src cut = some r
      ∧ (r.message.cause? = some .requestAccepted ↔ m.Admissible before.plane before.pools)
      ∧ (m.Admissible before.plane before.pools → ∃ s,
        after.live (associationKey src) a.nextSessionId = some s ∧ m.Carried (after.bench s)) := by
  intro before after
  have hafter : after = before.call (.message src cut) := calls_concat n cs _
  obtain ⟨hnumbered, hheld⟩ := callBooks_held hstart cs
  obtain ⟨-, htraced⟩ := callBooks_traced hstart cs
  have hledger := n.ledger_callBooks cs
  -- nothing is held under the key of the new session
  have hidle : ¬ before.pools.Busy before.ledger.nextResourceKey := by
    have hidle := hheld.idle_next hnumbered hfew
    rwa [hledger] at hidle
  have hbench : (before.bench (before.newcomer a cp.seid)).Traced [] :=
    Ledger.traced_newcomer (l := before.ledger) (hledger ▸ htraced.sound) a.desk cp.seid
  have hstated : ∀ r ∈ m.createPdr, r.pdi.Stated := fun r hr =>
    SessionEstablishmentRequest.stated_of_decode (Message.establishment_of_decode hdecode) hr
  have houtcome := Workbench.establish_outcome hbench hdistinct rfl rfl rfl rfl hidle hstated
  obtain ⟨r, hanswer, hiff⟩ := establishment_answer hdecode hid hcp ha
  refine ⟨r, hanswer, ?_⟩
  rcases houtcome with ⟨hadmissible, b, hwork, hcarried⟩ | ⟨hnot, e, b, hwork⟩
  · have haccepted : r.message.cause? = some .requestAccepted := hiff.mpr (by rw [hwork])
    refine ⟨iff_of_true haccepted hadmissible, fun _ => ⟨b.session, ?_⟩⟩
    obtain ⟨a', cp', b', ha', -, hcp', hwork', -, hhas⟩ :=
      established_of_accepted hdecode hanswer haccepted
    cases ha.symm.trans ha'
    cases hcp.symm.trans hcp'
    cases hwork.symm.trans hwork'
    rw [hafter]
    exact ⟨hhas.session, hhas.carried hcarried⟩
  · refine ⟨iff_of_false (fun haccepted => ?_) hnot, fun hadmissible => absurd hadmissible hnot⟩
    have hok := hiff.mp haccepted
    rw [hwork] at hok
    cases hok

open Event

/-- A peer asks for a first session with a forwarding rule, and two detection rules
that name it: one with a tunnel end, and one with an address. -/
def matchedRequest : SessionEstablishmentRequest where
  nodeId := some (.ofIp peer.ip)
  cpFSeid := some (.ofIp peer.ip 1)
  createPdr := [{ tunnelled 1 (anyTunnel none) with farId := some ⟨1⟩ },
    { addressed 2 anyIpv4 with farId := some ⟨1⟩ }]
  createFar := [{ farId := ⟨1⟩, applyAction := ⟨2⟩ }]
  createQer := []

/-- The first session is accepted, and has the rules that were asked for. -/
theorem accepted_iff_admissible_first :
    let cs := [setup].flatMap Event.calls
    Node.start {} 0 false = .ok standard ∧ (standard.callHistory cs).tried < UInt64.size
      ∧ matchedRequest.Distinct
      ∧ ∃ cut a r s, Message.decode cut.header.type cut.body
          = .ok (.sessionEstablishmentRequest matchedRequest)
        ∧ (standard.calls cs).associationWith peer = some a
        ∧ (standard.calls cs).answer? peer cut = some r
        ∧ r.message.cause? = some .requestAccepted
        ∧ matchedRequest.Admissible (standard.calls cs).plane (standard.calls cs).pools
        ∧ (standard.calls (cs ++ [.message peer cut])).live "10.0.0.1" a.nextSessionId = some s
        ∧ matchedRequest.Carried ((standard.calls (cs ++ [.message peer cut])).bench s) := by
  intro cs
  have hfew : (standard.callHistory cs).tried < UInt64.size := by decide +kernel
  have hdistinct : matchedRequest.Distinct := ⟨by decide, by decide, by decide⟩
  have hcheck : (Header.walk ((Message.sessionEstablishmentRequest matchedRequest).encode 2
      (some 0))).map (fun cut => ((Message.decode cut.header.type cut.body).toOption,
        ((standard.calls cs).answer? peer cut).bind (·.message.cause?)))
          = [(some (.sessionEstablishmentRequest matchedRequest), some .requestAccepted)] := by
    decide +kernel
  have hassociation : ((standard.calls cs).associationWith peer).isSome = true := by
    decide +kernel
  obtain ⟨cut, r, -, hdecode, hanswer, hcause⟩ := answered_of_check hcheck
  obtain ⟨a, ha⟩ := Option.isSome_iff_exists.mp hassociation
  obtain ⟨r', hanswer', hiff, hcarried⟩ :=
    accepted_iff_admissible start_standard cs hfew hdecode rfl rfl ha hdistinct
  cases hanswer.symm.trans hanswer'
  have hadmissible := hiff.mp hcause
  obtain ⟨s, hs, hcarried⟩ := hcarried hadmissible
  rw [associationKey_peer] at hs
  exact ⟨start_standard, hfew, hdistinct, cut, a, r, s, hdecode, ha, hanswer, hcause, hadmissible,
    hs, hcarried⟩

/-! ## §4. A session that does with what another holds. -/

/-- A node with one tunnel id. -/
def scarce : Node where
  params := .ofConfig { teidPool := 1 } 0
  plane := .make 1024 1024
  pools := .make ⟨0x0A3C0000, 24⟩ none 1

theorem start_scarce : Node.start { teidPool := 1 } 0 false = .ok scarce := by decide +kernel

/-- The peer asks for a session with a tunnel end. -/
def tunnelledRequest : SessionEstablishmentRequest where
  nodeId := some (.ofIp peer.ip)
  cpFSeid := some (.ofIp peer.ip 1)
  createPdr := [tunnelled 1 (anyTunnel none)]
  createFar := []
  createQer := []

/-- While the one tunnel id is held, there is none that is free. -/
theorem freeTeids_scarce (cs : List Call) (hheld : (scarce.calls cs).pools.HoldsTeid 1 1 1) :
    (scarce.calls cs).pools.freeTeids = 0 := by
  obtain ⟨-, hcapacities⟩ := callBooks_held start_scarce cs
  have hcapacity : (scarce.calls cs).pools.teids.capacity = 1 := by
    have hsame := congrArg Prod.snd hcapacities.capacities
    rw [ledger_callBooks] at hsame
    exact hsame
  obtain ⟨k, hk, -⟩ := hheld
  have hk : ((scarce.calls cs).pools.teids.heldBy 1).get? 1 = some k := hk
  have hsize := Table.total_of_get? (fun _ _ => 1) hk
  rw [← Table.size_eq_total] at hsize
  rw [TeidPool.capacity, TeidPool.total_held (scarce.calls cs).pools.teids 1] at hcapacity
  rw [(sound_calls start_scarce cs).freeTeids_eq_left]
  omega

/-- **An establishment can be accepted though it is not admissible**: once keys are
given out again, a new session is given the tunnel id that another holds under
its key, though there is none that is free. -/
theorem accepted_without_teids : ∃ cs cut a r,
    Node.start { teidPool := 1 } 0 false = .ok scarce
    ∧ Message.decode cut.header.type cut.body
      = .ok (.sessionEstablishmentRequest tunnelledRequest)
    ∧ tunnelledRequest.Distinct ∧ (scarce.calls cs).associationWith peer = some a
    ∧ (scarce.calls cs).answer? peer cut = some r
    ∧ r.message.cause? = some .requestAccepted
    ∧ (scarce.calls cs).pools.freeTeids = 0
    ∧ ¬ tunnelledRequest.Admissible (scarce.calls cs).plane (scarce.calls cs).pools := by
  have hcheck : (Header.walk ((Message.sessionEstablishmentRequest tunnelledRequest).encode 2
      (some 0))).map (fun cut => ((Message.decode cut.header.type cut.body).toOption,
        ((scarce.calls ([setup].flatMap Event.calls)).answer? peer cut).bind (·.message.cause?)))
          = [(some (.sessionEstablishmentRequest tunnelledRequest), some .requestAccepted)] := by
    decide +kernel
  obtain ⟨cut, -, -, hdecode, -, -⟩ := answered_of_check hcheck
  obtain ⟨cs, a, ha, -, hkey, -, hheld, -⟩ := keys_given_again scarce
    [setup, establishment [tunnelled 1 (anyTunnel none)] []] (by decide +kernel)
    (by decide +kernel) ⟨1, by unfold TeidPool.Holds; decide +kernel, rfl⟩
  have hassociation : (scarce.calls cs).associationWith peer = some a := by
    unfold associationWith
    rw [associationKey_peer]
    exact ha
  -- the rule is made from what is held under the key
  have hbench : ((scarce.calls cs).bench ((scarce.calls cs).newcomer a 1)).session.resourceKey = 1 :=
    hkey
  obtain ⟨b, hwork, -⟩ := createPdr_of_held (hbench ▸ hheld) rfl
  have hok : (((scarce.calls cs).bench ((scarce.calls cs).newcomer a 1)).carryOut
      tunnelledRequest.ops).1 = .ok () := by
    show (Workbench.carryOut _ [.createPdr (tunnelled 1 (anyTunnel none))]).1 = _
    rw [Workbench.carryOut_cons, hwork]
    rfl
  obtain ⟨r, hanswer, hiff⟩ := establishment_answer hdecode rfl rfl hassociation
  have hnone := freeTeids_scarce cs hheld
  refine ⟨cs, cut, a, r, start_scarce, hdecode, ⟨by decide, by decide, by decide⟩, hassociation,
    hanswer, hiff.mpr hok, hnone, fun hadmissible => ?_⟩
  have hteids := hadmissible.teids
  rw [hnone] at hteids
  exact absurd hteids (by decide)

end Node

end UserPlane
