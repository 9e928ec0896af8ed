/-
  UserPlane.Proofs.Node.Outgrowing
  ────────────────────────────────
  **ANSWERS THAT OUTGROW THEIR REQUESTS.**

  A rule that leaves its tunnel end and an IPv6 address to the node takes 29 octets,
  and what is reported on it 44.  A rule may be repeated in one request, so that a
  peer decides how long the answer becomes; and there are requests of 43179 octets
  whose answers nobody can read, one octet more than all answers are readable for:

      CreatePdr.leftOpen                 the rule
      leftOpen_reports                   what is reported on it
      Node.answer_repeated               how long the answer is, however often it is repeated
      Node.answer_repeated_unreadable    an answer that has outgrown its length
-/
import UserPlane.Proofs.Node.Readable
import UserPlane.Proofs.Session.Repetition

namespace UserPlane

/-! ## §1. The rule. -/

/-- A rule that leaves its tunnel end and an IPv6 address to the node. -/
def CreatePdr.leftOpen : CreatePdr where
  pdrId := ⟨1⟩
  pdi := {
    sourceInterface := .access
    localFTeid := some (.choose true false none)
    ueIpAddress := some { flags := 32 } }

/-- A request for a session with this rule so many times, by a node of a short name. -/
def repeatedRequest (k : Nat) : SessionEstablishmentRequest where
  nodeId := some ⟨.fqdn, [97]⟩
  cpFSeid := some ⟨none, none, 1⟩
  createPdr := List.replicate k .leftOpen
  createFar := []
  createQer := []

theorem length_repeatedRequest (k : Nat) :
    (Message.sessionEstablishmentRequest (repeatedRequest k)).body.length = 19 + 29 * k := by
  have hrule : Element.size CreatePdr.leftOpen = 29 := by decide
  have hnode : Element.size (⟨.fqdn, [97]⟩ : NodeId) = 6 := by decide
  have hnumber : Element.size (⟨none, none, 1⟩ : FSeid) = 13 := by decide
  rw [Message.body, ElementRun.length_octets]
  simp only [Message.elements, Body.write, repeatedRequest, ElementRun.size_append,
    ElementRun.size_maybe, ElementRun.size_each, Option.elim_some, hnode, hnumber,
    List.map_replicate, hrule, List.sum_replicate_nat, List.map_nil, List.sum_nil]
  omega

theorem CreatePdr.wellFormed_leftOpen : CreatePdr.leftOpen.WellFormed := by
  refine ⟨?_, ?_⟩
  · rintro t ⟨⟩
    exact ⟨by decide, by decide, by decide, by decide⟩
  · rintro a ⟨⟩
    exact ⟨by decide, by decide, by decide, by decide⟩

theorem wellFormed_repeatedRequest (k : Nat) : (repeatedRequest k).WellFormed where
  nodeId := by
    rintro n ⟨⟩
    rfl
  createPdr r hr := by
    obtain rfl := List.eq_of_mem_replicate hr
    exact CreatePdr.wellFormed_leftOpen
  createFar := by simp [repeatedRequest]
  createQer := by simp [repeatedRequest]

/-- What is reported on the rule: a tunnel end and an IPv6 address. -/
theorem leftOpen_reports {b b' : Workbench}
    (h : (RuleOp.createPdr .leftOpen).step.work b = (.ok (), b')) :
    ∃ n3 teid ip, b'.created
      = b.created ++ [⟨⟨1⟩, some (.ofIp (.v4 n3) teid), some (.ofIp (.v6 ip) false)⟩] := by
  have hteidWish : CreatePdr.leftOpen.pdi.localFTeid = some (.choose true false none) := rfl
  have hipWish : CreatePdr.leftOpen.pdi.ueIpAddress = some { flags := 32 } := rfl
  rw [RuleOp.step, RuleStep.createPdr_eq] at h
  obtain ⟨pdr, b₁, hdraft, hfile⟩ := RuleStep.work_bind_eq_ok h
  have hfiled := RuleStep.keeps_filed Workbench.besidePdrs_created
    CreatePdr.leftOpen.pdrId.ruleId pdr b₁
  rw [hfile] at hfiled
  have hkey := RuleStep.drafted_key hdraft
  unfold RuleStep.detection at hkey
  -- the address comes first, and then the tunnel id
  obtain ⟨⟨address, chosenAddress⟩, b₂, haddress, hkey⟩ := RuleStep.work_bind_eq_ok hkey
  have hcreated₂ := (RuleStep.ueAddress_reports haddress).1
  unfold RuleStep.ueAddress at haddress
  rw [hipWish] at haddress
  dsimp only at haddress hkey
  rw [if_neg (by decide), if_pos (by decide)] at haddress
  obtain ⟨ip, b₃, -, haddress⟩ := RuleStep.work_bind_eq_ok haddress
  cases haddress
  rw [hteidWish] at hkey
  obtain ⟨⟨teid, chosenTeid⟩, b₄, hteid, hkey⟩ := RuleStep.work_bind_eq_ok hkey
  have hcreated₄ := (RuleStep.localTeid_reports hteid).1
  unfold RuleStep.localTeid at hteid
  rw [if_pos (by decide)] at hteid
  obtain ⟨teid', b₅, -, hteid⟩ := RuleStep.work_bind_eq_ok hteid
  rw [RuleStep.work_bind_ok (RuleStep.work_get b₅)] at hteid
  cases hteid
  have hreported := congrArg (·.2.created) ((RuleStep.work_report true
    [⟨⟨1⟩, some (.ofIp (.v4 b₄.n3) teid), some (.ofIp (.v6 ip) false)⟩]
    (.uplink teid) b₄).symm.trans hkey)
  refine ⟨b₄.n3, teid, ip, hfiled.trans (hreported.symm.trans ?_)⟩
  rw [hcreated₂] at hcreated₄
  exact congrArg (· ++ _) hcreated₄

theorem ops_repeatedRequest (k : Nat) :
    (repeatedRequest k).ops = List.replicate k (.createPdr .leftOpen) := by
  simp [repeatedRequest, SessionEstablishmentRequest.ops]

/-! ## §2. How long its answer is. -/

/-- A message that was written is handled as one message. -/
theorem treatDatagram_encode {m : Message} {sequence : UInt32} {seid : Option UInt64}
    (n : Node) (src : SocketAddress) (hbody : m.body.length ≤ 65523)
    (hsequence : sequence.toNat < 16777216) :
    ((treatDatagram (m.encode sequence seid) src).run n).1
      = ((n.answer? src (m.cut sequence seid)).map (·.outgoing sequence)).toList := by
  have hlast : (m.cut sequence seid).header.hasFollowOn = false :=
    Header.make_followOn m.type seid sequence m.body.length
  have hnumber : (m.cut sequence seid).header.sequence = sequence := Header.make_sequence hsequence
  rw [Node.treatDatagram_answers, Header.walk_of_ok (Message.decode_encode hbody hsequence),
    hlast, Node.replies, if_neg (by decide), Node.replies, List.append_nil]
  cases n.answer? src (m.cut sequence seid) with
  | none => rfl
  | some r =>
    show [r.outgoing (m.cut sequence seid).header.sequence] = _
    rw [hnumber]
    rfl

namespace Node

variable {n : Node} {src : SocketAddress} {a : Association}

/-- An establishment whose rules can be carried out is accepted. -/
theorem run_handleSessionEstablishment {m : SessionEstablishmentRequest} {id : NodeId} {cp : FSeid}
    {b : Workbench} (h : Header) (hid : m.nodeId = some id) (hcp : m.cpFSeid = some cp)
    (ha : n.associationWith src = some a)
    (hwork : (n.bench (n.newcomer a cp.seid)).carryOut m.ops = (.ok (), b)) :
    ((handleSessionEstablishment h m src).run n).1
      = some (establishmentResponse n.params .requestAccepted
          (some (.ofIp n.params.nodeIp (n.newcomer a cp.seid).localSeid)) b.created cp.seid) := by
  rw [handleSessionEstablishment_run hid hcp ha, establish_run]
  dsimp only
  rw [hwork]

/-- If the rule can be made for a new session, the request is accepted, however often
the rule is repeated, and as often is what was chosen reported. -/
theorem answer_repeatedRequest (ha : n.associationWith src = some a)
    (hmade : ((RuleOp.createPdr .leftOpen).step.work (n.bench (n.newcomer a 1))).1 = .ok ())
    {k : Nat} {c : Header.Cut} (hdecode : Message.decode c.header.type c.body
      = .ok (.sessionEstablishmentRequest (repeatedRequest (k + 1)))) :
    ∃ n3 teid ip, n.answer? src c
      = some (establishmentResponse n.params .requestAccepted
          (some (.ofIp n.params.nodeIp (n.newcomer a 1).localSeid))
          (List.replicate (k + 1)
            ⟨⟨1⟩, some (.ofIp (.v4 n3) teid), some (.ofIp (.v6 ip) false)⟩) 1) := by
  obtain ⟨b', hwork⟩ : ∃ b', (RuleOp.createPdr .leftOpen).step.work (n.bench (n.newcomer a 1))
      = (.ok (), b') := ⟨_, Prod.ext hmade rfl⟩
  obtain ⟨n3, teid, ip, hreported⟩ := leftOpen_reports hwork
  obtain ⟨rs, hcreated, hrepeated⟩ := Workbench.carryOut_replicate hwork
  obtain rfl : [_] = rs := List.append_cancel_left (hreported.symm.trans hcreated)
  specialize hrepeated k
  rw [← ops_repeatedRequest] at hrepeated
  refine ⟨n3, teid, ip, ?_⟩
  have hrun := run_handleSessionEstablishment
    (n := { n with metrics := n.metrics.received "PFCPSessionEstablishmentRequest" })
    (m := repeatedRequest (k + 1)) c.header rfl rfl ha hrepeated
  unfold answer?
  rw [hdecode]
  refine hrun.trans ?_
  dsimp only
  rw [List.flatten_replicate_singleton]
  rfl

/-- What the answer takes, of a node with IPv6 names. -/
theorem length_repeatedResponse {p : Parameters} {name address : Ipv6}
    (hname : p.nodeId = .ofIp (.v6 name)) (haddress : p.nodeIp = .v6 address) (number : UInt64)
    (n3 : Ipv4) (teid : UInt32) (ip : Ipv6) (k : Nat) :
    (establishmentResponse p .requestAccepted (some (.ofIp p.nodeIp number))
      (List.replicate k ⟨⟨1⟩, some (.ofIp (.v4 n3) teid), some (.ofIp (.v6 ip) false)⟩)
        1).message.body.length = 55 + 44 * k := by
  have hid : Element.size p.nodeId = 21 := by
    simp [hname, Element.size, rawElement, RawElement.size, Element.payload, NodeId.ofIp]
  have hnumber : Element.size (FSeid.ofIp p.nodeIp number) = 29 := by
    simp [haddress, Element.size, rawElement, RawElement.size, Element.payload, FSeid.ofIp,
      optionalBytes]
  have hreport : Element.size (⟨⟨1⟩, some (.ofIp (.v4 n3) teid),
      some (.ofIp (.v6 ip) false)⟩ : CreatedPdr) = 44 := by
    have hip : Element.size (UeIpAddress.ofIp (.v6 ip) false) = 21 := by
      simp [Element.size, rawElement, RawElement.size, Element.payload, UeIpAddress.ofIp,
        optionalBytes]
    simp [CreatedPdr.size_eq, FTeid.size_ofIp, hip]
  rw [length_establishmentResponse, Option.elim_some, hid, hnumber, List.map_replicate, hreport,
    List.sum_replicate_nat]
  omega

/-- **How long an answer becomes.**  Let a node be named by an IPv6 address, and be able to
make the rule for a new session of a peer.  Then the peer gets 44 octets for each of the
rules, which took it 29, and cannot read them if the rules are more than 1487. -/
theorem answer_repeated {name address : Ipv6} (hname : n.params.nodeId = .ofIp (.v6 name))
    (haddress : n.params.nodeIp = .v6 address) (ha : n.associationWith src = some a)
    (hmade : ((RuleOp.createPdr .leftOpen).step.work (n.bench (n.newcomer a 1))).1 = .ok ())
    {k : Nat} (hk : k < 2257) :
    let request := (Message.sessionEstablishmentRequest (repeatedRequest (k + 1))).encode 2 none
    request.length = 27 + 29 * (k + 1) ∧ ∃ r : Reply,
      ((treatDatagram request src).run n).1 = [r.outgoing 2]
        ∧ (r.outgoing 2).octets.length = 71 + 44 * (k + 1)
        ∧ (r.Readable 2 ↔ k + 1 ≤ 1487) := by
  have hbody := length_repeatedRequest (k + 1)
  have hwf : (Message.sessionEstablishmentRequest (repeatedRequest (k + 1))).WellFormed :=
    wellFormed_repeatedRequest (k + 1)
  generalize hm : Message.sessionEstablishmentRequest (repeatedRequest (k + 1)) = m at *
  have hlimit : m.body.length < valueLimit := by
    unfold valueLimit
    omega
  have hfits : m.body.length ≤ 65523 := by omega
  have hdecode : Message.decode m.type m.body = .ok m := (Message.decode_body hwf hlimit).2
  obtain ⟨n3, teid, ip, hanswer⟩ :=
    answer_repeatedRequest (c := m.cut 2 none) ha hmade (hdecode.trans (congrArg _ hm.symm))
  -- what is answered is an answer, and so its length says whether it is readable
  have hasks : (m.cut 2 none).asks = true := by
    unfold Header.Cut.asks
    rw [show Message.decode (m.cut 2 none).header.type (m.cut 2 none).body = .ok m from hdecode,
      ← hm]
    rfl
  obtain ⟨m', r, -, hr, hmay⟩ := n.answer_of_asks src hasks
  have hsame := Option.some.inj (hr.symm.trans hanswer)
  have hlength : (r.outgoing 2).octets.length = 71 + 44 * (k + 1) := by
    have hresponse := length_repeatedResponse hname haddress (n.newcomer a 1).localSeid n3 teid ip
      (k + 1)
    have hseid : r.seid = some 1 := congrArg Reply.seid hsame
    rw [← hsame] at hresponse
    refine (r.message.length_encode 2 r.seid).trans ?_
    rw [hresponse, hseid, if_pos (by decide)]
    omega
  refine ⟨?_, r, ?_, hlength, ?_⟩
  · rw [m.length_encode, hbody, if_neg (by decide)]
    omega
  · rw [treatDatagram_encode n src hfits (by decide), hr]
    rfl
  · rw [hmay.readable_iff hname (by decide), hlength]
    omega

/-- A node that is named by an IPv6 address and has such addresses to give. -/
def ipv6Node : Node where
  params := .ofConfig { pfcpNodeId := "::1", ipPoolV6 := some "2001:db8::/64" } 0
  plane := .make 1024 1024
  pools := .make ⟨0x0A3C0000, 24⟩ (some ⟨0x20010DB8 <<< 96, 64⟩) 65536

/-- **There are answers that cannot be read.**  This node is started, and a peer sets up an
association; what it gets then for a request of 43179 octets is not readable. -/
theorem answer_repeated_unreadable :
    Node.start { pfcpNodeId := "::1", ipPoolV6 := some "2001:db8::/64" } 0 false = .ok ipv6Node
      ∧ ∃ (request : Octets) (r : Reply), request.length = 43179
        ∧ ((treatDatagram request Event.peer).run (ipv6Node.calls Event.setup.calls)).1
          = [r.outgoing 2]
        ∧ ¬ r.Readable 2 := by
  have hstart : Node.start { pfcpNodeId := "::1", ipPoolV6 := some "2001:db8::/64" } 0 false
      = .ok ipv6Node := by decide +kernel
  let n := ipv6Node.calls Event.setup.calls
  have hmade : (n.associationWith Event.peer).map (fun a =>
      ((RuleOp.createPdr .leftOpen).step.work (n.bench (n.newcomer a 1))).1) = some (.ok ()) := by
    decide +kernel
  obtain ⟨a, ha, hmade⟩ := Option.map_eq_some_iff.mp hmade
  have hname : n.params.nodeId = .ofIp (.v6 ⟨1⟩) := by decide +kernel
  have haddress : n.params.nodeIp = .v6 ⟨1⟩ := by decide +kernel
  obtain ⟨hlength, r, hanswer, -, hreadable⟩ :=
    answer_repeated hname haddress ha hmade (k := 1487) (by decide)
  exact ⟨hstart, _, r, hlength, hanswer, fun h => absurd (hreadable.mp h) (by decide)⟩

end Node

end UserPlane
