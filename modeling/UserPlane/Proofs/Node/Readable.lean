/-
  UserPlane.Proofs.Node.Readable
  ──────────────────────────────
  **WHICH ANSWERS THE PEER CAN READ.**

  All that a node answers is made of values that read back, so that an answer is
  read back exactly if its length fits the 16 bits there are for it.  An answer
  to an establishment grows by what is reported as chosen, at most 44 octets for
  29 of the request, and outgrows those bits when the request does not:

      Reply.Readable             the octets stand for the answer and nothing else
      Answer.wellFormed          what is answered reads back
      Answer.body_length_le      a short request has a short answer
      Node.replies_readable      which answers are readable, in every state
-/
import UserPlane.Proofs.Node.Heartbeats
import UserPlane.Proofs.Node.Replies
import UserPlane.Proofs.Session.Reports

namespace UserPlane

/-! ## §1. Answers are made of values that read back. -/

theorem NodeId.wellFormed_ofIp (ip : Ip) : (NodeId.ofIp ip).WellFormed := by
  cases ip <;> simp [NodeId.WellFormed, NodeId.lengthOk, NodeId.ofIp]

theorem Parameters.wellFormed_features (p : Parameters) : p.features.WellFormed := by
  unfold Parameters.features
  cases p.featureFtup <;> cases p.featureUeip <;> rfl

theorem FTeid.wellFormed_ofIp (a : Ipv4) (teid : UInt32) :
    (FTeid.ofIp (.v4 a) teid).WellFormed := by
  constructor <;>
    simp only [FTeid.ofIp, FTeid.isChoose, Option.isSome_some, Option.isSome_none] <;> decide

theorem UeIpAddress.wellFormed_ofIp (ip : Ip) (destination : Bool) :
    (UeIpAddress.ofIp ip destination).WellFormed := by
  cases ip <;> cases destination <;> constructor <;>
    simp only [UeIpAddress.ofIp, Option.isSome_some, Option.isSome_none] <;> decide

theorem RuleOp.Reports.wellFormed {op : RuleOp} {r : CreatedPdr} (h : op.Reports r) :
    r.WellFormed := by
  obtain ⟨pdi, -, hreports⟩ := h
  constructor
  · intro t ht
    obtain ⟨-, n3, teid, rfl⟩ := hreports.localFTeid t ht
    exact FTeid.wellFormed_ofIp n3 teid
  · intro a ha
    obtain ⟨-, ip, destination, rfl⟩ := hreports.ueIpAddress a ha
    exact UeIpAddress.wellFormed_ofIp ip destination

/-- What a request has had chosen can be told. -/
theorem Workbench.wellFormed_created {ops : List RuleOp} {b b' : Workbench}
    (hnew : b.created = []) (h : b.carryOut ops = (.ok (), b')) :
    ∀ r ∈ b'.created, r.WellFormed := by
  obtain ⟨rs, hrs, hbeside⟩ := carryOut_reports h
  rw [hrs, hnew, List.nil_append]
  clear hrs h hnew
  induction hbeside with
  | nil => exact List.forall_mem_nil _
  | cons hreports _ ih => exact List.forall_mem_cons.mpr ⟨hreports.wellFormed, ih⟩
  | cons_right _ ih => exact ih

/-- What it takes to tell it. -/
theorem Workbench.size_created {ops : List RuleOp} {b b' : Workbench}
    (hnew : b.created = []) (h : b.carryOut ops = (.ok (), b')) :
    ∃ x y, (b'.created.map Element.size).sum ≤ 44 * x + 31 * y
      ∧ 29 * x + 24 * y ≤ (ops.map RuleOp.least).sum := by
  obtain ⟨rs, hrs, hbeside⟩ := carryOut_reports h
  rw [hrs, hnew, List.nil_append]
  exact reports_paid hbeside

/-! ## §2. What requests take, by their operations. -/

/-- Of an establishment, the rules to be made may be reported on. -/
theorem SessionEstablishmentRequest.least_ops (m : SessionEstablishmentRequest) :
    (m.ops.map RuleOp.least).sum = (m.createPdr.map CreatePdr.least).sum := by
  simp [ops, RuleOp.least, Function.comp_def]

/-- Of a modification, the rules to be made or changed. -/
theorem SessionModificationRequest.least_ops (m : SessionModificationRequest) :
    (m.ops.map RuleOp.least).sum
      = (m.createPdr.map CreatePdr.least).sum + (m.updatePdr.map UpdatePdr.least).sum := by
  simp [ops, RuleOp.least, Function.comp_def]

/-! ## §3. Answers. -/

namespace Answer

variable {p : Parameters} {m : Message} {r : Reply} {ip : Ip}

/-- **What a node answers reads back**, if the node is named by an address. -/
theorem wellFormed (h : Answer p m r) (hid : p.nodeId = .ofIp ip) : r.message.WellFormed := by
  have hname : p.nodeId.WellFormed := hid ▸ NodeId.wellFormed_ofIp ip
  cases h with
  | alive => trivial
  | setup m cause =>
    refine ⟨hname, fun f hf => ?_⟩
    dsimp only at hf
    split at hf
    · cases hf
      exact p.wellFormed_features
    · cases hf
  | update | release => exact hname
  | refused => exact ⟨hname, List.forall_mem_nil _⟩
  | established m number seid hnew hwork =>
    exact ⟨hname, Workbench.wellFormed_created hnew hwork⟩
  | unmodified => exact List.forall_mem_nil _
  | modified m seid hnew hwork => exact Workbench.wellFormed_created hnew hwork
  | deletion => trivial

end Answer

/-- What the answer to an establishment takes. -/
theorem length_establishmentResponse (p : Parameters) (cause : Cause) (up : Option FSeid)
    (created : List CreatedPdr) (seid : UInt64) :
    (establishmentResponse p cause up created seid).message.body.length
      = Element.size p.nodeId + 5 + up.elim 0 Element.size + (created.map Element.size).sum := by
  rw [Message.body, ElementRun.length_octets]
  simp [establishmentResponse, Reply.session, Message.elements, Body.write]

/-- What the answer to a modification takes. -/
theorem length_modificationResponse (cause : Cause) (created : List CreatedPdr) (seid : UInt64) :
    (modificationResponse cause created seid).message.body.length
      = 5 + (created.map Element.size).sum := by
  rw [Message.body, ElementRun.length_octets]
  simp [modificationResponse, Reply.session, Message.elements, Body.write]

namespace Answer

variable {p : Parameters} {m : Message} {r : Reply} {ip : Ip}

/-- An answer about no session is short. -/
theorem body_length_of_node (h : Answer p m r) (hid : p.nodeId = .ofIp ip)
    (hnone : r.seid = none) : r.message.body.length ≤ 44 := by
  have hname : Element.size p.nodeId ≤ 21 := hid ▸ NodeId.size_ofIp_le ip
  rw [Message.body, ElementRun.length_octets]
  cases h with
  | alive => simp [Reply.node, Message.elements, Body.write]
  | setup m cause =>
    have hfeatures : (if cause.isAccepted then some p.features else none).elim 0 Element.size
        ≤ 10 := by split <;> simp
    simp only [setupResponse, Reply.node, Message.elements, Body.write, ElementRun.size_append,
      ElementRun.size_one, ElementRun.size_maybe, Cause.size_eq, RecoveryTimeStamp.size_eq,
      Option.elim_some]
    omega
  | update m cause =>
    have hstamp : (if cause.isAccepted then some p.recoveryTimeStamp else none).elim 0 Element.size
        ≤ 8 := by split <;> simp
    simp only [updateResponse, Reply.node, Message.elements, Body.write, ElementRun.size_append,
      ElementRun.size_one, ElementRun.size_maybe, Cause.size_eq]
    omega
  | release m cause =>
    simp only [releaseResponse, Reply.node, Message.elements, Body.write, ElementRun.size_append,
      ElementRun.size_one, Cause.size_eq]
    omega
  | _ => cases hnone

/-- **A short request has a short answer.**  What is reported takes 44 octets for 29 of
the request, or 31 for 24, and nothing else in the answer grows. -/
theorem body_length_le (h : Answer p m r) (hid : p.nodeId = .ofIp ip) (hleast : m.least ≤ 43170) :
    r.message.body.length ≤ 65523 := by
  have hname : Element.size p.nodeId ≤ 21 := hid ▸ NodeId.size_ofIp_le ip
  cases hseid : r.seid with
  | none =>
    have hshort := h.body_length_of_node hid hseid
    omega
  | some seid =>
    cases h with
    | refused m cause seid =>
      rw [length_establishmentResponse, List.map_nil, List.sum_nil, Option.elim_none]
      omega
    | established m number seid hnew hwork hcomplete =>
      have hleast : m.least ≤ 43170 := hleast
      obtain ⟨x, y, hsize, hpaid⟩ := Workbench.size_created hnew hwork
      have hnumber := FSeid.size_ofIp_le p.nodeIp number
      -- the names of the request have to be there
      obtain ⟨hnode, hcp⟩ := hcomplete
      obtain ⟨node, hnode⟩ := Option.isSome_iff_exists.mp hnode
      obtain ⟨cp, hcp⟩ := Option.isSome_iff_exists.mp hcp
      rw [m.least_ops] at hpaid
      simp only [SessionEstablishmentRequest.least, hnode, hcp, Option.elim_some] at hleast
      have hx : x ≤ 1487 := by omega
      rw [length_establishmentResponse, Option.elim_some]
      omega
    | unmodified m cause seid =>
      rw [length_modificationResponse, List.map_nil, List.sum_nil]
      omega
    | modified m seid hnew hwork =>
      have hleast : m.least ≤ 43170 := hleast
      obtain ⟨x, y, hsize, hpaid⟩ := Workbench.size_created hnew hwork
      rw [m.least_ops] at hpaid
      unfold SessionModificationRequest.least at hleast
      rw [length_modificationResponse]
      omega
    | deletion m cause seid =>
      have hfive : (deletionResponse cause seid).message.body.length = 5 := rfl
      omega
    | _ => cases hseid

end Answer

/-! ## §4. Readable answers. -/

/-- What is cut off the octets of a message. -/
def Message.cut (m : Message) (sequence : UInt32) (seid : Option UInt64) : Header.Cut :=
  ⟨.make m.type seid sequence m.body.length, m.body, []⟩

/-- A message that was written is cut off as a whole. -/
theorem Message.decode_encode {m : Message} {sequence : UInt32} {seid : Option UInt64}
    (hbody : m.body.length ≤ 65523) (hsequence : sequence.toNat < 16777216) :
    Header.decode (m.encode sequence seid) = .ok (m.cut sequence seid) := by
  rw [← List.append_nil (m.encode sequence seid)]
  exact Header.decode_make hsequence hbody []

namespace Reply

variable {r : Reply} {sequence : UInt32}

/-- The octets of the answer are one message and nothing else, with as many octets
behind the first four as its header says, and stand for the answer. -/
def Readable (r : Reply) (sequence : UInt32) : Prop :=
  ∃ header, r.message.encode? sequence r.seid = some (r.outgoing sequence).octets
    ∧ Header.decode (r.outgoing sequence).octets = .ok ⟨header, r.message.body, []⟩
    ∧ header.length.toNat + 4 = (r.outgoing sequence).octets.length
    ∧ header.sequence = sequence ∧ header.seid = r.seid
    ∧ Message.decode header.type r.message.body = .ok r.message

/-- An answer whose body fits is readable. -/
theorem readable_of_body (hwf : r.message.WellFormed) (hlength : r.message.body.length ≤ 65523)
    (hsequence : sequence.toNat < 16777216) : r.Readable sequence := by
  have hshort : r.message.body.length < valueLimit := Nat.lt_of_le_of_lt hlength (by decide)
  obtain ⟨hfits, hdecode⟩ := Message.decode_body hwf hshort
  have hcut : Header.decode (r.outgoing sequence).octets = .ok (r.message.cut sequence r.seid) :=
    Message.decode_encode hlength hsequence
  -- the octets that are cut off are as many as the header says
  obtain ⟨frame, hframe, -, hcount, -⟩ := Header.decode_framed hcut
  replace hframe : (r.outgoing sequence).octets = frame := hframe.trans (List.append_nil frame)
  exact ⟨_, if_pos hfits, hcut, hcount.symm.trans (congrArg List.length hframe).symm,
    Header.make_sequence hsequence, rfl, hdecode⟩

/-- No more octets than 65539 are readable. -/
theorem Readable.length_le (h : r.Readable sequence) :
    (r.outgoing sequence).octets.length ≤ 65539 := by
  obtain ⟨header, -, -, hcount, -⟩ := h
  have hlt := header.length.toNat_lt
  omega

end Reply

/-- **An answer is readable exactly if it has 65539 octets at most.** -/
theorem Answer.readable_iff {p : Parameters} {m : Message} {r : Reply} {ip : Ip}
    {sequence : UInt32} (h : Answer p m r) (hid : p.nodeId = .ofIp ip)
    (hsequence : sequence.toNat < 16777216) :
    r.Readable sequence ↔ (r.outgoing sequence).octets.length ≤ 65539 := by
  refine ⟨Reply.Readable.length_le, fun hlength => ?_⟩
  refine Reply.readable_of_body (h.wellFormed hid) ?_ hsequence
  have htotal : (r.outgoing sequence).octets.length = _ :=
    r.message.length_encode sequence r.seid
  cases hseid : r.seid with
  | none =>
    have hshort := h.body_length_of_node hid hseid
    omega
  | some seid =>
    rw [hseid] at htotal
    simp only [Option.isSome_some, if_true] at htotal
    omega

namespace Node

/-- **Which answers the peer can read.**  Let a node be named by an address.  In every
state of it, whatever a datagram holds, each answer is one whole message that reads
back as it was meant, under its number, exactly if it has 65539 octets at most; and
all the answers to a datagram of 43178 octets at most are of that length. -/
theorem replies_readable {c : Config} {startup : Int} {heartbeats : Bool} {n₀ : Node}
    (hstart : Node.start c startup heartbeats = .ok n₀) {ip : Ip}
    (hid : Ip.ofText? c.pfcpNodeId.toList = some ip) (cs : List Call) (bs : Octets)
    (src : SocketAddress) :
    let answers := replies src (n₀.calls cs) (Header.walk bs)
    ((treatDatagram bs src).run (n₀.calls cs)).1
        = answers.map (fun p => p.2.outgoing p.1.header.sequence)
      ∧ ∀ p ∈ answers,
        (p.2.Readable p.1.header.sequence
            ↔ (p.2.outgoing p.1.header.sequence).octets.length ≤ 65539)
          ∧ (bs.length ≤ 43178 → p.2.Readable p.1.header.sequence) := by
  intro answers
  refine ⟨treatDatagram_answers _ bs src, fun p hp => ?_⟩
  obtain ⟨hmem, m, hdecode, hanswer⟩ := replies_answer _ src _ p hp
  have hname : (n₀.calls cs).params.nodeId = .ofIp ip := by
    rw [params_calls]
    obtain ⟨ipv4, ipv6, rfl⟩ := start_eq hstart
    show NodeId.ofText c.pfcpNodeId = _
    rw [NodeId.ofText, hid]
  obtain ⟨bs', hcut⟩ := Header.decode_of_mem_walk hmem
  have hsequence := (Header.decode_kept hcut).2.2
  refine ⟨hanswer.readable_iff hname hsequence, fun hlength => ?_⟩
  have hbody := Header.body_length_of_mem_walk hmem
  have hleast := Message.least_le hdecode
  exact Reply.readable_of_body (hanswer.wellFormed hname)
    (hanswer.body_length_le hname (by omega)) hsequence

/-- A peer with an association asks for a session, with a rule whose tunnel end the node
is to choose; what it is answered is readable. -/
theorem replies_readable_first :
    let request := (Message.sessionEstablishmentRequest
      ⟨some (.ofIp Event.peer.ip), some (.ofIp Event.peer.ip 1),
        [{ pdrId := ⟨1⟩
           pdi := {
             sourceInterface := .access
             localFTeid := some (.choose true false none) } }],
        [], []⟩).encode 2 (some 0)
    Node.start {} 0 false = .ok standard
      ∧ Ip.ofText? (Config.pfcpNodeId {}).toList = some (.v4 ⟨0x7F000001⟩)
      ∧ request.length ≤ 43178
      ∧ ∃ p : Header.Cut × Reply,
        ((treatDatagram request Event.peer).run (standard.calls Event.setup.calls)).1
          = [p.2.outgoing p.1.header.sequence]
        ∧ p.2.Readable p.1.header.sequence := by
  intro request
  have hid : Ip.ofText? (Config.pfcpNodeId {}).toList = some (.v4 ⟨0x7F000001⟩) := by
    decide +kernel
  have hlength : request.length ≤ 43178 := by decide +kernel
  have hone : (replies Event.peer (standard.calls Event.setup.calls)
      (Header.walk request)).length = 1 := by decide +kernel
  obtain ⟨p, hreplies⟩ := List.length_eq_one_iff.mp hone
  obtain ⟨hanswers, hreadable⟩ :=
    replies_readable start_standard hid Event.setup.calls request Event.peer
  rw [hreplies] at hanswers hreadable
  exact ⟨start_standard, hid, hlength, p, hanswers, (hreadable p (by simp)).2 hlength⟩

end Node

end UserPlane
