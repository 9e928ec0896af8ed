/-
  UserPlane.Proofs.Node.Disclosure
  ────────────────────────────────
  **WHAT A PEER IS TOLD OF THE RULES IT ASKED FOR.**

  Where a request is accepted that is about no rule twice, the answer tells of
  exactly those rules that left a tunnel id or an address to the node, in the
  order of the request.  What it tells is so in the node that answers: in the
  session, in the plane and in the pools.

      keyed, pdrIds              the rules that a request keys, and is about
      Node.Tells                 what is told is all there is to tell, and so
      Node.created_truthful      … whenever a request is accepted
-/
import UserPlane.Proofs.Node.Acceptance
import UserPlane.Proofs.Node.Freshness
import UserPlane.Proofs.Session.Disclosure

namespace UserPlane

/-! ## §1. The rules of a request. -/

/-- The detection rules that an establishment keys, in order. -/
def SessionEstablishmentRequest.keyed (m : SessionEstablishmentRequest) : List (UInt16 × Pdi) :=
  m.createPdr.map fun r => (r.pdrId.ruleId, r.pdi)

/-- The detection rules that an establishment is about. -/
def SessionEstablishmentRequest.pdrIds (m : SessionEstablishmentRequest) : List UInt16 :=
  m.createPdr.map (·.pdrId.ruleId)

/-- The detection rules that a modification keys, in order: those that it makes,
and of those that it changes the ones with detection information. -/
def SessionModificationRequest.keyed (m : SessionModificationRequest) : List (UInt16 × Pdi) :=
  m.createPdr.map (fun r => (r.pdrId.ruleId, r.pdi))
    ++ m.updatePdr.filterMap fun r => r.pdi.map fun pdi => (r.pdrId.ruleId, pdi)

/-- The detection rules that a modification is about: those that it makes,
changes or removes. -/
def SessionModificationRequest.pdrIds (m : SessionModificationRequest) : List UInt16 :=
  m.createPdr.map (·.pdrId.ruleId) ++ m.updatePdr.map (·.pdrId.ruleId)
    ++ m.removePdr.map (·.pdrId.ruleId)

theorem keyings_establishment (m : SessionEstablishmentRequest) : keyings m.ops = m.keyed := by
  -- what is done for other rules keys none
  simp [keyings, SessionEstablishmentRequest.ops, SessionEstablishmentRequest.keyed,
    List.filterMap_map, Function.comp_def, RuleOp.keying?]

theorem subjects_establishment (m : SessionEstablishmentRequest) : subjects m.ops = m.pdrIds := by
  simp [subjects, SessionEstablishmentRequest.ops, SessionEstablishmentRequest.pdrIds,
    List.filterMap_map, Function.comp_def, RuleOp.subject?]

theorem keyings_modification (m : SessionModificationRequest) : keyings m.ops = m.keyed := by
  simp [keyings, SessionModificationRequest.ops, SessionModificationRequest.keyed,
    List.filterMap_map, Function.comp_def, RuleOp.keying?]

theorem subjects_modification (m : SessionModificationRequest) : subjects m.ops = m.pdrIds := by
  simp [subjects, SessionModificationRequest.ops, SessionModificationRequest.pdrIds,
    List.filterMap_map, Function.comp_def, RuleOp.subject?]

/-! ## §2. What is told. -/

/-- What a node tells of the rules that a request keyed in a session: of those
that left something to the node, in order, it tells all of it, and it is so; and
the rules have one tunnel id that asked for it under one number. -/
structure Node.Tells (n : Node) (s : Session) (keyed : List (UInt16 × Pdi))
    (created : List CreatedPdr) : Prop where
  reports : List.Forall₂ (n.bench s).Discloses (keyed.filter fun k => k.2.asks) created
  shares : (n.bench s).SharesByNumber keyed

section

variable {n : Node} {key : String} {seid : UInt64} {b : Workbench}

/-- A rule that stands on a workbench stands in a node that has what the
workbench has. -/
theorem Node.Has.stands (h : n.Has key seid b) {id : UInt16} {d : Detection} (hd : b.Stands id d) :
    (n.bench b.session).Stands id d := by
  refine ⟨hd.key, ?_⟩
  show n.plane.pdrs.contains d = true
  rw [h.plane]
  exact hd.entry

/-- **What was accounted for on a workbench** is told of the node that has it. -/
theorem Node.Has.tells {ops : List RuleOp} (h : n.Has key seid b) (haccounted : b.Accounted ops)
    (hnodup : (subjects ops).Nodup) : n.Tells b.session (keyings ops) b.created := by
  have hpools : (n.bench b.session).pools = b.pools := h.pools
  have hn3 : (n.bench b.session).n3 = b.n3 := h.n3
  constructor
  · refine haccounted.reports.imp fun k r hdiscloses => ?_
    obtain ⟨d, hd, hdisclosed⟩ := hdiscloses.stands
    refine ⟨hdiscloses.pdrId, d, h.stands hd, ?_⟩
    rw [hpools, hn3]
    exact hdisclosed
  · intro k hk k' hk' hne wish wish' hwish hwish'
    obtain ⟨teid, teid', hteid, hteid', hshared⟩ :=
      haccounted.sharesByNumber hnodup k hk k' hk' hne wish wish' hwish hwish'
    exact ⟨teid, teid', h.stands hteid, h.stands hteid', hshared⟩

end

/-! ## §3. Every node that can be reached. -/

namespace Node

variable {c : Config} {startup : Int} {heartbeats : Bool} {n : Node}

theorem sound_calls (hstart : Node.start c startup heartbeats = .ok n) (cs : List Call) :
    (n.calls cs).pools.Sound := by
  have hsound := (callBooks_traced hstart cs).2.sound
  rw [ledger_callBooks] at hsound
  exact hsound

/-- **WHAT IS TOLD OF CREATED RULES IS COMPLETE AND TRUE.**  Whenever a node that
can be reached accepts an establishment or a modification that is about no
detection rule twice, the session is live and what the answer reports as created
is, in the order of the request, what was left to the node: a tunnel end with the
node's address and the tunnel id that the rule is keyed by now, exactly if the
tunnel id was left to it; an address that the session holds, and that the rule is
keyed by now if it asked for no tunnel end, exactly if the address was left to it.
The plane has an entry for each such key.  Two rules that left their tunnel ids
to the node have one if and only if both wished for it under one number. -/
theorem created_truthful (hstart : Node.start c startup heartbeats = .ok n) (cs : List Call)
    (src : SocketAddress) (cut : Header.Cut) (r : Reply)
    (hanswer : (n.calls cs).answer? src cut = some r)
    (hcause : r.message.cause? = some .requestAccepted) :
    let key := associationKey src
    let n' := n.calls (cs ++ [.message src cut])
    (∀ m, Message.decode cut.header.type cut.body = .ok (.sessionEstablishmentRequest m) →
      m.pdrIds.Nodup → ∃ seid s created cp,
        r = establishmentResponse n'.params .requestAccepted (some (.ofIp n'.params.nodeIp seid))
          created cp
        ∧ n'.live key seid = some s ∧ n'.Tells s m.keyed created)
    ∧ ∀ m, Message.decode cut.header.type cut.body = .ok (.sessionModificationRequest m) →
      m.pdrIds.Nodup → ∃ s created,
        r = modificationResponse .requestAccepted created s.remoteSeid
        ∧ n'.live key (cut.header.seid.getD 0) = some s ∧ n'.Tells s m.keyed created := by
  intro key n'
  have hsound := sound_calls hstart cs
  have hcall : n' = (n.calls cs).call (.message src cut) := calls_concat n cs _
  constructor
  · intro m hdecode hnodup
    obtain ⟨a, cp, b, -, -, -, hwork, hr, hhas⟩ :=
      established_of_accepted hdecode hanswer hcause
    rw [← hcall] at hhas
    have hops : (subjects ([] ++ m.ops)).Nodup := by
      rw [List.nil_append, subjects_establishment]
      exact hnodup
    have haccounted := (Workbench.accounted_nil hsound rfl rfl).carryOut hops hwork
    have htells := hhas.tells haccounted hops
    rw [List.nil_append, keyings_establishment] at htells
    have hparams : n'.params = (n.calls cs).params := by
      rw [hcall]
      exact (spares_treatCut src cut (n.calls cs)).params
    rw [hparams]
    exact ⟨a.nextSessionId, b.session, b.created, cp.seid, hr, hhas.session, htells⟩
  · intro m hdecode hnodup
    have hfiled := (callBooks_traced hstart cs).1.filed
    rw [ledger_callBooks] at hfiled
    obtain ⟨s, b, -, hwork, hr, hhas⟩ := modified_of_accepted hdecode hanswer hcause hfiled
    rw [← hcall] at hhas
    have hops : (subjects ([] ++ m.ops)).Nodup := by
      rw [List.nil_append, subjects_modification]
      exact hnodup
    have haccounted := (Workbench.accounted_nil hsound rfl rfl).carryOut hops hwork
    have htells := hhas.tells haccounted hops
    rw [List.nil_append, keyings_modification] at htells
    exact ⟨b.session, b.created, hr, hhas.session, htells⟩

open Event

/-- Two rules that share a number, one with a tunnel end of its own, and one that
asks for an address. -/
def mixedRules : List CreatePdr :=
  [tunnelled 1 (anyTunnel (some 7)), tunnelled 2 (anyTunnel (some 7)),
    tunnelled 3 (.ofIp peer.ip 5), addressed 4 anyIpv4]

/-- The peer asks for a session with these rules, … -/
def mixedRequest : SessionEstablishmentRequest :=
  ⟨some (.ofIp peer.ip), some (.ofIp peer.ip 1), mixedRules, [], []⟩

/-- … and then for a tunnel end for the last of them, and one rule less. -/
def mixedChanges : SessionModificationRequest where
  updatePdr := [{
    pdrId := ⟨4⟩
    pdi := some { sourceInterface := .access, localFTeid := some (anyTunnel none) } }]
  removePdr := [⟨⟨1⟩⟩]

/-- A peer is told truly of a first session and of its changes. -/
theorem created_truthful_mixed : Node.start {} 0 false = .ok standard
    ∧ mixedRequest.pdrIds.Nodup ∧ mixedChanges.pdrIds.Nodup
    ∧ (let n := standard.calls ([setup].flatMap Event.calls)
      ∃ cut r seid s created, (establishment mixedRules []).calls = [.message peer cut]
        ∧ n.answer? peer cut = some r ∧ r.message.cause? = some .requestAccepted
        ∧ (n.call (.message peer cut)).live "10.0.0.1" seid = some s
        ∧ (n.call (.message peer cut)).Tells s mixedRequest.keyed created)
    ∧ let n := standard.calls ([setup, establishment mixedRules []].flatMap Event.calls)
      ∃ cut r seid s created, (modification 1 mixedChanges).calls = [.message peer cut]
        ∧ n.answer? peer cut = some r ∧ r.message.cause? = some .requestAccepted
        ∧ (n.call (.message peer cut)).live "10.0.0.1" seid = some s
        ∧ (n.call (.message peer cut)).Tells s mixedChanges.keyed created := by
  have hrequest : mixedRequest.pdrIds.Nodup := by decide
  have hchanges : mixedChanges.pdrIds.Nodup := by decide
  refine ⟨start_standard, hrequest, hchanges, ?_, ?_⟩
  · intro n
    have hcheck : (Header.walk ((Message.sessionEstablishmentRequest mixedRequest).encode 2
        (some 0))).map (fun cut => ((Message.decode cut.header.type cut.body).toOption,
          (n.answer? peer cut).bind (·.message.cause?)))
            = [(some (.sessionEstablishmentRequest mixedRequest), some .requestAccepted)] := by
      decide +kernel
    obtain ⟨cut, r, hcut, hdecode, hanswer, hcause⟩ := answered_of_check hcheck
    obtain ⟨seid, s, created, cp, -, hs, htells⟩ :=
      (created_truthful start_standard _ peer cut r hanswer hcause).1 _ hdecode hrequest
    rw [calls_concat, associationKey_peer] at hs
    rw [calls_concat] at htells
    exact ⟨cut, r, seid, s, created, hcut, hanswer, hcause, hs, htells⟩
  · intro n
    have hcheck : (Header.walk ((Message.sessionModificationRequest mixedChanges).encode 3
        (some 1))).map (fun cut => ((Message.decode cut.header.type cut.body).toOption,
          (n.answer? peer cut).bind (·.message.cause?)))
            = [(some (.sessionModificationRequest mixedChanges), some .requestAccepted)] := by
      decide +kernel
    obtain ⟨cut, r, hcut, hdecode, hanswer, hcause⟩ := answered_of_check hcheck
    obtain ⟨s, created, -, hs, htells⟩ :=
      (created_truthful start_standard _ peer cut r hanswer hcause).2 _ hdecode hchanges
    rw [calls_concat, associationKey_peer] at hs
    rw [calls_concat] at htells
    exact ⟨cut, r, _, s, created, hcut, hanswer, hcause, hs, htells⟩

end Node

end UserPlane
