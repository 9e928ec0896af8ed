/-
  UserPlane.Proofs.Node.Replies
  ─────────────────────────────
  **EVERY REQUEST IS ANSWERED ONCE, AND NO ANSWER IS ANSWERED.**

      Answer             everything that a node may answer to a message
      Node.answer?       what a node answers to a message cut off a datagram
      Node.replies       what it answers to messages one after the other
      Outgoing.Answers   an answer on its way, as the peer finds it

  Every handler of a request answers, on every path (`answer_of_asks`), and no
  other message is answered; so that the answers to a datagram stand one to one,
  in order, beside the requests in it (`Node.answered_once`).  An answer says
  that nothing follows and is no request itself, which is why handing it to a
  node gets nothing back.
-/
import UserPlane.Proofs.Message.Framing
import UserPlane.Proofs.Message.RoundTrip
import UserPlane.Proofs.Node.Calls

namespace UserPlane

/-! ## §1. Requests and answers. -/

/-- A header that is made says that nothing follows. -/
theorem Header.make_followOn (type : UInt8) (seid : Option UInt64) (sequence : UInt32)
    (n : Nat) : Header.followOn.isSet (make type seid sequence n).flags.toNat = false := by
  show Header.followOn.isSet
    (UInt8.ofNat (withSeid.set (version.set 0 1) seid.isSome.toNat)).toNat = false
  cases seid.isSome <;> decide

namespace Message

/-- The message is of one of the seven kinds of requests. -/
def asks : Message → Bool
  | heartbeatRequest _ | associationSetupRequest _ | associationUpdateRequest _
  | associationReleaseRequest _ | sessionEstablishmentRequest _
  | sessionModificationRequest _ | sessionDeletionRequest _ => true
  | _ => false

/-- The message is of one of the three kinds of requests about sessions. -/
def asksAboutSession : Message → Bool
  | sessionEstablishmentRequest _ | sessionModificationRequest _
  | sessionDeletionRequest _ => true
  | _ => false

/-- The type of a request about a session. -/
theorem asksAboutSession_iff {m : Message} (h : m.asks = true) :
    m.asksAboutSession = true ↔ m.type ∈ ([50, 52, 54] : List UInt8) := by
  cases m <;> simp [asks, asksAboutSession, type] at h ⊢

/-- The type of a request. -/
theorem type_of_asks {m : Message} (h : m.asks = true) :
    m.type ∈ ([1, 5, 7, 9, 50, 52, 54] : List UInt8) := by
  cases m <;> simp [asks, type] at h ⊢

/-- What is of the type behind the type of a request is no request. -/
theorem not_asks_of_type {m m' : Message} (h : m.asks = true) (htype : m'.type = m.type + 1) :
    m'.asks = false := by
  have hbehind : ∀ t ∈ ([1, 5, 7, 9, 50, 52, 54] : List UInt8),
      t + 1 ∉ ([1, 5, 7, 9, 50, 52, 54] : List UInt8) := by simp
  rw [← Bool.not_eq_true]
  intro hasks
  exact hbehind m.type (type_of_asks h) (htype ▸ type_of_asks hasks)

end Message

/-- The answer to an update. -/
def updateResponse (p : Parameters) (cause : Cause) : Reply :=
  .node <| .associationUpdateResponse {
    nodeId := p.nodeId
    cause := cause
    recoveryTimeStamp := if cause.isAccepted then some p.recoveryTimeStamp else none }

/-- The answer to a release. -/
def releaseResponse (p : Parameters) (cause : Cause) : Reply :=
  .node (.associationReleaseResponse ⟨p.nodeId, cause⟩)

/-- **Everything that a node may answer**: to which request, and with what.  What
is reported as chosen was chosen for the rules of the request. -/
inductive Answer (p : Parameters) : Message → Reply → Prop where
  | alive (m : HeartbeatRequest) :
      Answer p (.heartbeatRequest m) (.node (.heartbeatResponse ⟨p.recoveryTimeStamp⟩))
  | setup (m : AssociationSetupRequest) (cause : Cause) :
      Answer p (.associationSetupRequest m) (setupResponse p cause)
  | update (m : AssociationUpdateRequest) (cause : Cause) :
      Answer p (.associationUpdateRequest m) (updateResponse p cause)
  | release (m : AssociationReleaseRequest) (cause : Cause) :
      Answer p (.associationReleaseRequest m) (releaseResponse p cause)
  | refused (m : SessionEstablishmentRequest) (cause : Cause) (seid : UInt64) :
      Answer p (.sessionEstablishmentRequest m) (establishmentResponse p cause none [] seid)
  | established (m : SessionEstablishmentRequest) {b b' : Workbench} (number seid : UInt64)
      (hnew : b.created = []) (hwork : b.carryOut m.ops = (.ok (), b'))
      (hcomplete : m.nodeId.isSome ∧ m.cpFSeid.isSome) :
      Answer p (.sessionEstablishmentRequest m)
        (establishmentResponse p .requestAccepted (some (.ofIp p.nodeIp number)) b'.created seid)
  | unmodified (m : SessionModificationRequest) (cause : Cause) (seid : UInt64) :
      Answer p (.sessionModificationRequest m) (modificationResponse cause [] seid)
  | modified (m : SessionModificationRequest) {b b' : Workbench} (seid : UInt64)
      (hnew : b.created = []) (hwork : b.carryOut m.ops = (.ok (), b')) :
      Answer p (.sessionModificationRequest m)
        (modificationResponse .requestAccepted b'.created seid)
  | deletion (m : SessionDeletionRequest) (cause : Cause) (seid : UInt64) :
      Answer p (.sessionDeletionRequest m) (deletionResponse cause seid)

namespace Answer

variable {p : Parameters} {m : Message} {r : Reply}

/-- Only requests are answered. -/
theorem asks (h : Answer p m r) : m.asks = true := by
  cases h <;> rfl

/-- An answer is of the type behind the type of the request. -/
theorem type (h : Answer p m r) : r.message.type = m.type + 1 := by
  cases h <;> rfl

/-- An answer names a session exactly if the request is about one. -/
theorem seid_isSome (h : Answer p m r) : r.seid.isSome = m.asksAboutSession := by
  cases h <;> rfl

end Answer

/-! ## §2. Every handler of a request answers. -/

section Handlers

variable (h : Header) (src : SocketAddress) (n : Node)

/-- An answer to the message is given. -/
def Answered (m : Message) (handle : StateM Node (Option Reply)) : Prop :=
  ∃ r, (handle.run n).1 = some r ∧ Answer n.params m r

theorem answered_heartbeatRequest (m : HeartbeatRequest) :
    Answered n (.heartbeatRequest m) (handleHeartbeatRequest h m src) := ⟨_, rfl, .alive m⟩

theorem answered_associationSetup (m : AssociationSetupRequest) :
    Answered n (.associationSetupRequest m) (handleAssociationSetup h m src) := by
  unfold Answered handleAssociationSetup
  rw [run_get_bind]
  cases m.nodeId with
  | none => exact ⟨_, rfl, .setup m _⟩
  | some id => exact ⟨_, rfl, .setup m _⟩

theorem answered_associationUpdate (m : AssociationUpdateRequest) :
    Answered n (.associationUpdateRequest m) (handleAssociationUpdate h m src) :=
  ⟨_, rfl, .update m (updateCause n m.nodeId src)⟩

theorem answered_associationRelease (m : AssociationReleaseRequest) :
    Answered n (.associationReleaseRequest m) (handleAssociationRelease h m src) := by
  unfold Answered handleAssociationRelease
  rw [run_get_bind]
  cases m.nodeId with
  | none => exact ⟨_, rfl, .release m _⟩
  | some id =>
    dsimp only
    -- there was an association, or there was none
    rw [run_bind]
    cases ((removeAssociation (associationKey src)).run n).1 with
    | none => exact ⟨_, rfl, .release m _⟩
    | some a => exact ⟨_, rfl, .release m _⟩

theorem answered_sessionEstablishment (m : SessionEstablishmentRequest) :
    Answered n (.sessionEstablishmentRequest m) (handleSessionEstablishment h m src) := by
  unfold Answered
  rcases handleSessionEstablishment_cases h src n m with
    ⟨cause, seid, -, hrun⟩ | ⟨id, cp, a, hid, hcp, -, hrun⟩
  · rw [hrun]
    exact ⟨_, rfl, .refused m _ _⟩
  · rw [hrun, establish_run]
    refine ⟨_, rfl, ?_⟩
    dsimp only
    cases hwork : (n.bench (n.newcomer a cp.seid)).carryOut m.ops with
    | mk result b =>
      cases result with
      | error e => exact .refused m _ _
      | ok u => exact .established m _ _ rfl hwork (by simp [hid, hcp])

theorem answered_sessionModification (m : SessionModificationRequest) :
    Answered n (.sessionModificationRequest m) (handleSessionModification h m src) := by
  unfold Answered
  rcases handleSessionModification_cases h src n m with ⟨cause, -, -, hrun⟩ | ⟨a, s, -, -, hrun⟩
  · rw [hrun]
    exact ⟨_, rfl, .unmodified m _ _⟩
  · rw [hrun, modifySession_run]
    refine ⟨_, rfl, ?_⟩
    dsimp only
    cases hwork : (n.bench (s.renumbered m.cpFSeid)).carryOut m.ops with
    | mk result b =>
      cases result with
      | error e => exact .unmodified m _ _
      | ok u => exact .modified m _ rfl hwork

theorem answered_sessionDeletion (m : SessionDeletionRequest) :
    Answered n (.sessionDeletionRequest m) (handleSessionDeletion h m src) := by
  unfold Answered
  rcases handleSessionDeletion_cases h src n m with ⟨cause, -, -, hrun⟩ | ⟨a, s, -, -, hrun⟩
  · rw [hrun]
    exact ⟨_, rfl, .deletion m _ _⟩
  · rw [hrun]
    refine ⟨_, rfl, ?_⟩
    unfold deleteSession
    rw [run_modify_bind, run_get_bind]
    dsimp only
    rw [run_set_bind]
    -- a failure on the way down shows in the cause
    cases ((n.withAssociation (associationKey src)
      { a with sessions := a.sessions.erase (h.seid.getD 0) }).releaseSession s).1 with
    | none => exact .deletion m _ _
    | some e => exact .deletion m _ _

end Handlers

/-! ## §3. What is answered to a message. -/

/-- The message that was cut off can be read, and is one of the seven kinds of
requests. -/
def Header.Cut.asks (c : Header.Cut) : Bool :=
  match Message.decode c.header.type c.body with
  | .ok m => m.asks
  | .error _ => false

namespace Node

/-- What a node answers to a message cut off a datagram, if it answers. -/
def answer? (n : Node) (src : SocketAddress) (c : Header.Cut) : Option Reply :=
  match Message.decode c.header.type c.body with
  | .error _ => none
  | .ok m =>
    match handlerFor c.header m src with
    | none => none
    | some handle => (handle.run { n with metrics := n.metrics.received m.name }).1

/-- The answer goes out under the number of the request. -/
theorem treatCut_answer (n : Node) (src : SocketAddress) (c : Header.Cut) :
    ((treatCut src c).run n).1 = (n.answer? src c).map (·.outgoing c.header.sequence) := by
  unfold treatCut answer?
  cases Message.decode c.header.type c.body with
  | error e => rfl
  | ok m =>
    dsimp only
    unfold treatMessage
    rw [run_modify_bind]
    cases handlerFor c.header m src with
    | none => rfl
    | some handle =>
      dsimp only
      rw [run_bind, run_modify_bind]
      cases (handle.run { n with metrics := n.metrics.received m.name }).1 <;> rfl

theorem handler_asks (n : Node) (h : Header) (m : Message) (src : SocketAddress)
    (hasks : m.asks = true) :
    ∃ handle, handlerFor h m src = some handle ∧ Answered n m handle := by
  cases m with
  | heartbeatRequest m => exact ⟨_, rfl, answered_heartbeatRequest h src n m⟩
  | associationSetupRequest m => exact ⟨_, rfl, answered_associationSetup h src n m⟩
  | associationUpdateRequest m => exact ⟨_, rfl, answered_associationUpdate h src n m⟩
  | associationReleaseRequest m => exact ⟨_, rfl, answered_associationRelease h src n m⟩
  | sessionEstablishmentRequest m => exact ⟨_, rfl, answered_sessionEstablishment h src n m⟩
  | sessionModificationRequest m => exact ⟨_, rfl, answered_sessionModification h src n m⟩
  | sessionDeletionRequest m => exact ⟨_, rfl, answered_sessionDeletion h src n m⟩
  | _ => cases hasks

/-- The handlers of responses have nothing to say. -/
theorem handler_not_asks (n : Node) {h : Header} {m : Message} {src : SocketAddress}
    {handle : StateM Node (Option Reply)} (hasks : m.asks = false)
    (hsome : handlerFor h m src = some handle) : (handle.run n).1 = none := by
  cases m with
  | heartbeatResponse m =>
    cases hsome
    unfold handleHeartbeatResponse
    rw [run_get_bind]
    cases n.associations.get? (associationKey src) with
    | none => rfl
    | some a =>
      dsimp only
      rw [run_modify_bind, run_get_bind]
      split <;> rfl
  | associationSetupResponse m =>
    cases hsome
    unfold handleAssociationSetupResponse
    dsimp only
    split
    · rw [run_get_bind]
      split <;> rfl
    · rfl
  | _ => first | (cases hsome; done) | cases hasks

/-- **A request is answered**, and with what a node may answer to it. -/
theorem answer_of_asks (n : Node) (src : SocketAddress) {c : Header.Cut}
    (h : c.asks = true) :
    ∃ m r, Message.decode c.header.type c.body = .ok m ∧ n.answer? src c = some r
      ∧ Answer n.params m r := by
  unfold Header.Cut.asks at h
  unfold answer?
  cases hdecode : Message.decode c.header.type c.body with
  | error e =>
    rw [hdecode] at h
    cases h
  | ok m =>
    rw [hdecode] at h
    obtain ⟨handle, hsome, r, hreply, hanswer⟩ :=
      handler_asks { n with metrics := n.metrics.received m.name } c.header m src h
    refine ⟨m, r, rfl, ?_, hanswer⟩
    dsimp only
    rw [hsome]
    exact hreply

/-- **Nothing else is answered.** -/
theorem answer_of_not_asks (n : Node) (src : SocketAddress) {c : Header.Cut}
    (h : c.asks = false) : n.answer? src c = none := by
  unfold Header.Cut.asks at h
  unfold answer?
  cases hdecode : Message.decode c.header.type c.body with
  | error e => rfl
  | ok m =>
    rw [hdecode] at h
    dsimp only
    cases hsome : handlerFor c.header m src with
    | none => rfl
    | some handle => exact handler_not_asks _ h hsome

/-! ## §4. What is answered to a datagram. -/

/-- What a node answers to messages one after the other, each answer beside the
message that it answers. -/
def replies (src : SocketAddress) : Node → List Header.Cut → List (Header.Cut × Reply)
  | _, [] => []
  | n, c :: cuts =>
    ((n.answer? src c).map (c, ·)).toList ++ replies src (n.call (.message src c)) cuts

/-- The answers to a datagram are those to its messages. -/
theorem treatDatagram_answers (n : Node) (bs : Octets) (src : SocketAddress) :
    ((treatDatagram bs src).run n).1
      = (replies src n (Header.walk bs)).map fun p => p.2.outgoing p.1.header.sequence := by
  unfold treatDatagram
  induction Header.walk bs generalizing n with
  | nil => rfl
  | cons c cuts ih =>
    have hanswer := treatCut_answer n src c
    rw [List.filterMapM_cons, run_bind, replies, List.map_append, ← ih, hanswer]
    cases n.answer? src c <;> rfl

/-- **The requests are answered, each once, in order.** -/
theorem replies_requests (n : Node) (src : SocketAddress) (cuts : List Header.Cut) :
    (replies src n cuts).map Prod.fst = cuts.filter Header.Cut.asks := by
  induction cuts generalizing n with
  | nil => rfl
  | cons c cuts ih =>
    rw [replies, List.map_append, ih]
    cases hasks : c.asks with
    | true =>
      obtain ⟨m, r, -, hanswer, -⟩ := n.answer_of_asks src hasks
      rw [List.filter_cons_of_pos hasks, hanswer]
      rfl
    | false =>
      rw [List.filter_cons_of_neg (by simp [hasks]), n.answer_of_not_asks src hasks]
      rfl

/-- Every answer is one that a node may give to the message beside it. -/
theorem replies_answer (n : Node) (src : SocketAddress) (cuts : List Header.Cut) :
    ∀ p ∈ replies src n cuts, p.1 ∈ cuts
      ∧ ∃ m, Message.decode p.1.header.type p.1.body = .ok m ∧ Answer n.params m p.2 := by
  induction cuts generalizing n with
  | nil => simp [replies]
  | cons c cuts ih =>
    intro p hp
    rcases List.mem_append.mp hp with hp | hp
    · cases hasks : c.asks with
      | true =>
        obtain ⟨m, r, hdecode, hanswer, hmay⟩ := n.answer_of_asks src hasks
        rw [hanswer] at hp
        obtain rfl : p = (c, r) := by simpa using hp
        exact ⟨by simp, m, hdecode, hmay⟩
      | false =>
        rw [n.answer_of_not_asks src hasks] at hp
        cases hp
    · obtain ⟨hmem, m, hdecode, hmay⟩ := ih (n.call (.message src c)) p hp
      have hparams : (n.call (.message src c)).params = n.params := (spares_treatCut src c n).params
      exact ⟨List.mem_cons_of_mem c hmem, m, hdecode, hparams ▸ hmay⟩

end Node

/-! ## §5. Answers on their way. -/

/-- **An answer as the peer finds it**: a header of version 1 that says that
nothing follows and gives no priority, of the type behind the type of the
request and with its number, and with the number of a session exactly if the
request is about one. -/
def Outgoing.Answers (c : Header.Cut) (o : Outgoing) : Prop :=
  ∃ (header : Header) (body : Octets), o.octets = header.encode ++ body
    ∧ header.type = c.header.type + 1
    ∧ header.sequence = c.header.sequence ∧ c.header.sequence.toNat < 16777216
    ∧ Header.version.get header.flags.toNat = 1
    ∧ Header.followOn.isSet header.flags.toNat = false
    ∧ Header.withPriority.isSet header.flags.toNat = false ∧ header.priority = none
    ∧ Header.withSeid.isSet header.flags.toNat = header.seid.isSome
    ∧ (header.seid.isSome = true ↔ c.header.type ∈ ([50, 52, 54] : List UInt8))

namespace Answer

variable {p : Parameters} {c : Header.Cut} {m : Message} {r : Reply}

/-- The header of an answer. -/
theorem outgoing_answers (h : Answer p m r) (hdecode : Message.decode c.header.type c.body = .ok m)
    (hsequence : c.header.sequence.toNat < 16777216) :
    (r.outgoing c.header.sequence).Answers c := by
  have htype : m.type = c.header.type := Message.type_of_decode hdecode
  obtain ⟨hversion, hseid, hpriority⟩ :=
    Header.make_flags r.message.type r.seid c.header.sequence r.message.body.length
  refine ⟨_, _, rfl, ?_, Header.make_sequence hsequence, hsequence, hversion, ?_, hpriority, rfl,
    hseid, ?_⟩
  · show r.message.type = _
    rw [h.type, htype]
  · exact Header.make_followOn _ _ _ _
  · show r.seid.isSome = true ↔ _
    rw [h.seid_isSome, Message.asksAboutSession_iff h.asks, htype]

/-- **An answer gets no answer**: nothing follows in it, and what it is read as is no
request. -/
theorem not_answered (h : Answer p m r) (sequence : UInt32) (n : Node) (src : SocketAddress) :
    ((treatDatagram (r.outgoing sequence).octets src).run n).1 = [] := by
  have hnone : (Header.walk (r.outgoing sequence).octets).filter Header.Cut.asks = [] := by
    cases hcut : Header.decode (r.outgoing sequence).octets with
    | error e =>
      rw [Header.walk_of_error hcut]
      rfl
    | ok c' =>
      obtain ⟨hflags, htype, -⟩ := Header.decode_kept hcut
      have hlast : c'.header.hasFollowOn = false := by
        unfold Header.hasFollowOn
        rw [← hflags]
        exact Header.make_followOn r.message.type r.seid sequence r.message.body.length
      have hkind : c'.header.type = m.type + 1 := by
        rw [← htype, ← h.type]
        rfl
      have hasks : c'.asks = false := by
        unfold Header.Cut.asks
        cases hread : Message.decode c'.header.type c'.body with
        | error e => rfl
        | ok m' =>
          exact Message.not_asks_of_type h.asks ((Message.type_of_decode hread).trans hkind)
      rw [Header.walk_of_ok hcut, hlast]
      simp [hasks]
  rw [Node.treatDatagram_answers, List.map_eq_nil_iff, ← List.map_eq_nil_iff (f := Prod.fst),
    Node.replies_requests, hnone]

end Answer

namespace Node

/-- **Every request is answered once, and no answer is answered.**  In every state,
the answers to a datagram stand one to one, in order, beside the messages in it
that can be read as one of the seven kinds of requests, each as the peer should
find it; and the octets of any of them, handed to any node in any state from
anywhere, are answered by nothing. -/
theorem answered_once (n : Node) (bs : Octets) (src : SocketAddress) :
    List.Forall₂ Outgoing.Answers ((Header.walk bs).filter Header.Cut.asks)
        ((treatDatagram bs src).run n).1
      ∧ ∀ o ∈ ((treatDatagram bs src).run n).1, ∀ (n' : Node) (src' : SocketAddress),
        ((treatDatagram o.octets src').run n').1 = [] := by
  have hanswer := n.replies_answer src (Header.walk bs)
  rw [treatDatagram_answers, ← n.replies_requests src]
  constructor
  · rw [List.forall₂_map_left_iff, List.forall₂_map_right_iff, List.forall₂_same]
    intro p hp
    obtain ⟨hmem, m, hdecode, hmay⟩ := hanswer p hp
    obtain ⟨bs', hcut⟩ := Header.decode_of_mem_walk hmem
    exact hmay.outgoing_answers hdecode (Header.decode_kept hcut).2.2
  · intro o ho n' src'
    obtain ⟨p, hp, rfl⟩ := List.mem_map.mp ho
    obtain ⟨-, m, -, hmay⟩ := hanswer p hp
    exact hmay.not_answered p.1.header.sequence n' src'

/-- A heartbeat request that says that another message follows, and the request for an
association that follows: there are two answers, and handed back they get none. -/
theorem answered_once_two :
    let datagram : Octets := [0x24, 1, 0, 12, 0, 0, 7, 0, 0, 96, 0, 4, 0, 0, 0, 1]
      ++ (Message.associationSetupRequest ⟨some (.ofIp Event.peer.ip), some ⟨1⟩, none⟩).encode 8 none
    ∃ o o', ((treatDatagram datagram Event.peer).run standard).1 = [o, o']
      ∧ List.Forall₂ Outgoing.Answers ((Header.walk datagram).filter Header.Cut.asks) [o, o']
      ∧ ((treatDatagram o.octets Event.peer).run standard).1 = []
      ∧ ((treatDatagram o'.octets Event.peer).run standard).1 = [] := by
  intro datagram
  have htwo : ((treatDatagram datagram Event.peer).run standard).1.length = 2 := by
    decide +kernel
  obtain ⟨o, o', hanswers⟩ := List.length_eq_two.mp htwo
  obtain ⟨hbeside, hnone⟩ := answered_once standard datagram Event.peer
  rw [hanswers] at hbeside hnone
  exact ⟨o, o', hanswers, hbeside, hnone o (by simp) standard Event.peer,
    hnone o' (by simp) standard Event.peer⟩

end Node

end UserPlane
