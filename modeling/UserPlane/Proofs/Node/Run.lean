/-
  UserPlane.Proofs.Node.Run
  ─────────────────────────
  **RUNS OF A NODE AS ENTRIES IN ITS LEDGER.**

  A run is a sequence of datagrams from any sources, of heartbeat timers that
  ask and that count failures, of refreshes, and of time that passes.  What it
  does to the sessions is a sequence of entries in the node's ledger
  (`Node.ledger_run_eq`), so that whatever holds of the books at the start and
  is kept by every entry holds of every node that can be reached
  (`Node.books_induction`).
-/
import UserPlane.Node.Dispatch
import UserPlane.Proofs.Node.Ledger

namespace UserPlane

/-! ## §1. Events. -/

/-- What happens to a node. -/
inductive Event where
  /-- A datagram arrives. -/
  | datagram (octets : Octets) (src : SocketAddress)
  /-- A timer's next request is due. -/
  | heartbeatDue (key : String) (timer : UInt64)
  /-- A timer's response is overdue. -/
  | heartbeatFailed (key : String) (timer : UInt64)
  /-- Timers are started where they are missing. -/
  | refresh
  /-- Time passes. -/
  | elapsed (span : Nat)

namespace Node

/-- The node after an event. -/
def after (n : Node) : Event → Node
  | .datagram octets src => ((treatDatagram octets src).run n).2
  | .heartbeatDue key timer => ((nextHeartbeat key timer).run n).2
  | .heartbeatFailed key timer => ((recordFailure key timer).run n).2
  | .refresh => (refreshTimers.run n).2
  | .elapsed span => { n with now := n.now + span }

/-- The node after a sequence of events. -/
def run (n : Node) (events : List Event) : Node := events.foldl after n

/-- A live session, by the key of its association and its number. -/
def live (n : Node) (key : String) (seid : UInt64) : Option Session :=
  (n.associations.get? key).bind (·.sessions.get? seid)

end Node

/-! ## §2. Events as entries. -/

/-- The entries that a message makes. -/
def Message.entries (header : Header) (src : SocketAddress) : Message → List Entry
  | .associationSetupRequest m =>
    match m.nodeId with
    | some _ => [.closed (associationKey src), .opened (associationKey src)]
    | none => []
  | .associationSetupResponse m =>
    if m.cause.isAccepted then [.opened (associationKey src)] else []
  | .associationReleaseRequest m =>
    match m.nodeId with
    | some _ => [.closed (associationKey src)]
    | none => []
  | .sessionEstablishmentRequest m =>
    match m.nodeId, m.cpFSeid with
    | some _, some cp => [.tried (associationKey src) cp.seid m.ops]
    | _, _ => []
  | .sessionModificationRequest m =>
    [.modified (associationKey src) (header.seid.getD 0) m.cpFSeid m.ops]
  | .sessionDeletionRequest _ => [.deleted (associationKey src) (header.seid.getD 0)]
  | _ => []

/-- The entries that a message cut off a datagram makes. -/
def Header.Cut.entries (src : SocketAddress) (c : Header.Cut) : List Entry :=
  match Message.decode c.header.type c.body with
  | .error _ => []
  | .ok m => m.entries c.header src

namespace Node

/-- The entries that an unanswered heartbeat makes: none, unless it is one too
many. -/
def failureEntries (n : Node) (key : String) (timer : UInt64) : List Entry :=
  match timedAssociation n key timer with
  | some a =>
    if ({ a with heartbeatFailures := a.heartbeatFailures + 1 } : Association).isExpired
        n.params.heartbeatRetries then [.closed key]
    else []
  | none => []

/-- The entries that an event makes. -/
def entries (n : Node) : Event → List Entry
  | .datagram octets src => (Header.walk octets).flatMap (Header.Cut.entries src)
  | .heartbeatFailed key timer => n.failureEntries key timer
  | _ => []

/-- The entries that a run makes. -/
def trace (n : Node) : List Event → List Entry
  | [] => []
  | e :: events => n.entries e ++ (n.after e).trace events

/-- The books of a node that has just been started, or that is looked at for the
first time. -/
def newBooks (n : Node) : Books := { ledger := n.ledger }

/-- The books after a run. -/
def books (n : Node) (events : List Event) : Books := n.newBooks.after (n.trace events)

/-- The history of a run. -/
def history (n : Node) (events : List Event) : History := (n.books events).history

end Node

/-! ## §3. The ledger and parts of the state. -/

namespace Node

variable {n : Node} {key : String} {a : Association}

theorem get?_desks (n : Node) (key : String) :
    n.ledger.desks.get? key = (n.associations.get? key).map Association.desk :=
  Table.get?_map _ _ _

theorem live_ledger (n : Node) (key : String) (seid : UInt64) :
    n.ledger.live key seid = n.live key seid := by
  unfold Ledger.live live
  rw [get?_desks]
  cases n.associations.get? key <;> rfl

theorem ledger_withAssociation (n : Node) (key : String) (a : Association) :
    (n.withAssociation key a).ledger
      = { n.ledger with desks := n.ledger.desks.insert key a.desk } := by
  unfold ledger withAssociation
  simp only [Table.map_insert]

/-- What is changed of an association is not in the ledger. -/
theorem ledger_withAssociation_of_desk (a' : Association)
    (hget : n.associations.get? key = some a)
    (hdesk : a'.desk = a.desk) : (n.withAssociation key a').ledger = n.ledger := by
  -- the desk that is written is the one that is there
  rw [ledger_withAssociation, hdesk, Table.insert_of_get?]
  rw [get?_desks, hget]
  rfl

theorem ledger_releaseSession (n : Node) (s : Session) :
    (n.releaseSession s).2.ledger = n.ledger.release s := rfl

theorem ledger_foldl_release (l : List Session) (n : Node) :
    (l.foldl (fun (n : Node) s => (n.releaseSession s).2) n).ledger
      = l.foldl Ledger.release n.ledger := by
  induction l generalizing n with
  | nil => rfl
  | cons s l ih => rw [List.foldl_cons, ih, ledger_releaseSession, List.foldl_cons]

theorem ledger_dropAssociation (n : Node) (key : String) (a : Association) :
    (n.dropAssociation key a).ledger = n.ledger.close key a.desk := by
  show (a.sessions.values.foldl (fun (n : Node) s => (n.releaseSession s).2)
    { n with associations := n.associations.erase key }).ledger = _
  rw [ledger_foldl_release]
  unfold Ledger.close ledger
  simp only [Table.map_erase]
  rfl

end Node

section

variable {α β : Type}

theorem run_bind (x : StateM Node α) (f : α → StateM Node β) (n : Node) :
    (x >>= f).run n = (f (x.run n).1).run (x.run n).2 := rfl

theorem run_get_bind (f : Node → StateM Node β) (n : Node) : (get >>= f).run n = (f n).run n := rfl

theorem run_set_bind (n' : Node) (f : PUnit → StateM Node β) (n : Node) :
    (set n' >>= f).run n = (f ⟨⟩).run n' := rfl

theorem run_modify_bind (g : Node → Node) (f : PUnit → StateM Node β) (n : Node) :
    (modify g >>= f).run n = (f ⟨⟩).run (g n) := rfl

/-- A step makes entries in the ledger. -/
def Enters (x : StateM Node α) (entries : List Entry) : Prop :=
  ∀ n : Node, (x.run n).2.ledger = entries.foldl Ledger.enter n.ledger

theorem Enters.pure (a : α) : Enters (Pure.pure a) [] := fun _ => rfl

theorem Enters.bind {x : StateM Node α} {f : α → StateM Node β} {es es' : List Entry}
    (hx : Enters x es) (hf : ∀ a, Enters (f a) es') : Enters (x >>= f) (es ++ es') := by
  intro n
  rw [run_bind, hf, hx, List.foldl_append]

/-- What is not about sessions may come first. -/
theorem Enters.after {x : StateM Node α} {f : α → StateM Node β} {es : List Entry}
    (hx : Enters x []) (hf : ∀ a, Enters (f a) es) : Enters (x >>= f) es := hx.bind hf

/-- … and may come last. -/
theorem Enters.before {x : StateM Node α} {f : α → StateM Node β} {es : List Entry}
    (hx : Enters x es) (hf : ∀ a, Enters (f a) []) : Enters (x >>= f) es :=
  List.append_nil es ▸ hx.bind hf

end

/-! ## §4. Timers and associations. -/

theorem removeAssociation_run (key : String) (n : Node) :
    (removeAssociation key).run n =
      match n.associations.get? key with
      | none => (none, n)
      | some a => (some a, n.dropAssociation key a) := by
  unfold removeAssociation
  rw [StateT.run_bind, StateT.run_get]
  show StateT.run (match n.associations.get? key with
    | none => _
    | some a => _) n = _
  cases n.associations.get? key <;> rfl

theorem enters_removeAssociation (key : String) :
    Enters (removeAssociation key) [.closed key] := by
  intro n
  rw [removeAssociation_run, List.foldl_cons, List.foldl_nil, Ledger.enter, Node.get?_desks]
  cases n.associations.get? key with
  | none => rfl
  | some a => exact Node.ledger_dropAssociation n key a

theorem enters_scheduleHeartbeat (key : String) : Enters (scheduleHeartbeat key) [] := by
  intro n
  show (match n.associations.get? key with
    | none => n
    | some a =>
      let timer : HeartbeatTimer := ⟨n.nextTimerId, .request, n.now + n.params.heartbeatInterval⟩
      { n.withAssociation key { a with timer := some timer } with
        nextTimerId := n.nextTimerId + 1 }).ledger = n.ledger
  cases hget : n.associations.get? key with
  | none => rfl
  | some a => exact Node.ledger_withAssociation_of_desk { a with timer := _ } hget rfl

theorem timedAssociation_eq_some {n : Node} {key : String} {timer : UInt64} {a : Association}
    (h : timedAssociation n key timer = some a) : n.associations.get? key = some a :=
  (Option.filter_eq_some_iff.mp h).1

theorem enters_nextHeartbeat (key : String) (timer : UInt64) :
    Enters (nextHeartbeat key timer) [] := by
  intro n
  show ((match timedAssociation n key timer with
    | none => return none
    | some a => do
      set (n.withAssociation key a.newSequence.2)
      return some (a.newSequence.1, a.newSequence.2.address) :
      StateM Node (Option (UInt32 × SocketAddress))).run n).2.ledger = n.ledger
  cases htimed : timedAssociation n key timer with
  | none => rfl
  | some a =>
    exact Node.ledger_withAssociation_of_desk a.newSequence.2
      (timedAssociation_eq_some htimed) rfl

/-- A failure that is one too many closes the association's desk. -/
theorem ledger_recordFailure (key : String) (timer : UInt64) (n : Node) :
    ((recordFailure key timer).run n).2.ledger
      = (n.failureEntries key timer).foldl Ledger.enter n.ledger := by
  unfold recordFailure Node.failureEntries
  rw [run_get_bind]
  cases htimed : timedAssociation n key timer with
  | none => rfl
  | some a =>
    have hledger : (n.withAssociation key
        { a with heartbeatFailures := a.heartbeatFailures + 1 }).ledger = n.ledger :=
      Node.ledger_withAssociation_of_desk _ (timedAssociation_eq_some htimed) rfl
    dsimp only
    rw [run_set_bind]
    split
    · -- the failure was counted first, which the ledger does not tell
      rw [run_bind]
      show ((removeAssociation key).run _).2.ledger = _
      rw [enters_removeAssociation, hledger]
    · exact hledger

theorem Enters.forIn {α : Type} (l : List α) {f : α → PUnit → StateM Node (ForInStep PUnit)}
    (hf : ∀ a u, Enters (f a u) []) (u : PUnit) : Enters (forIn l u f) [] := by
  induction l generalizing u with
  | nil => exact .pure u
  | cons a l ih =>
    rw [List.forIn_cons]
    apply Enters.after (hf a u)
    intro step
    cases step with
    | done u => exact .pure u
    | yield u => exact ih u

theorem enters_refreshTimers : Enters refreshTimers [] := by
  unfold refreshTimers
  refine .after (fun _ => rfl) fun n => .after (.forIn _ (fun e _ => ?_) _) fun _ => .pure _
  dsimp only
  split
  · exact .pure _
  · exact .after (enters_scheduleHeartbeat _) fun _ => .pure _

/-! ## §5. Messages between nodes. -/

theorem enters_modify {g : Node → Node} (h : ∀ n, (g n).ledger = n.ledger) :
    Enters (modify g) [] := h

theorem enters_handleHeartbeatRequest (h : Header) (m : HeartbeatRequest) (src : SocketAddress) :
    Enters (handleHeartbeatRequest h m src) [] := fun _ => rfl

theorem enters_handleHeartbeatResponse (h : Header) (m : HeartbeatResponse) (src : SocketAddress) :
    Enters (handleHeartbeatResponse h m src) [] := by
  intro n
  unfold handleHeartbeatResponse
  dsimp only
  rw [run_get_bind]
  cases hget : n.associations.get? (associationKey src) with
  | none => rfl
  | some a =>
    have hledger : (n.withAssociation (associationKey src) a.refreshRetries).ledger = n.ledger :=
      Node.ledger_withAssociation_of_desk _ hget rfl
    dsimp only
    rw [run_modify_bind, run_get_bind]
    split
    · rw [run_bind]
      exact (enters_scheduleHeartbeat _ _).trans hledger
    · exact hledger

/-- An association that is filed where none is opens a desk. -/
theorem ledger_enroll (id : NodeId) (src : SocketAddress) {n : Node}
    (h : n.associations.get? (associationKey src) = none) :
    ((enroll id src).run n).2.ledger = n.ledger.enter (.opened (associationKey src)) := by
  show (n.withAssociation (associationKey src) { id := id.text, address := src }).ledger = _
  rw [Node.ledger_withAssociation, Ledger.enter, Node.get?_desks, h]
  rfl

theorem get?_removeAssociation (key : String) (n : Node) :
    ((removeAssociation key).run n).2.associations.get? key = none := by
  rw [removeAssociation_run]
  cases hget : n.associations.get? key with
  | none => exact hget
  | some a =>
    show (n.dropAssociation key a).associations.get? key = none
    -- sessions that are released leave the associations alone
    have hkept : ∀ (l : List Session) (n : Node),
        (l.foldl (fun (n : Node) s => (n.releaseSession s).2) n).associations = n.associations := by
      intro l
      induction l with
      | nil => exact fun _ => rfl
      | cons s l ih => exact fun n => ih (n.releaseSession s).2
    show (a.sessions.values.foldl (fun (n : Node) s => (n.releaseSession s).2)
      { n with associations := n.associations.erase key }).associations.get? key = none
    rw [hkept, Table.get?_erase, if_pos rfl]

theorem enters_handleAssociationSetup (h : Header) (m : AssociationSetupRequest)
    (src : SocketAddress) :
    Enters (handleAssociationSetup h m src)
      ((Message.associationSetupRequest m).entries h src) := by
  intro n
  unfold handleAssociationSetup Message.entries
  dsimp only
  rw [run_get_bind]
  cases m.nodeId with
  | none => rfl
  | some id =>
    dsimp only
    -- the old association is gone by the time the new one is filed
    rw [run_bind, run_bind]
    show ((enroll id src).run ((removeAssociation (associationKey src)).run n).2).2.ledger = _
    rw [ledger_enroll id src (get?_removeAssociation _ n), enters_removeAssociation]
    rfl

theorem enters_handleAssociationSetupResponse (h : Header) (m : AssociationSetupResponse)
    (src : SocketAddress) :
    Enters (handleAssociationSetupResponse h m src)
      ((Message.associationSetupResponse m).entries h src) := by
  intro n
  unfold handleAssociationSetupResponse Message.entries
  dsimp only
  split
  · rw [run_get_bind]
    by_cases hthere : n.associations.contains (associationKey src) = true
    · -- the desk is open
      rw [if_pos hthere, List.foldl_cons, List.foldl_nil, Ledger.enter, Node.get?_desks]
      obtain ⟨a, hget⟩ := Option.isSome_iff_exists.mp hthere
      have hsome : n.associations.get? (associationKey src) = some a := hget
      rw [hsome]
      rfl
    · -- it is not, and is opened
      have hnone : n.associations.get? (associationKey src) = none := by
        simpa [Table.contains] using hthere
      rw [if_neg hthere, run_bind]
      exact ledger_enroll m.nodeId src hnone
  · rfl

theorem enters_handleAssociationUpdate (h : Header) (m : AssociationUpdateRequest)
    (src : SocketAddress) : Enters (handleAssociationUpdate h m src) [] := fun _ => rfl

theorem enters_handleAssociationRelease (h : Header) (m : AssociationReleaseRequest)
    (src : SocketAddress) :
    Enters (handleAssociationRelease h m src)
      ((Message.associationReleaseRequest m).entries h src) := by
  intro n
  unfold handleAssociationRelease Message.entries
  dsimp only
  rw [run_get_bind]
  cases m.nodeId with
  | none => rfl
  | some id =>
    dsimp only
    -- whether there was an association decides about the answer only
    rw [run_bind]
    cases hremoved : ((removeAssociation (associationKey src)).run n).1 <;>
      exact enters_removeAssociation _ n

/-! ## §6. Messages about sessions. -/

/-- Why an establishment is not tried: it lacks something, or its sender has no
association. -/
inductive Node.Untried (n : Node) (m : SessionEstablishmentRequest) (src : SocketAddress) :
    Cause → Prop
  | incomplete (h : m.nodeId = none ∨ m.cpFSeid = none) : Untried n m src .mandatoryIeMissing
  | stranger (h : n.associationWith src = none) : Untried n m src .noEstablishedAssociation

/-- What says that there is no such session. -/
def Node.Unknown (cause : Cause) : Prop :=
  cause = .noEstablishedAssociation ∨ cause = .sessionContextNotFound

theorem Node.live_associationKey (n : Node) (src : SocketAddress) (seid : UInt64) :
    n.live (associationKey src) seid = (n.associationWith src).bind (·.sessions.get? seid) := rfl

section

variable (h : Header) (src : SocketAddress) (n : Node)

/-- **What becomes of an establishment**: it is turned away and changes nothing,
or it is complete, of a peer with an association, and tried. -/
theorem handleSessionEstablishment_cases (m : SessionEstablishmentRequest) :
    (∃ cause seid, n.Untried m src cause ∧ (handleSessionEstablishment h m src).run n
      = (some (establishmentResponse n.params cause none [] seid), n))
    ∨ ∃ id cp a, m.nodeId = some id ∧ m.cpFSeid = some cp ∧ n.associationWith src = some a
      ∧ (handleSessionEstablishment h m src).run n
        = (some ((establish (associationKey src) a cp m).run n).1,
          ((establish (associationKey src) a cp m).run n).2) := by
  unfold handleSessionEstablishment
  dsimp only
  rw [run_get_bind]
  cases hid : m.nodeId with
  | none => cases m.cpFSeid <;> exact .inl ⟨_, _, .incomplete (.inl hid), rfl⟩
  | some id =>
    cases hcp : m.cpFSeid with
    | none => exact .inl ⟨_, _, .incomplete (.inr hcp), rfl⟩
    | some cp =>
      dsimp only
      cases ha : n.associationWith src with
      | none => exact .inl ⟨_, _, .stranger ha, rfl⟩
      | some a => exact .inr ⟨id, cp, a, rfl, rfl, rfl, rfl⟩

/-- **What becomes of a request for changes of a session**: nobody has the
session and nothing changes, or its sender has it and its rules are changed. -/
theorem handleSessionModification_cases (m : SessionModificationRequest) :
    (∃ cause, Node.Unknown cause ∧ n.live (associationKey src) (h.seid.getD 0) = none
      ∧ (handleSessionModification h m src).run n
        = (some (modificationResponse cause [] 0), n))
    ∨ ∃ a s, n.associationWith src = some a ∧ a.sessions.get? (h.seid.getD 0) = some s
      ∧ (handleSessionModification h m src).run n
        = (some ((modifySession (associationKey src) s m).run n).1,
          ((modifySession (associationKey src) s m).run n).2) := by
  rw [Node.live_associationKey]
  unfold handleSessionModification
  rw [run_get_bind]
  cases ha : n.associationWith src with
  | none => exact .inl ⟨_, .inl rfl, rfl, rfl⟩
  | some a =>
    dsimp only
    cases hs : a.sessions.get? (h.seid.getD 0) with
    | none => exact .inl ⟨_, .inr rfl, hs, rfl⟩
    | some s => exact .inr ⟨a, s, rfl, hs, rfl⟩

/-- **What becomes of a request for the deletion of a session**: nobody has the
session and nothing changes, or its sender has it and it is deleted. -/
theorem handleSessionDeletion_cases (m : SessionDeletionRequest) :
    (∃ cause, Node.Unknown cause ∧ n.live (associationKey src) (h.seid.getD 0) = none
      ∧ (handleSessionDeletion h m src).run n = (some (deletionResponse cause 0), n))
    ∨ ∃ a s, n.associationWith src = some a ∧ a.sessions.get? (h.seid.getD 0) = some s
      ∧ (handleSessionDeletion h m src).run n
        = (some ((deleteSession (associationKey src) a s (h.seid.getD 0)).run n).1,
          ((deleteSession (associationKey src) a s (h.seid.getD 0)).run n).2) := by
  rw [Node.live_associationKey]
  unfold handleSessionDeletion
  dsimp only
  rw [run_get_bind]
  cases ha : n.associationWith src with
  | none => exact .inl ⟨_, .inl rfl, rfl, rfl⟩
  | some a =>
    dsimp only
    cases hs : a.sessions.get? (h.seid.getD 0) with
    | none => exact .inl ⟨_, .inr rfl, hs, rfl⟩
    | some s => exact .inr ⟨a, s, rfl, hs, rfl⟩

end

/-- A complete establishment of a peer with an association is tried. -/
theorem handleSessionEstablishment_run {h : Header} {m : SessionEstablishmentRequest}
    {src : SocketAddress} {n : Node} {id : NodeId} {cp : FSeid} {a : Association}
    (hid : m.nodeId = some id) (hcp : m.cpFSeid = some cp)
    (ha : n.associationWith src = some a) :
    (handleSessionEstablishment h m src).run n
      = (some ((establish (associationKey src) a cp m).run n).1,
        ((establish (associationKey src) a cp m).run n).2) := by
  unfold handleSessionEstablishment
  dsimp only
  rw [run_get_bind, hid, hcp]
  dsimp only
  rw [ha]
  rfl

theorem work_establishRules (r : SessionEstablishmentRequest) (b : Workbench) :
    (establishRules r).work b = b.carryOut r.ops := by
  rw [establishRules_eq]
  rfl

theorem work_modifyRules (r : SessionModificationRequest) (b : Workbench) :
    (modifyRules r).work b = b.carryOut r.ops := by
  rw [modifyRules_eq]
  rfl

/-- The session that is tried next for an association. -/
def Node.newcomer (n : Node) (a : Association) (remoteSeid : UInt64) : Session :=
  { localSeid := a.nextSessionId, remoteSeid, resourceKey := n.nextResourceKey }

/-- The node after its numbers were given to a new session. -/
def Node.advanced (n : Node) (key : String) (a : Association) : Node :=
  { n.withAssociation key a.newLocalSeid.2 with nextResourceKey := n.nextResourceKey + 1 }

/-- **How an establishment goes**, and what the node looks like after it. -/
theorem establish_run (key : String) (a : Association) (cp : FSeid)
    (request : SessionEstablishmentRequest) (n : Node) :
    (establish key a cp request).run n =
      let s := n.newcomer a cp.seid
      match (n.bench s).carryOut request.ops with
      | (.error e, b) =>
        (establishmentResponse n.params e.cause none [] cp.seid,
          { (n.advanced key a).clear b with pools := s.releasePools b.pools })
      | (.ok (), b) =>
        (establishmentResponse n.params .requestAccepted
            (some (FSeid.ofIp n.params.nodeIp s.localSeid)) b.created cp.seid,
          (((n.advanced key a).clear b).withSession key b.session).updateGauges) := by
  have hnew : (newSession key a cp.seid).run n = (n.newcomer a cp.seid, n.advanced key a) := rfl
  have hbench : (n.advanced key a).bench (n.newcomer a cp.seid) = n.bench (n.newcomer a cp.seid) :=
    rfl
  unfold establish
  rw [run_get_bind, run_bind, hnew, run_get_bind]
  dsimp only
  rw [hbench, work_establishRules]
  cases (n.bench (n.newcomer a cp.seid)).carryOut request.ops with
  | mk result b => cases result <;> rfl

theorem desks_advanced (n : Node) (key : String) (a : Association) :
    (n.advanced key a).ledger.desks = n.ledger.desks.insert key a.desk.advanced :=
  Table.map_insert _ _ _ _

/-- A session that is filed for an association is filed at its desk. -/
theorem desks_withSession {n : Node} {key : String} {a : Association}
    (hget : n.associations.get? key = some a) (s : Session) :
    (n.withSession key s).ledger.desks = n.ledger.desks.insert key (a.desk.file s) := by
  unfold Node.withSession Table.modify
  rw [hget]
  exact Table.map_insert _ _ _ _

theorem ledger_establish (key : String) (a : Association) (cp : FSeid)
    (request : SessionEstablishmentRequest) (n : Node) :
    ((establish key a cp request).run n).2.ledger
      = n.ledger.attempt key a.desk cp.seid request.ops := by
  have hbench : n.ledger.bench (n.ledger.newcomer a.desk cp.seid)
      = n.bench (n.newcomer a cp.seid) := rfl
  rw [establish_run]
  unfold Ledger.attempt
  dsimp only
  rw [hbench]
  cases (n.bench (n.newcomer a cp.seid)).carryOut request.ops with
  | mk result b =>
    have hdesks := desks_advanced n key a
    cases result with
    | error e =>
      -- the number is used up, and nothing is filed
      exact Ledger.ext hdesks rfl rfl rfl rfl
    | ok u =>
      -- the session is filed at the desk from which its number came
      have hget : ((n.advanced key a).clear b).associations.get? key = some a.newLocalSeid.2 := by
        show (n.associations.insert key a.newLocalSeid.2).get? key = _
        rw [Table.get?_insert, if_pos rfl]
      refine Ledger.ext ?_ rfl rfl rfl rfl
      apply (desks_withSession hget b.session).trans
      show (n.advanced key a).ledger.desks.insert key _ = _
      rw [hdesks, Table.insert_insert]
      rfl

theorem enters_handleSessionEstablishment (h : Header) (m : SessionEstablishmentRequest)
    (src : SocketAddress) :
    Enters (handleSessionEstablishment h m src)
      ((Message.sessionEstablishmentRequest m).entries h src) := by
  intro n
  unfold handleSessionEstablishment Message.entries
  dsimp only
  rw [run_get_bind]
  cases m.nodeId with
  | none => cases m.cpFSeid <;> rfl
  | some id =>
    cases m.cpFSeid with
    | none => rfl
    | some cp =>
      dsimp only
      rw [List.foldl_cons, List.foldl_nil, Ledger.enter, Node.get?_desks]
      unfold Node.associationWith
      cases n.associations.get? (associationKey src) with
      | none => rfl
      | some a =>
        show ((establish (associationKey src) a cp m).run n).2.ledger
          = n.ledger.attempt (associationKey src) a.desk cp.seid m.ops
        exact ledger_establish _ a cp m n

/-- **How a modification goes**, and what the node looks like after it. -/
theorem modifySession_run (key : String) (session : Session) (request : SessionModificationRequest)
    (n : Node) :
    (modifySession key session request).run n =
      let r := (n.bench (session.renumbered request.cpFSeid)).carryOut request.ops
      (match r.1 with
        | .error e => modificationResponse e.cause [] r.2.session.remoteSeid
        | .ok () => modificationResponse .requestAccepted r.2.created r.2.session.remoteSeid,
        (n.clear r.2).withSession key r.2.session) := by
  unfold modifySession
  dsimp only
  rw [run_get_bind, work_modifyRules]
  cases (n.bench (session.renumbered request.cpFSeid)).carryOut request.ops with
  | mk result b => cases result <;> rfl

theorem enters_handleSessionModification (h : Header) (m : SessionModificationRequest)
    (src : SocketAddress) :
    Enters (handleSessionModification h m src)
      ((Message.sessionModificationRequest m).entries h src) := by
  intro n
  unfold handleSessionModification Message.entries
  dsimp only
  rw [run_get_bind, List.foldl_cons, List.foldl_nil, Ledger.enter, Node.get?_desks]
  unfold Node.associationWith
  cases hget : n.associations.get? (associationKey src) with
  | none => rfl
  | some a =>
    dsimp only [Option.map_some, Association.desk]
    cases a.sessions.get? (h.seid.getD 0) with
    | none => rfl
    | some s =>
      -- the session is filed again whether its rules could be changed or not
      show ((modifySession (associationKey src) s m).run n).2.ledger = _
      rw [modifySession_run]
      exact Ledger.ext (desks_withSession hget _) rfl rfl rfl rfl

theorem enters_handleSessionDeletion (h : Header) (m : SessionDeletionRequest)
    (src : SocketAddress) :
    Enters (handleSessionDeletion h m src) ((Message.sessionDeletionRequest m).entries h src) := by
  intro n
  unfold handleSessionDeletion Message.entries
  dsimp only
  rw [run_get_bind, List.foldl_cons, List.foldl_nil, Ledger.enter, Node.get?_desks]
  unfold Node.associationWith
  cases hget : n.associations.get? (associationKey src) with
  | none => rfl
  | some a =>
    dsimp only [Option.map_some, Association.desk]
    cases a.sessions.get? (h.seid.getD 0) with
    | none => rfl
    | some s =>
      have hdesks : (n.withAssociation (associationKey src)
          { a with sessions := a.sessions.erase (h.seid.getD 0) }).ledger.desks
            = n.ledger.desks.insert (associationKey src)
              ⟨a.nextSessionId, a.sessions.erase (h.seid.getD 0)⟩ := Table.map_insert _ _ _ _
      show ((deleteSession (associationKey src) a s (h.seid.getD 0)).run n).2.ledger = _
      unfold deleteSession
      rw [run_modify_bind, run_get_bind]
      dsimp only
      rw [run_set_bind]
      -- a failure on the way down shows in the answer only
      split <;> exact Ledger.ext hdesks rfl rfl rfl rfl

/-! ## §7. Datagrams and runs. -/

theorem enters_countRejection (name : String) (r : Reply) : Enters (countRejection name r) [] := by
  unfold countRejection
  split
  · split
    · exact .pure _
    · exact fun _ => rfl
  · exact .pure _

/-- A message that nobody handles makes no entries. -/
theorem entries_of_handlerFor_none {h : Header} {m : Message} {src : SocketAddress}
    (hnone : handlerFor h m src = none) : m.entries h src = [] := by
  cases m <;> first | rfl | cases hnone

/-- A message's handler makes its entries. -/
theorem enters_handler {h : Header} {m : Message} {src : SocketAddress}
    {handle : StateM Node (Option Reply)} (hsome : handlerFor h m src = some handle) :
    Enters handle (m.entries h src) := by
  cases m <;> cases hsome
  case heartbeatRequest m => exact enters_handleHeartbeatRequest h m src
  case heartbeatResponse m => exact enters_handleHeartbeatResponse h m src
  case associationSetupRequest m => exact enters_handleAssociationSetup h m src
  case associationSetupResponse m => exact enters_handleAssociationSetupResponse h m src
  case associationUpdateRequest m => exact enters_handleAssociationUpdate h m src
  case associationReleaseRequest m => exact enters_handleAssociationRelease h m src
  case sessionEstablishmentRequest m => exact enters_handleSessionEstablishment h m src
  case sessionModificationRequest m => exact enters_handleSessionModification h m src
  case sessionDeletionRequest m => exact enters_handleSessionDeletion h m src

/-- **A message** makes its entries. -/
theorem enters_treatMessage (h : Header) (m : Message) (src : SocketAddress) :
    Enters (treatMessage h m src) (m.entries h src) := by
  unfold treatMessage
  refine .after (enters_modify fun _ => rfl) ?_
  intro _
  cases hhandler : handlerFor h m src with
  | none =>
    rw [entries_of_handlerFor_none hhandler]
    exact .pure _
  | some handle =>
    -- behind the handler there are only counts
    refine .before (enters_handler hhandler) fun reply => .after (enters_modify fun _ => rfl)
      fun _ => ?_
    cases reply with
    | none => exact .pure _
    | some r => exact .after (enters_countRejection m.name r) fun _ => .pure _

theorem enters_treatCut (src : SocketAddress) (c : Header.Cut) :
    Enters (treatCut src c) (c.entries src) := by
  unfold treatCut Header.Cut.entries
  cases Message.decode c.header.type c.body with
  | error e => exact .pure _
  | ok m => exact enters_treatMessage c.header m src

theorem enters_treatDatagram (octets : Octets) (src : SocketAddress) :
    Enters (treatDatagram octets src)
      ((Header.walk octets).flatMap (Header.Cut.entries src)) := by
  unfold treatDatagram
  -- on the messages of the datagram
  induction Header.walk octets with
  | nil => exact .pure _
  | cons c cuts ih =>
    rw [List.filterMapM_cons, List.flatMap_cons]
    apply (enters_treatCut src c).bind
    intro answer
    cases answer with
    | none => exact ih
    | some o => exact ih.before fun _ => .pure _

namespace Node

/-- **An event** makes its entries in the ledger. -/
theorem ledger_after (n : Node) (e : Event) :
    (n.after e).ledger = (n.entries e).foldl Ledger.enter n.ledger := by
  cases e with
  | datagram octets src => exact enters_treatDatagram octets src n
  | heartbeatDue key timer => exact enters_nextHeartbeat key timer n
  | heartbeatFailed key timer => exact ledger_recordFailure key timer n
  | refresh => exact enters_refreshTimers n
  | elapsed span => rfl

theorem ledger_run_eq (n : Node) (events : List Event) :
    (n.run events).ledger = (n.trace events).foldl Ledger.enter n.ledger := by
  induction events generalizing n with
  | nil => rfl
  | cons e events ih =>
    show ((n.after e).run events).ledger = _
    rw [ih, ledger_after, trace, List.foldl_append]

/-- **The books after a run** hold the ledger of the node that is reached. -/
theorem ledger_books (n : Node) (events : List Event) :
    (n.books events).ledger = (n.run events).ledger := by
  rw [ledger_run_eq]
  exact Books.ledger_after _ _

/-- **Induction over runs**: what holds of the books at the start, and is kept
by every entry, holds of the books after a run. -/
theorem books_induction {P : Books → Prop} (hstep : ∀ w e, P w → P (w.enter e)) {n : Node}
    (hstart : P n.newBooks) (events : List Event) : P (n.books events) :=
  Books.holds_after hstep _ hstart

theorem trace_append (n : Node) (events events' : List Event) :
    n.trace (events ++ events') = n.trace events ++ (n.run events).trace events' := by
  induction events generalizing n with
  | nil => rfl
  | cons e events ih =>
    rw [List.cons_append, trace, ih, trace, List.append_assoc]
    rfl

/-- The books after one run and another. -/
theorem books_append (n : Node) (events events' : List Event) :
    n.books (events ++ events') = (n.books events).after ((n.run events).trace events') := by
  unfold books Books.after
  rw [trace_append, List.foldl_append]

/-- An event that makes one entry wherever it happens makes it as often as it
happens. -/
theorem trace_replicate {e : Event} {entry : Entry} (h : ∀ n : Node, n.entries e = [entry])
    (count : Nat) (n : Node) : n.trace (List.replicate count e) = List.replicate count entry := by
  induction count generalizing n with
  | zero => rfl
  | succ count ih => rw [List.replicate_succ, trace, h, ih, List.replicate_succ]; rfl

/-! ## §8. Starts. -/

/-- A node that starts has passed the checks of its settings. -/
theorem start_eq {c : Config} {startup : Int} {heartbeats : Bool} {n : Node}
    (h : Node.start c startup heartbeats = .ok n) :
    ∃ ipv4 ipv6, n = {
      params := .ofConfig c startup
      plane := .make c.farMapSize.toNat c.qerMapSize.toNat
      pools := .make ipv4 ipv6 c.teidPool.toNat
      heartbeats } := by
  unfold start at h
  cases hvalid : c.validate with
  | error e =>
    rw [hvalid] at h
    cases h
  | ok u =>
    cases hipv4 : c.ipv4Network with
    | error e =>
      rw [hvalid, hipv4] at h
      cases h
    | ok ipv4 =>
      cases hipv6 : c.ipv6Network with
      | error e =>
        rw [hvalid, hipv4, hipv6] at h
        cases h
      | ok ipv6 =>
        rw [hvalid, hipv4, hipv6] at h
        cases h
        exact ⟨ipv4, ipv6, rfl⟩

/-- **A node starts** with nothing in its slots, nothing handed out and no
associations. -/
theorem start_spec {c : Config} {startup : Int} {heartbeats : Bool} {n : Node}
    (h : Node.start c startup heartbeats = .ok n) :
    n.associations = .empty ∧ n.plane = .make c.farMapSize.toNat c.qerMapSize.toNat
      ∧ n.nextResourceKey = 1 ∧ n.pools.ipv4.held = .empty ∧ n.pools.heldIpv6 = .empty
      ∧ n.pools.teids.held = .empty := by
  obtain ⟨ipv4, ipv6, rfl⟩ := start_eq h
  refine ⟨rfl, rfl, rfl, rfl, ?_, rfl⟩
  cases ipv6 <;> rfl

/-- At the start there are no desks. -/
theorem desks_start {c : Config} {startup : Int} {heartbeats : Bool} {n : Node}
    (h : Node.start c startup heartbeats = .ok n) : n.newBooks.ledger.desks = .empty := by
  show n.associations.map Association.desk = .empty
  rw [(start_spec h).1]
  rfl

/-- The node that starts with the settings that hold if none are given. -/
def standard : Node where
  params := .ofConfig {} 0
  plane := .make 1024 1024
  pools := .make ⟨0x0A3C0000, 24⟩ none 65536

theorem start_standard : Node.start {} 0 false = .ok standard := by decide +kernel

end Node

/-! ## §9. What a peer sends. -/

namespace Event

/-- A peer. -/
def peer : SocketAddress := { ip := .v4 ⟨0x0A000001⟩, port := standardPort }

/-- The peer asks for an association. -/
def setup : Event :=
  .datagram ((Message.associationSetupRequest
    ⟨some (.ofIp peer.ip), some ⟨1⟩, none⟩).encode 1 none) peer

/-- The peer asks for a session with these rules. -/
def establishment (pdrs : List CreatePdr) (fars : List CreateFar) : Event :=
  .datagram ((Message.sessionEstablishmentRequest
    ⟨some (.ofIp peer.ip), some (.ofIp peer.ip 1), pdrs, fars, []⟩).encode 2 (some 0)) peer

/-- The peer asks for changes of a session's rules. -/
def modification (seid : UInt64) (r : SessionModificationRequest) : Event :=
  .datagram ((Message.sessionModificationRequest r).encode 3 (some seid)) peer

end Event

end UserPlane
