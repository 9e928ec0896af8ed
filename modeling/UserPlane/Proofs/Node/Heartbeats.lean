/-
  UserPlane.Proofs.Node.Heartbeats
  ────────────────────────────────
  **NO HEARTBEAT EXPIRES THAT SHOULD NOT.**

  A timer that is asleep does not know whether it is still the one its
  association counts on: a response may have started another, the association
  may have ended, and a new one may have taken its place under the same key.
  What a timer may do is decided when it wakes up.

  Beside a run of calls a journal is kept, newest mark first, of associations
  that were made, of responses, of timers that were started and of failures
  that were counted.  Two things are read off it:

      Journal.current key       the timer started last for the association
      Journal.unanswered key    the failures since the association was made, or
                                since the last response, whichever is later

  Every call keeps `Watched`: each association has exactly these as its timer
  and its count.  From it comes `Node.heartbeats_vigilant`: timers never share
  a number, one that is not current changes nothing, and an association ends at
  the failure that is one too many and at no other.
-/
import UserPlane.Proofs.Node.Calls

namespace UserPlane

/-! ## §1. The journal. -/

/-- What is marked in the journal. -/
inductive Mark where
  /-- An association was made. -/
  | created (key : String)
  /-- A response to a heartbeat arrived from an address. -/
  | answered (key : String)
  /-- A timer was started for an association. -/
  | started (key : String) (timer : UInt64)
  /-- A failure was counted for the current timer of an association. -/
  | failed (key : String) (timer : UInt64)
  deriving DecidableEq, Repr

namespace Journal

/-- The timer that was started last for the association under a key. -/
def current (key : String) : List Mark → Option UInt64
  | [] => none
  | .created k :: older => if k = key then none else current key older
  | .started k timer :: older => if k = key then some timer else current key older
  | _ :: older => current key older

/-- The failures counted since the association under a key was made, or since
the last response from its address. -/
def unanswered (key : String) : List Mark → Nat
  | [] => 0
  | .created k :: older => if k = key then 0 else unanswered key older
  | .answered k :: older => if k = key then 0 else unanswered key older
  | .failed k _ :: older => if k = key then unanswered key older + 1 else unanswered key older
  | .started _ _ :: older => unanswered key older

/-- The numbers of the timers that were started. -/
def timers (j : List Mark) : List UInt64 :=
  j.filterMap fun
    | .started _ timer => some timer
    | _ => none

/-- The marks of timers that are started one after the other. -/
def starts (next : UInt64) : List String → List Mark
  | [] => []
  | key :: keys => starts (next + 1) keys ++ [.started key next]

end Journal

namespace Node

/-- The timer is the current one of the association that is now under the key. -/
def IsCurrent (n : Node) (key : String) (timer : UInt64) : Prop :=
  ∃ a, n.associations.get? key = some a ∧ a.isCurrentTimer timer = true

/-- The associations without a timer. -/
def untimed (n : Node) : List String :=
  (n.associations.entries.filter fun e => !e.2.hasTimer).map Prod.fst

/-- The marks that a message makes. -/
def messageMarks (n : Node) (src : SocketAddress) : Message → List Mark
  | .heartbeatResponse _ =>
    (if n.heartbeats && n.associations.contains (associationKey src) then
      [.started (associationKey src) n.nextTimerId] else []) ++ [.answered (associationKey src)]
  | .associationSetupRequest m => if m.nodeId.isSome then [.created (associationKey src)] else []
  | .associationSetupResponse m =>
    if m.cause.isAccepted && !n.associations.contains (associationKey src) then
      [.created (associationKey src)] else []
  | _ => []

/-- The marks that a call makes. -/
def marks (n : Node) : Call → List Mark
  | .message src cut =>
    match Message.decode cut.header.type cut.body with
    | .error _ => []
    | .ok m => n.messageMarks src m
  | .heartbeatFailed key timer =>
    if (timedAssociation n key timer).isSome then [.failed key timer] else []
  | .refresh => Journal.starts n.nextTimerId n.untimed
  | _ => []

/-- The journal after a run of calls, `j` being what it held before. -/
def journalFrom (n : Node) (j : List Mark) : List Call → List Mark
  | [] => j
  | c :: cs => (n.call c).journalFrom (n.marks c ++ j) cs

/-- The journal of a run of calls. -/
def journal (n : Node) (cs : List Call) : List Mark := n.journalFrom [] cs

end Node

/-! ## §2. Numbers of timers. -/

namespace Journal

/-- The numbers of so many timers, the last one first. -/
def countdown : Nat → List UInt64
  | 0 => []
  | k + 1 => UInt64.ofNat (k + 1) :: countdown k

@[simp] theorem length_countdown (k : Nat) : (countdown k).length = k := by
  induction k with
  | zero => rfl
  | succ k ih => rw [countdown, List.length_cons, ih]

theorem mem_countdown {k : Nat} {t : UInt64} (h : t ∈ countdown k) :
    ∃ i, i < k ∧ t = UInt64.ofNat (i + 1) := by
  induction k with
  | zero => cases h
  | succ k ih =>
    rcases List.mem_cons.mp h with rfl | h
    · exact ⟨k, by omega, rfl⟩
    · obtain ⟨i, hi, rfl⟩ := ih h
      exact ⟨i, by omega, rfl⟩

/-- Numbers do not come twice before all 64 bits are used up. -/
theorem nodup_countdown {k : Nat} (h : k < 18446744073709551616) : (countdown k).Nodup := by
  induction k with
  | zero => exact List.nodup_nil
  | succ k ih =>
    refine List.nodup_cons.mpr ⟨fun hmem => ?_, ih (by omega)⟩
    obtain ⟨i, hi, heq⟩ := mem_countdown hmem
    have hnat := congrArg UInt64.toNat heq
    rw [UInt64.toNat_ofNat', UInt64.toNat_ofNat', Nat.mod_eq_of_lt (by omega),
      Nat.mod_eq_of_lt (by omega)] at hnat
    omega

/-- Of a timer that is current the start is in the journal. -/
theorem started_of_current {key : String} {t : UInt64} {j : List Mark}
    (h : current key j = some t) : Mark.started key t ∈ j := by
  induction j with
  | nil => cases h
  | cons m j ih =>
    cases m with
    | created k =>
      rw [current] at h
      split at h
      · cases h
      · exact List.mem_cons_of_mem _ (ih h)
    | started k timer =>
      rw [current] at h
      split at h
      · next hk =>
        cases h
        rw [hk]
        exact List.mem_cons_self
      · exact List.mem_cons_of_mem _ (ih h)
    | answered k => exact List.mem_cons_of_mem _ (ih h)
    | failed k timer => exact List.mem_cons_of_mem _ (ih h)

theorem mem_timers {key : String} {t : UInt64} {j : List Mark} (h : Mark.started key t ∈ j) :
    t ∈ timers j := List.mem_filterMap.mpr ⟨_, h, rfl⟩

/-- No number is given out for two associations. -/
theorem key_unique {j : List Mark} (hnodup : (timers j).Nodup) {key key' : String} {t : UInt64}
    (h : Mark.started key t ∈ j) (h' : Mark.started key' t ∈ j) : key = key' := by
  induction j with
  | nil => cases h
  | cons m j ih =>
    rcases List.mem_cons.mp h with rfl | htail
    · rcases List.mem_cons.mp h' with heq | htail'
      · cases heq
        rfl
      · exact absurd (mem_timers htail') (List.nodup_cons.mp hnodup).1
    · rcases List.mem_cons.mp h' with rfl | htail'
      · exact absurd (mem_timers htail) (List.nodup_cons.mp hnodup).1
      · refine ih ?_ htail htail'
        exact hnodup.sublist ((List.sublist_cons_self m j).filterMap _)

end Journal

/-! ## §3. What is kept. -/

/-- **The node agrees with the journal**: every association has the timer and
the count that the journal tells, and not more failures than it may, which are
fewer than can be counted. -/
structure Watched (n : Node) (j : List Mark) : Prop where
  pulses : ∀ key a, n.associations.get? key = some a →
    a.pulse = (↑(Journal.unanswered key j), Journal.current key j)
  bounded : ∀ key a, n.associations.get? key = some a →
    Journal.unanswered key j ≤ n.params.heartbeatRetries
  retries : (n.params.heartbeatRetries : Nat) < 4294967295
  nextTimerId : n.nextTimerId = UInt64.ofNat ((Journal.timers j).length + 1)
  timers : Journal.timers j = Journal.countdown (Journal.timers j).length

/-- The association that a mark is about. -/
def Mark.key : Mark → String
  | .created key => key
  | .answered key => key
  | .started key _ => key
  | .failed key _ => key

namespace Journal

variable {key : String} {m : Mark} {j : List Mark}

theorem current_cons_of_ne (h : m.key ≠ key) : current key (m :: j) = current key j := by
  cases m <;> simp_all [current, Mark.key]

theorem unanswered_cons_of_ne (h : m.key ≠ key) :
    unanswered key (m :: j) = unanswered key j := by
  cases m <;> simp_all [unanswered, Mark.key]

end Journal

namespace Watched

variable {n n' : Node} {j : List Mark} {key : String} {a : Association}

/-- What is not about associations may change. -/
theorem of_steadied (h : Watched n j) (hsteadied : n.Steadied n') : Watched n' j := by
  have hold (k : String) (a' : Association) (hget : n'.associations.get? k = some a') :
      ∃ a, n.associations.get? k = some a ∧ a.pulse = a'.pulse := by
    have hpulse := hsteadied.pulses k
    rw [hget, Option.map_some] at hpulse
    exact Option.map_eq_some_iff.mp hpulse.symm
  refine ⟨fun k a' hget => ?_, fun k a' hget => ?_, hsteadied.params ▸ h.retries,
    hsteadied.nextTimerId.trans h.nextTimerId, h.timers⟩
  · obtain ⟨a, hget', hpulse⟩ := hold k a' hget
    rw [← hpulse, h.pulses k a hget']
  · obtain ⟨a, hget', -⟩ := hold k a' hget
    rw [hsteadied.params]
    exact h.bounded k a hget'

/-- One association may change, if the journal tells how. -/
theorem of_spared (h : Watched n j) (hspared : n.Spared key n') {m : Mark} (hkey : m.key = key)
    (hown : ∀ a', n'.associations.get? key = some a' →
      a'.pulse = (↑(Journal.unanswered key (m :: j)), Journal.current key (m :: j))
        ∧ Journal.unanswered key (m :: j) ≤ n.params.heartbeatRetries)
    (hnext : n'.nextTimerId = UInt64.ofNat ((Journal.timers (m :: j)).length + 1))
    (htimers : Journal.timers (m :: j)
      = Journal.countdown (Journal.timers (m :: j)).length) : Watched n' (m :: j) := by
  have hne {k : String} (hk : k ≠ key) : m.key ≠ k := by
    rw [hkey]
    exact fun h => hk h.symm
  refine ⟨fun k a' hget => ?_, fun k a' hget => ?_, hspared.params ▸ h.retries, hnext, htimers⟩
  · by_cases hk : k = key
    · subst hk
      exact (hown a' hget).1
    · rw [hspared.others k hk] at hget
      rw [Journal.unanswered_cons_of_ne (hne hk), Journal.current_cons_of_ne (hne hk)]
      exact h.pulses k a' hget
  · rw [hspared.params]
    by_cases hk : k = key
    · subst hk
      exact (hown a' hget).2
    · rw [hspared.others k hk] at hget
      rw [Journal.unanswered_cons_of_ne (hne hk)]
      exact h.bounded k a' hget

/-- An association may end. -/
theorem removed (h : Watched n j) (key : String) :
    Watched ((removeAssociation key).run n).2 j := by
  rw [removeAssociation_run]
  cases n.associations.get? key with
  | none => exact h
  | some a =>
    obtain ⟨hassociations, hnext, hparams⟩ := n.dropAssociation_spec key a
    have hold (k : String) (a' : Association)
        (hget : (n.dropAssociation key a).associations.get? k = some a') :
        n.associations.get? k = some a' := by
      rw [hassociations] at hget
      exact (Table.get?_of_erase hget).2
    refine ⟨fun k a' hget => h.pulses k a' (hold k a' hget), fun k a' hget => ?_,
      hparams ▸ h.retries, hnext.trans h.nextTimerId, h.timers⟩
    show Journal.unanswered k j ≤ (n.dropAssociation key a).params.heartbeatRetries
    rw [hparams]
    exact h.bounded k a' (hold k a' hget)

/-- A new association has no failures and no timer. -/
theorem enrolled (h : Watched n j) (id : NodeId) (src : SocketAddress) :
    Watched ((enroll id src).run n).2 (.created (associationKey src) :: j) := by
  refine h.of_spared (spares_enroll id src n) rfl (fun a' hget => ?_) h.nextTimerId h.timers
  cases (n.get?_withAssociation (associationKey src) { id := id.text, address := src }).symm.trans
    hget
  simp [Association.pulse, Journal.unanswered, Journal.current]

/-- A response makes the count start anew. -/
theorem answered (h : Watched n j) (hget : n.associations.get? key = some a) :
    Watched (n.withAssociation key a.refreshRetries) (.answered key :: j) := by
  refine h.of_spared (n.spared_withAssociation key _) rfl (fun a' hget' => ?_) h.nextTimerId
    h.timers
  cases (n.get?_withAssociation key a.refreshRetries).symm.trans hget'
  have htimer : a.timer.map HeartbeatTimer.id = Journal.current key j :=
    congrArg Prod.snd (h.pulses key a hget)
  simp [Association.pulse, Association.refreshRetries, Journal.unanswered, Journal.current, htimer]

/-- A response from an address without an association is of no consequence. -/
theorem answered_none (h : Watched n j) (hget : n.associations.get? key = none) :
    Watched n (.answered key :: j) := by
  refine h.of_spared (.refl key n) rfl (fun a' hget' => ?_) h.nextTimerId h.timers
  rw [hget] at hget'
  cases hget'

/-- A timer that is started is the current one of its association. -/
theorem scheduled (h : Watched n j) (hget : n.associations.get? key = some a) :
    Watched ((scheduleHeartbeat key).run n).2 (.started key n.nextTimerId :: j) := by
  have htimers : Journal.timers (.started key n.nextTimerId :: j)
      = n.nextTimerId :: Journal.timers j := rfl
  have hrun := scheduleHeartbeat_run key n
  rw [hget] at hrun
  refine h.of_spared (spares_scheduleHeartbeat key n) rfl (fun a' hget' => ?_) ?_ ?_
  · rw [hrun] at hget'
    cases (n.get?_withAssociation key { a with timer := _ }).symm.trans hget'
    have hfailures : a.heartbeatFailures = ↑(Journal.unanswered key j) :=
      congrArg Prod.fst (h.pulses key a hget)
    exact ⟨by simp [Association.pulse, Journal.unanswered, Journal.current, hfailures],
      h.bounded key a hget⟩
  · rw [hrun, htimers, List.length_cons]
    show n.nextTimerId + 1 = _
    rw [h.nextTimerId]
    exact (UInt64.ofNat_add _ 1).symm
  · rw [htimers, List.length_cons, Journal.countdown, ← h.timers, h.nextTimerId]

theorem failures_succ (h : Watched n j) (hget : n.associations.get? key = some a) :
    a.heartbeatFailures + 1 = ↑(Journal.unanswered key j + 1) := by
  have hfailures : a.heartbeatFailures = ↑(Journal.unanswered key j) :=
    congrArg Prod.fst (h.pulses key a hget)
  rw [hfailures]
  exact (UInt32.ofNat_add _ 1).symm

/-- One failure more than an association has can be counted. -/
theorem toNat_failures_succ (h : Watched n j) (hget : n.associations.get? key = some a) :
    ((a.heartbeatFailures + 1 : UInt32) : Nat) = Journal.unanswered key j + 1 := by
  have hbounded := h.bounded key a hget
  have hretries := h.retries
  rw [h.failures_succ hget]
  exact UInt32.toNat_ofNat_of_lt' (show Journal.unanswered key j + 1 < 4294967296 by omega)

/-- A failure is counted. -/
theorem failed (h : Watched n j) (hget : n.associations.get? key = some a) (timer : UInt64)
    (hfew : a.heartbeatFailures + 1 ≤ n.params.heartbeatRetries) :
    Watched (n.withAssociation key a.failedOnce) (.failed key timer :: j) := by
  refine h.of_spared (n.spared_withAssociation key _) rfl (fun a' hget' => ?_) h.nextTimerId
    h.timers
  cases (n.get?_withAssociation key a.failedOnce).symm.trans hget'
  have htimer : a.timer.map HeartbeatTimer.id = Journal.current key j :=
    congrArg Prod.snd (h.pulses key a hget)
  have hcount : Journal.unanswered key (.failed key timer :: j) = Journal.unanswered key j + 1 :=
    if_pos rfl
  rw [hcount]
  refine ⟨?_, ?_⟩
  · show (a.heartbeatFailures + 1, a.timer.map HeartbeatTimer.id) = _
    rw [h.failures_succ hget, htimer]
    rfl
  · rw [← h.toNat_failures_succ hget]
    exact UInt32.le_iff_toNat_le.mp hfew

/-- A failure that ends its association. -/
theorem expired (h : Watched n j) (a : Association) (timer : UInt64) :
    Watched ((n.withAssociation key a).dropAssociation key a) (.failed key timer :: j) := by
  obtain ⟨hassociations, hnext, hparams⟩ := (n.withAssociation key a).dropAssociation_spec key a
  have hspared : n.Spared key ((n.withAssociation key a).dropAssociation key a) := by
    refine (n.spared_withAssociation key a).trans ⟨fun k hk => ?_, hparams⟩
    rw [hassociations, Table.get?_erase, if_neg hk]
  refine h.of_spared hspared rfl (fun a' hget => ?_) (hnext.trans h.nextTimerId) h.timers
  rw [hassociations, Table.get?_erase, if_pos rfl] at hget
  cases hget

end Watched

/-! ## §4. Calls keep it. -/

/-- A refresh starts a timer for each association without one. -/
theorem refreshTimers_run (n : Node) :
    (refreshTimers.run n).2
      = n.untimed.foldl (fun n key => ((scheduleHeartbeat key).run n).2) n := by
  have hloop (es : List (String × Association)) (n : Node) :
      ((forIn es PUnit.unit fun e _ => do
          unless e.2.hasTimer do scheduleHeartbeat e.1
          pure (ForInStep.yield PUnit.unit) : StateM Node PUnit).run n).2
        = ((es.filter fun e => !e.2.hasTimer).map Prod.fst).foldl
            (fun n key => ((scheduleHeartbeat key).run n).2) n := by
    induction es generalizing n with
    | nil => rfl
    | cons e es ih =>
      rw [List.forIn_cons, List.filter_cons]
      cases htimer : e.2.hasTimer with
      | true => exact ih n
      | false => exact ih ((scheduleHeartbeat e.1).run n).2
  unfold refreshTimers
  rw [run_get_bind, run_bind]
  exact hloop n.associations.entries n

/-- Timers that are started one after the other. -/
theorem Watched.scheduled_all {keys : List String} {n : Node} {j : List Mark} (h : Watched n j)
    (hkeys : ∀ key ∈ keys, n.associations.contains key = true) :
    Watched (keys.foldl (fun n key => ((scheduleHeartbeat key).run n).2) n)
      (Journal.starts n.nextTimerId keys ++ j) := by
  induction keys generalizing n j with
  | nil => exact h
  | cons key keys ih =>
    obtain ⟨a, hget⟩ := Option.isSome_iff_exists.mp (hkeys key (by simp))
    have hrun := scheduleHeartbeat_run key n
    rw [show n.associations.get? key = some a from hget] at hrun
    have hnext : ((scheduleHeartbeat key).run n).2.nextTimerId = n.nextTimerId + 1 := by rw [hrun]
    have hrest := ih (h.scheduled hget) fun k hk => by
      -- an association stays when another is given a timer
      rw [hrun]
      show ((n.associations.insert key _).get? k).isSome = true
      rw [Table.get?_insert]
      split
      · rfl
      · exact hkeys k (by simp [hk])
    rw [hnext] at hrest
    rw [List.foldl_cons, Journal.starts, List.append_assoc]
    exact hrest

theorem Watched.refreshed {n : Node} {j : List Mark} (h : Watched n j) :
    Watched (refreshTimers.run n).2 (Journal.starts n.nextTimerId n.untimed ++ j) := by
  rw [refreshTimers_run]
  refine h.scheduled_all fun key hkey => ?_
  obtain ⟨⟨k, a⟩, hmem, rfl⟩ := List.mem_map.mp hkey
  have hget := (Table.mem_entries_iff _ k a).mp (List.mem_filter.mp hmem).1
  exact Option.isSome_iff_exists.mpr ⟨a, hget⟩

/-- **A message** keeps it. -/
theorem Watched.handled {n : Node} {j : List Mark} (hwatched : Watched n j) {h : Header}
    {m : Message} {src : SocketAddress} {handle : StateM Node (Option Reply)}
    (hsome : handlerFor h m src = some handle) :
    Watched (handle.run n).2 (n.messageMarks src m ++ j) := by
  cases m <;> cases hsome
  case heartbeatRequest m => exact hwatched
  case heartbeatResponse m =>
    unfold handleHeartbeatResponse
    dsimp only
    rw [run_get_bind]
    cases hget : n.associations.get? (associationKey src) with
    | none =>
      have hmarks : n.messageMarks src (.heartbeatResponse m)
          = [.answered (associationKey src)] := by
        simp [Node.messageMarks, Table.contains, hget]
      rw [hmarks]
      exact hwatched.answered_none hget
    | some a =>
      have hanswered := hwatched.answered hget
      have hheartbeats : (n.withAssociation (associationKey src) a.refreshRetries).heartbeats
          = n.heartbeats := rfl
      dsimp only
      rw [run_modify_bind, run_get_bind, hheartbeats]
      cases hflag : n.heartbeats with
      | false =>
        have hmarks : n.messageMarks src (.heartbeatResponse m)
            = [.answered (associationKey src)] := by
          simp [Node.messageMarks, hflag]
        rw [hmarks]
        exact hanswered
      | true =>
        have hmarks : n.messageMarks src (.heartbeatResponse m)
            = [.started (associationKey src) n.nextTimerId, .answered (associationKey src)] := by
          simp [Node.messageMarks, Table.contains, hget, hflag]
        rw [hmarks]
        exact hanswered.scheduled (n.get?_withAssociation _ a.refreshRetries)
  case associationSetupRequest m =>
    unfold handleAssociationSetup Node.messageMarks
    dsimp only
    rw [run_get_bind]
    cases m.nodeId with
    | none => exact hwatched
    | some id =>
      dsimp only
      rw [run_bind, run_bind]
      exact (hwatched.removed (associationKey src)).enrolled id src
  case associationSetupResponse m =>
    unfold handleAssociationSetupResponse Node.messageMarks
    dsimp only
    cases m.cause.isAccepted with
    | false => exact hwatched.of_steadied (.of_eq rfl rfl rfl)
    | true =>
      rw [if_pos rfl, run_get_bind]
      cases n.associations.contains (associationKey src) with
      | true => exact hwatched
      | false => exact hwatched.enrolled m.nodeId src
  case associationUpdateRequest m => exact hwatched
  case associationReleaseRequest m =>
    unfold handleAssociationRelease
    dsimp only
    rw [run_get_bind]
    cases m.nodeId with
    | none => exact hwatched
    | some id =>
      dsimp only
      rw [run_bind]
      have hremoved := hwatched.removed (associationKey src)
      cases ((removeAssociation (associationKey src)).run n).1 <;> exact hremoved
  case sessionEstablishmentRequest m =>
    exact hwatched.of_steadied (Node.handleSessionEstablishment_reworked h m src n).steadied
  case sessionModificationRequest m =>
    exact hwatched.of_steadied (Node.handleSessionModification_reworked h m src n).steadied
  case sessionDeletionRequest m =>
    exact hwatched.of_steadied (Node.handleSessionDeletion_reworked h m src n).steadied

theorem Watched.treated {n : Node} {j : List Mark} (hwatched : Watched n j) (h : Header)
    (m : Message) (src : SocketAddress) :
    Watched ((treatMessage h m src).run n).2 (n.messageMarks src m ++ j) := by
  refine treatMessage_holds (Q := fun n' => Watched n' (n.messageMarks src m ++ j))
    (fun n' metrics hn => hn.of_steadied (.of_eq rfl rfl rfl)) h m src n (fun hnone => ?_)
    fun handle hsome metrics => ?_
  · -- what nobody handles makes no marks
    have hmarks : n.messageMarks src m = [] := by
      cases m <;> first | rfl | cases hnone
    rw [hmarks]
    exact hwatched
  · have hcounted : Watched { n with metrics } j := hwatched.of_steadied (.of_eq rfl rfl rfl)
    have hmarks : ({ n with metrics } : Node).messageMarks src m = n.messageMarks src m := by
      cases m <;> rfl
    rw [← hmarks]
    exact hcounted.handled hsome

/-- **Every call** keeps it. -/
theorem Watched.call {n : Node} {j : List Mark} (h : Watched n j) (c : Call) :
    Watched (n.call c) (n.marks c ++ j) := by
  cases c with
  | message src cut =>
    show Watched ((treatCut src cut).run n).2 _
    unfold treatCut Node.marks
    dsimp only
    cases Message.decode cut.header.type cut.body with
    | error e => exact h
    | ok m => exact h.treated cut.header m src
  | heartbeatDue key timer =>
    show Watched ((nextHeartbeat key timer).run n).2 j
    cases htimed : timedAssociation n key timer with
    | none =>
      rw [nextHeartbeat_run_none htimed]
      exact h
    | some a =>
      rw [nextHeartbeat_run_some htimed]
      exact h.of_steadied
        (Node.steadied_withAssociation a.newSequence.2 (timedAssociation_eq_some htimed) rfl)
  | heartbeatFailed key timer =>
    show Watched ((recordFailure key timer).run n).2 _
    unfold Node.marks
    dsimp only
    cases htimed : timedAssociation n key timer with
    | none =>
      rw [recordFailure_run_none htimed]
      exact h
    | some a =>
      rw [recordFailure_run_some htimed]
      split
      · exact h.expired a.failedOnce timer
      · next hfew =>
        exact h.failed (timedAssociation_eq_some htimed) timer (UInt32.not_lt.mp hfew)
  | rearmed key wait after => exact h.of_steadied (Node.rearm_reworked key wait after n).steadied
  | refresh => exact h.refreshed
  | elapsed span => exact h.of_steadied (.of_eq rfl rfl rfl)

theorem Watched.calls {n : Node} {j : List Mark} (h : Watched n j) (cs : List Call) :
    Watched (n.calls cs) (n.journalFrom j cs) := by
  induction cs generalizing n j with
  | nil => exact h
  | cons c cs ih => exact ih (h.call c)

/-- A node that has just been started agrees with an empty journal. -/
theorem Watched.start {c : Config} {startup : Int} {heartbeats : Bool} {n : Node}
    (h : Node.start c startup heartbeats = .ok n)
    (hretries : n.params.heartbeatRetries.toNat < 4294967295) : Watched n [] := by
  obtain ⟨ipv4, ipv6, rfl⟩ := Node.start_eq h
  refine ⟨?_, ?_, hretries, rfl, rfl⟩ <;>
  · intro key a hget
    cases hget

/-! ## §5. What timers may do. -/

/-- **The node is vigilant and fair**: it ends an association whose peer left
too many heartbeats unanswered, and no other. -/
structure Vigilant (n : Node) (j : List Mark) : Prop where
  /-- No two timers were started under one number. -/
  never_reused : (Journal.timers j).Nodup
  /-- An association has at most one current timer, … -/
  one_timer : ∀ key t t', n.IsCurrent key t → n.IsCurrent key t' → t = t'
  /-- … which no other association has. -/
  one_association : ∀ key key' t, n.IsCurrent key t → n.IsCurrent key' t → key = key'
  /-- It is the timer that was started last. -/
  started_last : ∀ key t, n.associations.contains key = true →
    (n.IsCurrent key t ↔ Journal.current key j = some t)
  /-- A timer that is not current gets no request to send, and changes nothing. -/
  stale_request : ∀ key t, ¬ n.IsCurrent key t → (nextHeartbeat key t).run n = (none, n)
  /-- A failure that is not the current timer's does not count, and changes nothing. -/
  stale_failure : ∀ key t, ¬ n.IsCurrent key t → (recordFailure key t).run n = (false, n)
  /-- The count is that of the failures since the association was made or last answered, … -/
  failures : ∀ key a, n.associations.get? key = some a →
    (a.heartbeatFailures : Nat) = Journal.unanswered key j
  /-- … and one more can be counted in 32 bits. -/
  in_range : ∀ key a, n.associations.get? key = some a →
    (a.heartbeatFailures : Nat) + 1 < 4294967296
  /-- A failure of the current timer is counted, or ends the association and the timer. -/
  failure : ∀ key a t, n.associations.get? key = some a → n.IsCurrent key t →
    let p := (recordFailure key t).run n
    if n.params.heartbeatRetries.toNat < Journal.unanswered key (.failed key t :: j) then
      p.1 = false ∧ p.2.associations = n.associations.erase key
    else p = (true, n.withAssociation key a.failedOnce)
  /-- Whatever happens beside messages, an association ends exactly when a failure of its
  current timer is one too many. -/
  ended : ∀ c : Call, (∀ src cut, c ≠ .message src cut) → ∀ key,
    n.associations.contains key = true →
      ((n.call c).associations.contains key = false ↔
        ∃ t, c = .heartbeatFailed key t ∧ n.IsCurrent key t
          ∧ n.params.heartbeatRetries.toNat < Journal.unanswered key (n.marks c ++ j))

namespace Node

variable {n : Node} {key : String} {t : UInt64}

theorem isCurrent_iff : n.IsCurrent key t ↔ ∃ a, timedAssociation n key t = some a := by
  unfold timedAssociation IsCurrent
  simp only [Option.filter_eq_some_iff]

theorem timedAssociation_eq_none (h : ¬ n.IsCurrent key t) : timedAssociation n key t = none := by
  rw [isCurrent_iff] at h
  exact Option.eq_none_iff_forall_ne_some.mpr fun a ha => h ⟨a, ha⟩

/-- The current timer of an association is the one whose number it has. -/
theorem isCurrent_of_get? {a : Association} (hget : n.associations.get? key = some a) :
    n.IsCurrent key t ↔ a.timer.map HeartbeatTimer.id = some t := by
  unfold IsCurrent
  cases htimer : a.timer <;> simp [hget, Association.isCurrentTimer, htimer]

theorem IsCurrent.contains (h : n.IsCurrent key t) : n.associations.contains key = true := by
  obtain ⟨a, hget, -⟩ := h
  exact Option.isSome_iff_exists.mpr ⟨a, hget⟩

end Node

namespace Watched

variable {n : Node} {j : List Mark} {key : String} {a : Association} {t : UInt64}

theorem isCurrent_iff (h : Watched n j) (hget : n.associations.get? key = some a) :
    n.IsCurrent key t ↔ Journal.current key j = some t := by
  have htimer : a.timer.map HeartbeatTimer.id = Journal.current key j :=
    congrArg Prod.snd (h.pulses key a hget)
  rw [Node.isCurrent_of_get? hget, htimer]

theorem current_of_isCurrent (h : Watched n j) (hcurrent : n.IsCurrent key t) :
    Journal.current key j = some t := by
  obtain ⟨a, hget, -⟩ := id hcurrent
  exact (h.isCurrent_iff hget).mp hcurrent

theorem failures (h : Watched n j) (hget : n.associations.get? key = some a) :
    (a.heartbeatFailures : Nat) = Journal.unanswered key j := by
  have hcount : a.heartbeatFailures = ↑(Journal.unanswered key j) :=
    congrArg Prod.fst (h.pulses key a hget)
  have hbounded := h.bounded key a hget
  have hretries := h.retries
  rw [hcount]
  exact UInt32.toNat_ofNat_of_lt' (show Journal.unanswered key j < 4294967296 by omega)

/-- What a failure of the current timer comes to. -/
theorem failure (h : Watched n j) (hget : n.associations.get? key = some a)
    (hcurrent : n.IsCurrent key t) :
    let p := (recordFailure key t).run n
    if n.params.heartbeatRetries.toNat < Journal.unanswered key (.failed key t :: j) then
      p.1 = false ∧ p.2.associations = n.associations.erase key
    else p = (true, n.withAssociation key a.failedOnce) := by
  obtain ⟨a', htimed⟩ := Node.isCurrent_iff.mp hcurrent
  cases hget.symm.trans (timedAssociation_eq_some htimed)
  have hcount : Journal.unanswered key (.failed key t :: j) = (a.heartbeatFailures + 1).toNat := by
    rw [Journal.unanswered, if_pos rfl, h.toNat_failures_succ hget]
  dsimp only
  simp only [hcount, recordFailure_run_some htimed, ← UInt32.lt_iff_toNat_lt]
  split
  · refine ⟨rfl, ?_⟩
    show ((n.withAssociation key a.failedOnce).dropAssociation key a.failedOnce).associations = _
    rw [(Node.dropAssociation_spec _ key a.failedOnce).1]
    show (n.associations.insert key a.failedOnce).erase key = _
    rw [Table.erase_insert]
  · rfl

/-- An association stays where it is when another one, or itself, is given a timer. -/
theorem contains_scheduleHeartbeat (k key : String) (n : Node) :
    ((scheduleHeartbeat k).run n).2.associations.contains key = n.associations.contains key := by
  rw [scheduleHeartbeat_run]
  unfold Table.contains
  cases hget : n.associations.get? k with
  | none => rfl
  | some a =>
    show ((n.associations.insert k _).get? key).isSome = _
    rw [Table.get?_insert]
    split
    · next hk => rw [hk, hget, Option.isSome_some, Option.isSome_some]
    · rfl

theorem contains_refreshTimers (key : String) (n : Node) :
    (refreshTimers.run n).2.associations.contains key = n.associations.contains key := by
  rw [refreshTimers_run]
  generalize n.untimed = keys
  induction keys generalizing n with
  | nil => rfl
  | cons k keys ih => rw [List.foldl_cons, ih, contains_scheduleHeartbeat]

theorem contains_of_steadied {n' : Node} (h : n.Steadied n')
    (hthere : n.associations.contains key = true) : n'.associations.contains key = true := by
  obtain ⟨a, hget⟩ := Option.isSome_iff_exists.mp hthere
  have hpulse := h.pulses key
  rw [show n.associations.get? key = some a from hget, Option.map_some] at hpulse
  obtain ⟨a', hget', -⟩ := Option.map_eq_some_iff.mp hpulse
  exact Option.isSome_iff_exists.mpr ⟨a', hget'⟩

/-- Beside messages and failures nothing ends an association. -/
theorem contains_call {c : Call} (hmessage : ∀ src cut, c ≠ .message src cut)
    (hfailure : ∀ key t, c ≠ .heartbeatFailed key t)
    (hthere : n.associations.contains key = true) :
    (n.call c).associations.contains key = true := by
  cases c with
  | message src cut => exact absurd rfl (hmessage src cut)
  | heartbeatFailed k t => exact absurd rfl (hfailure k t)
  | heartbeatDue k t =>
    show ((nextHeartbeat k t).run n).2.associations.contains key = true
    cases htimed : timedAssociation n k t with
    | none =>
      rw [nextHeartbeat_run_none htimed]
      exact hthere
    | some a =>
      rw [nextHeartbeat_run_some htimed]
      have hget := timedAssociation_eq_some htimed
      exact contains_of_steadied
        (Node.steadied_withAssociation a.newSequence.2 hget rfl) hthere
  | rearmed k wait after =>
    exact contains_of_steadied (Node.rearm_reworked k wait after n).steadied hthere
  | refresh => exact (contains_refreshTimers key n).trans hthere
  | elapsed span => exact hthere

/-- Beside messages, only a failure of the current timer ends an association, and
only one that is one too many. -/
theorem ended (h : Watched n j) (c : Call) (hmessage : ∀ src cut, c ≠ .message src cut)
    (hthere : n.associations.contains key = true) :
    (n.call c).associations.contains key = false ↔
      ∃ t, c = .heartbeatFailed key t ∧ n.IsCurrent key t
        ∧ n.params.heartbeatRetries.toNat < Journal.unanswered key (n.marks c ++ j) := by
  by_cases hfailure : ∃ t, c = .heartbeatFailed key t ∧ n.IsCurrent key t
  · -- the failure of the current timer
    obtain ⟨t, rfl, hcurrent⟩ := hfailure
    obtain ⟨a, hget⟩ := Option.isSome_iff_exists.mp hthere
    have hmarks : n.marks (.heartbeatFailed key t) = [.failed key t] := by
      obtain ⟨a, htimed⟩ := Node.isCurrent_iff.mp hcurrent
      simp [Node.marks, htimed]
    have hcounted := h.failure hget hcurrent
    dsimp only at hcounted
    show ((recordFailure key t).run n).2.associations.contains key = false ↔ _
    rw [hmarks]
    by_cases hmany : n.params.heartbeatRetries.toNat
        < Journal.unanswered key (.failed key t :: j)
    · rw [if_pos hmany] at hcounted
      have hgone : (n.associations.erase key).contains key = false := by
        unfold Table.contains
        rw [Table.get?_erase, if_pos rfl]
        rfl
      rw [hcounted.2]
      exact iff_of_true hgone ⟨t, rfl, hcurrent, hmany⟩
    · rw [if_neg hmany] at hcounted
      have hstays : (n.withAssociation key a.failedOnce).associations.contains key = true :=
        Option.isSome_iff_exists.mpr ⟨_, n.get?_withAssociation key a.failedOnce⟩
      rw [hcounted, hstays]
      refine iff_of_false (by simp) ?_
      rintro ⟨t', heq, -, hmany'⟩
      cases heq
      exact hmany hmany'
  · -- any other call
    have hstays : (n.call c).associations.contains key = true := by
      by_cases hany : ∃ k t, c = .heartbeatFailed k t
      · obtain ⟨k, t, rfl⟩ := hany
        show ((recordFailure k t).run n).2.associations.contains key = true
        by_cases hk : key = k
        · subst hk
          have hstale : ¬ n.IsCurrent key t := fun hcurrent => hfailure ⟨t, rfl, hcurrent⟩
          rw [recordFailure_run_none (Node.timedAssociation_eq_none hstale)]
          exact hthere
        · unfold Table.contains
          rw [(spares_recordFailure k t n).others key hk]
          exact hthere
      · exact contains_call hmessage (fun k t heq => hany ⟨k, t, heq⟩) hthere
    rw [hstays]
    exact iff_of_false (by simp) fun ⟨t, heq, hcurrent, _⟩ => hfailure ⟨t, heq, hcurrent⟩

end Watched

namespace Node

/-- No call changes the settings. -/
theorem params_call (n : Node) (c : Call) : (n.call c).params = n.params := by
  cases c with
  | message src cut => exact (spares_treatCut src cut n).params
  | heartbeatDue key t =>
    show ((nextHeartbeat key t).run n).2.params = n.params
    cases htimed : timedAssociation n key t with
    | none => rw [nextHeartbeat_run_none htimed]
    | some a => rw [nextHeartbeat_run_some htimed]; rfl
  | heartbeatFailed key t => exact (spares_recordFailure key t n).params
  | rearmed key wait after => rfl
  | refresh =>
    show (refreshTimers.run n).2.params = n.params
    rw [refreshTimers_run]
    generalize n.untimed = keys
    induction keys generalizing n with
    | nil => rfl
    | cons k keys ih => exact (ih _).trans (spares_scheduleHeartbeat k n).params
  | elapsed span => rfl

theorem params_calls (n : Node) (cs : List Call) : (n.calls cs).params = n.params := by
  induction cs generalizing n with
  | nil => rfl
  | cons c cs ih => exact (ih (n.call c)).trans (params_call n c)

/-- **No heartbeat expires that should not.**  Whatever is done to a node that
was started, and in whatever order, its timers and counts are as they should be
as long as timers can be numbered. -/
theorem heartbeats_vigilant {c : Config} {startup : Int} {heartbeats : Bool} {n : Node}
    (hstart : Node.start c startup heartbeats = .ok n) (cs : List Call)
    (hretries : n.params.heartbeatRetries.toNat < 4294967295)
    (hstarts : (Journal.timers (n.journal cs)).length < 18446744073709551616) :
    Vigilant (n.calls cs) (n.journal cs) := by
  have hwatched : Watched (n.calls cs) (n.journal cs) := (Watched.start hstart hretries).calls cs
  have hnodup : (Journal.timers (n.journal cs)).Nodup := by
    rw [hwatched.timers]
    exact Journal.nodup_countdown hstarts
  exact {
    never_reused := hnodup
    one_timer := fun key t t' h h' => Option.some.inj
      ((hwatched.current_of_isCurrent h).symm.trans (hwatched.current_of_isCurrent h'))
    one_association := fun key key' t h h' => Journal.key_unique hnodup
      (Journal.started_of_current (hwatched.current_of_isCurrent h))
      (Journal.started_of_current (hwatched.current_of_isCurrent h'))
    started_last := fun key t hthere => by
      obtain ⟨a, hget⟩ := Option.isSome_iff_exists.mp hthere
      exact hwatched.isCurrent_iff hget
    stale_request := fun key t h => nextHeartbeat_run_none (timedAssociation_eq_none h)
    stale_failure := fun key t h => recordFailure_run_none (timedAssociation_eq_none h)
    failures := fun key a hget => hwatched.failures hget
    in_range := fun key a hget => by
      have hbounded := hwatched.bounded key a hget
      rw [params_calls] at hbounded
      rw [hwatched.failures hget]
      omega
    failure := fun key a t hget hcurrent => hwatched.failure hget hcurrent
    ended := fun call hmessage key hthere => hwatched.ended call hmessage hthere }

/-- The node that starts with the settings that hold if none are given, and watches its
peers. -/
def watching : Node := { standard with heartbeats := true }

/-- A peer has its timer replaced by a response; then the old timer wakes up. -/
def lateFailure : List Call :=
  [Event.setup, .refresh, .heartbeatFailed "10.0.0.1" 1,
    .datagram ((Message.heartbeatResponse ⟨⟨1⟩⟩).encode 1 none) Event.peer,
    .heartbeatFailed "10.0.0.1" 1].flatMap Event.calls

/-- The run in which a timer wakes up late. -/
theorem lateFailure_vigilant :
    Node.start {} 0 true = .ok watching
      ∧ watching.params.heartbeatRetries.toNat < 4294967295
      ∧ (Journal.timers (watching.journal lateFailure)).length < 18446744073709551616
      ∧ Vigilant (watching.calls lateFailure) (watching.journal lateFailure) := by
  have hstart : Node.start {} 0 true = .ok watching := by decide +kernel
  have hretries : watching.params.heartbeatRetries.toNat < 4294967295 := by decide +kernel
  have hstarts : (Journal.timers (watching.journal lateFailure)).length
      < 18446744073709551616 := by decide +kernel
  exact ⟨hstart, hretries, hstarts, heartbeats_vigilant hstart lateFailure hretries hstarts⟩

/-- The late failure does not count: the second timer is the current one. -/
example : watching.journal lateFailure =
    [.started "10.0.0.1" 2, .answered "10.0.0.1", .failed "10.0.0.1" 1,
      .started "10.0.0.1" 1, .created "10.0.0.1"] := by decide +kernel

end Node

end UserPlane
