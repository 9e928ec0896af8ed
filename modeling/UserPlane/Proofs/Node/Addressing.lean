/-
  UserPlane.Proofs.Node.Addressing
  ────────────────────────────────
  **ANSWERS GO TO THE NUMBER BY WHICH THE PEER KNOWS THE SESSION.**

  A peer tells its number for a session when it asks for the session, and may tell
  another whenever it asks for changes, also in vain.  What was told is heard along
  a run from the messages alone (`Node.heard`).  The session has the number that was
  told last (`Current`), and every answer about it goes there.

      Node.hear             what is heard from one more message
      Node.Current          every session has the number that was told last
      current_calls         … in every node that can be reached
      answers_addressed     to which numbers answers go
-/
import UserPlane.Proofs.Node.Admission
import UserPlane.Proofs.Node.Tenure

namespace UserPlane

/-! ## §1. What peers tell. -/

theorem FSeid.seid_ofIp (ip : Ip) (seid : UInt64) : (FSeid.ofIp ip seid).seid = seid := by
  cases ip <;> rfl

/-- The number under which an answer says that a session was established. -/
def Reply.upFSeid? (r : Reply) : Option FSeid :=
  match r.message with
  | .sessionEstablishmentResponse m => m.upFSeid
  | _ => none

/-- It can be read off the answer. -/
theorem seid_of_response_eq {p p' : Parameters} {cause cause' : Cause} {f : FSeid} {ip : Ip}
    {seid told told' : UInt64} {created created' : List CreatedPdr}
    (h : establishmentResponse p cause (some f) created told
      = establishmentResponse p' cause' (some (.ofIp ip seid)) created' told') :
    f.seid = seid := by
  obtain rfl : f = .ofIp ip seid := Option.some.inj (congrArg Reply.upFSeid? h)
  exact FSeid.seid_ofIp _ _

/-- What was told about sessions, with something else for one of them: by the key
of its association and its number. -/
def retold (heard : String → UInt64 → List FSeid) (key : String) (seid : UInt64)
    (fs : List FSeid) : String → UInt64 → List FSeid :=
  fun k i => if k = key ∧ i = seid then fs else heard k i

section

variable (heard : String → UInt64 → List FSeid) (key : String) (seid : UInt64) (fs : List FSeid)

theorem retold_self : retold heard key seid fs key seid = fs := if_pos ⟨rfl, rfl⟩

theorem retold_of_ne {k : String} {i : UInt64} (hne : ¬ (k = key ∧ i = seid)) :
    retold heard key seid fs k i = heard k i := if_neg hne

end

namespace Node

/-- What was told about sessions after one more call.  A session that was established
begins with what the request told, and a request for changes may tell more. -/
def hear (n : Node) (heard : String → UInt64 → List FSeid) :
    Call → String → UInt64 → List FSeid
  | .message src cut =>
    let key := associationKey src
    match Message.decode cut.header.type cut.body with
    | .ok (.sessionEstablishmentRequest m) =>
      match (n.answer? src cut).bind Reply.upFSeid? with
      | some up => retold heard key up.seid m.cpFSeid.toList
      | none => heard
    | .ok (.sessionModificationRequest m) =>
      let seid := cut.header.seid.getD 0
      retold heard key seid (heard key seid ++ m.cpFSeid.toList)
    | _ => heard
  | _ => heard

/-- What was told about sessions after calls, and before them. -/
def heardFrom (n : Node) (heard : String → UInt64 → List FSeid) :
    List Call → String → UInt64 → List FSeid
  | [] => heard
  | c :: cs => (n.call c).heardFrom (n.hear heard c) cs

/-- The numbers that peers told for their sessions, in order. -/
def heard (n : Node) (cs : List Call) : String → UInt64 → List FSeid :=
  n.heardFrom (fun _ _ => []) cs

section

variable {cut : Header.Cut}

/-- A message that cannot be read tells nothing, … -/
theorem hear_of_error (n : Node) (heard : String → UInt64 → List FSeid) (src : SocketAddress)
    {e : WireFault} (hdecode : Message.decode cut.header.type cut.body = .error e) :
    n.hear heard (.message src cut) = heard := by
  unfold hear
  dsimp only
  rw [hdecode]

/-- … a request for changes tells what it says of the session, … -/
theorem hear_of_modification (n : Node) (heard : String → UInt64 → List FSeid)
    (src : SocketAddress) {m : SessionModificationRequest}
    (hdecode : Message.decode cut.header.type cut.body = .ok (.sessionModificationRequest m)) :
    n.hear heard (.message src cut)
      = retold heard (associationKey src) (cut.header.seid.getD 0)
        (heard (associationKey src) (cut.header.seid.getD 0) ++ m.cpFSeid.toList) := by
  unfold hear
  dsimp only
  rw [hdecode]

/-- … and what asks for no session and no changes tells nothing. -/
theorem hear_of_other (n : Node) (heard : String → UInt64 → List FSeid) (src : SocketAddress)
    {m : Message} (hdecode : Message.decode cut.header.type cut.body = .ok m)
    (hestablishment : ∀ r, m ≠ .sessionEstablishmentRequest r)
    (hmodification : ∀ r, m ≠ .sessionModificationRequest r) :
    n.hear heard (.message src cut) = heard := by
  unfold hear
  dsimp only
  rw [hdecode]
  cases m with
  | sessionEstablishmentRequest m => exact absurd rfl (hestablishment m)
  | sessionModificationRequest m => exact absurd rfl (hmodification m)
  | _ => rfl

end

theorem heard_concat (n : Node) (cs : List Call) (c : Call) :
    n.heard (cs ++ [c]) = (n.calls cs).hear (n.heard cs) c := by
  unfold heard
  generalize (fun (_ : String) (_ : UInt64) => ([] : List FSeid)) = told
  induction cs generalizing n told with
  | nil => rfl
  | cons c' cs ih => exact ih (n.call c') (n.hear told c')

/-- A session that has the number that was told last has it still after it was told
another, or none. -/
theorem told_renumbered {s : Session} {fs : List FSeid}
    (h : fs.getLast?.map FSeid.seid = some s.remoteSeid) (cp : Option FSeid) :
    (fs ++ cp.toList).getLast?.map FSeid.seid = some (s.renumbered cp).remoteSeid := by
  cases cp with
  | none =>
    rw [Option.toList_none, List.append_nil]
    exact h
  | some f =>
    rw [Option.toList_some, List.getLast?_concat]
    rfl

/-! ## §2. To which numbers answers go. -/

section

variable (n : Node) (src : SocketAddress) {cut : Header.Cut}

/-- An answer to an establishment goes to the number in the request, and reports a
number here if and only if it accepts. -/
theorem establishment_addressed {m : SessionEstablishmentRequest}
    (hdecode : Message.decode cut.header.type cut.body = .ok (.sessionEstablishmentRequest m)) :
    ∃ cause up created, n.answer? src cut
        = some (establishmentResponse n.params cause up created
          ((m.cpFSeid.map FSeid.seid).getD 0))
      ∧ (up.isSome = true ↔ cause = .requestAccepted) := by
  obtain ⟨metrics, hanswer⟩ := answer_of_handler n src hdecode rfl
  rw [hanswer]
  unfold handleSessionEstablishment
  dsimp only
  rw [run_get_bind]
  cases hid : m.nodeId with
  | none => cases m.cpFSeid <;> exact ⟨_, none, [], rfl, iff_of_false nofun nofun⟩
  | some id =>
    cases hcp : m.cpFSeid with
    | none => exact ⟨_, none, [], rfl, iff_of_false nofun nofun⟩
    | some cp =>
      dsimp only
      cases ({ n with metrics } : Node).associationWith src with
      | none => exact ⟨_, none, [], rfl, iff_of_false nofun nofun⟩
      | some a =>
        dsimp only
        rw [run_bind, establish_run]
        dsimp only
        split
        · next e b _ => exact ⟨e.cause, none, [], rfl, iff_of_false nofun e.cause_ne_accepted⟩
        · next b _ => exact ⟨_, some _, b.created, rfl, iff_of_true rfl rfl⟩

/-- What is carried out on a session leaves the peer's number alone. -/
theorem remoteSeid_carryOut (n : Node) (s : Session) (ops : List RuleOp) :
    ((n.bench s).carryOut ops).2.session.remoteSeid = s.remoteSeid :=
  congrArg (·.2.1) ((n.bench s).carryOut_keeps RuleOp.keeps_fixed ops)

/-- An answer to a request for changes goes to the number that the session has with
the request, whether they are made or not, and to number zero if there is no
session. -/
theorem modification_addressed {m : SessionModificationRequest}
    (hdecode : Message.decode cut.header.type cut.body = .ok (.sessionModificationRequest m)) :
    (∀ s, n.live (associationKey src) (cut.header.seid.getD 0) = some s → ∃ cause created,
      n.answer? src cut
        = some (modificationResponse cause created (s.renumbered m.cpFSeid).remoteSeid))
    ∧ (n.live (associationKey src) (cut.header.seid.getD 0) = none → ∃ cause, Unknown cause
      ∧ n.answer? src cut = some (modificationResponse cause [] 0)) := by
  obtain ⟨metrics, hanswer⟩ := answer_of_handler n src hdecode rfl
  rw [hanswer]
  rcases handleSessionModification_cases cut.header src { n with metrics } m with
    ⟨cause, hunknown, hnone, hrun⟩ | ⟨a, s, ha, hs, hrun⟩
  · refine ⟨fun s hs => ?_, fun _ => ⟨cause, hunknown, by rw [hrun]⟩⟩
    cases hs.symm.trans hnone
  · have hlive : n.live (associationKey src) (cut.header.seid.getD 0) = some s := by
      rw [live_associationKey, show n.associationWith src = some a from ha]
      exact hs
    refine ⟨fun s' hs' => ?_, fun hnone => ?_⟩
    · cases hlive.symm.trans hs'
      rw [hrun, modifySession_run]
      have hremote := remoteSeid_carryOut { n with metrics } (s.renumbered m.cpFSeid) m.ops
      dsimp only
      split
      · next e _ => exact ⟨e.cause, [], by rw [hremote]⟩
      · exact ⟨.requestAccepted, _, by rw [hremote]⟩
    · cases hlive.symm.trans hnone

/-- An answer to a request for the deletion of a session goes to the number that the
session had, and to number zero if there is no session. -/
theorem deletion_addressed {m : SessionDeletionRequest}
    (hdecode : Message.decode cut.header.type cut.body = .ok (.sessionDeletionRequest m)) :
    (∀ s, n.live (associationKey src) (cut.header.seid.getD 0) = some s → ∃ cause,
      n.answer? src cut = some (deletionResponse cause s.remoteSeid))
    ∧ (n.live (associationKey src) (cut.header.seid.getD 0) = none → ∃ cause, Unknown cause
      ∧ n.answer? src cut = some (deletionResponse cause 0)) := by
  obtain ⟨metrics, hanswer⟩ := answer_of_handler n src hdecode rfl
  rw [hanswer]
  rcases handleSessionDeletion_cases cut.header src { n with metrics } m with
    ⟨cause, hunknown, hnone, hrun⟩ | ⟨a, s, ha, hs, hrun⟩
  · refine ⟨fun s hs => ?_, fun _ => ⟨cause, hunknown, by rw [hrun]⟩⟩
    cases hs.symm.trans hnone
  · have hlive : n.live (associationKey src) (cut.header.seid.getD 0) = some s := by
      rw [live_associationKey, show n.associationWith src = some a from ha]
      exact hs
    refine ⟨fun s' hs' => ?_, fun hnone => ?_⟩
    · cases hlive.symm.trans hs'
      rw [hrun]
      unfold deleteSession
      rw [run_modify_bind, run_get_bind]
      dsimp only
      rw [run_set_bind]
      -- a failure on the way down shows in the cause
      split
      · exact ⟨_, rfl⟩
      · exact ⟨_, rfl⟩
    · cases hlive.symm.trans hnone

end

end Node

/-! ## §3. Sessions have the number that was told last. -/

/-- An entry that neither makes a session nor changes one. -/
def Entry.isQuiet : Entry → Bool
  | .tried _ _ _ | .modified _ _ _ _ => false
  | _ => true

/-- Only requests for sessions and for changes of sessions make or change sessions. -/
theorem Message.isQuiet_of_mem_entries {h : Header} {m : Message} {src : SocketAddress} {e : Entry}
    (hestablishment : ∀ r, m ≠ .sessionEstablishmentRequest r)
    (hmodification : ∀ r, m ≠ .sessionModificationRequest r) (he : e ∈ m.entries h src) :
    e.isQuiet = true := by
  unfold entries at he
  cases m with
  | associationSetupRequest m =>
    dsimp only at he
    split at he
    · rcases List.mem_pair.mp he with rfl | rfl <;> rfl
    · cases he
  | associationSetupResponse m =>
    dsimp only at he
    split at he
    · rw [List.mem_singleton.mp he]
      rfl
    · cases he
  | associationReleaseRequest m =>
    dsimp only at he
    split at he
    · rw [List.mem_singleton.mp he]
      rfl
    · cases he
  | sessionDeletionRequest m =>
    rw [List.mem_singleton.mp he]
    rfl
  | sessionEstablishmentRequest m => exact absurd rfl (hestablishment m)
  | sessionModificationRequest m => exact absurd rfl (hmodification m)
  | _ => cases he

/-- Who is live after entries that make and change no session was live before. -/
theorem Ledger.live_of_quiet {entries : List Entry} (hquiet : ∀ e ∈ entries, e.isQuiet = true)
    {l : Ledger} {key : String} {seid : UInt64} {s : Session}
    (hlive : (entries.foldl enter l).live key seid = some s) : l.live key seid = some s := by
  induction entries generalizing l with
  | nil => exact hlive
  | cons e entries ih =>
    have hbehind := ih (fun e he => hquiet e (List.mem_cons_of_mem _ he)) hlive
    have hfirst := hquiet e List.mem_cons_self
    unfold enter at hbehind
    cases e with
    | opened key₁ =>
      dsimp only at hbehind
      split at hbehind
      · exact hbehind
      · exact live_of_opened rfl hbehind
    | closed key₁ =>
      dsimp only at hbehind
      split at hbehind
      · exact live_of_erase (desks_close _ _ _) hbehind
      · exact hbehind
    | deleted key₁ seid₁ =>
      dsimp only at hbehind
      split at hbehind
      · next d hdesk =>
        split at hbehind
        · exact live_of_kept hdesk _ rfl hbehind fun _ _ hget => (Table.get?_of_erase hget).2
        · exact hbehind
      · exact hbehind
    | tried key₁ remoteSeid ops => cases hfirst
    | modified key₁ seid₁ cp ops => cases hfirst

/-- Who is live after an establishment was live before, or is the new session. -/
theorem Ledger.live_of_tried {l : Ledger} {key key₁ : String} {seid remoteSeid : UInt64}
    {ops : List RuleOp} {s : Session}
    (hlive : (l.enter (.tried key₁ remoteSeid ops)).live key seid = some s) :
    l.live key seid = some s
    ∨ ∃ d b, l.desks.get? key₁ = some d
      ∧ (l.bench (l.newcomer d remoteSeid)).carryOut ops = (.ok (), b)
      ∧ key = key₁ ∧ seid = d.nextSessionId := by
  unfold enter at hlive
  dsimp only at hlive
  split at hlive
  · next d hdesk =>
    unfold attempt at hlive
    dsimp only at hlive
    split at hlive
    · exact .inl (live_of_kept hdesk d.advanced rfl hlive fun _ _ hget => hget)
    · next b hwork =>
      have hseid := l.localSeid_carryOut (l.newcomer d remoteSeid) ops
      rw [hwork] at hseid
      rcases live_of_filed hdesk d.advanced rfl rfl hlive with ⟨hkey, hnumber, -⟩ | ⟨-, hbefore⟩
      · exact .inr ⟨d, b, hdesk, hwork, hkey, hnumber.trans hseid⟩
      · exact .inl hbefore
  · exact .inl hlive

/-- Who is live after a request for changes was live before, or is the session as it
was changed. -/
theorem Ledger.live_of_modified {l : Ledger} (hfiled : l.Filed) {key key₁ : String}
    {seid seid₁ : UInt64} {cp : Option FSeid} {ops : List RuleOp} {s : Session}
    (hlive : (l.enter (.modified key₁ seid₁ cp ops)).live key seid = some s) :
    ¬ (key = key₁ ∧ seid = seid₁) ∧ l.live key seid = some s
    ∨ ∃ s₀, key = key₁ ∧ seid = seid₁ ∧ l.live key₁ seid₁ = some s₀
      ∧ s = ((l.bench (s₀.renumbered cp)).carryOut ops).2.session := by
  -- where nobody is found nothing changes, and nobody is there afterwards
  have hnobody (hnone : l.live key₁ seid₁ = none) (hsome : l.live key seid = some s) :
      ¬ (key = key₁ ∧ seid = seid₁) := by
    rintro ⟨rfl, rfl⟩
    cases hnone.symm.trans hsome
  unfold enter at hlive
  dsimp only at hlive
  split at hlive
  · next d hdesk =>
    split at hlive
    · next s₀ hsession =>
      have hseid := hfiled.localSeid_modified (live_of_desk hdesk hsession) cp ops
      rcases live_of_filed hdesk d rfl rfl hlive with ⟨hkey, hnumber, heq⟩ | ⟨hne, hbefore⟩
      · exact .inr ⟨s₀, hkey, hnumber.trans hseid, live_of_desk hdesk hsession, heq⟩
      · rw [hseid] at hne
        exact .inl ⟨hne, hbefore⟩
    · next hsession =>
      exact .inl ⟨hnobody (by rw [live, hdesk]; exact hsession) hlive, hlive⟩
  · next hdesk => exact .inl ⟨hnobody (by rw [live, hdesk]; rfl) hlive, hlive⟩

namespace Node

/-- Who is live after an establishment was live before, or is the session that was
asked for. -/
theorem live_of_establishment {n : Node} {src : SocketAddress} {cut : Header.Cut}
    {m : SessionEstablishmentRequest} {key : String} {seid : UInt64} {s : Session}
    (hdecode : Message.decode cut.header.type cut.body = .ok (.sessionEstablishmentRequest m))
    (hs : (n.call (.message src cut)).live key seid = some s) :
    n.live key seid = some s
    ∨ ∃ id cp a b, m.nodeId = some id ∧ m.cpFSeid = some cp ∧ n.associationWith src = some a
      ∧ (n.bench (n.newcomer a cp.seid)).carryOut m.ops = (.ok (), b)
      ∧ key = associationKey src ∧ seid = a.nextSessionId := by
  rw [← live_ledger, ledger_call, callEntries_of_ok n src hdecode] at hs
  unfold Message.entries at hs
  dsimp only at hs
  split at hs
  · next id cp hid hcp =>
    rcases Ledger.live_of_tried hs with hbefore | ⟨d, b, hdesk, hwork, hkey, hseid⟩
    · exact .inl (live_ledger n key seid ▸ hbefore)
    · rw [get?_desks] at hdesk
      obtain ⟨a, ha, rfl⟩ := Option.map_eq_some_iff.mp hdesk
      exact .inr ⟨id, cp, a, b, hid, hcp, ha, hwork, hkey, hseid⟩
  · exact .inl (live_ledger n key seid ▸ hs)

/-- Every session has the number that was told last. -/
def Current (n : Node) (heard : String → UInt64 → List FSeid) : Prop :=
  ∀ key seid s, n.live key seid = some s →
    (heard key seid).getLast?.map FSeid.seid = some s.remoteSeid

namespace Current

variable {n : Node} {heard : String → UInt64 → List FSeid} {src : SocketAddress}
  {cut : Header.Cut}

/-- A call that makes and changes no session, and tells nothing. -/
theorem quiet (h : n.Current heard) {c : Call}
    (hquiet : ∀ e ∈ n.callEntries c, e.isQuiet = true) : (n.call c).Current heard := by
  intro key seid s hs
  rw [← live_ledger, ledger_call] at hs
  have hbefore := Ledger.live_of_quiet hquiet hs
  rw [live_ledger] at hbefore
  exact h key seid s hbefore

/-- After an establishment the new session has the number in the request. -/
theorem established (h : n.Current heard) {m : SessionEstablishmentRequest}
    (hdecode : Message.decode cut.header.type cut.body = .ok (.sessionEstablishmentRequest m)) :
    (n.call (.message src cut)).Current (n.hear heard (.message src cut)) := by
  intro key seid s hs
  obtain ⟨cause, up, created, hanswer, hup⟩ := establishment_addressed n src hdecode
  have hreported : (n.answer? src cut).bind Reply.upFSeid? = up := by
    rw [hanswer]
    rfl
  unfold hear
  simp only [hdecode, hreported]
  have hcases := live_of_establishment hdecode hs
  cases up with
  | none =>
    -- it was not accepted, so that there is no new session
    rcases hcases with hbefore | ⟨id, cp, a, b, hid, hcp, ha, hwork, -⟩
    · exact h key seid s hbefore
    · obtain ⟨r, hr, hiff⟩ := establishment_answer hdecode (by rw [hid]; rfl) hcp ha
      cases hanswer.symm.trans hr
      have hcause := hiff.mpr (by rw [hwork])
      exact absurd (hup.mpr (Option.some.inj hcause)) nofun
  | some f =>
    have hcause := hup.mp rfl
    obtain ⟨a, cp, b, ha, -, hcp, hwork, hr, hhas⟩ :=
      established_of_accepted hdecode hanswer (congrArg some hcause)
    dsimp only
    rw [seid_of_response_eq hr]
    by_cases hplace : key = associationKey src ∧ seid = a.nextSessionId
    · obtain ⟨rfl, rfl⟩ := hplace
      have hremote := remoteSeid_carryOut n (n.newcomer a cp.seid) m.ops
      rw [hwork] at hremote
      cases hhas.session.symm.trans hs
      rw [retold_self, hcp, hremote]
      rfl
    · rw [retold_of_ne _ _ _ _ hplace]
      rcases hcases with hbefore | ⟨-, -, a', -, -, -, ha', -, hkey, hseid⟩
      · exact h key seid s hbefore
      · cases ha.symm.trans ha'
        exact absurd ⟨hkey, hseid⟩ hplace

/-- After a request for changes the session has the number in the request, or the
number that it had if there is none. -/
theorem modified (h : n.Current heard) (hfiled : n.ledger.Filed) {m : SessionModificationRequest}
    (hdecode : Message.decode cut.header.type cut.body = .ok (.sessionModificationRequest m)) :
    (n.call (.message src cut)).Current (n.hear heard (.message src cut)) := by
  intro key seid s hs
  rw [hear_of_modification n heard src hdecode]
  rw [← live_ledger, ledger_call, callEntries_of_ok n src hdecode] at hs
  rcases Ledger.live_of_modified hfiled hs with ⟨hne, hbefore⟩ | ⟨s₀, rfl, rfl, hbefore, rfl⟩
  · rw [retold_of_ne _ _ _ _ hne]
    exact h key seid s (live_ledger n key seid ▸ hbefore)
  · have hbefore := h _ _ s₀ (live_ledger n _ _ ▸ hbefore)
    have hremote := remoteSeid_carryOut n (s₀.renumbered m.cpFSeid) m.ops
    show Option.map _ _
      = some ((n.bench (s₀.renumbered m.cpFSeid)).carryOut m.ops).2.session.remoteSeid
    rw [retold_self, hremote]
    exact told_renumbered hbefore m.cpFSeid

/-- **After every call** every session has the number that was told last. -/
theorem call (h : n.Current heard) (hfiled : n.ledger.Filed) (c : Call) :
    (n.call c).Current (n.hear heard c) := by
  cases c with
  | message src cut =>
    cases hdecode : Message.decode cut.header.type cut.body with
    | error e =>
      rw [hear_of_error n heard src hdecode]
      refine h.quiet fun e he => ?_
      rw [callEntries_of_error n src hdecode] at he
      cases he
    | ok m =>
      by_cases hestablishment : ∃ r, m = .sessionEstablishmentRequest r
      · obtain ⟨r, rfl⟩ := hestablishment
        exact h.established hdecode
      by_cases hmodification : ∃ r, m = .sessionModificationRequest r
      · obtain ⟨r, rfl⟩ := hmodification
        exact h.modified hfiled hdecode
      rw [not_exists] at hestablishment hmodification
      rw [hear_of_other n heard src hdecode hestablishment hmodification]
      refine h.quiet fun e he => ?_
      rw [callEntries_of_ok n src hdecode] at he
      exact Message.isQuiet_of_mem_entries hestablishment hmodification he
  | heartbeatFailed key timer =>
    refine h.quiet fun e he => ?_
    unfold callEntries failureEntries at he
    dsimp only at he
    split at he
    · split at he
      · rw [List.mem_singleton.mp he]
        rfl
      · cases he
    · cases he
  | _ => exact h.quiet nofun

/-- With a request for changes the session's number is told last, … -/
theorem told_changed (h : n.Current heard) {m : SessionModificationRequest} {s : Session}
    (hdecode : Message.decode cut.header.type cut.body = .ok (.sessionModificationRequest m))
    (hs : n.live (associationKey src) (cut.header.seid.getD 0) = some s) :
    ∃ cp, (n.hear heard (.message src cut) (associationKey src)
        (cut.header.seid.getD 0)).getLast? = some cp
      ∧ cp.seid = (s.renumbered m.cpFSeid).remoteSeid := by
  rw [hear_of_modification n heard src hdecode, retold_self]
  exact Option.map_eq_some_iff.mp (told_renumbered (h _ _ s hs) m.cpFSeid)

/-- … and with a request for its deletion it is still the last. -/
theorem told_deleted (h : n.Current heard) {m : SessionDeletionRequest} {s : Session}
    (hdecode : Message.decode cut.header.type cut.body = .ok (.sessionDeletionRequest m))
    (hs : n.live (associationKey src) (cut.header.seid.getD 0) = some s) :
    ∃ cp, (n.hear heard (.message src cut) (associationKey src)
        (cut.header.seid.getD 0)).getLast? = some cp ∧ cp.seid = s.remoteSeid := by
  rw [hear_of_other n heard src hdecode (fun _ => nofun) (fun _ => nofun)]
  exact Option.map_eq_some_iff.mp (h _ _ s hs)

end Current

variable {c : Config} {startup : Int} {heartbeats : Bool} {n : Node}

/-- **In every node that can be reached** every session has the number that its peer
told last. -/
theorem current_calls (hstart : Node.start c startup heartbeats = .ok n) (cs : List Call) :
    (n.calls cs).Current (n.heard cs) := by
  induction cs using List.reverseRecOn with
  | nil =>
    intro key seid s hs
    rw [← live_ledger] at hs
    have hdesks : (n.calls []).ledger.desks = .empty := desks_start hstart
    rw [Ledger.live, hdesks] at hs
    cases hs
  | append_singleton cs call ih =>
    have hfiled := (callBooks_traced hstart cs).1.filed
    rw [ledger_callBooks] at hfiled
    rw [calls_concat, heard_concat]
    exact ih.call hfiled call

/-! ## §4. All answers. -/

/-- **ANSWERS GO TO THE NUMBER BY WHICH THE PEER KNOWS THE SESSION.**  In every node
that can be reached, a request for changes or for the deletion of a session that is
there is answered, and the answer goes to the number that was told last: in the
request for the session or in a request for changes of it, the present one
included, whether the changes were made or not.  If the session is not there the
answer goes to number zero.  A request for a session is answered under the number
that it tells, accepted or not, and under zero if it tells none.

If it is accepted, and only then, the answer reports a number here.  As long as the
association stands and fewer than 2⁶⁴ establishments have been tried, the number
finds the new session until it is deleted, and nobody else; and the session, whose
key no other had, is found nowhere else. -/
theorem answers_addressed (hstart : Node.start c startup heartbeats = .ok n) (cs : List Call)
    (src : SocketAddress) (cut : Header.Cut) :
    let before := n.calls cs
    let after := n.calls (cs ++ [.message src cut])
    let key := associationKey src
    let seid := cut.header.seid.getD 0
    let told := n.heard (cs ++ [.message src cut]) key seid
    (∀ m, Message.decode cut.header.type cut.body = .ok (.sessionModificationRequest m) →
      (∀ s, before.live key seid = some s → ∃ cause created cp, told.getLast? = some cp
        ∧ before.answer? src cut = some (modificationResponse cause created cp.seid))
      ∧ (before.live key seid = none → ∃ cause, Unknown cause
        ∧ before.answer? src cut = some (modificationResponse cause [] 0)))
    ∧ (∀ m, Message.decode cut.header.type cut.body = .ok (.sessionDeletionRequest m) →
      (∀ s, before.live key seid = some s → ∃ cause cp, told.getLast? = some cp
        ∧ before.answer? src cut = some (deletionResponse cause cp.seid))
      ∧ (before.live key seid = none → ∃ cause, Unknown cause
        ∧ before.answer? src cut = some (deletionResponse cause 0)))
    ∧ ∀ m, Message.decode cut.header.type cut.body = .ok (.sessionEstablishmentRequest m) →
      ∃ cause up created, before.answer? src cut
          = some (establishmentResponse before.params cause up created
            ((m.cpFSeid.map FSeid.seid).getD 0))
        ∧ (up.isSome = true ↔ cause = .requestAccepted)
        ∧ ∀ f, up = some f → ∀ cs',
          (n.callHistory (cs ++ [.message src cut] ++ cs')).tried < UInt64.size →
          after.Stands key cs' →
            (∀ k i s, before.live k i = some s → s.resourceKey ≠ before.nextResourceKey)
            ∧ after.FoundUnder cs' key f.seid before.nextResourceKey := by
  intro before after key seid told
  have hcurrent : before.Current (n.heard cs) := current_calls hstart cs
  have htold : told = before.hear (n.heard cs) (.message src cut) key seid := by
    show n.heard (cs ++ [.message src cut]) key seid = _
    rw [heard_concat]
  refine ⟨fun m hdecode => ?_, fun m hdecode => ?_, fun m hdecode => ?_⟩
  · obtain ⟨hthere, hnobody⟩ := modification_addressed before src hdecode
    refine ⟨fun s hs => ?_, hnobody⟩
    obtain ⟨cause, created, hanswer⟩ := hthere s hs
    obtain ⟨cp, hcp, hseid⟩ := hcurrent.told_changed hdecode hs
    exact ⟨cause, created, cp, htold ▸ hcp, hseid ▸ hanswer⟩
  · obtain ⟨hthere, hnobody⟩ := deletion_addressed before src hdecode
    refine ⟨fun s hs => ?_, hnobody⟩
    obtain ⟨cause, hanswer⟩ := hthere s hs
    obtain ⟨cp, hcp, hseid⟩ := hcurrent.told_deleted hdecode hs
    exact ⟨cause, cp, htold ▸ hcp, hseid ▸ hanswer⟩
  · obtain ⟨cause, up, created, hanswer, hup⟩ := establishment_addressed before src hdecode
    refine ⟨cause, up, created, hanswer, hup, fun f hf cs' hfew hstands => ?_⟩
    subst hf
    have hcause := congrArg some (hup.mp rfl)
    obtain ⟨a, cp, b, ha, -, -, -, hr, -⟩ := established_of_accepted hdecode hanswer hcause
    have hfew₀ : (n.callHistory cs).tried < UInt64.size := by
      rw [callHistory, List.append_assoc, callBooks_append] at hfew
      exact Nat.lt_of_le_of_lt (tried_le_after _ _) hfew
    refine ⟨fun k i s' => key_ne_next hstart cs hfew₀, ?_⟩
    rw [seid_of_response_eq hr]
    exact found_of_accepted hstart cs hdecode hanswer hcause ha cs' hfew hstands

/-- Requests for sessions and for changes end no association and delete no session. -/
theorem stands_of_harmless (n : Node) (key : String) {cs : List Call}
    (hcalls : ∀ call ∈ cs, ∃ src cut m, call = .message src cut
      ∧ Message.decode cut.header.type cut.body = .ok m ∧ (m.type = 50 ∨ m.type = 52)) :
    n.Stands key cs ∧ ∀ seid, ∀ call ∈ cs, ¬ call.Deletes key seid := by
  constructor
  · rintro before call behind left rfl hends
    obtain ⟨src, cut, m, rfl, hdecode, htype⟩ := hcalls call (by simp)
    cases hends with
    | released _ hread _ =>
      cases hdecode.symm.trans hread
      rcases htype with htype | htype <;> cases htype
    | renewed _ hread _ =>
      cases hdecode.symm.trans hread
      rcases htype with htype | htype <;> cases htype
  · intro seid call hmem hdeletes
    obtain ⟨src, cut, m, rfl, hdecode, htype⟩ := hcalls call hmem
    cases hdeletes with
    | mk _ hread _ =>
      cases hdecode.symm.trans hread
      rcases htype with htype | htype <;> cases htype

open Event

/-- The peer has another number for its session, and asks in vain for changes of a
rule that the session does not have. -/
def renumbering : SessionModificationRequest where
  cpFSeid := some (.ofIp peer.ip 0xBEEF)
  updateFar := [{ farId := ⟨5⟩ }]

/-- What the peer asks for first. -/
def firstly : SessionEstablishmentRequest where
  nodeId := some (.ofIp peer.ip)
  cpFSeid := some (.ofIp peer.ip 1)
  createPdr := [{
    pdrId := ⟨1⟩
    pdi := { sourceInterface := .access, ueIpAddress := some { flags := 16 } }
    farId := some ⟨1⟩ }]
  createFar := [{ farId := ⟨1⟩, applyAction := ⟨2⟩ }]
  createQer := []

/-- It is one message, and accepted. -/
theorem first_message : ∃ cut r, first.calls = [.message peer cut]
    ∧ Message.decode cut.header.type cut.body = .ok (.sessionEstablishmentRequest firstly)
    ∧ (standard.calls ([setup].flatMap Event.calls)).answer? peer cut = some r
    ∧ r.message.cause? = some .requestAccepted := by
  have hcheck : (Header.walk ((Message.sessionEstablishmentRequest firstly).encode 2 (some 0))).map
      (fun cut => ((Message.decode cut.header.type cut.body).toOption,
        ((standard.calls ([setup].flatMap Event.calls)).answer? peer cut).bind
          (·.message.cause?)))
        = [(some (.sessionEstablishmentRequest firstly), some .requestAccepted)] := by
    decide +kernel
  exact answered_of_check hcheck

/-- A first session is found under its number through a request that fails and tells
another number, where the answers go from then on. -/
theorem answers_addressed_renumbered :
    let cs := [setup].flatMap Event.calls
    let changes : Header.Cut :=
      ⟨⟨0x21, 52, 0, some 1, 3, none⟩, (Message.sessionModificationRequest renumbering).body, []⟩
    let deletes : Header.Cut := ⟨⟨0x21, 54, 12, some 1, 4, none⟩, [], []⟩
    Node.start {} 0 false = .ok standard ∧ ∃ cut, first.calls = [.message peer cut]
      ∧ (∃ f created, (standard.calls cs).answer? peer cut = some (establishmentResponse
          (standard.calls cs).params .requestAccepted (some f) created 1)
        ∧ (standard.calls (cs ++ [.message peer cut])).FoundUnder [.message peer changes]
          "10.0.0.1" f.seid 1)
      ∧ (∃ cause created, (standard.calls (cs ++ [.message peer cut])).answer? peer changes
          = some (modificationResponse cause created 0xBEEF) ∧ cause ≠ .requestAccepted)
      ∧ ∃ cause, (standard.calls (cs ++ [.message peer cut] ++ [.message peer changes])).answer?
          peer deletes = some (deletionResponse cause 0xBEEF) := by
  intro cs changes deletes
  obtain ⟨cut, r, hcut, hdecode, hanswer, hcause⟩ := first_message
  have hcs : cs ++ [.message peer cut] = [setup, first].flatMap Event.calls := by
    simp only [cs, List.flatMap_cons, List.flatMap_nil, List.append_nil, hcut]
  have hchanges : Message.decode changes.header.type changes.body
      = .ok (.sessionModificationRequest renumbering) := by decide +kernel
  have hdeletes : Message.decode deletes.header.type deletes.body
      = .ok (.sessionDeletionRequest {}) := by decide +kernel
  refine ⟨start_standard, cut, hcut, ?_, ?_, ?_⟩
  · -- the establishment, and the changes behind it
    obtain ⟨cause, up, created, hr, hup, hfound⟩ :=
      (answers_addressed start_standard cs peer cut).2.2 firstly hdecode
    cases hanswer.symm.trans hr
    cases hcause
    obtain ⟨f, rfl⟩ := Option.isSome_iff_exists.mp (hup.mpr rfl)
    have hfew : (standard.callHistory (cs ++ [.message peer cut] ++ [.message peer changes])).tried
        < UInt64.size := by
      rw [hcs]
      decide +kernel
    have hharmless : ∀ call ∈ [Call.message peer changes], ∃ src cut m, call = .message src cut
        ∧ Message.decode cut.header.type cut.body = .ok m ∧ (m.type = 50 ∨ m.type = 52) :=
      fun call hmem => ⟨peer, changes, _, List.mem_singleton.mp hmem, hchanges, .inr rfl⟩
    have hstands := (stands_of_harmless (standard.calls (cs ++ [.message peer cut]))
      (associationKey peer) hharmless).1
    have hnew : (standard.calls cs).nextResourceKey = 1 := by decide +kernel
    have hfound := (hfound f rfl _ hfew hstands).2
    rw [hnew, associationKey_peer] at hfound
    exact ⟨f, created, hr, hfound⟩
  · have hlive : ((standard.calls ([setup, first].flatMap Event.calls)).live (associationKey peer)
        1).isSome = true := by decide +kernel
    have hlast : (standard.heard ([setup, first].flatMap Event.calls ++ [.message peer changes])
        (associationKey peer) 1).getLast? = some (.ofIp peer.ip 0xBEEF) := by decide +kernel
    have hrefused : ((standard.calls ([setup, first].flatMap Event.calls)).answer? peer
        changes).bind (·.message.cause?) ≠ some .requestAccepted := by decide +kernel
    obtain ⟨s, hs⟩ := Option.isSome_iff_exists.mp hlive
    rw [← hcs] at hs hlast hrefused
    obtain ⟨cause, created, cp, hcp, hr⟩ :=
      ((answers_addressed start_standard _ peer changes).1 _ hchanges).1 s hs
    cases hlast.symm.trans hcp
    rw [hr] at hrefused
    exact ⟨cause, created, hr, fun hcause => hrefused (congrArg some hcause)⟩
  · have hlive : ((standard.calls ([setup, first].flatMap Event.calls
        ++ [.message peer changes])).live (associationKey peer) 1).isSome = true := by
      decide +kernel
    have hlast : (standard.heard ([setup, first].flatMap Event.calls ++ [.message peer changes]
        ++ [.message peer deletes]) (associationKey peer) 1).getLast?
          = some (.ofIp peer.ip 0xBEEF) := by decide +kernel
    obtain ⟨s, hs⟩ := Option.isSome_iff_exists.mp hlive
    rw [← hcs] at hs hlast
    obtain ⟨cause, cp, hcp, hr⟩ :=
      ((answers_addressed start_standard _ peer deletes).2.1 _ hdeletes).1 s hs
    cases hlast.symm.trans hcp
    exact ⟨cause, hr⟩

/-- After a first session and rejected establishments that use up all other numbers,
the next session is filed in place of the first, under the key zero. -/
theorem live_wrapping : ∃ count s,
    (standard.books (wrapping count)).ledger.live "10.0.0.1" 1 = some s ∧ s.resourceKey = 0 := by
  obtain ⟨count, sessions, hworn⟩ := worn_spec
  have hbooks := books_wrapping count
  generalize (standard.books [setup, first]).after
    (List.replicate count (.tried "10.0.0.1" 1 [.createPdr blind])) = w at *
  obtain ⟨hdesk, -, -, -, hkey, -⟩ := hworn
  rw [enter_bare hdesk] at hbooks
  refine ⟨count, w.ledger.newcomer ⟨1, sessions⟩ 1, ?_, hkey⟩
  have hdesks : (w.ledger.attempt "10.0.0.1" ⟨1, sessions⟩ 1 []).desks
      = w.ledger.desks.insert "10.0.0.1" ((Desk.advanced ⟨1, sessions⟩).file
        (w.ledger.newcomer ⟨1, sessions⟩ 1)) := rfl
  rw [hbooks, Ledger.live_insert hdesks, if_pos rfl]
  show (sessions.insert 1 _).get? 1 = _
  rw [Table.get?_insert, if_pos rfl]

/-- **Once the numbers are used up, the number of a session finds another.**  The number
that was told when the first session was accepted finds a session with another key,
though the association stands and the session was not deleted. -/
theorem number_finds_another : Node.start {} 0 false = .ok standard ∧ ∃ cut r f cs',
    let cs := [setup].flatMap Event.calls
    let after := standard.calls (cs ++ [.message peer cut])
    first.calls = [.message peer cut] ∧ (standard.calls cs).answer? peer cut = some r
      ∧ r.upFSeid? = some f
      ∧ after.Stands "10.0.0.1" cs' ∧ (∀ call ∈ cs', ¬ call.Deletes "10.0.0.1" f.seid)
      ∧ ∃ s, (after.calls cs').live "10.0.0.1" f.seid = some s
        ∧ s.resourceKey ≠ (standard.calls cs).nextResourceKey := by
  obtain ⟨cut, r, hcut, hdecode, hanswer, hcause⟩ := first_message
  obtain ⟨cut₁, hblind, hdecode₁⟩ := blind_message
  obtain ⟨cut₂, hbare, hdecode₂⟩ := bare_request
  obtain ⟨count, s, hlive, hkey⟩ := live_wrapping
  -- the first session has number one
  obtain ⟨a, cp, b, ha, -, -, -, hr, -⟩ := established_of_accepted hdecode hanswer hcause
  have hnext : ((standard.calls ([setup].flatMap Event.calls)).associationWith peer).map
      (·.nextSessionId) = some 1 := by decide +kernel
  rw [ha] at hnext
  have hone : a.nextSessionId = 1 := Option.some.inj hnext
  have hnew : (standard.calls ([setup].flatMap Event.calls)).nextResourceKey = 1 := by
    decide +kernel
  have hharmless : ∀ call ∈ List.replicate count (Call.message peer cut₁)
      ++ [Call.message peer cut₂], ∃ src cut m, call = .message src cut
        ∧ Message.decode cut.header.type cut.body = .ok m ∧ (m.type = 50 ∨ m.type = 52) := by
    intro call hmem
    rcases List.mem_append.mp hmem with hmem | hmem
    · exact ⟨peer, cut₁, _, List.eq_of_mem_replicate hmem, hdecode₁, .inl rfl⟩
    · exact ⟨peer, cut₂, _, List.mem_singleton.mp hmem, hdecode₂, .inl rfl⟩
  obtain ⟨hstands, hkept⟩ := stands_of_harmless
    (standard.calls ([setup].flatMap Event.calls ++ [.message peer cut])) "10.0.0.1" hharmless
  have hcalls : (wrapping count).flatMap Event.calls
      = [setup].flatMap Event.calls ++ [.message peer cut]
        ++ (List.replicate count (.message peer cut₁) ++ [.message peer cut₂]) := by
    simp only [wrapping, List.flatMap_append, List.flatMap_cons, List.flatMap_nil,
      List.flatMap_replicate, hblind, hbare, hcut, List.append_nil, List.flatten_replicate_singleton,
      List.append_assoc]
  refine ⟨start_standard, cut, r, _, _, hcut, hanswer, by rw [hr]; rfl, hstands, hkept _, s, ?_, ?_⟩
  · rw [FSeid.seid_ofIp, hone, ← calls_append, ← hcalls, ← live_ledger, ← run_eq_calls,
      ← ledger_books]
    exact hlive
  · rw [hkey, hnew]
    decide

end Node

end UserPlane
