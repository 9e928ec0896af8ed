/-
  UserPlane.Proofs.Node.Tenure
  ────────────────────────────
  **A NUMBER STAYS WITH ITS SESSION.**

  The number that a new session is told to its peer by is its own.  As long as the
  association stands, the number finds the session until it is deleted, and finds
  nobody else; and the session is found nowhere else, whatever becomes of the
  association.  A session is known again by its key, which no other session has.

  There is the usual proviso: the numbers of an association, and the keys, are
  given out again once 2⁶⁴ establishments have been tried.

      Books.Taken              a number is taken by one session
      Books.Move.taken         every entry that leaves the association keeps it so
      Node.Stands              an association does not end
      Node.FoundUnder          a number finds one session and no other
      Node.found_of_accepted   what a peer is told when a session is accepted
-/
import UserPlane.Proofs.Node.Acceptance
import UserPlane.Proofs.Node.Endings
import UserPlane.Proofs.Node.Freshness
import UserPlane.Proofs.Node.Identities

namespace UserPlane

/-! ## §1. Numbers that are taken. -/

/-- A number of an association is taken by the session with a key: it was given
out, it finds nobody else, and the session is found nowhere else. -/
structure Books.Taken (w : Books) (key : String) (seid k : UInt64) : Prop where
  /-- The association stands, and is past the number as long as numbers last. -/
  passed : ∃ d, w.ledger.desks.get? key = some d
    ∧ (w.history.tried + 1 < UInt64.size → seid < d.nextSessionId)
  used : ∃ j < w.history.tried, k = UInt64.ofNat (1 + j)
  only : ∀ s, w.ledger.live key seid = some s → s.resourceKey = k
  alone : ∀ key' seid' s, w.ledger.live key' seid' = some s → s.resourceKey = k →
    key' = key ∧ seid' = seid

namespace Books

variable {w w' : Books} {key : String} {seid k : UInt64}

namespace Taken

/-- The key of the session is not given out again. -/
theorem ne_next (h : w.Taken key seid k) (hnumbered : w.Numbered)
    (hfew : w.history.tried < UInt64.size) : k ≠ w.ledger.nextResourceKey := by
  obtain ⟨j, hlt, rfl⟩ := h.used
  rw [hnumbered.next_key]
  exact ofNat_ne_of_lt hlt hfew

/-- The desk is still there where one was written that gives out later numbers. -/
theorem passed_insert (h : w.Taken key seid k) {key₁ : String} {d₁ d' : Desk}
    (hdesk : w.ledger.desks.get? key₁ = some d₁) {tried : Nat}
    (htried : w.history.tried ≤ tried)
    (hle : tried + 1 < UInt64.size → d₁.nextSessionId ≤ d'.nextSessionId) :
    ∃ d, (w.ledger.desks.insert key₁ d').get? key = some d
      ∧ (tried + 1 < UInt64.size → seid < d.nextSessionId) := by
  obtain ⟨d, hd, hpassed⟩ := h.passed
  rw [Table.get?_insert]
  split
  · next heq =>
    subst heq
    cases hd.symm.trans hdesk
    exact ⟨d', rfl, fun hfew => UInt64.lt_of_lt_of_le (hpassed (by omega)) (hle hfew)⟩
  · exact ⟨d, hd, fun hfew => hpassed (by omega)⟩

/-- Every session that is live was live before under its key, or has another key
than the session that took the number, and another place. -/
theorem of_live (h : w.Taken key seid k) (htried : w.history.tried ≤ w'.history.tried)
    (hpassed : ∃ d, w'.ledger.desks.get? key = some d
      ∧ (w'.history.tried + 1 < UInt64.size → seid < d.nextSessionId))
    (hlive : ∀ key' seid' s, w'.ledger.live key' seid' = some s →
      (∃ s₀, w.ledger.live key' seid' = some s₀ ∧ s.resourceKey = s₀.resourceKey)
      ∨ s.resourceKey ≠ k ∧ ¬ (key' = key ∧ seid' = seid)) :
    w'.Taken key seid k where
  passed := hpassed
  used := by
    obtain ⟨j, hlt, hk⟩ := h.used
    exact ⟨j, Nat.lt_of_lt_of_le hlt htried, hk⟩
  only s hs := by
    rcases hlive key seid s hs with ⟨s₀, hs₀, heq⟩ | ⟨-, hne⟩
    · exact heq.trans (h.only s₀ hs₀)
    · exact absurd ⟨rfl, rfl⟩ hne
  alone key' seid' s hs hk := by
    rcases hlive key' seid' s hs with ⟨s₀, hs₀, heq⟩ | ⟨hne, -⟩
    · exact h.alone key' seid' s₀ hs₀ (heq.symm.trans hk)
    · exact absurd hk hne

end Taken

/-- **A number that is taken stays taken** as long as the association is there. -/
theorem Move.taken (hmove : w.Move w') (hnumbered : w.Numbered)
    (hfew : w'.history.tried < UInt64.size)
    (hthere : (w'.ledger.desks.get? key).isSome = true) (h : w.Taken key seid k) :
    w'.Taken key seid k := by
  have htried := hmove.tried_le
  cases hmove with
  | idle => exact h
  | @opened key₁ hdesk =>
    refine h.of_live htried ?_ fun key' seid' s hs => .inl ⟨s, Ledger.live_of_opened rfl hs, rfl⟩
    -- the desk that is opened is another
    obtain ⟨d, hd, hpassed⟩ := h.passed
    refine ⟨d, ?_, hpassed⟩
    have hne : key ≠ key₁ := by
      rintro rfl
      cases hd.symm.trans hdesk
    show (w.ledger.desks.insert key₁ {}).get? key = some d
    rw [Table.get?_insert, if_neg hne, hd]
  | @closed key₁ d₁ hdesk =>
    have hdesks := Ledger.desks_close w.ledger key₁ d₁
    refine h.of_live htried ?_ fun key' seid' s hs => .inl ⟨s, Ledger.live_of_erase hdesks hs, rfl⟩
    -- the desk that is closed is another, as this one is there
    obtain ⟨d, hd, hpassed⟩ := h.passed
    refine ⟨d, ?_, hpassed⟩
    obtain ⟨d', hd'⟩ := Option.isSome_iff_exists.mp hthere
    dsimp only at hd' ⊢
    rw [hdesks] at hd' ⊢
    cases hd.symm.trans (Table.get?_of_erase hd').2
    exact hd'
  | @rejected key₁ d₁ remoteSeid ops e b hdesk hwork =>
    refine h.of_live htried (h.passed_insert hdesk htried fun hfew' => ?_)
      fun key' seid' s hs => .inl ⟨s, Ledger.live_of_kept hdesk (Desk.advanced _) rfl hs
        fun _ _ hget => hget, rfl⟩
    have hnext := (hnumbered.desks (Nat.lt_of_succ_lt hfew') key₁ d₁ hdesk).toNat_advanced hfew'
    rw [UInt64.le_iff_toNat_le, hnext]
    omega
  | @accepted key₁ d₁ remoteSeid ops b hdesk hwork =>
    have hseid := w.ledger.localSeid_carryOut (w.ledger.newcomer d₁ remoteSeid) ops
    have hkey := w.ledger.resourceKey_carryOut (w.ledger.newcomer d₁ remoteSeid) ops
    rw [hwork] at hseid hkey
    refine h.of_live htried (h.passed_insert hdesk htried fun hfew' => ?_)
      fun key' seid' s hs => ?_
    · have hnext := (hnumbered.desks (Nat.lt_of_succ_lt hfew') key₁ d₁ hdesk).toNat_advanced hfew'
      show d₁.nextSessionId ≤ d₁.advanced.nextSessionId
      rw [UInt64.le_iff_toNat_le, hnext]
      omega
    · rcases Ledger.live_of_filed hdesk (Desk.advanced _) rfl rfl hs with
        ⟨rfl, rfl, rfl⟩ | ⟨-, hbefore⟩
      · -- the new session has the next key, and a number that is past this one
        refine .inr ⟨fun heq => ?_, ?_⟩
        · exact h.ne_next hnumbered (Nat.lt_of_succ_lt hfew) (heq.symm.trans hkey)
        · rintro ⟨rfl, heq⟩
          obtain ⟨d, hd, hpassed⟩ := h.passed
          cases hd.symm.trans hdesk
          have hlt := hpassed hfew
          rw [← heq, hseid] at hlt
          exact UInt64.lt_irrefl _ hlt
      · exact .inl ⟨s, hbefore, rfl⟩
  | @modified key₁ d₁ seid₁ s₁ cp ops hdesk hsession =>
    refine h.of_live htried (h.passed_insert hdesk htried fun _ => UInt64.le_refl _)
      fun key' seid' s hs => ?_
    have hlive := Ledger.live_of_desk hdesk hsession
    have hseid := hnumbered.filed.localSeid_modified hlive cp ops
    rcases Ledger.live_of_filed hdesk _ rfl rfl hs with ⟨rfl, rfl, rfl⟩ | ⟨-, hbefore⟩
    · -- the session that is changed keeps its key
      refine .inl ⟨s₁, by rw [hseid]; exact hlive, ?_⟩
      exact (w.ledger.resourceKey_carryOut _ ops).trans (s₁.resourceKey_renumbered cp)
    · exact .inl ⟨s, hbefore, rfl⟩
  | @deleted key₁ d₁ seid₁ s₁ hdesk hsession =>
    exact h.of_live htried (h.passed_insert hdesk htried fun _ => UInt64.le_refl _)
      fun key' seid' s hs => .inl ⟨s, Ledger.live_of_kept hdesk _ rfl hs
        fun _ _ hget => (Table.get?_of_erase hget).2, rfl⟩

/-! ## §2. Associations and sessions that stay. -/

/-- A desk is there as long as it is not closed. -/
theorem desk_enter (w : Books) {e : Entry} (hclosed : e ≠ .closed key)
    (hthere : (w.ledger.desks.get? key).isSome = true) :
    ((w.enter e).ledger.desks.get? key).isSome = true := by
  -- a desk that is written is there
  have hwritten (key₁ : String) (d : Desk) :
      ((w.ledger.desks.insert key₁ d).get? key).isSome = true := by
    rw [Table.get?_insert]
    split
    · rfl
    · exact hthere
  unfold enter Ledger.enter
  cases e with
  | opened key₁ =>
    dsimp only
    split
    · exact hthere
    · exact hwritten _ _
  | closed key₁ =>
    have hne : key ≠ key₁ := fun heq => hclosed (congrArg Entry.closed heq.symm)
    dsimp only
    split
    · rw [Ledger.desks_close, Table.get?_erase, if_neg hne]
      exact hthere
    · exact hthere
  | tried key₁ remoteSeid ops =>
    dsimp only
    split
    · unfold Ledger.attempt
      dsimp only
      split <;> exact hwritten _ _
    · exact hthere
  | modified key₁ seid₁ cp ops =>
    dsimp only
    split
    · split
      · exact hwritten _ _
      · exact hthere
    · exact hthere
  | deleted key₁ seid₁ =>
    dsimp only
    split
    · split
      · exact hwritten _ _
      · exact hthere
    · exact hthere

/-- A session is live as long as it is not deleted and its desk is not closed. -/
theorem live_enter (hnumbered : w.Numbered) {e : Entry}
    (hfew : (w.enter e).history.tried < UInt64.size) (hclosed : e ≠ .closed key)
    (hdeleted : e ≠ .deleted key seid) (hlive : (w.ledger.live key seid).isSome = true) :
    ((w.enter e).ledger.live key seid).isSome = true := by
  obtain ⟨s, hs⟩ := Option.isSome_iff_exists.mp hlive
  by_cases htouched : e.Touches key seid
  · cases e with
    | opened key₁ => exact htouched.elim
    | tried key₁ remoteSeid ops => exact htouched.elim
    | closed key₁ => exact absurd (congrArg Entry.closed (Eq.symm htouched)) hclosed
    | deleted key₁ seid₁ =>
      obtain ⟨rfl, rfl⟩ := htouched
      exact absurd rfl hdeleted
    | modified key₁ seid₁ cp ops =>
      obtain ⟨rfl, rfl⟩ := htouched
      obtain ⟨d, hdesk, hsession⟩ := Option.bind_eq_some_iff.mp hs
      -- what was changed is filed where it was
      have hseid := hnumbered.filed.localSeid_modified hs cp ops
      have henter : w.ledger.enter (.modified key seid cp ops)
          = w.ledger.modify key d (s.renumbered cp) ops := by
        unfold Ledger.enter
        simp only [hdesk, hsession]
      show ((w.ledger.enter (.modified key seid cp ops)).live key seid).isSome = true
      rw [henter, Ledger.live_insert (l := w.ledger) rfl, if_pos rfl]
      show (Table.get? (d.sessions.insert _ _) seid).isSome = true
      rw [hseid, Table.get?_insert, if_pos rfl]
      rfl
  · rcases (apart_enter hnumbered e).standing key seid s hs htouched with hstands | hdisplaced
    · rw [hstands]
      rfl
    · -- before the numbers are used up nobody is displaced
      rw [((w.move_enter e).numbered hnumbered).displaced hfew] at hdisplaced
      cases hdisplaced

/-- **A number stays with its session** through entries that do not close the desk. -/
theorem taken_after (entries : List Entry) (hnumbered : w.Numbered)
    (hfew : (w.after entries).history.tried < UInt64.size) (hclosed : .closed key ∉ entries)
    (h : w.Taken key seid k) :
    (w.after entries).Taken key seid k
      ∧ (.deleted key seid ∉ entries → (w.ledger.live key seid).isSome = true →
        ((w.after entries).ledger.live key seid).isSome = true) := by
  induction entries generalizing w with
  | nil => exact ⟨h, fun _ hlive => hlive⟩
  | cons e entries ih =>
    have hmove := w.move_enter e
    have hfew' : (w.enter e).history.tried < UInt64.size :=
      Nat.lt_of_le_of_lt (Node.tried_le_after (w.enter e) entries) hfew
    rw [List.mem_cons, not_or] at hclosed
    obtain ⟨d, hd, -⟩ := h.passed
    have hthere := w.desk_enter (Ne.symm hclosed.1) (by rw [hd]; rfl)
    obtain ⟨htaken, hstays⟩ := ih (hmove.numbered hnumbered) hfew hclosed.2
      (hmove.taken hnumbered hfew' hthere h)
    refine ⟨htaken, fun hdeleted hlive => ?_⟩
    rw [List.mem_cons, not_or] at hdeleted
    exact hstays hdeleted.2
      (live_enter hnumbered hfew' (Ne.symm hclosed.1) (Ne.symm hdeleted.1) hlive)

/-- An establishment is counted where there is a desk for it. -/
theorem tried_enter {d : Desk} (hdesk : w.ledger.desks.get? key = some d) (remoteSeid : UInt64)
    (ops : List RuleOp) :
    (w.enter (.tried key remoteSeid ops)).history.tried = w.history.tried + 1 := by
  show (w.history.enter w.ledger (.tried key remoteSeid ops)).tried = _
  unfold History.enter
  simp only [hdesk]
  exact Roll.tried_attempt _ _ _ _ _ _

/-- A session that is accepted takes its number. -/
theorem Numbered.taken_accepted (hnumbered : w.Numbered) {d : Desk} {remoteSeid : UInt64}
    {ops : List RuleOp} {b : Workbench}
    (hfew : (w.enter (.tried key remoteSeid ops)).history.tried < UInt64.size)
    (hdesk : w.ledger.desks.get? key = some d)
    (hwork : (w.ledger.bench (w.ledger.newcomer d remoteSeid)).carryOut ops = (.ok (), b)) :
    (w.enter (.tried key remoteSeid ops)).Taken key d.nextSessionId w.ledger.nextResourceKey
      ∧ ((w.enter (.tried key remoteSeid ops)).ledger.live key d.nextSessionId).isSome = true := by
  have hseid := w.ledger.localSeid_carryOut (w.ledger.newcomer d remoteSeid) ops
  have hkey := w.ledger.resourceKey_carryOut (w.ledger.newcomer d remoteSeid) ops
  rw [hwork] at hseid hkey
  change b.session.localSeid = d.nextSessionId at hseid
  change b.session.resourceKey = w.ledger.nextResourceKey at hkey
  have hdesks : (w.enter (.tried key remoteSeid ops)).ledger.desks
      = w.ledger.desks.insert key (d.advanced.file b.session) := by
    show (w.ledger.enter (.tried key remoteSeid ops)).desks = _
    unfold Ledger.enter
    simp only [hdesk]
    unfold Ledger.attempt
    simp only [hwork]
  have htried := tried_enter hdesk remoteSeid ops
  have hfew₀ : w.history.tried + 1 < UInt64.size := htried ▸ hfew
  have hfiled : (w.enter (.tried key remoteSeid ops)).ledger.live key d.nextSessionId
      = some b.session := by
    rw [Ledger.live_insert hdesks, if_pos rfl]
    show (d.sessions.insert b.session.localSeid b.session).get? d.nextSessionId = _
    rw [hseid, Table.get?_insert, if_pos rfl]
  refine ⟨⟨⟨d.advanced.file b.session, ?_, ?_⟩, ?_, ?_, ?_⟩, by rw [hfiled]; rfl⟩
  · rw [hdesks, Table.get?_insert, if_pos rfl]
  · intro hfew'
    rw [htried] at hfew'
    have hnext := (hnumbered.desks hfew₀ key d hdesk).toNat_advanced hfew'
    show d.nextSessionId < d.advanced.nextSessionId
    rw [UInt64.lt_iff_toNat_lt, hnext]
    omega
  · rw [htried]
    exact ⟨w.history.tried, Nat.lt_succ_self _, hnumbered.next_key⟩
  · intro s hs
    cases hfiled.symm.trans hs
    exact hkey
  · intro key' seid' s hs hk
    rcases Ledger.live_of_filed hdesk (Desk.advanced _) rfl hdesks hs with
      ⟨rfl, rfl, rfl⟩ | ⟨-, hbefore⟩
    · exact ⟨rfl, hseid⟩
    · exact absurd hk (hnumbered.resourceKey_ne_next (Nat.lt_of_succ_lt hfew₀) hbefore)

end Books

/-! ## §3. Calls. -/

namespace Node

/-- The association under a key does not end in the calls. -/
def Stands (n : Node) (key : String) (cs : List Call) : Prop :=
  ∀ before c behind left, cs = before ++ c :: behind → ¬ (n.calls before).Ends key c left

/-- After the calls a number of an association finds the session with a key: it is
there unless it was deleted, the number finds nobody else, and the session is
found nowhere else. -/
structure FoundUnder (n : Node) (cs : List Call) (key : String) (seid k : UInt64) : Prop where
  there : (∀ c ∈ cs, ¬ c.Deletes key seid) → ∃ s, (n.calls cs).live key seid = some s
  only : ∀ s, (n.calls cs).live key seid = some s → s.resourceKey = k
  alone : ∀ key' seid' s, (n.calls cs).live key' seid' = some s → s.resourceKey = k →
    key' = key ∧ seid' = seid

variable {n : Node} {key : String} {seid : UInt64} {c : Call}

/-- A desk is closed where its association ends, … -/
theorem ends_of_closed (h : .closed key ∈ n.callEntries c) : ∃ left, n.Ends key c left := by
  cases c with
  | message src cut =>
    cases hdecode : Message.decode cut.header.type cut.body with
    | error e =>
      rw [callEntries_of_error n src hdecode] at h
      cases h
    | ok m =>
      rw [callEntries_of_ok n src hdecode] at h
      unfold Message.entries at h
      cases m <;> dsimp only at h
      case associationSetupRequest m =>
        cases hid : m.nodeId with
        | none => simp [hid] at h
        | some id =>
          obtain rfl : key = associationKey src := by simpa [hid] using h
          exact ⟨_, .renewed rfl hdecode hid⟩
      case associationReleaseRequest m =>
        cases hid : m.nodeId with
        | none => simp [hid] at h
        | some id =>
          obtain rfl : key = associationKey src := by simpa [hid] using h
          exact ⟨_, .released rfl hdecode (by rw [hid]; rfl)⟩
      all_goals exfalso
      all_goals first | simp at h | (split at h <;> simp at h)
  | heartbeatFailed key₁ timer =>
    unfold callEntries failureEntries at h
    dsimp only at h
    cases htimed : timedAssociation n key₁ timer with
    | none =>
      rw [htimed] at h
      cases h
    | some a =>
      rw [htimed] at h
      dsimp only at h
      split at h
      · next hexpired =>
        obtain rfl : key = key₁ := by simpa using h
        exact ⟨_, .expired htimed (of_decide_eq_true hexpired)⟩
      · cases h
  | _ => cases h

/-- … and a session is deleted where its peer asks for it. -/
theorem deletes_of_deleted (hseid : seid ≠ 0) (h : .deleted key seid ∈ n.callEntries c) :
    c.Deletes key seid := by
  cases c with
  | message src cut =>
    cases hdecode : Message.decode cut.header.type cut.body with
    | error e =>
      rw [callEntries_of_error n src hdecode] at h
      cases h
    | ok m =>
      rw [callEntries_of_ok n src hdecode] at h
      unfold Message.entries at h
      cases m <;> dsimp only at h
      case sessionDeletionRequest m =>
        obtain ⟨rfl, rfl⟩ : key = associationKey src ∧ seid = cut.header.seid.getD 0 := by
          simpa using h
        -- a request without a number asks for number zero
        cases hheader : cut.header.seid with
        | none =>
          rw [hheader] at hseid
          exact absurd rfl hseid
        | some seid => exact .mk rfl hdecode hheader
      all_goals exfalso
      all_goals first | simp at h | (split at h <;> simp at h)
  | heartbeatFailed key₁ timer =>
    unfold callEntries failureEntries at h
    dsimp only at h
    split at h
    · split at h <;> simp at h
    · cases h
  | _ => cases h

/-- What calls enter one of them enters. -/
theorem mem_callTrace {e : Entry} {cs : List Call} (h : e ∈ n.callTrace cs) :
    ∃ before c behind, cs = before ++ c :: behind ∧ e ∈ (n.calls before).callEntries c := by
  induction cs generalizing n with
  | nil => cases h
  | cons c cs ih =>
    rcases List.mem_append.mp h with h | h
    · exact ⟨[], c, cs, rfl, h⟩
    · obtain ⟨before, c', behind, rfl, hmem⟩ := ih h
      exact ⟨c :: before, c', behind, rfl, hmem⟩

/-- The number that an association gives out next is not zero. -/
theorem nextSessionId_ne_zero {c : Config} {startup : Int} {heartbeats : Bool}
    (hstart : Node.start c startup heartbeats = .ok n) (cs : List Call)
    (hfew : (n.callHistory cs).tried + 1 < UInt64.size) {d : Desk}
    (hdesk : (n.callBooks cs).ledger.desks.get? key = some d) : d.nextSessionId ≠ 0 := by
  have hroll := counted_callRoll hstart cs
  have hbooks : (n.callRoll cs).books = n.callBooks cs := Roll.books_after _ _
  rw [callHistory, ← hbooks] at hfew
  rw [← hbooks] at hdesk
  have hnext := (hroll.desks hfew key d hdesk).next
  intro hzero
  rw [hzero] at hnext
  exact absurd hnext (by rw [UInt64.toNat_zero]; omega)

section

variable {c : Config} {startup : Int} {heartbeats : Bool}

/-- A session that is accepted takes the number that its association gives out next,
which is not zero. -/
theorem taken_of_accepted (hstart : Node.start c startup heartbeats = .ok n) (cs : List Call)
    {src : SocketAddress} {cut : Header.Cut} {m : SessionEstablishmentRequest} {r : Reply}
    {a : Association}
    (hdecode : Message.decode cut.header.type cut.body = .ok (.sessionEstablishmentRequest m))
    (hanswer : (n.calls cs).answer? src cut = some r)
    (hcause : r.message.cause? = some .requestAccepted)
    (ha : (n.calls cs).associationWith src = some a)
    (hfew : (n.callHistory (cs ++ [.message src cut])).tried < UInt64.size) :
    let w := n.callBooks (cs ++ [.message src cut])
    w.Taken (associationKey src) a.nextSessionId (n.calls cs).nextResourceKey
      ∧ (w.ledger.live (associationKey src) a.nextSessionId).isSome = true
      ∧ a.nextSessionId ≠ 0 := by
  obtain ⟨a', cp, b, ha', hid, hcp, hwork, -, -⟩ :=
    established_of_accepted hdecode hanswer hcause
  cases ha.symm.trans ha'
  obtain ⟨id, hid⟩ := Option.isSome_iff_exists.mp hid
  have hledger := n.ledger_callBooks cs
  have hdesk : (n.callBooks cs).ledger.desks.get? (associationKey src) = some a.desk := by
    rw [hledger, get?_desks, show (n.calls cs).associations.get? _ = some a from ha]
    rfl
  have hwork : ((n.callBooks cs).ledger.bench
      ((n.callBooks cs).ledger.newcomer a.desk cp.seid)).carryOut m.ops = (.ok (), b) := by
    rw [hledger]
    exact hwork
  -- the establishment is one entry
  have hentries : (n.calls cs).callEntries (.message src cut)
      = [.tried (associationKey src) cp.seid m.ops] := by
    rw [callEntries_of_ok _ src hdecode]
    simp only [Message.entries, hid, hcp]
  have hbooks : n.callBooks (cs ++ [.message src cut])
      = (n.callBooks cs).enter (.tried (associationKey src) cp.seid m.ops) := by
    rw [callBooks_concat, hentries]
    rfl
  rw [callHistory, hbooks] at hfew
  obtain ⟨htaken, hlive⟩ := (callBooks_traced hstart cs).1.taken_accepted hfew hdesk hwork
  have hkey : (n.callBooks cs).ledger.nextResourceKey = (n.calls cs).nextResourceKey :=
    congrArg (·.nextResourceKey) hledger
  rw [Books.tried_enter hdesk] at hfew
  dsimp only
  rw [hbooks, ← hkey]
  exact ⟨htaken, hlive, nextSessionId_ne_zero hstart cs hfew hdesk⟩

/-- A number that is taken finds its session after more calls. -/
theorem found_of_taken {cs : List Call} {k : UInt64} (hnumbered : (n.callBooks cs).Numbered)
    (htaken : (n.callBooks cs).Taken key seid k)
    (hlive : ((n.callBooks cs).ledger.live key seid).isSome = true) (hseid : seid ≠ 0)
    (cs' : List Call) (hfew : (n.callHistory (cs ++ cs')).tried < UInt64.size)
    (hstands : (n.calls cs).Stands key cs') : (n.calls cs).FoundUnder cs' key seid k := by
  -- the desk is not closed behind it
  have hclosed : .closed key ∉ (n.calls cs).callTrace cs' := by
    intro hmem
    obtain ⟨before, c, behind, hsplit, hmem⟩ := mem_callTrace hmem
    obtain ⟨left, hends⟩ := ends_of_closed hmem
    exact hstands before c behind left hsplit hends
  rw [callHistory, callBooks_append] at hfew
  obtain ⟨htaken', hstays⟩ := Books.taken_after _ hnumbered hfew hclosed htaken
  have hledger := n.ledger_callBooks (cs ++ cs')
  rw [callBooks_append, calls_append] at hledger
  have hsame (key : String) (seid : UInt64) :
      ((n.callBooks cs).after ((n.calls cs).callTrace cs')).ledger.live key seid
        = ((n.calls cs).calls cs').live key seid := by
    rw [hledger, live_ledger]
  constructor
  case only => exact fun s hs => htaken'.only s ((hsame _ _).trans hs)
  case alone => exact fun key' seid' s hs => htaken'.alone key' seid' s ((hsame _ _).trans hs)
  case there =>
    intro hkept
    -- nor is the session deleted unasked
    have hdeleted : .deleted key seid ∉ (n.calls cs).callTrace cs' := by
      intro hmem
      obtain ⟨before, c, behind, rfl, hentry⟩ := mem_callTrace hmem
      exact hkept c (by simp) (deletes_of_deleted hseid hentry)
    have hthere := hstays hdeleted hlive
    rw [hsame] at hthere
    exact Option.isSome_iff_exists.mp hthere

/-- The key that is given out next is nobody's. -/
theorem key_ne_next (hstart : Node.start c startup heartbeats = .ok n) (cs : List Call)
    (hfew : (n.callHistory cs).tried < UInt64.size) {key : String} {seid : UInt64} {s : Session}
    (hs : (n.calls cs).live key seid = some s) :
    s.resourceKey ≠ (n.calls cs).nextResourceKey := by
  have hledger := n.ledger_callBooks cs
  rw [← live_ledger, ← hledger] at hs
  have hne := (callBooks_traced hstart cs).1.resourceKey_ne_next hfew hs
  rwa [hledger] at hne

/-- **A session that is accepted is found under its number**, and nobody else is, as
long as its association stands and numbers last. -/
theorem found_of_accepted (hstart : Node.start c startup heartbeats = .ok n) (cs : List Call)
    {src : SocketAddress} {cut : Header.Cut} {m : SessionEstablishmentRequest} {r : Reply}
    {a : Association}
    (hdecode : Message.decode cut.header.type cut.body = .ok (.sessionEstablishmentRequest m))
    (hanswer : (n.calls cs).answer? src cut = some r)
    (hcause : r.message.cause? = some .requestAccepted)
    (ha : (n.calls cs).associationWith src = some a) (cs' : List Call)
    (hfew : (n.callHistory (cs ++ [.message src cut] ++ cs')).tried < UInt64.size)
    (hstands : (n.calls (cs ++ [.message src cut])).Stands (associationKey src) cs') :
    (n.calls (cs ++ [.message src cut])).FoundUnder cs' (associationKey src) a.nextSessionId
      (n.calls cs).nextResourceKey := by
  have hfew' : (n.callHistory (cs ++ [.message src cut])).tried < UInt64.size := by
    rw [callHistory, callBooks_append] at hfew
    exact Nat.lt_of_le_of_lt (tried_le_after _ _) hfew
  obtain ⟨htaken, hlive, hseid⟩ := taken_of_accepted hstart cs hdecode hanswer hcause ha hfew'
  exact found_of_taken (callBooks_traced hstart _).1 htaken hlive hseid cs' hfew hstands

end

end Node

end UserPlane
