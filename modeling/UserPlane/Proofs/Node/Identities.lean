/-
  UserPlane.Proofs.Node.Identities
  ────────────────────────────────
  **WHO IS WHO.**

  An association counts its sessions from one on, the rejected ones too, and
  begins again when it is set up again.  So as long as the numbers last, those
  that it gave out are one, two, three and so on, each given out once, and its
  sessions have some of them.  The keys under which sessions hold something are
  counted for all associations together and never begin again, so that no two
  sessions have the same.

      Desk.Counted           what a desk gave out, and to whom
      Roll                   books with the numbers that were given out
      Roll.counted_after     every entry keeps the count
      Node.Identified        a node that knows its sessions apart
-/
import UserPlane.Proofs.Node.Calls
import UserPlane.Proofs.Node.Numbering

namespace UserPlane

/-! ## §1. What a desk gave out. -/

namespace Desk

/-- A desk gave out the numbers from one on, one after the other, and its
sessions have some of them. -/
structure Counted (d : Desk) (given : List UInt64) : Prop where
  order : given = (List.range' 1 given.length).map UInt64.ofNat
  next : d.nextSessionId.toNat = 1 + given.length
  used : ∀ seid s, d.sessions.get? seid = some s → seid ∈ given

variable {d : Desk} {given : List UInt64} {seid : UInt64} {tried : Nat}

theorem counted_empty : ({} : Desk).Counted [] where
  order := rfl
  next := rfl
  used seid s hget := by cases hget

namespace Counted

/-- The numbers given out fit 64 bits. -/
theorem toNat_ofNat (h : d.Counted given) {i : Nat} (hi : i ∈ List.range' 1 given.length) :
    (UInt64.ofNat i).toNat = i := by
  have hnext := h.next
  have hsize := d.nextSessionId.toNat_lt
  have hrange := List.mem_range'_1.mp hi
  exact UInt64.toNat_ofNat_of_lt' (show i < 2 ^ 64 by omega)

/-- **No number is given out twice.** -/
theorem nodup (h : d.Counted given) : given.Nodup := by
  rw [h.order]
  refine (List.nodup_map_iff_inj_on List.nodup_range').mpr fun i hi j hj heq => ?_
  have hnat := congrArg UInt64.toNat heq
  rwa [h.toNat_ofNat hi, h.toNat_ofNat hj] at hnat

/-- The numbers given out are those from one up to the next. -/
theorem mem_iff (h : d.Counted given) : seid ∈ given ↔ 1 ≤ seid ∧ seid < d.nextSessionId := by
  have hone : (1 : UInt64).toNat = 1 := rfl
  rw [UInt64.le_iff_toNat_le, UInt64.lt_iff_toNat_lt, hone, h.next]
  constructor
  · intro hmem
    rw [h.order] at hmem
    obtain ⟨i, hi, rfl⟩ := List.mem_map.mp hmem
    rw [h.toNat_ofNat hi]
    exact List.mem_range'_1.mp hi
  · intro hrange
    rw [h.order]
    exact List.mem_map.mpr ⟨seid.toNat, List.mem_range'_1.mpr hrange, UInt64.ofNat_toNat⟩

theorem next_not_mem (h : d.Counted given) : d.nextSessionId ∉ given := by
  intro hmem
  exact UInt64.lt_irrefl _ (h.mem_iff.mp hmem).2

/-- The number that is given out next is not in use. -/
theorem get?_next (h : d.Counted given) : d.sessions.get? d.nextSessionId = none := by
  cases hget : d.sessions.get? d.nextSessionId with
  | none => rfl
  | some s => exact absurd (h.used _ s hget) h.next_not_mem

/-- A desk that gives out its next number. -/
theorem advanced (h : d.Counted given) (hnumbered : d.Numbered tried)
    (hfew : tried + 2 < UInt64.size) : d.advanced.Counted (given ++ [d.nextSessionId]) where
  order := by
    have hnext : UInt64.ofNat (1 + given.length) = d.nextSessionId := by
      rw [← h.next]
      exact UInt64.ofNat_toNat
    rw [List.length_append, List.length_singleton, List.range'_1_concat, List.map_append,
      List.map_singleton, hnext, ← h.order]
  next := by
    rw [hnumbered.toNat_advanced hfew, h.next, List.length_append, List.length_singleton]
    omega
  used seid s hget := List.mem_append_left _ (h.used seid s hget)

/-- A desk where a session was filed under a number that was given out. -/
theorem file (h : d.Counted given) {s : Session} (hmem : s.localSeid ∈ given) :
    (d.file s).Counted given where
  order := h.order
  next := h.next
  used seid s' hget := by
    have hget : (d.sessions.insert s.localSeid s).get? seid = some s' := hget
    rw [Table.get?_insert] at hget
    split at hget
    · next heq => exact heq ▸ hmem
    · exact h.used seid s' hget

theorem erase (h : d.Counted given) (seid : UInt64) :
    ({ d with sessions := d.sessions.erase seid } : Desk).Counted given where
  order := h.order
  next := h.next
  used seid' s hget := h.used seid' s (Table.get?_of_erase hget).2

end Counted

end Desk

/-! ## §2. The roll. -/

namespace Ledger

/-- The numbers that each association gave out since it began, after one more
entry. -/
def givenAfter (l : Ledger) (given : String → List UInt64) : Entry → String → List UInt64
  | .opened key =>
    match l.desks.get? key with
    | some _ => given
    | none => Function.update given key []
  | .tried key remoteSeid _ =>
    match l.desks.get? key with
    | some d => Function.update given key (given key ++ [(l.newcomer d remoteSeid).localSeid])
    | none => given
  | _ => given

/-- All desks count what they give out. -/
def Counted (l : Ledger) (given : String → List UInt64) : Prop :=
  ∀ key d, l.desks.get? key = some d → d.Counted (given key)

/-- All desks but one are as they were. -/
theorem Counted.insert {l l' : Ledger} {given : String → List UInt64} {key : String} {d : Desk}
    {numbers : List UInt64} (h : l.Counted given) (hdesks : l'.desks = l.desks.insert key d)
    (hd : d.Counted numbers) : l'.Counted (Function.update given key numbers) := by
  intro key' d' hget
  rw [hdesks, Table.get?_insert] at hget
  split at hget
  · next heq =>
    cases hget
    rw [heq, Function.update_self]
    exact hd
  · next hne =>
    rw [Function.update_of_ne hne]
    exact h key' d' hget

theorem Counted.rewritten {l l' : Ledger} {given : String → List UInt64} {key : String} {d : Desk}
    (h : l.Counted given) (hdesks : l'.desks = l.desks.insert key d)
    (hd : d.Counted (given key)) : l'.Counted given := by
  have hall := h.insert hdesks hd
  rwa [Function.update_eq_self] at hall

end Ledger

/-- Books, and the numbers that each association gave out since it began. -/
structure Roll where
  books : Books
  given : String → List UInt64 := fun _ => []

namespace Roll

/-- The roll after an entry. -/
def enter (r : Roll) (e : Entry) : Roll := ⟨r.books.enter e, r.books.ledger.givenAfter r.given e⟩

/-- The roll after entries. -/
def after (r : Roll) (entries : List Entry) : Roll := entries.foldl enter r

theorem books_after (r : Roll) (entries : List Entry) :
    (r.after entries).books = r.books.after entries := by
  induction entries generalizing r with
  | nil => rfl
  | cons e entries ih => exact ih (r.enter e)

/-- As long as the numbers last, they are counted. -/
structure Counted (r : Roll) : Prop where
  numbered : r.books.Numbered
  desks : r.books.history.tried + 1 < UInt64.size → r.books.ledger.Counted r.given

/-- A desk that tries a session gives out its next number. -/
theorem counted_attempt {w : Books} {given : String → List UInt64} {key : String} {d : Desk}
    {remoteSeid : UInt64} {ops : List RuleOp} (h : w.ledger.Counted given)
    (hdesk : w.ledger.desks.get? key = some d) (hnumbered : d.Numbered w.history.tried)
    (hfew : w.history.tried + 2 < UInt64.size) :
    (w.ledger.attempt key d remoteSeid ops).Counted
      (Function.update given key (given key ++ [d.nextSessionId])) := by
  have hadvanced := (h key d hdesk).advanced hnumbered hfew
  have hseid := w.ledger.localSeid_carryOut (w.ledger.newcomer d remoteSeid) ops
  unfold Ledger.attempt
  dsimp only
  cases hwork : (w.ledger.bench (w.ledger.newcomer d remoteSeid)).carryOut ops with
  | mk result b =>
    rw [hwork] at hseid
    cases result with
    | error e => exact h.insert rfl hadvanced
    | ok u =>
      -- the session is filed under the number that it was given
      refine h.insert rfl (hadvanced.file ?_)
      show b.session.localSeid ∈ given key ++ [d.nextSessionId]
      rw [hseid]
      exact List.mem_append_right _ (List.mem_singleton_self _)

theorem tried_attempt (h : History) (l : Ledger) (key : String) (d : Desk) (remoteSeid : UInt64)
    (ops : List RuleOp) : (h.attempt l key d remoteSeid ops).tried = h.tried + 1 := by
  unfold History.attempt
  dsimp only
  split <;> rfl

/-- **Every entry keeps the count.** -/
theorem Counted.enter {r : Roll} (h : r.Counted) (e : Entry) : (r.enter e).Counted := by
  refine ⟨(r.books.move_enter e).numbered h.numbered, ?_⟩
  intro hfew
  obtain ⟨⟨l, history⟩, given⟩ := r
  have hnumbered := h.numbered.desks
  have hdesks := h.desks
  have hfiled := h.numbered.filed
  change (history.enter l e).tried + 1 < UInt64.size at hfew
  change history.tried + 1 < UInt64.size → l.Counted given at hdesks
  change (l.enter e).Counted (l.givenAfter given e)
  unfold History.enter at hfew
  unfold Ledger.enter Ledger.givenAfter
  cases e with
  | opened key =>
    dsimp only at hfew ⊢
    cases hdesk : l.desks.get? key with
    | some d => exact hdesks hfew
    | none => exact (hdesks hfew).insert rfl Desk.counted_empty
  | closed key =>
    dsimp only at hfew ⊢
    cases hdesk : l.desks.get? key with
    | none => exact hdesks hfew
    | some d =>
      -- what is left are desks that were there
      intro key' d' hget
      dsimp only at hget
      rw [Ledger.desks_close] at hget
      exact hdesks hfew key' d' (Table.get?_of_erase hget).2
  | tried key remoteSeid ops =>
    dsimp only at hfew ⊢
    cases hdesk : l.desks.get? key with
    | none =>
      rw [hdesk] at hfew
      exact hdesks hfew
    | some d =>
      rw [hdesk] at hfew
      dsimp only at hfew
      rw [tried_attempt] at hfew
      have hfew' : history.tried + 1 < UInt64.size := Nat.lt_of_succ_lt hfew
      exact counted_attempt (w := ⟨l, history⟩) (hdesks hfew') hdesk
        (hnumbered hfew' key d hdesk) hfew
  | modified key seid cp ops =>
    have hfew : history.tried + 1 < UInt64.size := by
      dsimp only at hfew
      split at hfew <;> exact hfew
    dsimp only
    cases hdesk : l.desks.get? key with
    | none => exact hdesks hfew
    | some d =>
      dsimp only
      cases hsession : d.sessions.get? seid with
      | none => exact hdesks hfew
      | some s =>
        -- the session is filed again under the number it has
        have hcounted := hdesks hfew key d hdesk
        have hseid := hfiled.localSeid_modified (Ledger.live_of_desk hdesk hsession) cp ops
        refine (hdesks hfew).rewritten rfl (hcounted.file ?_)
        rw [hseid]
        exact hcounted.used seid s hsession
  | deleted key seid =>
    dsimp only at hfew ⊢
    cases hdesk : l.desks.get? key with
    | none => exact hdesks hfew
    | some d =>
      dsimp only
      cases hsession : d.sessions.get? seid with
      | none => exact hdesks hfew
      | some s => exact (hdesks hfew).rewritten rfl ((hdesks hfew key d hdesk).erase seid)

/-- So any entries do. -/
theorem counted_after {r : Roll} (h : r.Counted) (entries : List Entry) :
    (r.after entries).Counted := by
  induction entries generalizing r with
  | nil => exact h
  | cons e entries ih => exact ih (h.enter e)

end Roll

/-! ## §3. Sessions that stay where they are. -/

namespace Ledger

/-- A session that is tried under a number that is not in use takes nobody's
place. -/
theorem live_attempt {l : Ledger} {key key' : String} {d : Desk} {seid : UInt64} {s : Session}
    (hdesk : l.desks.get? key = some d) (hfree : d.sessions.get? d.nextSessionId = none)
    (hlive : l.live key' seid = some s) (remoteSeid : UInt64) (ops : List RuleOp) :
    (l.attempt key d remoteSeid ops).live key' seid = some s := by
  have hseid := l.localSeid_carryOut (l.newcomer d remoteSeid) ops
  -- what is found at the desk that is written, where it is the session's
  have hwritten (d' : Desk) (hd' : key' = key → d'.sessions.get? seid = some s) :
      ((l.desks.insert key d').get? key').bind (·.sessions.get? seid) = some s := by
    rw [Table.get?_insert]
    split
    · next heq => exact hd' heq
    · exact hlive
  have hold (heq : key' = key) : d.sessions.get? seid = some s := by
    rw [heq, live, hdesk] at hlive
    exact hlive
  unfold attempt
  dsimp only
  cases hwork : (l.bench (l.newcomer d remoteSeid)).carryOut ops with
  | mk result b =>
    rw [hwork] at hseid
    cases result with
    | error e => exact hwritten d.advanced hold
    | ok u =>
      refine hwritten (d.advanced.file b.session) fun heq => ?_
      show (d.sessions.insert b.session.localSeid b.session).get? seid = some s
      rw [Table.get?_insert, if_neg, hold heq]
      -- the number of a session that is there is in use
      intro hsame
      rw [hsame, hseid] at hold
      exact absurd (hfree.symm.trans (hold heq)) (by simp)

end Ledger

namespace Node

open Event

variable {n : Node} {numbers : String → List UInt64}

/-- An establishment takes nobody's place where desks count what they give
out. -/
theorem live_handleSessionEstablishment (hcounted : n.ledger.Counted numbers) (h : Header)
    (m : SessionEstablishmentRequest) (src : SocketAddress) {key : String} {seid : UInt64}
    {s : Session} (hlive : n.live key seid = some s) :
    ((handleSessionEstablishment h m src).run n).2.live key seid = some s := by
  rw [← live_ledger] at hlive ⊢
  rw [enters_handleSessionEstablishment]
  unfold Message.entries
  dsimp only
  split
  · next id cp _ _ =>
    rw [List.foldl_cons, List.foldl_nil, Ledger.enter]
    cases hdesk : n.ledger.desks.get? (associationKey src) with
    | none => exact hlive
    | some d =>
      exact Ledger.live_attempt hdesk (hcounted _ d hdesk).get?_next hlive cp.seid m.ops
  · exact hlive

/-- A request for changes of a session that nobody has changes nothing. -/
theorem handleSessionModification_run_unknown {h : Header} (src : SocketAddress)
    (hnone : n.live (associationKey src) (h.seid.getD 0) = none) (m : SessionModificationRequest) :
    ∃ cause, Unknown cause ∧ (handleSessionModification h m src).run n
      = (some (modificationResponse cause [] 0), n) := by
  rcases handleSessionModification_cases h src n m with ⟨cause, hunknown, -, hrun⟩ | ⟨a, s, ha, hs, -⟩
  · exact ⟨cause, hunknown, hrun⟩
  · rw [live_associationKey, ha, Option.bind_some, hs] at hnone
    cases hnone

/-- Nor does a request for its deletion. -/
theorem handleSessionDeletion_run_unknown {h : Header} (src : SocketAddress)
    (hnone : n.live (associationKey src) (h.seid.getD 0) = none) (m : SessionDeletionRequest) :
    ∃ cause, Unknown cause ∧ (handleSessionDeletion h m src).run n
      = (some (deletionResponse cause 0), n) := by
  rcases handleSessionDeletion_cases h src n m with ⟨cause, hunknown, -, hrun⟩ | ⟨a, s, ha, hs, -⟩
  · exact ⟨cause, hunknown, hrun⟩
  · rw [live_associationKey, ha, Option.bind_some, hs] at hnone
    cases hnone

/-! ## §4. Nodes. -/

/-- The roll after calls. -/
def callRoll (n : Node) (cs : List Call) : Roll :=
  ({ books := n.newBooks } : Roll).after (n.callTrace cs)

/-- The numbers that each association gave out since it began, to sessions that
were accepted and to sessions that were rejected. -/
def given (n : Node) (cs : List Call) : String → List UInt64 := (n.callRoll cs).given

/-- A node that knows its sessions apart, by numbers of which it has given out
these. -/
structure Identified (n : Node) (given : String → List UInt64) : Prop where
  /-- A session is filed under its own number. -/
  filed : ∀ key seid s, n.live key seid = some s → s.localSeid = seid
  /-- It was given the number, which lies between one and the next. -/
  numbered : ∀ key a seid s, n.associations.get? key = some a → a.sessions.get? seid = some s →
    1 ≤ seid ∧ seid < a.nextSessionId ∧ seid ∈ given key
  /-- No number is given out twice: not before, … -/
  once : ∀ key a, n.associations.get? key = some a → (given key).Nodup
  /-- … and not next. -/
  next : ∀ key a, n.associations.get? key = some a → a.nextSessionId ∉ given key
  /-- A new session takes nobody's place. -/
  kept : ∀ h m src key seid s, n.live key seid = some s →
    ((handleSessionEstablishment h m src).run n).2.live key seid = some s
  /-- A request without a number reaches no session. -/
  nobody : ∀ (h : Header) (src : SocketAddress), h.seid = none →
    (∀ m, ∃ cause, Unknown cause ∧ (handleSessionModification h m src).run n
      = (some (modificationResponse cause [] 0), n))
    ∧ ∀ m, ∃ cause, Unknown cause ∧ (handleSessionDeletion h m src).run n
      = (some (deletionResponse cause 0), n)
  /-- No two sessions have the same key. -/
  keys : ∀ key seid s key' seid' s', n.live key seid = some s → n.live key' seid' = some s' →
    s.resourceKey = s'.resourceKey → key = key' ∧ seid = seid'
  /-- All keys were given out before the next. -/
  key_lt : ∀ key seid s, n.live key seid = some s → s.resourceKey < n.nextResourceKey

theorem counted_callRoll {c : Config} {startup : Int} {heartbeats : Bool} {n : Node}
    (hstart : Node.start c startup heartbeats = .ok n) (cs : List Call) :
    (n.callRoll cs).Counted := by
  refine Roll.counted_after ⟨numbered_start hstart, fun _ => ?_⟩ _
  intro key d hget
  rw [desks_start hstart] at hget
  cases hget

/-- The keys of live sessions lie before the next. -/
theorem resourceKey_lt {w : Books} (h : w.Numbered) (hfew : w.history.tried + 1 < UInt64.size)
    {key : String} {seid : UInt64} {s : Session} (hlive : w.ledger.live key seid = some s) :
    s.resourceKey < w.ledger.nextResourceKey := by
  have hmem : s.resourceKey ∈ w.ledger.total Session.key :=
    (Ledger.mem_total_iff _ _ _).mpr ⟨key, seid, s, hlive, Multiset.mem_singleton_self _⟩
  obtain ⟨j, hlt, heq⟩ := h.keys _ hmem
  rw [heq, h.next_key, UInt64.lt_iff_toNat_lt, UInt64.toNat_ofNat_of_lt' (by omega),
    UInt64.toNat_ofNat_of_lt' (by omega)]
  omega

/-- **WHO IS WHO.**  Whatever happened to a node that was started, as long as
the numbers last it knows its sessions apart. -/
theorem identified_calls {c : Config} {startup : Int} {heartbeats : Bool} {n : Node}
    (hstart : Node.start c startup heartbeats = .ok n) (cs : List Call)
    (hfew : (n.callHistory cs).tried + 1 < UInt64.size) :
    (n.calls cs).Identified (n.given cs) := by
  have hroll := counted_callRoll hstart cs
  have hbooks : (n.callRoll cs).books = n.callBooks cs := Roll.books_after _ _
  have hledger := n.ledger_callBooks cs
  have hnumbered : (n.callBooks cs).Numbered := hbooks ▸ hroll.numbered
  have hcounted : (n.calls cs).ledger.Counted (n.given cs) := by
    rw [← hledger, ← hbooks]
    exact hroll.desks (by rw [hbooks]; exact hfew)
  have hlive {key : String} {seid : UInt64} {s : Session}
      (h : (n.calls cs).live key seid = some s) :
      (n.callBooks cs).ledger.live key seid = some s := by
    rw [hledger, live_ledger]
    exact h
  have hdesk {key : String} {a : Association}
      (h : (n.calls cs).associations.get? key = some a) : a.desk.Counted (n.given cs key) := by
    refine hcounted key a.desk ?_
    rw [get?_desks, h]
    rfl
  have hseid {key : String} {a : Association} {seid : UInt64} {s : Session}
      (hget : (n.calls cs).associations.get? key = some a)
      (hs : a.sessions.get? seid = some s) : seid ∈ n.given cs key := (hdesk hget).used seid s hs
  constructor
  case filed => exact fun key seid s h => hnumbered.filed key seid s (hlive h)
  case numbered =>
    intro key a seid s hget hs
    obtain ⟨hone, hlt⟩ := (hdesk hget).mem_iff.mp (hseid hget hs)
    exact ⟨hone, hlt, hseid hget hs⟩
  case once => exact fun key a hget => (hdesk hget).nodup
  case next => exact fun key a hget => (hdesk hget).next_not_mem
  case kept =>
    exact fun h m src key seid s hs => live_handleSessionEstablishment hcounted h m src hs
  case nobody =>
    intro h src hnone
    -- no session has the number zero, for which the missing one stands
    have hzero : (n.calls cs).live (associationKey src) (h.seid.getD 0) = none := by
      rw [hnone]
      refine Option.eq_none_iff_forall_ne_some.mpr fun s hs => ?_
      obtain ⟨a, hget, hs⟩ := Option.bind_eq_some_iff.mp hs
      exact absurd ((hdesk hget).mem_iff.mp (hseid hget hs)).1 (by decide)
    exact ⟨handleSessionModification_run_unknown src hzero,
      handleSessionDeletion_run_unknown src hzero⟩
  case keys =>
    intro key seid s key' seid' s' hs hs' heq
    refine Ledger.live_unique_of_nodup (hnumbered.nodup (Nat.lt_of_succ_lt hfew)) (hlive hs)
      (hlive hs') (x := s.resourceKey) (Multiset.mem_singleton_self _) ?_
    exact heq ▸ Multiset.mem_singleton_self _
  case key_lt =>
    intro key seid s hs
    have hlt := resourceKey_lt hnumbered hfew (hlive hs)
    rwa [hledger] at hlt

/-- An association that is set up again counts its sessions from one again; the
first of them is rejected, and the keys go on. -/
theorem identified_again :
    let cs := [setup, first, setup, establishment [blind] [], first].flatMap Event.calls
    Node.start {} 0 false = .ok standard ∧ (standard.callHistory cs).tried = 3
      ∧ standard.given cs "10.0.0.1" = [1, 2]
      ∧ ((standard.calls cs).live "10.0.0.1" 2).map Session.resourceKey = some 3
      ∧ (standard.calls cs).Identified (standard.given cs) :=
  ⟨start_standard, by decide +kernel, by decide +kernel, by decide +kernel,
    identified_calls start_standard _ (by decide +kernel)⟩

end Node

end UserPlane
