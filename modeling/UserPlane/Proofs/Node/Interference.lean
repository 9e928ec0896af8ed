/-
  UserPlane.Proofs.Node.Interference
  ──────────────────────────────────
  **PEERS AND SESSIONS DO NOT INTERFERE.**

  A message, or a heartbeat that stays unanswered, is about one association and
  at most one of its sessions, or all of them.  Whatever is not touched by it
  stays as it is: other associations, other sessions with what they have in the
  slots of the plane and in the pools, and the entries of the plane under keys
  that are not found for a rule of the request and that no touched session used
  before.

  There is one proviso.  A session whose number is given out again is gone, and
  a session whose key is given out again shares what it holds.  Neither happens
  before 2⁶⁴ establishments have been tried.

      Entry.Touches, Entry.found   what an entry is about
      Books.Apart                  what an entry leaves alone
      Books.apart_enter            every entry does
      Node.no_interference         what follows for every node that can be reached
-/
import UserPlane.Proofs.Address.Text
import UserPlane.Proofs.Node.Calls
import UserPlane.Proofs.Node.SlotOwnership
import UserPlane.Proofs.Session.Confinement

namespace UserPlane

/-! ## §1. What an entry is about. -/

/-- The sessions that an entry is about.  A session that is tried is not there
yet. -/
def Entry.Touches : Entry → String → UInt64 → Prop
  | .opened _, _, _ => False
  | .closed key, k, _ => k = key
  | .tried _ _ _, _, _ => False
  | .modified key seid _ _, k, i => k = key ∧ i = seid
  | .deleted key seid, k, i => k = key ∧ i = seid

/-- The keys that an entry finds for detection rules. -/
def Entry.found (l : Ledger) : Entry → List Detection
  | .tried key remoteSeid ops =>
    match l.desks.get? key with
    | some d => keysFound ops (l.bench (l.newcomer d remoteSeid))
    | none => []
  | .modified key seid cp ops =>
    match l.live key seid with
    | some s => keysFound ops (l.bench (s.renumbered cp))
    | none => []
  | _ => []

/-- From one state of the books to the other only what was touched changed, and
entries of the plane under keys that were found. -/
structure Books.Apart (touched : String → UInt64 → Prop) (found : List Detection)
    (w w' : Books) : Prop where
  /-- Other sessions are live as they were, or were displaced. -/
  standing : ∀ key seid s, w.ledger.live key seid = some s → ¬ touched key seid →
    w'.ledger.live key seid = some s ∨ s ∈ w'.history.displaced
  /-- While their keys are their own, they hold what they held. -/
  holdings : w.history.tried < UInt64.size →
    ∀ key seid s, w.ledger.live key seid = some s → ¬ touched key seid →
      w'.ledger.pools.holdings s.resourceKey = w.ledger.pools.holdings s.resourceKey
  /-- Other entries of the plane are as they were. -/
  entries : ∀ d, d ∉ found →
    (∀ key seid s, touched key seid → w.ledger.live key seid = some s →
      ¬ DetectionRules.Uses s.pdrs d) →
    w'.ledger.plane.pdrs.get? d = w.ledger.plane.pdrs.get? d

/-! ## §2. Parts of the ledger. -/

namespace Ledger

variable {l l' : Ledger} {key : String}

/-- Who is live after a desk was written. -/
theorem live_insert {d : Desk} (hdesks : l'.desks = l.desks.insert key d) (k : String)
    (i : UInt64) : l'.live k i = if k = key then d.sessions.get? i else l.live k i := by
  unfold live
  rw [hdesks, Table.get?_insert]
  split <;> rfl

/-- Who is live after a desk was removed. -/
theorem live_erase (hdesks : l'.desks = l.desks.erase key) {k : String} (hne : k ≠ key)
    (i : UInt64) : l'.live k i = l.live k i := by
  unfold live
  rw [hdesks, Table.get?_erase, if_neg hne]

/-- Who is live after a session was filed in place of another. -/
theorem live_file {d d' : Desk} {s : Session} (hdesk : l.desks.get? key = some d)
    (hsessions : d'.sessions = d.sessions) (hdesks : l'.desks = l.desks.insert key (d'.file s))
    {k : String} {i : UInt64} (hne : ¬ (k = key ∧ i = s.localSeid)) :
    l'.live k i = l.live k i := by
  rw [live_insert hdesks]
  split
  · next hk =>
    subst hk
    have hi : i ≠ s.localSeid := fun e => hne ⟨rfl, e⟩
    show (d'.sessions.insert s.localSeid s).get? i = _
    rw [Table.get?_insert, if_neg hi, hsessions, live, hdesk]
    rfl
  · rfl

/-- Sessions that are released give back what is under their own keys. -/
theorem holdings_foldl_release {k : UInt64} (sessions : List Session)
    (hk : ∀ s ∈ sessions, k ≠ s.resourceKey) (l : Ledger) :
    (sessions.foldl release l).pools.holdings k = l.pools.holdings k := by
  induction sessions generalizing l with
  | nil => rfl
  | cons s sessions ih =>
    rw [List.foldl_cons, ih fun s' hs' => hk s' (List.mem_cons_of_mem s hs')]
    exact Pools.holdings_of_rest (l.pools.rest_releaseAll s.resourceKey) (hk s List.mem_cons_self)

/-- Sessions that are released remove entries under the keys that they use. -/
theorem entries_foldl_release {d : Detection} (sessions : List Session)
    (hd : ∀ s ∈ sessions, ¬ DetectionRules.Uses s.pdrs d) (l : Ledger) :
    (sessions.foldl release l).plane.pdrs.get? d = l.plane.pdrs.get? d := by
  induction sessions generalizing l with
  | nil => rfl
  | cons s sessions ih =>
    rw [List.foldl_cons, ih fun s' hs' => hd s' (List.mem_cons_of_mem s hs')]
    exact s.entries_teardown l.plane (hd s List.mem_cons_self)

/-- What is not a session's stays in the pools through its requests. -/
theorem holdings_carryOut (l : Ledger) (s : Session) (ops : List RuleOp) {k : UInt64}
    (hk : k ≠ s.resourceKey) :
    ((l.bench s).carryOut ops).2.pools.holdings k = l.pools.holdings k :=
  Pools.holdings_of_rest (l.rest_carryOut s ops) hk

end Ledger

theorem Session.pdrs_renumbered (s : Session) (cp : Option FSeid) :
    (s.renumbered cp).pdrs = s.pdrs := by
  cases cp <;> rfl

theorem Session.resourceKey_renumbered (s : Session) (cp : Option FSeid) :
    (s.renumbered cp).resourceKey = s.resourceKey := by
  cases cp <;> rfl

namespace Books

variable {w w' : Books} {key : String} {d : Desk} {seid : UInt64} {s : Session}

/-- While keys are not used up, no two live sessions have the same. -/
theorem Numbered.resourceKey_ne (h : w.Numbered) (hfew : w.history.tried < UInt64.size)
    {k k' : String} {i i' : UInt64} {s s' : Session} (hs : w.ledger.live k i = some s)
    (hs' : w.ledger.live k' i' = some s') (hne : ¬ (k = k' ∧ i = i')) :
    s.resourceKey ≠ s'.resourceKey := fun heq =>
  hne (Ledger.live_unique_of_nodup (h.nodup hfew) hs hs' (Multiset.mem_singleton_self _)
    (heq ▸ Multiset.mem_singleton_self _))

/-- While keys are not used up, the next is no live session's. -/
theorem Numbered.resourceKey_ne_next (h : w.Numbered) (hfew : w.history.tried < UInt64.size)
    {k : String} {i : UInt64} {s : Session} (hs : w.ledger.live k i = some s) :
    s.resourceKey ≠ w.ledger.nextResourceKey := by
  intro heq
  apply h.next_not_mem hfew
  rw [Ledger.mem_total_iff]
  exact ⟨k, i, s, hs, heq ▸ Multiset.mem_singleton_self _⟩

/-! ## §3. What every entry leaves alone. -/

namespace Apart

variable {touched touched' : String → UInt64 → Prop} {found : List Detection}

theorem refl (touched : String → UInt64 → Prop) (found : List Detection) (w : Books) :
    w.Apart touched found w :=
  ⟨fun _ _ _ hs _ => .inl hs, fun _ _ _ _ _ _ => rfl, fun _ _ _ => rfl⟩

/-- More may be touched. -/
theorem mono (h : w.Apart touched found w')
    (hsub : ∀ key seid, touched key seid → touched' key seid) : w.Apart touched' found w' where
  standing key seid s hs hnot := h.standing key seid s hs fun ht => hnot (hsub key seid ht)
  holdings hfew key seid s hs hnot :=
    h.holdings hfew key seid s hs fun ht => hnot (hsub key seid ht)
  entries d hd hunused := h.entries d hd fun key seid s ht => hunused key seid s (hsub key seid ht)

theorem opened (hdesk : w.ledger.desks.get? key = none) :
    w.Apart (Entry.opened key).Touches []
      ⟨{ w.ledger with desks := w.ledger.desks.insert key {} }, w.history⟩ := by
  refine ⟨fun k i s hs _ => .inl ?_, fun _ _ _ _ _ _ => rfl, fun _ _ _ => rfl⟩
  -- nobody was live at the desk that is opened
  rw [Ledger.live_insert rfl, if_neg, hs]
  rintro rfl
  rw [Ledger.live, hdesk] at hs
  cases hs

theorem closed (hnumbered : w.Numbered) (hdesk : w.ledger.desks.get? key = some d) :
    w.Apart (Entry.closed key).Touches [] ⟨w.ledger.close key d, w.history⟩ := by
  have hlive : ∀ s ∈ d.sessions.values, ∃ i, w.ledger.live key i = some s := by
    intro s hs
    obtain ⟨i, hi⟩ := (Table.mem_values_iff _ _).mp hs
    exact ⟨i, Ledger.live_of_desk hdesk hi⟩
  constructor
  case standing =>
    intro k i s hs hnot
    rw [Ledger.live_erase (Ledger.desks_close w.ledger key d) hnot]
    exact .inl hs
  case holdings =>
    intro hfew k i s hs hnot
    refine Ledger.holdings_foldl_release d.sessions.values (fun s' hs' => ?_)
      { w.ledger with desks := w.ledger.desks.erase key }
    obtain ⟨i', hi'⟩ := hlive s' hs'
    exact hnumbered.resourceKey_ne hfew hs hi' fun e => hnot e.1
  case entries =>
    intro d' _ hunused
    refine Ledger.entries_foldl_release d.sessions.values (fun s' hs' => ?_)
      { w.ledger with desks := w.ledger.desks.erase key }
    obtain ⟨i', hi'⟩ := hlive s' hs'
    exact hunused key i' s' rfl hi'

/-- What an establishment leaves alone, accepted or not, in the pools and in the
plane. -/
theorem tried_holdings (hnumbered : w.Numbered) (hfew : w.history.tried < UInt64.size)
    (remoteSeid : UInt64) (ops : List RuleOp) {k : String} {i : UInt64} {s : Session}
    (hs : w.ledger.live k i = some s) :
    ((w.ledger.bench (w.ledger.newcomer d remoteSeid)).carryOut ops).2.pools.holdings s.resourceKey
      = w.ledger.pools.holdings s.resourceKey :=
  w.ledger.holdings_carryOut (w.ledger.newcomer d remoteSeid) ops
    (hnumbered.resourceKey_ne_next hfew hs)

theorem tried_entries (remoteSeid : UInt64) (ops : List RuleOp) {d' : Detection}
    (hd' : d' ∉ keysFound ops (w.ledger.bench (w.ledger.newcomer d remoteSeid))) :
    ((w.ledger.bench (w.ledger.newcomer d remoteSeid)).carryOut ops).2.plane.pdrs.get? d'
      = w.ledger.plane.pdrs.get? d' := by
  refine Workbench.entries_carryOut ops ?_ hd'
  -- a new session uses no keys
  rintro ⟨id, pdr, hget, -⟩
  cases hget

theorem rejected (hnumbered : w.Numbered) {remoteSeid : UInt64} {ops : List RuleOp}
    {e : SessionError} {b : Workbench} (hdesk : w.ledger.desks.get? key = some d)
    (hwork : (w.ledger.bench (w.ledger.newcomer d remoteSeid)).carryOut ops = (.error e, b)) :
    w.Apart (Entry.tried key remoteSeid ops).Touches
      (keysFound ops (w.ledger.bench (w.ledger.newcomer d remoteSeid)))
      ⟨{ w.ledger with
          desks := w.ledger.desks.insert key d.advanced
          plane := b.plane
          pools := (w.ledger.newcomer d remoteSeid).releasePools b.pools
          nextResourceKey := w.ledger.nextResourceKey + 1 },
        { w.history with
          tried := w.history.tried + 1
          abandoned := b.session :: w.history.abandoned }⟩ := by
  obtain rfl : ((w.ledger.bench (w.ledger.newcomer d remoteSeid)).carryOut ops).2 = b := by
    rw [hwork]
  constructor
  case standing =>
    intro k i s hs _
    left
    rw [Ledger.live_insert rfl]
    split
    · next hk =>
      -- the desk goes on with the sessions that it had
      subst hk
      rwa [Ledger.live, hdesk] at hs
    · exact hs
  case holdings =>
    intro hfew k i s hs _
    have hne := hnumbered.resourceKey_ne_next hfew hs
    exact (Pools.holdings_of_rest (Pools.rest_releaseAll _ _) hne).trans
      (tried_holdings hnumbered hfew remoteSeid ops hs)
  case entries => exact fun d' hd' _ => tried_entries remoteSeid ops hd'

theorem accepted (hnumbered : w.Numbered) {remoteSeid : UInt64} {ops : List RuleOp}
    {b : Workbench} (hdesk : w.ledger.desks.get? key = some d)
    (hwork : (w.ledger.bench (w.ledger.newcomer d remoteSeid)).carryOut ops = (.ok (), b)) :
    w.Apart (Entry.tried key remoteSeid ops).Touches
      (keysFound ops (w.ledger.bench (w.ledger.newcomer d remoteSeid)))
      ⟨{ w.ledger with
          desks := w.ledger.desks.insert key (d.advanced.file b.session)
          plane := b.plane
          pools := b.pools
          nextResourceKey := w.ledger.nextResourceKey + 1 },
        { w.history with
          tried := w.history.tried + 1
          displaced := (d.sessions.get? b.session.localSeid).toList
            ++ w.history.displaced }.withDone key b.session.localSeid
          (carriedOut ops (w.ledger.bench (w.ledger.newcomer d remoteSeid)))⟩ := by
  obtain rfl : ((w.ledger.bench (w.ledger.newcomer d remoteSeid)).carryOut ops).2 = b := by
    rw [hwork]
  constructor
  case standing =>
    intro k i s hs _
    by_cases hplace : k = key
        ∧ i = ((w.ledger.bench (w.ledger.newcomer d remoteSeid)).carryOut ops).2.session.localSeid
    · -- who was under the new session's number is displaced by it
      obtain ⟨rfl, rfl⟩ := hplace
      rw [Ledger.live, hdesk] at hs
      have hget : d.sessions.get?
          ((w.ledger.bench (w.ledger.newcomer d remoteSeid)).carryOut ops).2.session.localSeid
            = some s := hs
      right
      show s ∈ (d.sessions.get? _).toList ++ w.history.displaced
      rw [hget]
      exact List.mem_append_left _ (List.mem_singleton_self s)
    · left
      rw [Ledger.live_file hdesk (show d.advanced.sessions = d.sessions from rfl) rfl hplace]
      exact hs
  case holdings => exact fun hfew k i s hs _ => tried_holdings hnumbered hfew remoteSeid ops hs
  case entries => exact fun d' hd' _ => tried_entries remoteSeid ops hd'

theorem modified (hnumbered : w.Numbered) (cp : Option FSeid) (ops : List RuleOp)
    (hdesk : w.ledger.desks.get? key = some d) (hsession : d.sessions.get? seid = some s) :
    w.Apart (Entry.modified key seid cp ops).Touches
      (keysFound ops (w.ledger.bench (s.renumbered cp)))
      ⟨w.ledger.modify key d (s.renumbered cp) ops,
        w.history.withDone key seid (w.history.done key seid
          ++ carriedOut ops (w.ledger.bench (s.renumbered cp)))⟩ := by
  have hlive := Ledger.live_of_desk hdesk hsession
  have hseid := hnumbered.filed.localSeid_modified hlive cp ops
  constructor
  case standing =>
    intro k i s' hs' hnot
    left
    have hne : ¬ (k = key
        ∧ i = ((w.ledger.bench (s.renumbered cp)).carryOut ops).2.session.localSeid) := by
      rw [hseid]
      exact hnot
    exact (Ledger.live_file hdesk rfl rfl hne).trans hs'
  case holdings =>
    intro hfew k i s' hs' hnot
    apply w.ledger.holdings_carryOut
    rw [s.resourceKey_renumbered cp]
    exact hnumbered.resourceKey_ne hfew hs' hlive hnot
  case entries =>
    intro d' hd' hunused
    refine Workbench.entries_carryOut ops ?_ hd'
    show ¬ DetectionRules.Uses (s.renumbered cp).pdrs d'
    rw [s.pdrs_renumbered cp]
    exact hunused key seid s ⟨rfl, rfl⟩ hlive

theorem deleted (hnumbered : w.Numbered) (hdesk : w.ledger.desks.get? key = some d)
    (hsession : d.sessions.get? seid = some s) :
    w.Apart (Entry.deleted key seid).Touches []
      ⟨w.ledger.delete key d seid s, w.history⟩ := by
  have hlive := Ledger.live_of_desk hdesk hsession
  constructor
  case standing =>
    intro k i s' hs' hnot
    left
    have hinsert : (w.ledger.delete key d seid s).desks
        = w.ledger.desks.insert key { d with sessions := d.sessions.erase seid } := rfl
    rw [Ledger.live_insert hinsert]
    split
    · next hk =>
      subst hk
      have hi : i ≠ seid := fun e => hnot ⟨rfl, e⟩
      rw [Table.get?_erase, if_neg hi]
      rwa [Ledger.live, hdesk] at hs'
    · exact hs'
  case holdings =>
    intro hfew k i s' hs' hnot
    exact Pools.holdings_of_rest (w.ledger.pools.rest_releaseAll s.resourceKey)
      (hnumbered.resourceKey_ne hfew hs' hlive hnot)
  case entries =>
    exact fun d' _ hunused =>
      s.entries_teardown w.ledger.plane (hunused key seid s ⟨rfl, rfl⟩ hlive)

/-- A desk that is opened afterwards changes nothing more. -/
theorem then_opened (h : w.Apart touched found w') (key : String) :
    w.Apart touched found (w'.enter (.opened key)) := by
  have henter : (w'.enter (.opened key)).history = w'.history := rfl
  unfold enter Ledger.enter
  dsimp only
  cases hdesk : w'.ledger.desks.get? key with
  | some d => exact ⟨h.standing, h.holdings, h.entries⟩
  | none =>
    refine ⟨fun k i s hs hnot => ?_, h.holdings, h.entries⟩
    rcases h.standing k i s hs hnot with hlive | hdisplaced
    · exact ((opened hdesk).standing k i s hlive id)
    · exact .inr hdisplaced

end Apart

/-- **Every entry** leaves alone what it is not about. -/
theorem apart_enter (hnumbered : w.Numbered) (e : Entry) :
    w.Apart e.Touches (e.found w.ledger) (w.enter e) := by
  -- one case per entry, along the lookups that it makes
  cases e with
  | opened key => exact (Apart.refl _ _ w).then_opened key
  | closed key =>
    unfold enter Ledger.enter History.enter
    dsimp only
    cases hdesk : w.ledger.desks.get? key with
    | some d => exact .closed hnumbered hdesk
    | none => exact .refl _ _ w
  | tried key remoteSeid ops =>
    unfold enter Ledger.enter History.enter Entry.found
    dsimp only
    cases hdesk : w.ledger.desks.get? key with
    | none => exact .refl _ _ w
    | some d =>
      dsimp only
      unfold Ledger.attempt History.attempt
      dsimp only
      cases hwork : (w.ledger.bench (w.ledger.newcomer d remoteSeid)).carryOut ops with
      | mk result b =>
        cases result with
        | error e => exact .rejected hnumbered hdesk hwork
        | ok u => exact .accepted hnumbered hdesk hwork
  | modified key seid cp ops =>
    unfold enter Ledger.enter History.enter Entry.found Ledger.live
    dsimp only
    cases hdesk : w.ledger.desks.get? key with
    | none => exact .refl _ _ w
    | some d =>
      dsimp only [Option.bind_some]
      cases hsession : d.sessions.get? seid with
      | none => exact .refl _ _ w
      | some s => exact .modified hnumbered cp ops hdesk hsession
  | deleted key seid =>
    unfold enter Ledger.enter History.enter
    dsimp only
    cases hdesk : w.ledger.desks.get? key with
    | none => exact .refl _ _ w
    | some d =>
      dsimp only
      cases hsession : d.sessions.get? seid with
      | none => exact .refl _ _ w
      | some s => exact .deleted hnumbered hdesk hsession

/-- No entry takes back that sessions were tried. -/
theorem Move.tried_le (h : w.Move w') : w.history.tried ≤ w'.history.tried := by
  cases h with
  | rejected => exact Nat.le_succ _
  | accepted => exact Nat.le_succ _
  | _ => exact Nat.le_refl _

/-- What a session that stands or was displaced has in a slot is still there. -/
theorem slot_kept {α β : Type} (rules : Session → Table UInt32 β) (share : β → Nat × α)
    {slots slots' : Slots α} {size : Nat} {x : β} {id : UInt32}
    (h : slots.Stocked size (w.recorded fun s => (rules s).stock share))
    (h' : slots'.Stocked size (w'.recorded fun s => (rules s).stock share))
    (hlive : w.ledger.live key seid = some s)
    (hstands : w'.ledger.live key seid = some s ∨ s ∈ w'.history.displaced)
    (hx : (rules s).get? id = some x) :
    slots'.get? (share x).1 = slots.get? (share x).1 := by
  have hmem : share x ∈ (rules s).stock share := (Table.mem_stock _ _ _).mpr ⟨id, x, hx, rfl⟩
  have hbefore : slots.get? (share x).1 = some (share x).2 :=
    h.mem_iff.mp (Multiset.mem_add.mpr
      (.inl ((Ledger.mem_total_iff _ _ _).mpr ⟨key, seid, s, hlive, hmem⟩)))
  have hafter : slots'.get? (share x).1 = some (share x).2 := by
    refine h'.mem_iff.mp (Multiset.mem_add.mpr (hstands.imp (fun hs => ?_) fun hs => ?_))
    · exact (Ledger.mem_total_iff _ _ _).mpr ⟨key, seid, s, hs, hmem⟩
    · exact (Table.mem_sum_map _ _ _).mpr ⟨s, List.mem_append_right _ hs, hmem⟩
  rw [hbefore, hafter]

end Books

/-! ## §4. What a message is about. -/

/-- The sessions that a message is about: of its sender's association, the one
that the header names if the message is about a session, and all if it is not.
A session that is to be established is not there yet. -/
def Message.Touches (header : Header) (src : SocketAddress) (m : Message) (key : String)
    (seid : UInt64) : Prop :=
  key = associationKey src ∧
    match m with
    | .sessionEstablishmentRequest _ => False
    | .sessionModificationRequest _ | .sessionDeletionRequest _
    | .sessionEstablishmentResponse _ | .sessionModificationResponse _
    | .sessionDeletionResponse _ => seid = header.seid.getD 0
    | _ => True

/-- The keys that a message's request finds for detection rules. -/
def Message.found (n : Node) (header : Header) (src : SocketAddress) : Message → List Detection
  | .sessionEstablishmentRequest m =>
    match m.nodeId, m.cpFSeid, n.associationWith src with
    | some _, some cp, some a => keysFound m.ops (n.bench (n.newcomer a cp.seid))
    | _, _, _ => []
  | .sessionModificationRequest m =>
    match n.live (associationKey src) (header.seid.getD 0) with
    | some s => keysFound m.ops (n.bench (s.renumbered m.cpFSeid))
    | none => []
  | _ => []

/-- The sessions that a message cut off a datagram is about. -/
def Header.Cut.Touches (src : SocketAddress) (c : Header.Cut) (key : String) (seid : UInt64) :
    Prop :=
  ∃ m, Message.decode c.header.type c.body = .ok m ∧ m.Touches c.header src key seid

/-- The keys that a message cut off a datagram finds for detection rules. -/
def Header.Cut.found (n : Node) (src : SocketAddress) (c : Header.Cut) : List Detection :=
  match Message.decode c.header.type c.body with
  | .ok m => m.found n c.header src
  | .error _ => []

namespace Books

variable {w : Books} {n : Node}

/-- **A message** leaves alone what it is not about. -/
theorem apart_message (hledger : w.ledger = n.ledger) (hnumbered : w.Numbered) (header : Header)
    (src : SocketAddress) (m : Message) :
    w.Apart (m.Touches header src) (m.found n header src) (w.after (m.entries header src)) := by
  cases m with
  | associationSetupRequest m =>
    unfold Message.entries
    dsimp only
    cases m.nodeId with
    | none => exact .refl _ _ w
    | some id =>
      exact ((apart_enter hnumbered (.closed (associationKey src))).then_opened _).mono
        fun key seid ht => ⟨ht, trivial⟩
  | associationSetupResponse m =>
    unfold Message.entries
    dsimp only
    split
    · exact (apart_enter hnumbered (.opened (associationKey src))).mono fun _ _ ht => ht.elim
    · exact .refl _ _ w
  | associationReleaseRequest m =>
    unfold Message.entries
    dsimp only
    cases m.nodeId with
    | none => exact .refl _ _ w
    | some id =>
      exact (apart_enter hnumbered (.closed (associationKey src))).mono
        fun key seid ht => ⟨ht, trivial⟩
  | sessionEstablishmentRequest m =>
    unfold Message.entries Message.found
    dsimp only
    cases m.nodeId with
    | none => exact .refl _ _ w
    | some id =>
      cases m.cpFSeid with
      | none => exact .refl _ _ w
      | some cp =>
        have hapart := apart_enter hnumbered (.tried (associationKey src) cp.seid m.ops)
        unfold Entry.found at hapart
        dsimp only at hapart
        rw [hledger, Node.get?_desks] at hapart
        unfold Node.associationWith
        cases hget : n.associations.get? (associationKey src) <;>
        · rw [hget] at hapart
          exact hapart.mono fun _ _ ht => ht.elim
  | sessionModificationRequest m =>
    have hapart := apart_enter hnumbered
      (.modified (associationKey src) (header.seid.getD 0) m.cpFSeid m.ops)
    unfold Entry.found at hapart
    dsimp only at hapart
    rw [hledger, Node.live_ledger] at hapart
    unfold Message.entries Message.found
    dsimp only
    cases hlive : n.live (associationKey src) (header.seid.getD 0) <;>
    · rw [hlive] at hapart
      exact hapart.mono fun _ _ ht => ht
  | sessionDeletionRequest m =>
    exact (apart_enter hnumbered (.deleted (associationKey src) (header.seid.getD 0))).mono
      fun _ _ ht => ht
  | _ => exact .refl _ _ w

theorem apart_cut (hledger : w.ledger = n.ledger) (hnumbered : w.Numbered) (src : SocketAddress)
    (c : Header.Cut) :
    w.Apart (c.Touches src) (c.found n src) (w.after (c.entries src)) := by
  unfold Header.Cut.entries Header.Cut.found
  cases hdecode : Message.decode c.header.type c.body with
  | error e => exact .refl _ _ w
  | ok m =>
    exact (apart_message hledger hnumbered c.header src m).mono fun _ _ ht => ⟨m, hdecode, ht⟩

theorem apart_failure (hnumbered : w.Numbered) (key : String) (timer : UInt64) :
    w.Apart (fun k _ => k = key) [] (w.after (n.failureEntries key timer)) := by
  unfold Node.failureEntries
  split
  · split
    · exact apart_enter hnumbered (.closed key)
    · exact .refl _ _ w
  · exact .refl _ _ w

end Books

/-! ## §5. Every node that can be reached. -/

/-- **Nobody else is disturbed**: from one state to the other nothing changed
outside the association under a key, of the slots those of sessions that were
touched, and of the other entries of the plane those under keys that were found
or that touched sessions used. -/
structure Node.Unaffected (n n' : Node) (key : String) (touched : String → UInt64 → Prop)
    (found : List Detection) : Prop where
  associations : ∀ k, k ≠ key → n'.associations.get? k = n.associations.get? k
  fars : ∀ k i s, n.live k i = some s → ¬ touched k i →
    ∀ id far, s.fars.get? id = some far → n'.plane.fars.get? far.slot = n.plane.fars.get? far.slot
  qers : ∀ k i s, n.live k i = some s → ¬ touched k i →
    ∀ id qer, s.qers.get? id = some qer → n'.plane.qers.get? qer.slot = n.plane.qers.get? qer.slot
  pdrs : ∀ d, d ∉ found →
    (∀ k i s, n.live k i = some s → touched k i → ¬ DetectionRules.Uses s.pdrs d) →
    n'.plane.pdrs.get? d = n.plane.pdrs.get? d

/-- **Nobody else is lost**: sessions that were not touched are live as they
were, and hold what they held. -/
def Node.Kept (n n' : Node) (touched : String → UInt64 → Prop) : Prop :=
  ∀ k i s, n.live k i = some s → ¬ touched k i →
    n'.live k i = some s ∧ n'.pools.holdings s.resourceKey = n.pools.holdings s.resourceKey

namespace Node

variable {c : Config} {startup : Int} {heartbeats : Bool} {n : Node}

theorem callBooks_stocked (h : Node.start c startup heartbeats = .ok n) (cs : List Call) :
    (n.callBooks cs).Numbered
      ∧ (n.callBooks cs).Stocked c.farMapSize.toNat c.qerMapSize.toNat := by
  refine callBooks_induction (P := fun w => w.Numbered ∧ w.Stocked _ _) (fun w e hw => ?_)
    ⟨numbered_start h, stocked_start h⟩ cs
  have hmove := w.move_enter e
  exact ⟨hmove.numbered hw.1, hmove.stocked hw.1.filed hw.2⟩

theorem tried_le_after (w : Books) (es : List Entry) :
    w.history.tried ≤ (w.after es).history.tried :=
  Books.holds_after (P := fun w' => w.history.tried ≤ w'.history.tried)
    (fun w' e hw => hw.trans (w'.move_enter e).tried_le) es (Nat.le_refl _)

/-- What a call leaves alone in the books it leaves alone in the node. -/
theorem unaffected_of_apart (h : Node.start c startup heartbeats = .ok n) (cs : List Call)
    (call : Call) {key : String} {touched : String → UInt64 → Prop} {found : List Detection}
    (hspared : (n.calls cs).Spared key ((n.calls cs).call call))
    (hapart : (n.callBooks cs).Apart touched found
      ((n.callBooks cs).after ((n.calls cs).callEntries call))) :
    (n.calls cs).Unaffected (n.calls (cs ++ [call])) key touched found
    ∧ ((n.callHistory (cs ++ [call])).tried < UInt64.size →
      (n.calls cs).Kept (n.calls (cs ++ [call])) touched) := by
  obtain ⟨hnumbered, hstocked⟩ := callBooks_stocked h cs
  obtain ⟨hnumbered', hstocked'⟩ := callBooks_stocked h (cs ++ [call])
  have hledger := n.ledger_callBooks cs
  have hledger' := n.ledger_callBooks (cs ++ [call])
  have htried := tried_le_after (n.callBooks cs) ((n.calls cs).callEntries call)
  rw [← callBooks_concat] at hapart htried
  have hlive : ∀ {k i s}, (n.calls cs).live k i = some s →
      (n.callBooks cs).ledger.live k i = some s := by
    intro k i s hs
    rwa [hledger, live_ledger]
  have hplane : (n.callBooks cs).ledger.plane = (n.calls cs).plane := congrArg (·.plane) hledger
  have hplane' : (n.callBooks (cs ++ [call])).ledger.plane = (n.calls (cs ++ [call])).plane :=
    congrArg (·.plane) hledger'
  constructor
  · constructor
    case associations =>
      rw [calls_concat]
      exact hspared.others
    case fars =>
      intro k i s hs hnot id far hfar
      rw [← hplane, ← hplane']
      exact Books.slot_kept Session.fars SessionFar.share hstocked.fars
        hstocked'.fars (hlive hs) (hapart.standing k i s (hlive hs) hnot) hfar
    case qers =>
      intro k i s hs hnot id qer hqer
      rw [← hplane, ← hplane']
      exact Books.slot_kept Session.qers SessionQer.share hstocked.qers
        hstocked'.qers (hlive hs) (hapart.standing k i s (hlive hs) hnot) hqer
    case pdrs =>
      intro d hd hunused
      rw [← hplane, ← hplane']
      refine hapart.entries d hd fun k i s ht hs => hunused k i s ?_ ht
      rwa [hledger, live_ledger] at hs
  · intro hfew k i s hs hnot
    have hpools : (n.callBooks cs).ledger.pools = (n.calls cs).pools := congrArg (·.pools) hledger
    have hpools' : (n.callBooks (cs ++ [call])).ledger.pools = (n.calls (cs ++ [call])).pools :=
      congrArg (·.pools) hledger'
    rw [← hpools, ← hpools']
    refine ⟨?_, hapart.holdings (Nat.lt_of_le_of_lt htried hfew) k i s (hlive hs) hnot⟩
    -- before the numbers are used up nobody is displaced
    rcases hapart.standing k i s (hlive hs) hnot with hstands | hdisplaced
    · rwa [hledger', live_ledger] at hstands
    · rw [hnumbered'.displaced hfew] at hdisplaced
      cases hdisplaced

/-- **Peers and sessions do not interfere.**  In every node that can be reached
a message leaves every association but its sender's as it is, every slot of a
session that it is not about, and every entry of the plane but those under keys
that it finds for a rule or that a session it is about used; and as long as
fewer than 2⁶⁴ establishments have been tried every session that it is not about
stays live as it is, and holds what it held.  The same goes for a heartbeat that
stays unanswered.  Associations are told apart by the addresses of the peers. -/
theorem no_interference (h : Node.start c startup heartbeats = .ok n) (cs : List Call) :
    (∀ src cut,
      (n.calls cs).Unaffected (n.calls (cs ++ [.message src cut])) (associationKey src)
          (cut.Touches src) (cut.found (n.calls cs) src)
        ∧ ((n.callHistory (cs ++ [.message src cut])).tried < UInt64.size →
          (n.calls cs).Kept (n.calls (cs ++ [.message src cut])) (cut.Touches src)))
    ∧ (∀ key timer,
      (n.calls cs).Unaffected (n.calls (cs ++ [.heartbeatFailed key timer])) key
          (fun k _ => k = key) []
        ∧ ((n.callHistory (cs ++ [.heartbeatFailed key timer])).tried < UInt64.size →
          (n.calls cs).Kept (n.calls (cs ++ [.heartbeatFailed key timer])) fun k _ => k = key))
    ∧ ∀ a b : SocketAddress, associationKey a = associationKey b → a.ip = b.ip := by
  have hnumbered := (callBooks_stocked h cs).1
  refine ⟨fun src cut => ?_, fun key timer => ?_, fun a b => associationKey_injective⟩
  · exact unaffected_of_apart h cs (.message src cut) (spares_treatCut src cut _)
      (Books.apart_cut (n.ledger_callBooks cs) hnumbered src cut)
  · exact unaffected_of_apart h cs (.heartbeatFailed key timer) (spares_recordFailure key timer _)
      (Books.apart_failure hnumbered key timer)

open Event in
/-- What the peer asks for when it asks for no rules. -/
def bare : SessionEstablishmentRequest :=
  ⟨some (.ofIp peer.ip), some (.ofIp peer.ip 1), [], [], []⟩

open Event in
theorem bare_request : ∃ cut, (establishment [] []).calls = [.message peer cut]
    ∧ Message.decode cut.header.type cut.body = .ok (.sessionEstablishmentRequest bare) :=
  message_of_check peer (by decide +kernel)

open Event in
/-- An establishment without rules is one message, which is about nobody that is
there. -/
theorem bare_message : ∃ cut, (establishment [] []).calls = [.message peer cut]
    ∧ ∀ k i, ¬ cut.Touches peer k i := by
  obtain ⟨cut, hcut, hdecode⟩ := bare_request
  refine ⟨cut, hcut, ?_⟩
  rintro k i ⟨m, hm, ht⟩
  cases hdecode.symm.trans hm
  exact ht.2

open Event in
/-- A first session stays as it is through the establishment of a second. -/
theorem no_interference_second : Node.start {} 0 false = .ok standard
    ∧ ∃ cut s, (establishment [] []).calls = [.message peer cut]
      ∧ (standard.calls ([setup, first].flatMap Event.calls)).live "10.0.0.1" 1 = some s
      ∧ (standard.calls ([setup, first].flatMap Event.calls ++ [.message peer cut])).live
        "10.0.0.1" 1 = some s := by
  obtain ⟨cut, hcut, hnobody⟩ := bare_message
  have hthere : ((standard.run [setup, first]).live "10.0.0.1" 1).isSome = true := by
    decide +kernel
  have hfew : (standard.history [setup, first, establishment [] []]).tried < UInt64.size := by
    decide +kernel
  have hcalls : [setup, first, establishment [] []].flatMap Event.calls
      = [setup, first].flatMap Event.calls ++ [.message peer cut] := by
    simp only [List.flatMap_cons, List.flatMap_nil, List.append_nil, hcut, List.append_assoc]
  rw [history, books_eq_callBooks, hcalls] at hfew
  rw [run_eq_calls] at hthere
  obtain ⟨s, hs⟩ := Option.isSome_iff_exists.mp hthere
  have hkept := ((no_interference start_standard _).1 peer cut).2 hfew
  exact ⟨start_standard, cut, s, hcut, hs, (hkept _ _ s hs (hnobody _ _)).1⟩

open Event in
/-- Once the numbers are used up, an establishment can take the place of a live
session that it is not about. -/
theorem session_displaced : ∃ cs cut s s', (establishment [] []).calls = [.message peer cut]
    ∧ ¬ cut.Touches peer "10.0.0.1" 1
    ∧ (standard.calls cs).live "10.0.0.1" 1 = some s ∧ s.fars.contains 1 = true
    ∧ (standard.calls (cs ++ [.message peer cut])).live "10.0.0.1" 1 = some s'
    ∧ s'.fars = .empty := by
  obtain ⟨cut, hcut, hnobody⟩ := bare_message
  obtain ⟨count, sessions, hworn⟩ := worn_spec
  -- the books before the last establishment, and after it
  have hbefore : (standard.books [setup, first]).after
      (List.replicate count (.tried "10.0.0.1" 1 [.createPdr blind]))
        = standard.books ([setup, first] ++ List.replicate count (establishment [blind] [])) := by
    rw [books_append, trace_replicate entries_blind]
  have hafter := books_wrapping count
  rw [hbefore] at hworn hafter
  have hledger := standard.ledger_books
    ([setup, first] ++ List.replicate count (establishment [blind] []))
  have hledger' := standard.ledger_books (wrapping count)
  have hcalls : (wrapping count).flatMap Event.calls
      = ([setup, first] ++ List.replicate count (establishment [blind] [])).flatMap Event.calls
        ++ [.message peer cut] := by
    unfold wrapping
    rw [← List.append_assoc, List.flatMap_append]
    simp only [List.flatMap_cons, List.flatMap_nil, List.append_nil, hcut]
  rw [run_eq_calls] at hledger hledger'
  rw [hcalls] at hledger'
  generalize standard.books ([setup, first] ++ List.replicate count (establishment [blind] []))
    = w at *
  obtain ⟨hdesk, ⟨s, hs, hrule⟩, -⟩ := hworn
  rw [enter_bare hdesk] at hafter
  refine ⟨([setup, first] ++ List.replicate count (establishment [blind] [])).flatMap Event.calls,
    cut, s, w.ledger.newcomer ⟨1, sessions⟩ 1, hcut, hnobody _ _, ?_, hrule, ?_, rfl⟩
  · rw [← live_ledger, ← hledger]
    exact Ledger.live_of_desk hdesk hs
  · rw [← live_ledger, ← hledger', hafter]
    show (w.ledger.attempt "10.0.0.1" ⟨1, sessions⟩ 1 []).live "10.0.0.1" 1 = _
    have hdesks : (w.ledger.attempt "10.0.0.1" ⟨1, sessions⟩ 1 []).desks
        = w.ledger.desks.insert "10.0.0.1" ((Desk.advanced ⟨1, sessions⟩).file
          (w.ledger.newcomer ⟨1, sessions⟩ 1)) := rfl
    rw [Ledger.live_insert hdesks, if_pos rfl]
    show (sessions.insert 1 _).get? 1 = _
    rw [Table.get?_insert, if_pos rfl]

end Node

end UserPlane
