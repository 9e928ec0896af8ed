/-
  UserPlane.Proofs.Node.Holdings
  ──────────────────────────────
  **WHO HOLDS ADDRESSES AND TUNNEL IDS.**

  What is handed out is recorded under the key of a session, and a session
  gives all of it back when it ends, or when its establishment is rejected.
  So there is nothing under a key unless a live session has it, or a session
  whose number was given to another; before the numbers are used up there are
  none of these, and live sessions have keys of their own.

      Books.Held        holders and capacities
      Books.Move.held   every entry keeps them
      Node.no_leak      what follows for every node that can be reached
-/
import UserPlane.Proofs.Node.Numbering

namespace UserPlane

/-! ## §1. Pools. -/

namespace Pools

variable {p p' : Pools} {key : UInt64}

/-- How much the pools have in all, addresses and tunnel ids. -/
def capacities (p : Pools) : Nat × Nat := (p.ipv4.capacity, p.teids.capacity)

theorem capacities_of_rest (h : p'.rest key = p.rest key) : p'.capacities = p.capacities :=
  congrArg (fun r : Rest => (r.ipv4Capacity, r.teidCapacity)) h

/-- What is busy after work in the name of a key was busy before, or is that
key. -/
theorem busy_of_rest (h : p'.rest key = p.rest key) {k : UInt64} (hbusy : p'.Busy k) :
    k = key ∨ p.Busy k := by
  by_cases hk : k = key
  · exact .inl hk
  · exact .inr ((busy_iff_of_rest h hk).mp hbusy)

/-- Of a pool with a given capacity as much is free as is not held. -/
theorem freeIpv4_eq (h : p'.capacities = p.capacities) (hheld : p'.ipv4.held = p.ipv4.held) :
    p'.freeIpv4 = p.freeIpv4 := by
  have hcapacity : p'.ipv4.capacity = p.ipv4.capacity := congrArg Prod.fst h
  unfold AddressPool.capacity at hcapacity
  rw [hheld] at hcapacity
  unfold freeIpv4
  rw [Cursor.remaining_eq, Cursor.remaining_eq, Nat.add_right_cancel hcapacity]

theorem freeTeids_eq (h : p'.capacities = p.capacities) (hheld : p'.teids.held = p.teids.held) :
    p'.freeTeids = p.freeTeids := by
  have hcapacity : p'.teids.capacity = p.teids.capacity := congrArg Prod.snd h
  unfold TeidPool.capacity at hcapacity
  rw [hheld] at hcapacity
  unfold freeTeids
  rw [Cursor.remaining_eq, Cursor.remaining_eq, Nat.add_right_cancel hcapacity]

/-- Pools where nothing is busy hold nothing. -/
theorem held_of_idle (h : ∀ k, ¬ p.Busy k) :
    p.ipv4.held = .empty ∧ p.teids.held = .empty :=
  ⟨Table.eq_empty_of_not_contains fun k hk => h k (.inl hk),
    Table.eq_empty_of_not_contains fun k hk => h k (.inr (.inr hk))⟩

/-- Work in the name of a key that holds nothing, before and after, leaves what
is held as it was. -/
theorem held_of_rest (h : p'.rest key = p.rest key) (hidle : ¬ p.Busy key)
    (hidle' : ¬ p'.Busy key) : p'.ipv4.held = p.ipv4.held ∧ p'.teids.held = p.teids.held := by
  have hipv4 : p'.ipv4.held.erase key = p.ipv4.held.erase key := congrArg Rest.ipv4 h
  have hteids : p'.teids.held.erase key = p.teids.held.erase key := congrArg Rest.teids h
  rw [Table.erase_of_not_contains fun hk => hidle' (.inl hk),
    Table.erase_of_not_contains fun hk => hidle (.inl hk)] at hipv4
  rw [Table.erase_of_not_contains fun hk => hidle' (.inr (.inr hk)),
    Table.erase_of_not_contains fun hk => hidle (.inr (.inr hk))] at hteids
  exact ⟨hipv4, hteids⟩

end Pools

/-! ## §2. Holders. -/

namespace Books

/-- The keys of the live sessions, and of those whose number was given to
another. -/
def holders (w : Books) : Multiset UInt64 :=
  w.ledger.total Session.key + (w.history.displaced.map Session.key).sum

/-- What is handed out is held by holders, and the pools have as much in all as
ever. -/
structure Held (w : Books) (capacities : Nat × Nat) : Prop where
  busy : ∀ k, w.ledger.pools.Busy k → k ∈ w.holders
  capacities : w.ledger.pools.capacities = capacities

end Books

theorem Session.mem_key (s : Session) (k : UInt64) : k ∈ s.key ↔ k = s.resourceKey :=
  Multiset.mem_singleton

/-- A session that gives all back leaves nothing under its key. -/
theorem Ledger.busy_release (l : Ledger) (s : Session) (k : UInt64) :
    (l.release s).pools.Busy k ↔ k ∉ s.key ∧ l.pools.Busy k := by
  rw [s.mem_key]
  exact l.pools.busy_releaseAll s.resourceKey k

theorem Ledger.capacities_release (l : Ledger) (s : Session) :
    (l.release s).pools.capacities = l.pools.capacities :=
  Pools.capacities_of_rest (l.pools.rest_releaseAll s.resourceKey)

theorem Ledger.foldl_release_held (sessions : List Session) (l : Ledger) :
    (∀ k, (sessions.foldl release l).pools.Busy k →
      k ∉ (sessions.map Session.key).sum ∧ l.pools.Busy k)
    ∧ (sessions.foldl release l).pools.capacities = l.pools.capacities := by
  induction sessions generalizing l with
  | nil => exact ⟨fun k hk => ⟨Multiset.notMem_zero k, hk⟩, rfl⟩
  | cons s sessions ih =>
    obtain ⟨hbusy, hcapacities⟩ := ih (l.release s)
    refine ⟨?_, hcapacities.trans (l.capacities_release s)⟩
    intro k hk
    obtain ⟨hnot, hbefore⟩ := hbusy k hk
    obtain ⟨hkey, hbefore⟩ := (l.busy_release s k).mp hbefore
    rw [List.map_cons, List.sum_cons, Multiset.mem_add]
    exact ⟨not_or.mpr ⟨hkey, hnot⟩, hbefore⟩

namespace Books

variable {w w' : Books} {capacities : Nat × Nat}

/-- **Every entry keeps holders and capacities.** -/
theorem Move.held (hmove : w.Move w') (hfiled : w.ledger.Filed) (h : w.Held capacities) :
    w'.Held capacities := by
  obtain ⟨hbusy, hcapacities⟩ := h
  unfold holders at hbusy
  cases hmove with
  | idle => exact ⟨hbusy, hcapacities⟩
  | @opened key hdesk =>
    refine ⟨?_, hcapacities⟩
    intro k hk
    rw [holders, Ledger.total_opened _ hdesk rfl]
    exact hbusy k hk
  | @closed key d hdesk =>
    obtain ⟨hreleased, hcapacities'⟩ := Ledger.foldl_release_held d.sessions.values
      { w.ledger with desks := w.ledger.desks.erase key }
    refine ⟨?_, hcapacities'.trans hcapacities⟩
    intro k hk
    -- a busy key is a holder's, but none of those that are released
    obtain ⟨hnot, hbefore⟩ := hreleased k hk
    have hmem := hbusy k hbefore
    rw [Ledger.total_closed _ hdesk (Ledger.desks_close w.ledger key d), add_assoc] at hmem
    unfold Desk.total at hmem
    rw [← Table.sum_values] at hmem
    exact (Multiset.mem_add.mp hmem).resolve_left hnot
  | @rejected key d remoteSeid ops e b hdesk hwork =>
    have hrest := w.ledger.rest_carryOut (w.ledger.newcomer d remoteSeid) ops
    rw [hwork] at hrest
    -- the session's own key is given back, and no other was touched
    have hreleased := b.pools.rest_releaseAll (w.ledger.newcomer d remoteSeid).resourceKey
    refine ⟨?_, (Pools.capacities_of_rest (hreleased.trans hrest)).trans hcapacities⟩
    intro k hk
    rw [holders, Ledger.total_advanced _ hdesk rfl]
    obtain ⟨hne, hk⟩ := (b.pools.busy_releaseAll _ k).mp hk
    exact hbusy k ((Pools.busy_of_rest hrest hk).resolve_left hne)
  | @accepted key d remoteSeid ops b hdesk hwork =>
    have hrest := w.ledger.rest_carryOut (w.ledger.newcomer d remoteSeid) ops
    have hkey := w.ledger.key_carryOut (w.ledger.newcomer d remoteSeid) ops
    rw [hwork] at hrest hkey
    refine ⟨?_, (Pools.capacities_of_rest hrest).trans hcapacities⟩
    intro k hk
    have htotal : ∀ l' : Ledger,
        l'.desks = w.ledger.desks.insert key (d.advanced.file b.session) →
        l'.total Session.key
          = b.session.key + w.ledger.totalOthers key d b.session.localSeid Session.key :=
      fun l' hdesks => Ledger.total_filed _ d d.advanced rfl hdesks
    rw [holders, htotal _ rfl]
    dsimp only [History.withDone]
    rw [List.map_append, List.sum_append]
    rcases Pools.busy_of_rest hrest hk with rfl | hbefore
    · -- the new session holds it
      have hmem : (w.ledger.newcomer d remoteSeid).resourceKey ∈ b.session.key := by
        rw [hkey]
        exact Multiset.mem_singleton_self _
      simp only [Multiset.mem_add, hmem, true_or]
    · -- who held it does so still, or is displaced now
      have hmem := hbusy k hbefore
      rw [Ledger.total_split _ hdesk b.session.localSeid] at hmem
      simp only [Multiset.mem_add] at hmem ⊢
      tauto
  | @modified key d seid s cp ops hdesk hsession =>
    have hrest := w.ledger.rest_carryOut (s.renumbered cp) ops
    refine ⟨?_, (Pools.capacities_of_rest hrest).trans hcapacities⟩
    intro k hk
    show k ∈ (w.ledger.modify key d (s.renumbered cp) ops).total Session.key
      + (w.history.displaced.map Session.key).sum
    rw [Ledger.total_key_modify hfiled hdesk hsession]
    rcases Pools.busy_of_rest hrest hk with rfl | hbefore
    · -- the session was a holder before
      rw [Ledger.total_of_session _ hdesk hsession, ← s.key_renumbered cp]
      simp [Session.mem_key]
    · exact hbusy k hbefore
  | @deleted key d seid s hdesk hsession =>
    -- the session gives back what it holds, and is no holder any more
    constructor
    · intro k hk
      obtain ⟨hnot, hbefore⟩ := (Ledger.busy_release _ s k).mp hk
      have hmem := hbusy k hbefore
      rw [Ledger.total_of_session _ hdesk hsession, add_assoc] at hmem
      rw [holders, Ledger.total_erased _ rfl]
      exact (Multiset.mem_add.mp hmem).resolve_left hnot
    · exact (Ledger.capacities_release _ s).trans hcapacities

end Books

/-! ## §3. Rejected establishments. -/

namespace Books

variable {w : Books} {capacities : Nat × Nat}

/-- The key that is given out next holds nothing. -/
theorem Held.idle_next (h : w.Held capacities) (hnumbered : w.Numbered)
    (hfew : w.history.tried < UInt64.size) : ¬ w.ledger.pools.Busy w.ledger.nextResourceKey := by
  intro hbusy
  have hmem := h.busy _ hbusy
  rw [holders, hnumbered.displaced hfew] at hmem
  exact hnumbered.next_not_mem hfew (by simpa using hmem)

/-- **A rejected establishment** leaves the free counts as they were. -/
theorem Held.free_rejected (h : w.Held capacities) (hnumbered : w.Numbered)
    (hfew : w.history.tried < UInt64.size) (d : Desk) (remoteSeid : UInt64) (ops : List RuleOp) :
    let s := w.ledger.newcomer d remoteSeid
    let pools := s.releasePools ((w.ledger.bench s).carryOut ops).2.pools
    pools.freeIpv4 = w.ledger.pools.freeIpv4 ∧ pools.freeTeids = w.ledger.pools.freeTeids := by
  intro s pools
  have hidle : ¬ w.ledger.pools.Busy s.resourceKey := h.idle_next hnumbered hfew
  have hidle' : ¬ pools.Busy s.resourceKey := fun hbusy =>
    ((Pools.busy_releaseAll _ _ _).mp hbusy).1 rfl
  -- the session's key holds nothing before and after, and no other key is touched
  have hrest : pools.rest s.resourceKey = w.ledger.pools.rest s.resourceKey :=
    (Pools.rest_releaseAll _ s.resourceKey).trans (w.ledger.rest_carryOut s ops)
  obtain ⟨hipv4, hteids⟩ := Pools.held_of_rest hrest hidle hidle'
  exact ⟨Pools.freeIpv4_eq (Pools.capacities_of_rest hrest) hipv4,
    Pools.freeTeids_eq (Pools.capacities_of_rest hrest) hteids⟩

end Books

/-! ## §4. Every node that can be reached. -/

namespace Node

variable {c : Config} {startup : Int} {heartbeats : Bool} {n : Node}

theorem held_start (h : Node.start c startup heartbeats = .ok n) :
    n.newBooks.Held n.pools.capacities := by
  obtain ⟨-, -, -, hipv4, hipv6, hteids⟩ := start_spec h
  refine ⟨?_, rfl⟩
  intro k hk
  have hbusy : n.pools.Busy k := hk
  unfold Pools.Busy at hbusy
  rw [hipv4, hipv6, hteids] at hbusy
  simp [Table.contains] at hbusy

theorem books_held (h : Node.start c startup heartbeats = .ok n) (events : List Event) :
    (n.books events).Numbered ∧ (n.books events).Held n.pools.capacities := by
  refine books_induction (P := fun w => w.Numbered ∧ w.Held _) (fun w e hw => ?_)
    ⟨numbered_start h, held_start h⟩ events
  have hmove := w.move_enter e
  exact ⟨hmove.numbered hw.1, hmove.held hw.1.filed hw.2⟩

/-- An establishment that is not accepted changes nothing, or is tried and
rejected. -/
theorem pools_of_not_accepted {header : Header} {request : SessionEstablishmentRequest}
    {src : SocketAddress} {reply : Reply}
    (hreply : ((handleSessionEstablishment header request src).run n).1 = some reply)
    (hcause : reply.message.cause? ≠ some .requestAccepted) :
    ((handleSessionEstablishment header request src).run n).2.pools = n.pools
    ∨ ∃ d cp, ((handleSessionEstablishment header request src).run n).2.pools
      = (n.ledger.newcomer d cp).releasePools
        ((n.ledger.bench (n.ledger.newcomer d cp)).carryOut request.ops).2.pools := by
  rcases handleSessionEstablishment_cases header src n request with
    ⟨cause, seid, -, hrun⟩ | ⟨id, cp, a, -, -, -, hrun⟩
  · rw [hrun]
    exact .inl rfl
  · rw [hrun, establish_run] at hreply
    rw [hrun, establish_run]
    refine .inr ⟨a.desk, cp.seid, ?_⟩
    have hbench : n.ledger.bench (n.ledger.newcomer a.desk cp.seid)
        = n.bench (n.newcomer a cp.seid) := rfl
    rw [hbench]
    dsimp only at hreply ⊢
    cases hwork : (n.bench (n.newcomer a cp.seid)).carryOut request.ops with
    | mk result b =>
      rw [hwork] at hreply
      cases result with
      | error e => rfl
      | ok u =>
        -- an establishment that went through is accepted
        cases hreply
        exact absurd rfl hcause

/-- What is handed out is held by a live session, or by one whose number was
given to another. -/
theorem holder_of_busy (h : Node.start c startup heartbeats = .ok n) (events : List Event)
    {k : UInt64} (hk : (n.run events).pools.Busy k) :
    (∃ key seid s, (n.run events).live key seid = some s ∧ s.resourceKey = k)
      ∨ ∃ s ∈ (n.history events).displaced, s.resourceKey = k := by
  obtain ⟨-, hheld⟩ := books_held h events
  have hledger := n.ledger_books events
  have hmem := hheld.busy k (by rwa [hledger])
  rcases Multiset.mem_add.mp hmem with hlive | hdisplaced
  · obtain ⟨key, seid, s, hs, hkey⟩ := (Ledger.mem_total_iff _ _ _).mp hlive
    rw [hledger, live_ledger] at hs
    exact .inl ⟨key, seid, s, hs, ((s.mem_key k).mp hkey).symm⟩
  · obtain ⟨s, hs, hkey⟩ := (Table.mem_sum_map _ _ _).mp hdisplaced
    exact .inr ⟨s, hs, ((s.mem_key k).mp hkey).symm⟩

/-- Where nothing is held as much is free as at the start. -/
theorem free_of_idle (h : Node.start c startup heartbeats = .ok n) (events : List Event)
    (hidle : ∀ k, ¬ (n.run events).pools.Busy k) :
    (n.run events).pools.freeIpv4 = n.pools.freeIpv4
      ∧ (n.run events).pools.freeTeids = n.pools.freeTeids := by
  obtain ⟨-, hheld⟩ := books_held h events
  have hcapacities : (n.run events).pools.capacities = n.pools.capacities := by
    rw [← hheld.capacities, ledger_books]
    rfl
  obtain ⟨-, -, -, hipv4, -, hteids⟩ := start_spec h
  obtain ⟨hipv4', hteids'⟩ := Pools.held_of_idle hidle
  exact ⟨Pools.freeIpv4_eq hcapacities (hipv4'.trans hipv4.symm),
    Pools.freeTeids_eq hcapacities (hteids'.trans hteids.symm)⟩

/-- **Nothing leaks.**  In every node that can be reached whatever is handed
out is held by a live session, or by one whose number was given to another.
As long as the numbers last it is held by exactly one live session; without
live sessions as much is free as at the start; and an establishment that is
not accepted leaves as much free as there was. -/
theorem no_leak (h : Node.start c startup heartbeats = .ok n) (events : List Event) :
    (∀ k, (n.run events).pools.Busy k →
      (∃ key seid s, (n.run events).live key seid = some s ∧ s.resourceKey = k)
        ∨ ∃ s ∈ (n.history events).displaced, s.resourceKey = k)
    ∧ ((n.history events).tried < UInt64.size →
      (∀ k, (n.run events).pools.Busy k →
        ∃ key seid s, (n.run events).live key seid = some s ∧ s.resourceKey = k
          ∧ ∀ key' seid' s', (n.run events).live key' seid' = some s' → s'.resourceKey = k →
            key' = key ∧ seid' = seid)
      ∧ ((∀ key seid, (n.run events).live key seid = none) →
        (n.run events).pools.freeIpv4 = n.pools.freeIpv4
          ∧ (n.run events).pools.freeTeids = n.pools.freeTeids)
      ∧ ∀ header request src reply,
        ((handleSessionEstablishment header request src).run (n.run events)).1 = some reply →
        reply.message.cause? ≠ some .requestAccepted →
        ((handleSessionEstablishment header request src).run (n.run events)).2.pools.freeIpv4
            = (n.run events).pools.freeIpv4
          ∧ ((handleSessionEstablishment header request src).run (n.run events)).2.pools.freeTeids
            = (n.run events).pools.freeTeids) := by
  refine ⟨fun k hk => holder_of_busy h events hk, ?_⟩
  intro hfew
  obtain ⟨hnumbered, hheld⟩ := books_held h events
  have hledger := n.ledger_books events
  have hpools : (n.books events).ledger.pools = (n.run events).pools := congrArg (·.pools) hledger
  -- while the numbers last, nobody is displaced
  have hholder : ∀ k, (n.run events).pools.Busy k →
      ∃ key seid s, (n.run events).live key seid = some s ∧ s.resourceKey = k := by
    intro k hk
    rcases holder_of_busy h events hk with hlive | ⟨s, hs, -⟩
    · exact hlive
    · rw [history, hnumbered.displaced hfew] at hs
      cases hs
  refine ⟨?_, ?_, ?_⟩
  · intro k hk
    obtain ⟨key, seid, s, hs, rfl⟩ := hholder k hk
    refine ⟨key, seid, s, hs, rfl, ?_⟩
    intro key' seid' s' hs' heq
    rw [← live_ledger, ← hledger] at hs hs'
    exact Ledger.live_unique_of_nodup (hnumbered.nodup hfew) hs' hs
      ((s'.mem_key _).mpr heq.symm) ((s.mem_key _).mpr rfl)
  · intro hnone
    -- without holders nothing is held, so that all there is is free
    apply free_of_idle h events
    intro k hk
    obtain ⟨key, seid, s, hs, -⟩ := hholder k hk
    rw [hnone] at hs
    cases hs
  · intro header request src reply hreply hcause
    rcases pools_of_not_accepted hreply hcause with hsame | ⟨d, cp, hpools'⟩
    · rw [hsame]
      exact ⟨rfl, rfl⟩
    · rw [hpools', ← hledger, ← hpools]
      exact hheld.free_rejected hnumbered hfew d cp request.ops

open Event in
/-- The address of a first session is held under the first key. -/
theorem no_leak_first : Node.start {} 0 false = .ok standard
    ∧ (standard.history [setup, first]).tried < UInt64.size
    ∧ (standard.run [setup, first]).pools.Busy 1
    ∧ ∃ key seid s, (standard.run [setup, first]).live key seid = some s ∧ s.resourceKey = 1 := by
  have hfew : (standard.history [setup, first]).tried < UInt64.size := by decide +kernel
  have hbusy : (standard.run [setup, first]).pools.Busy 1 := by
    left
    decide +kernel
  obtain ⟨hone, -⟩ := (no_leak start_standard [setup, first]).2 hfew
  obtain ⟨key, seid, s, hs, hkey, -⟩ := hone 1 hbusy
  exact ⟨start_standard, hfew, hbusy, key, seid, s, hs, hkey⟩

/-- Once the numbers are used up, an address can be held under a key that no
live session has. -/
theorem held_by_displaced : ∃ events, (standard.run events).pools.Busy 1
    ∧ ∀ key seid s, (standard.run events).live key seid = some s → s.resourceKey ≠ 1 := by
  obtain ⟨events, s, -, hkey, htotal, -, -, hbusy⟩ := wrapping_spec
  have hledger := standard.ledger_books events
  rw [hledger] at hbusy
  refine ⟨events, hbusy, ?_⟩
  intro key seid s' hs' hone
  have hmem : s'.resourceKey ∈ (standard.books events).ledger.total Session.key := by
    rw [hledger, Ledger.mem_total_iff]
    exact ⟨key, seid, s', (live_ledger _ _ _).trans hs', (s'.mem_key _).mpr rfl⟩
  rw [htotal, Session.mem_key, hone, hkey] at hmem
  exact absurd hmem (by decide)

end Node

end UserPlane
