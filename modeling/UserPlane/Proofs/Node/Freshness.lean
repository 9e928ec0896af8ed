/-
  UserPlane.Proofs.Node.Freshness
  ───────────────────────────────
  **KEYS THAT THE NODE CHOOSES ARE FRESH.**

  A tunnel id or an address that the node chooses for a detection rule is held
  by no other session, so no other session's rule has it as its key, unless its
  peer named it: the pools know nothing of keys that are named.  In the session
  itself another rule may have the tunnel id only if it was named, or if it was
  held before for the number of this very rule and shared from there under the
  number of a wish.

  As with everything that is held there is one proviso: the keys under which
  sessions hold are given out again once 2⁶⁴ establishments have been tried.

      Books.Traced              in every session keys come from where they should
      Books.Move.traced         every entry keeps it so
      Node.Amid                 a workbench amid a request
      Node.chosen_keys_fresh    what follows for every node that can be reached
-/
import UserPlane.Proofs.Node.Interference
import UserPlane.Proofs.Node.Referring
import UserPlane.Proofs.Session.Provenance

namespace UserPlane

/-! ## §1. Requests. -/

section

variable {b b' : Workbench}

/-- A request takes nothing away from anybody. -/
theorem Workbench.grows_carryOut (b : Workbench) (ops : List RuleOp) :
    b.Grows (b.carryOut ops).2 :=
  carryOut_induction (P := fun _ b' => b.Grows b')
    (fun _ op b₁ b₂ h hwork => by
      have hgrows := op.grows b₁
      rw [hwork] at hgrows
      exact h.trans hgrows)
    (fun _ op b₁ b₂ _ h hwork => by
      have hgrows := op.grows b₁
      rw [hwork] at hgrows
      exact h.trans hgrows)
    ops [] (.of_given rfl)

end

namespace Ledger

variable {l : Ledger} {s : Session}

/-- Before a request nothing was chosen in it. -/
theorem traced_bench {done : List RuleOp} (hsound : l.pools.Sound)
    (hprovenance : Provenance done l.pools s) : (l.bench s).Traced done :=
  ⟨hsound, fun _ _ hget => (by cases hget), hprovenance⟩

/-- A new session has no detection rules. -/
theorem traced_newcomer (hsound : l.pools.Sound) (d : Desk) (remoteSeid : UInt64) :
    (l.bench (l.newcomer d remoteSeid)).Traced [] :=
  traced_bench hsound fun _ _ hget => by cases hget

theorem traced_renumbered {done : List RuleOp} (hsound : l.pools.Sound)
    (hprovenance : Provenance done l.pools s) (cp : Option FSeid) :
    (l.bench (s.renumbered cp)).Traced done := by
  apply traced_bench hsound
  unfold Provenance
  rw [s.pdrs_renumbered, s.resourceKey_renumbered]
  exact hprovenance

/-- At a desk that is closed nobody is live. -/
theorem not_live_closed (l : Ledger) (key : String) (d : Desk) (seid : UInt64) :
    (l.close key d).live key seid = none := by
  unfold live
  rw [desks_close, Table.get?_erase, if_pos rfl]
  rfl

/-- A session that was deleted is live no more. -/
theorem not_live_deleted (l : Ledger) (key : String) (d : Desk) (seid : UInt64) (s : Session) :
    (l.delete key d seid s).live key seid = none := by
  rw [live_insert (d := { d with sessions := d.sessions.erase seid }) rfl, if_pos rfl]
  show (d.sessions.erase seid).get? seid = none
  rw [Table.get?_erase, if_pos rfl]

end Ledger

/-! ## §2. Every entry. -/

/-- Nothing is out twice, and while the keys of sessions are not used up every
detection rule of a live session has its key from the operation that keyed it
last. -/
structure Books.Traced (w : Books) : Prop where
  sound : w.ledger.pools.Sound
  provenance : w.history.tried < UInt64.size → ∀ key seid s, w.ledger.live key seid = some s →
    Provenance (w.history.done key seid) w.ledger.pools s

namespace Books

variable {w w' : Books}

/-- **Every entry keeps it known where keys come from.** -/
theorem Move.traced (hmove : w.Move w') (hnumbered : w.Numbered) (h : w.Traced) : w'.Traced := by
  cases hmove with
  | idle => exact h
  | opened hdesk =>
    refine ⟨h.sound, fun hfew key' seid s hlive => ?_⟩
    exact h.provenance hfew key' seid s (Ledger.live_of_opened rfl hlive)
  | @closed key d hdesk =>
    have hpools : (w.ledger.close key d).pools
        = (d.sessions.values.map Session.resourceKey).foldl Pools.releaseAll w.ledger.pools :=
      Ledger.pools_foldl_release _ _
    refine ⟨hpools ▸ h.sound.foldl_releaseAll _, fun hfew key' seid s hlive => ?_⟩
    rw [hpools]
    have hbefore := Ledger.live_of_erase (Ledger.desks_close w.ledger key d) hlive
    -- a session that is still live is none of those that were released
    refine (h.provenance hfew key' seid s hbefore).mono
      (Pools.kept_foldl_releaseAll _ _ fun k hk => ?_)
    obtain ⟨s', hs', rfl⟩ := List.mem_map.mp hk
    obtain ⟨seid', hs'⟩ := (Table.mem_values_iff _ _).mp hs'
    refine hnumbered.resourceKey_ne hfew hbefore (Ledger.live_of_desk hdesk hs') fun heq => ?_
    obtain ⟨rfl, rfl⟩ := heq
    cases (w.ledger.not_live_closed key' d seid).symm.trans hlive
  | @rejected key d remoteSeid ops e b hdesk hwork =>
    have hgrows := (w.ledger.bench (w.ledger.newcomer d remoteSeid)).grows_carryOut ops
    rw [hwork] at hgrows
    refine ⟨(hgrows.pools.sound h.sound).releaseAll _, fun hfew key' seid s hlive => ?_⟩
    have hbefore := Ledger.live_of_kept hdesk (Desk.advanced _) rfl hlive fun _ _ hget => hget
    have hfew₀ : w.history.tried < UInt64.size := Nat.lt_of_succ_lt hfew
    exact (h.provenance hfew₀ key' seid s hbefore).mono ((hgrows.pools.kept _).trans
      (Pools.kept_releaseAll _ (hnumbered.resourceKey_ne_next hfew₀ hbefore)))
  | @accepted key d remoteSeid ops b hdesk hwork =>
    have hgrows := (w.ledger.bench (w.ledger.newcomer d remoteSeid)).grows_carryOut ops
    have htraced := (Ledger.traced_newcomer h.sound d remoteSeid).carryOut ops
    rw [hwork] at hgrows htraced
    refine ⟨htraced.sound, fun hfew key' seid' s' hlive => ?_⟩
    rcases Ledger.live_of_filed hdesk (Desk.advanced _) rfl rfl hlive with
      ⟨rfl, rfl, rfl⟩ | ⟨hne, hbefore⟩
    · rw [History.done_withDone]
      exact htraced.provenance
    · rw [History.done_withDone_of_ne _ _ hne]
      exact (h.provenance (Nat.lt_of_succ_lt hfew) key' seid' s' hbefore).mono
        (hgrows.pools.kept _)
  | @modified key d seid s cp ops hdesk hsession =>
    have hlive₀ := Ledger.live_of_desk hdesk hsession
    have hgrows := (w.ledger.bench (s.renumbered cp)).grows_carryOut ops
    have hseid := hnumbered.filed.localSeid_modified hlive₀ cp ops
    refine ⟨hgrows.pools.sound h.sound, fun hfew key' seid' s' hlive => ?_⟩
    have htraced := (Ledger.traced_renumbered h.sound
      (h.provenance hfew key seid s hlive₀) cp).carryOut ops
    rcases Ledger.live_of_filed hdesk _ rfl rfl hlive with ⟨rfl, hkey, rfl⟩ | ⟨hne, hbefore⟩
    · rw [hkey, hseid, History.done_withDone]
      exact htraced.provenance
    · rw [hseid] at hne
      rw [History.done_withDone_of_ne _ _ hne]
      exact (h.provenance hfew key' seid' s' hbefore).mono (hgrows.pools.kept _)
  | @deleted key d seid s hdesk hsession =>
    refine ⟨h.sound.releaseAll _, fun hfew key' seid' s' hlive => ?_⟩
    have hbefore := Ledger.live_of_kept hdesk _ rfl hlive
      fun _ _ hget => (Table.get?_of_erase hget).2
    refine (h.provenance hfew key' seid' s' hbefore).mono (Pools.kept_releaseAll _ ?_)
    refine hnumbered.resourceKey_ne hfew hbefore (Ledger.live_of_desk hdesk hsession) fun heq => ?_
    obtain ⟨rfl, rfl⟩ := heq
    cases (w.ledger.not_live_deleted key' d seid' s).symm.trans hlive

end Books

/-! ## §3. Every node that can be reached. -/

namespace Node

/-- A workbench amid a request about a session: some operations were carried
out.  With them, all that were ever carried out on the session. -/
inductive Amid (n : Node) (h : History) (key : String) : UInt64 → List RuleOp → Workbench → Prop
    where
  | establishing {a : Association} {remoteSeid : UInt64} {ops : List RuleOp} {b : Workbench}
      (hassociation : n.associations.get? key = some a)
      (hwork : (n.bench (n.newcomer a remoteSeid)).carryOut ops = (.ok (), b)) :
      Amid n h key a.nextSessionId ops b
  | modifying {seid : UInt64} {s : Session} {cp : Option FSeid} {ops : List RuleOp}
      {b : Workbench} (hlive : n.live key seid = some s)
      (hwork : (n.bench (s.renumbered cp)).carryOut ops = (.ok (), b)) :
      Amid n h key seid (h.done key seid ++ ops) b

/-- Whatever detection rule of another session has the key, its peer named the
key for it. -/
def OthersName (n : Node) (h : History) (key : String) (seid : UInt64) (d : Detection) : Prop :=
  ∀ k i s id pdr, ¬ (k = key ∧ i = seid) → n.live k i = some s → s.pdrs.get? id = some pdr →
    pdr.detection = d → NamedLast (h.done k i) id d

variable {c : Config} {startup : Int} {heartbeats : Bool} {n : Node}

theorem callBooks_traced (h : Node.start c startup heartbeats = .ok n) (cs : List Call) :
    (n.callBooks cs).Numbered ∧ (n.callBooks cs).Traced := by
  refine callBooks_induction (P := fun w => w.Numbered ∧ w.Traced) (fun w e hw => ?_)
    ⟨numbered_start h, ?_, fun _ key seid s hlive => ?_⟩ cs
  · have hmove := w.move_enter e
    exact ⟨hmove.numbered hw.1, hmove.traced hw.1 hw.2⟩
  · obtain ⟨ipv4, ipv6, rfl⟩ := start_eq h
    exact Pools.sound_make ipv4 ipv6 c.teidPool
  · rw [Ledger.live, desks_start h] at hlive
    cases hlive

/-- **Amid a request** it is known where the keys of the session come from, and
the other sessions hold what they held, under other keys. -/
theorem amid_traced (h : Node.start c startup heartbeats = .ok n) (cs : List Call)
    (hfew : (n.callHistory cs).tried < UInt64.size) {key : String} {seid : UInt64}
    {done : List RuleOp} {b : Workbench}
    (hamid : (n.calls cs).Amid (n.callHistory cs) key seid done b) :
    b.Traced done ∧ (∀ k, (n.calls cs).pools.Kept b.pools k)
    ∧ ∀ k i s, ¬ (k = key ∧ i = seid) → (n.calls cs).live k i = some s →
      s.resourceKey ≠ b.session.resourceKey := by
  obtain ⟨hnumbered, htraced⟩ := callBooks_traced h cs
  have hledger := n.ledger_callBooks cs
  have hsound : (n.calls cs).ledger.pools.Sound := hledger ▸ htraced.sound
  have hlive : ∀ {k i s}, (n.calls cs).live k i = some s →
      (n.callBooks cs).ledger.live k i = some s := by
    intro k i s hs
    rwa [hledger, live_ledger]
  cases hamid with
  | @establishing a remoteSeid _ _ hassociation hwork =>
    have hbench := (Ledger.traced_newcomer hsound a.desk remoteSeid).carryOut done
    have hgrows := ((n.calls cs).bench ((n.calls cs).newcomer a remoteSeid)).grows_carryOut done
    have hops := carriedOut_of_ok hwork
    have hsame : (n.calls cs).ledger.bench ((n.calls cs).ledger.newcomer a.desk remoteSeid)
        = (n.calls cs).bench ((n.calls cs).newcomer a remoteSeid) := rfl
    rw [hsame, hops, hwork] at hbench
    rw [hwork] at hgrows
    refine ⟨hbench, hgrows.pools.kept, fun k i s _ hs => ?_⟩
    rw [hgrows.resourceKey]
    have hne := hnumbered.resourceKey_ne_next hfew (hlive hs)
    rwa [hledger] at hne
  | @modifying _ s cp ops _ hs₀ hwork =>
    have hprovenance := htraced.provenance hfew key seid s (hlive hs₀)
    rw [hledger] at hprovenance
    have hbench := (Ledger.traced_renumbered hsound hprovenance cp).carryOut ops
    have hgrows := ((n.calls cs).bench (s.renumbered cp)).grows_carryOut ops
    have hops := carriedOut_of_ok hwork
    have hsame : (n.calls cs).ledger.bench (s.renumbered cp)
        = (n.calls cs).bench (s.renumbered cp) := rfl
    rw [hsame, hops, hwork] at hbench
    rw [hwork] at hgrows
    refine ⟨hbench, hgrows.pools.kept, fun k i s' hne hs => ?_⟩
    rw [hgrows.resourceKey]
    show s'.resourceKey ≠ (s.renumbered cp).resourceKey
    rw [s.resourceKey_renumbered]
    exact hnumbered.resourceKey_ne hfew (hlive hs) (hlive hs₀) hne

end Node

/-! ## §4. Requests for keys. -/

/-- The key of a detection rule. -/
def Session.keyOf (s : Session) (id : UInt16) : Option Detection :=
  (s.pdrs.get? id).map (·.detection)

namespace Event

/-- A detection rule with this tunnel end, or wish for one. -/
def tunnelled (id : UInt16) (t : FTeid) : CreatePdr where
  pdrId := ⟨id⟩
  pdi := { sourceInterface := .access, localFTeid := some t }

/-- A detection rule with this subscriber's address, or wish for one. -/
def addressed (id : UInt16) (a : UeIpAddress) : CreatePdr where
  pdrId := ⟨id⟩
  pdi := { sourceInterface := .core, ueIpAddress := some a }

/-- The wish for a tunnel end, under a number or under none. -/
def anyTunnel (wish : Option UInt8) : FTeid := .choose true false wish

/-- The wish for an IPv4 address. -/
def anyIpv4 : UeIpAddress := { flags := 16 }

end Event

namespace Node

open Event

/-- What can be computed of an establishment is true of a workbench amid it. -/
theorem amid_of_check {n : Node} {key : String} {seid : UInt64} {ops : List RuleOp} {α : Type}
    {f : Workbench → α} {x : α}
    (hcheck : (n.associations.get? key).map (fun a =>
        let r := (n.bench (n.newcomer a 1)).carryOut ops
        (a.nextSessionId, r.1, f r.2)) = some (seid, .ok (), x)) (h : History) :
    ∃ b, n.Amid h key seid ops b ∧ f b = x := by
  obtain ⟨a, ha, heq⟩ := Option.map_eq_some_iff.mp hcheck
  rw [Prod.mk.injEq, Prod.mk.injEq] at heq
  obtain ⟨rfl, hok, hx⟩ := heq
  exact ⟨_, .establishing ha (Prod.ext hok rfl), hx⟩

/-- How an operation goes, and the keys of rules after it. -/
def outcome (op : RuleOp) (ids : List UInt16) (b : Workbench) :
    Except SessionError Unit × List (Option Detection) :=
  let r := op.step.work b
  (r.1, ids.map r.2.session.keyOf)

theorem outcome_eq_ok {op : RuleOp} {ids : List UInt16} {b : Workbench}
    {keys : List (Option Detection)} (h : outcome op ids b = (.ok (), keys)) :
    ∃ b', op.step.work b = (.ok (), b') ∧ ids.map b'.session.keyOf = keys := by
  obtain ⟨hok, hkeys⟩ := Prod.mk.inj h
  exact ⟨_, Prod.ext hok rfl, hkeys⟩

/-! ## §5. Freshness. -/

variable {c : Config} {startup : Int} {heartbeats : Bool} {n : Node}

/-- **Keys that the node chooses are fresh.**  Take any node that can be reached,
as long as fewer than 2⁶⁴ establishments have been tried, any workbench amid a
request, and any operation that succeeds there and keys a detection rule.  If
the tunnel id is left to the node, without the number of a wish, then whatever
rule of another session has it was given it by name, and whatever other rule of
this session has it was given it by name, or had it under the number of a wish
from what was held for the number of this rule before.  If the key is an address
that is left to the node, then whatever rule of another session has it was given
it by name. -/
theorem chosen_keys_fresh (h : Node.start c startup heartbeats = .ok n) (cs : List Call)
    (hfew : (n.callHistory cs).tried < UInt64.size) {key : String} {seid : UInt64}
    {done : List RuleOp} {b b' : Workbench} {op : RuleOp} {id : UInt16} {pdi : Pdi}
    (hamid : (n.calls cs).Amid (n.callHistory cs) key seid done b)
    (hpdi : op.pdi? id = some pdi) (hwork : op.step.work b = (.ok (), b')) :
    ∃ pdr, b'.session.pdrs.get? id = some pdr
      ∧ (pdi.ChoosesTeid none → ∃ teid, pdr.detection = .uplink teid
        ∧ (n.calls cs).OthersName (n.callHistory cs) key seid (.uplink teid)
        ∧ ∀ other pdr', other ≠ id → b'.session.pdrs.get? other = some pdr' →
          pdr'.detection = .uplink teid → NamedLast done other (.uplink teid)
            ∨ SharedLast done other ∧ b.pools.HoldsTeid b.session.resourceKey id teid)
      ∧ (pdi.ChoosesIp → ∃ ip, pdr.detection = .downlink ip
        ∧ (n.calls cs).OthersName (n.callHistory cs) key seid (.downlink ip)) := by
  obtain ⟨-, htraced⟩ := callBooks_traced h cs
  have hledger := n.ledger_callBooks cs
  obtain ⟨hbench, hkept, hkeys⟩ := amid_traced h cs hfew hamid
  have hgrows := op.grows b
  rw [hwork] at hgrows
  have hsound := hgrows.pools.sound hbench.sound
  -- what this session holds is another's key only if it was named there
  have hothers : ∀ d, b'.pools.HoldsKey b.session.resourceKey d →
      (n.calls cs).OthersName (n.callHistory cs) key seid d := by
    intro d hholds k i s id' pdr' hne hs hget hd
    have hprovenance := htraced.provenance hfew k i s (by rwa [hledger, live_ledger])
    rw [hledger] at hprovenance
    exact hprovenance.namedLast ((hkept _).trans (hgrows.pools.kept _)) hsound hholds
      (hkeys k i s hne hs) hget hd
  obtain ⟨pdr, hget, hkeyed⟩ := op.keyed_of_pdi hbench.chosen hpdi hwork
  refine ⟨pdr, hget, fun hchooses => ?_, fun hchooses => ?_⟩
  · obtain ⟨teid, hteid, hholds⟩ := hkeyed.of_choosesTeid hchooses
    refine ⟨teid, hteid, hothers _ ⟨id, hholds⟩, fun other pdr' hne hget' hteid' => ?_⟩
    exact hbench.own_named_or_shared hwork hpdi hholds hne hget' hteid'
  · obtain ⟨ip, hip, hholds⟩ := hkeyed.of_choosesIp hchooses
    exact ⟨ip, hip, hothers _ ((Pools.holdsKey_downlink ip).mpr hholds)⟩

/-- A second session is given a tunnel id that the first does not have. -/
theorem chosen_keys_fresh_second : Node.start {} 0 false = .ok standard
    ∧ ∃ cs b b' pdr teid, (standard.callHistory cs).tried < UInt64.size
      ∧ (standard.calls cs).Amid (standard.callHistory cs) "10.0.0.1" 2 [] b
      ∧ (RuleOp.createPdr (tunnelled 1 (anyTunnel none))).step.work b = (.ok (), b')
      ∧ b'.session.pdrs.get? 1 = some pdr ∧ pdr.detection = .uplink teid
      ∧ (standard.calls cs).OthersName (standard.callHistory cs) "10.0.0.1" 2 (.uplink teid) := by
  let events := [setup, establishment [tunnelled 1 (anyTunnel none)] []]
  have hcheck : ((standard.run events).associations.get? "10.0.0.1").map (fun a =>
      let r := ((standard.run events).bench ((standard.run events).newcomer a 1)).carryOut []
      (a.nextSessionId, r.1, outcome (.createPdr (tunnelled 1 (anyTunnel none))) [] r.2))
        = some (2, .ok (), .ok (), []) := by decide +kernel
  have hfew : (standard.history events).tried < UInt64.size := by decide +kernel
  rw [run_eq_calls] at hcheck
  rw [history, books_eq_callBooks] at hfew
  obtain ⟨b, hamid, hwork⟩ := amid_of_check hcheck (standard.callHistory _)
  obtain ⟨b', hwork, -⟩ := outcome_eq_ok hwork
  have hpdi : (RuleOp.createPdr (tunnelled 1 (anyTunnel none))).pdi? 1
      = some (tunnelled 1 (anyTunnel none)).pdi := rfl
  obtain ⟨pdr, hget, hteid, -⟩ := chosen_keys_fresh start_standard _ hfew hamid hpdi hwork
  obtain ⟨teid, hteid, hothers, -⟩ := hteid ⟨anyTunnel none, rfl, rfl, rfl⟩
  exact ⟨start_standard, _, b, b', pdr, teid, hfew, hamid, hwork, hget, hteid, hothers⟩

/-! ## §6. Keys that are in use. -/

/-- A rule of a second session is given a key that a rule of the first has. -/
def SecondGiven (cs : List Call) (op : RuleOp) (d : Detection) : Prop :=
  ∃ b b' s, (standard.calls cs).Amid (standard.callHistory cs) "10.0.0.1" 2 [] b
    ∧ op.step.work b = (.ok (), b') ∧ b'.session.keyOf 1 = some d
    ∧ (standard.calls cs).live "10.0.0.1" 1 = some s ∧ s.keyOf 1 = some d

theorem secondGiven_of_check (events : List Event) {op : RuleOp} {d : Detection}
    (hcheck : ((standard.run events).associations.get? "10.0.0.1").map (fun a =>
      let r := ((standard.run events).bench ((standard.run events).newcomer a 1)).carryOut []
      (a.nextSessionId, r.1, outcome op [1] r.2)) = some (2, .ok (), .ok (), [some d]))
    (hlive : ((standard.run events).live "10.0.0.1" 1).map (·.keyOf 1) = some (some d)) :
    SecondGiven (events.flatMap Event.calls) op d := by
  rw [run_eq_calls] at hcheck hlive
  obtain ⟨b, hamid, hwork⟩ := amid_of_check hcheck (standard.callHistory _)
  obtain ⟨b', hwork, hkeys⟩ := outcome_eq_ok hwork
  obtain ⟨s, hs, hkey⟩ := Option.map_eq_some_iff.mp hlive
  exact ⟨b, b', s, hamid, hwork, (List.cons.inj hkeys).1, hs, hkey⟩

/-- A tunnel id that is held for a rule, and was shared from there with another,
is chosen for the rule again when it is made anew. -/
theorem teid_shared : ∃ cs b b',
    (standard.calls cs).Amid (standard.callHistory cs) "10.0.0.1" 1
      [.createPdr (tunnelled 1 (anyTunnel (some 7))),
        .createPdr (tunnelled 2 (anyTunnel (some 7)))] b
    ∧ (RuleOp.createPdr (tunnelled 1 (anyTunnel none))).step.work b = (.ok (), b')
    ∧ b'.session.keyOf 1 = some (.uplink 1) ∧ b'.session.keyOf 2 = some (.uplink 1) := by
  have hcheck : ((standard.run [setup]).associations.get? "10.0.0.1").map (fun a =>
      let r := ((standard.run [setup]).bench ((standard.run [setup]).newcomer a 1)).carryOut
        [.createPdr (tunnelled 1 (anyTunnel (some 7))),
          .createPdr (tunnelled 2 (anyTunnel (some 7)))]
      (a.nextSessionId, r.1, outcome (.createPdr (tunnelled 1 (anyTunnel none))) [1, 2] r.2))
        = some (1, .ok (), .ok (), [some (.uplink 1), some (.uplink 1)]) := by decide +kernel
  rw [run_eq_calls] at hcheck
  obtain ⟨b, hamid, hwork⟩ := amid_of_check hcheck (standard.callHistory _)
  obtain ⟨b', hwork, hkeys⟩ := outcome_eq_ok hwork
  obtain ⟨hfirst, hkeys⟩ := List.cons.inj hkeys
  exact ⟨_, b, b', hamid, hwork, hfirst, (List.cons.inj hkeys).1⟩

/-- What is held for a rule is chosen for it. -/
theorem createPdr_of_held {b : Workbench} {teid : UInt32}
    (hheld : b.pools.HoldsTeid b.session.resourceKey 1 teid) (hnone : b.session.pdrs = .empty) :
    ∃ b', (RuleOp.createPdr (tunnelled 1 (anyTunnel none))).step.work b = (.ok (), b')
      ∧ b'.session.keyOf 1 = some (.uplink teid) := by
  obtain ⟨n, hn, rfl⟩ := hheld
  have hallocate : b.pools.allocateTeid b.session.resourceKey 1
      = .ok (UInt32.ofNat n, b.pools) := by
    have hn : (b.pools.teids.heldBy b.session.resourceKey).get? 1 = some n := hn
    unfold Pools.allocateTeid TeidPool.allocate
    rw [hn]
  have hchoose : (RuleStep.chooseTeid 1 none).work b = (.ok (UInt32.ofNat n), b) := by
    unfold RuleStep.chooseTeid
    rw [RuleStep.work_bind_ok (RuleStep.work_get b)]
    dsimp only [Option.bind_none]
    rw [RuleStep.work_bind, RuleStep.work_fromPools, hallocate]
    rfl
  have hlocal : ∃ report, (RuleStep.localTeid 1 (anyTunnel none)).work b
      = (.ok (UInt32.ofNat n, some report), b) := by
    have hchoice : (anyTunnel none).isChoose = true := rfl
    unfold RuleStep.localTeid
    rw [if_pos hchoice]
    exact ⟨_, RuleStep.work_bind_ok hchoose⟩
  obtain ⟨report, hlocal⟩ := hlocal
  have hdetection : ∃ b₁, (RuleStep.detection 1 (tunnelled 1 (anyTunnel none)).pdi).work b
      = (.ok (.uplink (UInt32.ofNat n)), b₁) ∧ b₁.session = b.session := by
    unfold RuleStep.detection
    have haddress : (RuleStep.ueAddress (tunnelled 1 (anyTunnel none)).pdi).work b
        = (.ok (none, none), b) := rfl
    rw [RuleStep.work_bind_ok haddress]
    exact ⟨_, RuleStep.work_bind_ok hlocal, rfl⟩
  obtain ⟨b₁, hdetection, hsession⟩ := hdetection
  have hdrafted : (RuleStep.drafted (tunnelled 1 (anyTunnel none))).work b
      = (.ok ⟨.uplink (UInt32.ofNat n), none, none, {}⟩, b₁) := RuleStep.work_bind_ok hdetection
  rw [RuleOp.step, RuleStep.createPdr_eq, RuleStep.work_bind_ok hdrafted, RuleStep.filed,
    RuleStep.work_bind_ok (RuleStep.work_get b₁), hsession, hnone]
  refine ⟨_, rfl, ?_⟩
  show ((b₁.session.pdrs.insert 1 _).get? 1).map (·.detection) = _
  rw [Table.get?_insert, if_pos rfl]
  rfl

/-- **Keys are given out again.**  After a first session, rejected establishments
use up all other keys; the first session is still there and holds its tunnel
id. -/
theorem keys_given_again (n : Node) (events : List Event)
    (hnext₁ : ((n.books events).ledger.desks.get? "10.0.0.1").map (·.nextSessionId)
      = some (Desk.seidAfter 1))
    (hkey₁ : (n.books events).ledger.nextResourceKey = 2)
    (hheld₁ : (n.books events).ledger.pools.HoldsTeid 1 1 1) :
    ∃ cs a, (n.calls cs).associations.get? "10.0.0.1" = some a ∧ a.nextSessionId = 2
      ∧ (n.calls cs).ledger.nextResourceKey = 1
      ∧ (n.calls cs).live "10.0.0.1" 1 = (n.books events).ledger.live "10.0.0.1" 1
      ∧ (n.calls cs).pools.HoldsTeid 1 1 1
      ∧ (n.callHistory cs).done = (n.books events).history.done := by
  obtain ⟨count, hcount⟩ : ∃ count, count = 2 ^ 64 - 1 := ⟨_, rfl⟩
  have hbooks : n.books (events ++ List.replicate count (establishment [blind] []))
      = (n.books events).after
        (List.replicate count (.tried "10.0.0.1" 1 [.createPdr blind])) := by
    rw [books_append, trace_replicate entries_blind]
  have hledger := n.ledger_books (events ++ List.replicate count (establishment [blind] []))
  rw [run_eq_calls] at hledger
  rw [books_eq_callBooks] at hbooks hledger
  generalize (events ++ List.replicate count (establishment [blind] [])).flatMap Event.calls = cs
    at hbooks hledger
  generalize n.books events = w₁ at *
  obtain ⟨⟨next, sessions⟩, hdesk₁, rfl⟩ := Option.map_eq_some_iff.mp hnext₁
  -- rejected establishments use up all other keys
  have hfutile : ∀ (l : Ledger) (s : Session),
      ∃ e, (l.bench s).carryOut [.createPdr blind] = (.error e, l.bench s) := fun l s => ⟨_, rfl⟩
  obtain ⟨hdesks, -, hkey, -, hdone, -, hpools⟩ :=
    @Books.after_futile w₁ "10.0.0.1" sessions 1 1 _ hdesk₁ hfutile count
  rw [← hbooks, hledger] at hdesks hkey hpools
  rw [← hbooks] at hdone
  have hnumbers : Desk.seidAfter (1 + count) = 2 ∧ (2 : UInt64) + UInt64.ofNat count = 1 := by
    rw [hcount]
    exact ⟨rfl, rfl⟩
  rw [hnumbers.1] at hdesks
  rw [hkey₁, hnumbers.2] at hkey
  have hdesk : (n.calls cs).ledger.desks.get? "10.0.0.1" = some ⟨2, sessions⟩ := by
    rw [hdesks, Table.get?_insert, if_pos rfl]
  have hlive : (n.calls cs).live "10.0.0.1" 1 = w₁.ledger.live "10.0.0.1" 1 := by
    rw [← live_ledger, Ledger.live, Ledger.live, hdesk, hdesk₁]
    rfl
  have hheld : (n.calls cs).pools.HoldsTeid 1 1 1 := by
    have hkept := Pools.kept_foldl_releaseAll (k := 1) ((List.range count).map fun i =>
      (2 : UInt64) + UInt64.ofNat i) w₁.ledger.pools
      fun k hk => (one_ne_of_used hk (by omega)).symm
    rw [hkey₁] at hpools
    rw [← hpools] at hkept
    exact hkept.teid 1 1 hheld₁
  rw [get?_desks] at hdesk
  obtain ⟨a, ha, hdeskOf⟩ := Option.map_eq_some_iff.mp hdesk
  exact ⟨cs, a, ha, congrArg Desk.nextSessionId hdeskOf, hkey, hlive, hheld, hdone⟩

/-- So it is with a first session that has one detection rule. -/
theorem keys_used_up : ∃ cs a s,
    (standard.calls cs).associations.get? "10.0.0.1" = some a ∧ a.nextSessionId = 2
    ∧ (standard.calls cs).ledger.nextResourceKey = 1
    ∧ (standard.calls cs).live "10.0.0.1" 1 = some s ∧ s.keyOf 1 = some (.uplink 1)
    ∧ (standard.calls cs).pools.HoldsTeid 1 1 1
    ∧ (standard.callHistory cs).done "10.0.0.1" 1
      = [.createPdr (tunnelled 1 (anyTunnel none))] := by
  let events := [setup, establishment [tunnelled 1 (anyTunnel none)] []]
  have hkeyOf : ((standard.books events).ledger.live "10.0.0.1" 1).map (·.keyOf 1)
      = some (some (.uplink 1)) := by decide +kernel
  have hdone₁ : (standard.books events).history.done "10.0.0.1" 1
      = [.createPdr (tunnelled 1 (anyTunnel none))] := by decide +kernel
  obtain ⟨cs, a, ha, hseid, hkey, hlive, hheld, hdone⟩ := keys_given_again standard events
    (by decide +kernel) (by decide +kernel)
    ⟨1, by unfold TeidPool.Holds; decide +kernel, rfl⟩
  obtain ⟨s, hs, hkeyOf⟩ := Option.map_eq_some_iff.mp hkeyOf
  exact ⟨cs, a, s, ha, hseid, hkey, hlive.trans hs, hkeyOf, hheld, by rw [hdone, hdone₁]⟩

/-- Once keys are given out again, a new session is given the tunnel id that a
session of the past holds under its key, though it was not named there. -/
theorem key_given_again :
    ∃ cs, SecondGiven cs (.createPdr (tunnelled 1 (anyTunnel none))) (.uplink 1)
      ∧ ¬ NamedLast ((standard.callHistory cs).done "10.0.0.1" 1) 1 (.uplink 1) := by
  obtain ⟨cs, a, s, ha, hseid, hkey, hlive, hkeyOf, hheld, hdone⟩ := keys_used_up
  let b := (standard.calls cs).bench ((standard.calls cs).newcomer a 1)
  have hbench : b.session.resourceKey = 1 := hkey
  obtain ⟨b', hwork, hkeyOf'⟩ := createPdr_of_held (b := b) (hbench ▸ hheld) rfl
  refine ⟨cs, ⟨b, b', s, ?_, hwork, hkeyOf', hlive, hkeyOf⟩, ?_⟩
  · rw [← hseid]
    exact .establishing ha (Workbench.carryOut_nil _)
  · rintro ⟨pdi, hlast, hnamed⟩
    rw [hdone] at hlast
    cases hlast
    cases hnamed

/-- **Keys that the node chooses can be in use.**  The tunnel id that a new session
is given is one that another session named, or the address is; making a rule
anew gives it the tunnel id that it shared before; and once keys are given out
again, a new session is given what a session of the past holds. -/
theorem chosen_keys_in_use :
    (tunnelled 1 (anyTunnel none)).pdi.ChoosesTeid none ∧ (addressed 1 anyIpv4).pdi.ChoosesIp
    ∧ (∃ cs, SecondGiven cs (.createPdr (tunnelled 1 (anyTunnel none))) (.uplink 1))
    ∧ (∃ cs, SecondGiven cs (.createPdr (addressed 1 anyIpv4)) (.downlink4 ⟨0x0A3C0001⟩))
    ∧ (∃ cs b b',
      (standard.calls cs).Amid (standard.callHistory cs) "10.0.0.1" 1
        [.createPdr (tunnelled 1 (anyTunnel (some 7))),
          .createPdr (tunnelled 2 (anyTunnel (some 7)))] b
      ∧ (RuleOp.createPdr (tunnelled 1 (anyTunnel none))).step.work b = (.ok (), b')
      ∧ b'.session.keyOf 1 = some (.uplink 1) ∧ b'.session.keyOf 2 = some (.uplink 1))
    ∧ ∃ cs, SecondGiven cs (.createPdr (tunnelled 1 (anyTunnel none))) (.uplink 1)
      ∧ ¬ NamedLast ((standard.callHistory cs).done "10.0.0.1" 1) 1 (.uplink 1) := by
  refine ⟨⟨anyTunnel none, rfl, rfl, rfl⟩, ⟨rfl, anyIpv4, rfl, rfl⟩, ?_, ?_, teid_shared,
    key_given_again⟩
  · -- the first session names the tunnel id that the pools hand out next
    exact ⟨_, secondGiven_of_check [setup, establishment [tunnelled 1 (.ofIp peer.ip 1)] []]
      (by decide +kernel) (by decide +kernel)⟩
  · exact ⟨_, secondGiven_of_check
      [setup, establishment [addressed 1 (.ofIp (.v4 ⟨0x0A3C0001⟩) true)] []]
      (by decide +kernel) (by decide +kernel)⟩

end Node

end UserPlane
