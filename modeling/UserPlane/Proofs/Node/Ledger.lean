/-
  UserPlane.Proofs.Node.Ledger
  ────────────────────────────
  **WHAT A NODE'S STATE SAYS ABOUT SESSIONS.**

  A node's ledger is its state without what sessions do not depend on: timers,
  heartbeats, metrics, what peers are called.  Five kinds of entries change it
  (`Entry`).  The history of a ledger tells what can no longer be read off it:
  how many sessions were tried, which of them left rules behind, and which
  operations were carried out on the sessions that are there.

      Ledger.enter      what an entry does to the ledger
      History.enter     what an entry adds to the history
      Books.holds_after induction over entries
-/
import UserPlane.Proofs.Session.References

namespace UserPlane

/-! ## §1. Ledgers. -/

/-- What an association has to do with sessions. -/
structure Desk where
  nextSessionId : UInt64 := 1
  sessions : Table UInt64 Session := .empty

/-- What a node's state says about sessions. -/
@[ext]
structure Ledger where
  desks : Table String Desk
  plane : Plane
  pools : Pools
  nextResourceKey : UInt64
  n3 : Ipv4

/-- The association without what sessions do not depend on. -/
def Association.desk (a : Association) : Desk := ⟨a.nextSessionId, a.sessions⟩

/-- The node without what sessions do not depend on. -/
def Node.ledger (n : Node) : Ledger where
  desks := n.associations.map Association.desk
  plane := n.plane
  pools := n.pools
  nextResourceKey := n.nextResourceKey
  n3 := n.params.n3Address

namespace Ledger

/-- A live session. -/
def live (l : Ledger) (key : String) (seid : UInt64) : Option Session :=
  (l.desks.get? key).bind (·.sessions.get? seid)

/-- The sum of a function of the live sessions. -/
def total {M : Type} [AddCommMonoid M] (l : Ledger) (f : Session → M) : M :=
  l.desks.total fun _ d => d.sessions.total fun _ s => f s

/-- The workbench for a request about a session. -/
def bench (l : Ledger) (s : Session) : Workbench :=
  { session := s, plane := l.plane, pools := l.pools, n3 := l.n3 }

/-- The session that is tried next at a desk. -/
def newcomer (l : Ledger) (d : Desk) (remoteSeid : UInt64) : Session :=
  { localSeid := d.nextSessionId, remoteSeid, resourceKey := l.nextResourceKey }

/-- The ledger after a session has given back all that it has. -/
def release (l : Ledger) (s : Session) : Ledger :=
  { l with plane := (s.teardown l.plane).plane, pools := s.releasePools l.pools }

end Ledger

/-- The desk after a number for a session was given out. -/
def Desk.advanced (d : Desk) : Desk :=
  { d with nextSessionId := if d.nextSessionId + 1 = 0 then 1 else d.nextSessionId + 1 }

/-- The desk with a session filed under its number. -/
def Desk.file (d : Desk) (s : Session) : Desk :=
  { d with sessions := d.sessions.insert s.localSeid s }

/-! ## §2. Entries. -/

/-- What happens to a ledger.  An entry about what is not there changes
nothing, nor does opening a desk that is there. -/
inductive Entry where
  /-- An association begins. -/
  | opened (key : String)
  /-- An association ends, and its sessions with it. -/
  | closed (key : String)
  /-- An establishment is asked for, which is accepted or rejected. -/
  | tried (key : String) (remoteSeid : UInt64) (ops : List RuleOp)
  /-- Operations on a session's rules are asked for. -/
  | modified (key : String) (seid : UInt64) (cp : Option FSeid) (ops : List RuleOp)
  /-- A session ends. -/
  | deleted (key : String) (seid : UInt64)
  deriving DecidableEq

namespace Ledger

/-- The ledger after a session was tried at a desk. -/
def attempt (l : Ledger) (key : String) (d : Desk) (remoteSeid : UInt64) (ops : List RuleOp) :
    Ledger :=
  let s := l.newcomer d remoteSeid
  match (l.bench s).carryOut ops with
  | (.error _, b) =>
    -- the numbers are used up, and the rules that were made stay behind
    { l with
      desks := l.desks.insert key d.advanced
      plane := b.plane
      pools := s.releasePools b.pools
      nextResourceKey := l.nextResourceKey + 1 }
  | (.ok _, b) =>
    { l with
      desks := l.desks.insert key (d.advanced.file b.session)
      plane := b.plane
      pools := b.pools
      nextResourceKey := l.nextResourceKey + 1 }

/-- The ledger after operations on a session. -/
def modify (l : Ledger) (key : String) (d : Desk) (s : Session) (ops : List RuleOp) : Ledger :=
  let b := ((l.bench s).carryOut ops).2
  { l with
    desks := l.desks.insert key (d.file b.session)
    plane := b.plane
    pools := b.pools }

/-- The ledger after a desk was closed. -/
def close (l : Ledger) (key : String) (d : Desk) : Ledger :=
  d.sessions.values.foldl release { l with desks := l.desks.erase key }

/-- The ledger after a session was deleted. -/
def delete (l : Ledger) (key : String) (d : Desk) (seid : UInt64) (s : Session) : Ledger :=
  { l with desks := l.desks.insert key { d with sessions := d.sessions.erase seid } }.release s

/-- The ledger after an entry. -/
def enter (l : Ledger) : Entry → Ledger
  | .opened key =>
    match l.desks.get? key with
    | some _ => l
    | none => { l with desks := l.desks.insert key {} }
  | .closed key =>
    match l.desks.get? key with
    | some d => l.close key d
    | none => l
  | .tried key remoteSeid ops =>
    match l.desks.get? key with
    | some d => l.attempt key d remoteSeid ops
    | none => l
  | .modified key seid cp ops =>
    match l.desks.get? key with
    | some d =>
      match d.sessions.get? seid with
      | some s => l.modify key d (s.renumbered cp) ops
      | none => l
    | none => l
  | .deleted key seid =>
    match l.desks.get? key with
    | some d =>
      match d.sessions.get? seid with
      | some s => l.delete key d seid s
      | none => l
    | none => l

end Ledger

/-! ## §3. History. -/

/-- What can no longer be read off a ledger. -/
structure History where
  /-- How many sessions were tried. -/
  tried : Nat := 0
  /-- The sessions whose establishment was rejected, with the rules that they
  had in the plane by then. -/
  abandoned : List Session := []
  /-- The sessions that a new session of the same number took the place of. -/
  displaced : List Session := []
  /-- The operations carried out on a session since it began. -/
  done : String → UInt64 → List RuleOp := fun _ _ => []

namespace History

/-- The history with the operations carried out on a session. -/
def withDone (h : History) (key : String) (seid : UInt64) (ops : List RuleOp) : History :=
  { h with done := fun k i => if k = key ∧ i = seid then ops else h.done k i }

/-- The history after a session was tried at a desk. -/
def attempt (h : History) (l : Ledger) (key : String) (d : Desk) (remoteSeid : UInt64)
    (ops : List RuleOp) : History :=
  let bench := l.bench (l.newcomer d remoteSeid)
  match bench.carryOut ops with
  | (.error _, b) => { h with tried := h.tried + 1, abandoned := b.session :: h.abandoned }
  | (.ok _, b) =>
    { h with
      tried := h.tried + 1
      displaced := (d.sessions.get? b.session.localSeid).toList ++ h.displaced }.withDone key
        b.session.localSeid (carriedOut ops bench)

/-- The history after an entry. -/
def enter (h : History) (l : Ledger) : Entry → History
  | .tried key remoteSeid ops =>
    match l.desks.get? key with
    | some d => h.attempt l key d remoteSeid ops
    | none => h
  | .modified key seid cp ops =>
    match l.live key seid with
    | some s =>
      h.withDone key seid (h.done key seid ++ carriedOut ops (l.bench (s.renumbered cp)))
    | none => h
  | _ => h

end History

/-- A ledger and its history. -/
structure Books where
  ledger : Ledger
  history : History := {}

namespace Books

/-- The books after an entry. -/
def enter (w : Books) (e : Entry) : Books := ⟨w.ledger.enter e, w.history.enter w.ledger e⟩

/-- The books after entries. -/
def after (w : Books) (entries : List Entry) : Books := entries.foldl enter w

/-- **Induction over entries.** -/
theorem holds_after {P : Books → Prop} (hstep : ∀ w e, P w → P (w.enter e)) (entries : List Entry)
    {w : Books} (h : P w) : P (w.after entries) := by
  induction entries generalizing w with
  | nil => exact h
  | cons e entries ih => exact ih (hstep w e h)

theorem ledger_after (w : Books) (entries : List Entry) :
    (w.after entries).ledger = entries.foldl Ledger.enter w.ledger := by
  induction entries generalizing w with
  | nil => rfl
  | cons e entries ih => exact ih (w.enter e)

end Books

/-! ## §4. What an entry can do. -/

namespace Books

/-- **What an entry can do** to the books. -/
inductive Move (w : Books) : Books → Prop where
  /-- What the entry is about is not there. -/
  | idle : Move w w
  | opened {key : String} (hdesk : w.ledger.desks.get? key = none) :
      Move w ⟨{ w.ledger with desks := w.ledger.desks.insert key {} }, w.history⟩
  | closed {key : String} {d : Desk} (hdesk : w.ledger.desks.get? key = some d) :
      Move w ⟨w.ledger.close key d, w.history⟩
  | rejected {key : String} {d : Desk} {remoteSeid : UInt64} {ops : List RuleOp}
      {e : SessionError} {b : Workbench} (hdesk : w.ledger.desks.get? key = some d)
      (hwork : (w.ledger.bench (w.ledger.newcomer d remoteSeid)).carryOut ops = (.error e, b)) :
      Move w
        ⟨{ w.ledger with
            desks := w.ledger.desks.insert key d.advanced
            plane := b.plane
            pools := (w.ledger.newcomer d remoteSeid).releasePools b.pools
            nextResourceKey := w.ledger.nextResourceKey + 1 },
          { w.history with
            tried := w.history.tried + 1
            abandoned := b.session :: w.history.abandoned }⟩
  | accepted {key : String} {d : Desk} {remoteSeid : UInt64} {ops : List RuleOp} {b : Workbench}
      (hdesk : w.ledger.desks.get? key = some d)
      (hwork : (w.ledger.bench (w.ledger.newcomer d remoteSeid)).carryOut ops = (.ok (), b)) :
      Move w
        ⟨{ w.ledger with
            desks := w.ledger.desks.insert key (d.advanced.file b.session)
            plane := b.plane
            pools := b.pools
            nextResourceKey := w.ledger.nextResourceKey + 1 },
          { w.history with
            tried := w.history.tried + 1
            displaced := (d.sessions.get? b.session.localSeid).toList
              ++ w.history.displaced }.withDone key b.session.localSeid
            (carriedOut ops (w.ledger.bench (w.ledger.newcomer d remoteSeid)))⟩
  | modified {key : String} {d : Desk} {seid : UInt64} {s : Session} (cp : Option FSeid)
      (ops : List RuleOp) (hdesk : w.ledger.desks.get? key = some d)
      (hsession : d.sessions.get? seid = some s) :
      Move w
        ⟨w.ledger.modify key d (s.renumbered cp) ops,
          w.history.withDone key seid (w.history.done key seid
            ++ carriedOut ops (w.ledger.bench (s.renumbered cp)))⟩
  | deleted {key : String} {d : Desk} {seid : UInt64} {s : Session}
      (hdesk : w.ledger.desks.get? key = some d) (hsession : d.sessions.get? seid = some s) :
      Move w ⟨w.ledger.delete key d seid s, w.history⟩

/-- An entry does what an entry can do. -/
theorem move_enter (w : Books) (e : Entry) : w.Move (w.enter e) := by
  obtain ⟨l, h⟩ := w
  -- one case per entry, along the lookups that it makes
  cases e with
  | opened key =>
    unfold enter Ledger.enter History.enter
    dsimp only
    cases hdesk : l.desks.get? key with
    | some d => exact .idle
    | none => exact .opened hdesk
  | closed key =>
    unfold enter Ledger.enter History.enter
    dsimp only
    cases hdesk : l.desks.get? key with
    | some d => exact .closed hdesk
    | none => exact .idle
  | tried key remoteSeid ops =>
    unfold enter Ledger.enter History.enter
    dsimp only
    cases hdesk : l.desks.get? key with
    | none => exact .idle
    | some d =>
      dsimp only
      unfold Ledger.attempt History.attempt
      dsimp only
      cases hwork : (l.bench (l.newcomer d remoteSeid)).carryOut ops with
      | mk result b =>
        cases result with
        | error e => exact .rejected hdesk hwork
        | ok u => exact .accepted hdesk hwork
  | modified key seid cp ops =>
    unfold enter Ledger.enter History.enter Ledger.live
    dsimp only
    cases hdesk : l.desks.get? key with
    | none => exact .idle
    | some d =>
      dsimp only [Option.bind_some]
      cases hsession : d.sessions.get? seid with
      | none => exact .idle
      | some s => exact .modified cp ops hdesk hsession
  | deleted key seid =>
    unfold enter Ledger.enter History.enter
    dsimp only
    cases hdesk : l.desks.get? key with
    | none => exact .idle
    | some d =>
      dsimp only
      cases hsession : d.sessions.get? seid with
      | none => exact .idle
      | some s => exact .deleted hdesk hsession

end Books

namespace Ledger

variable (l : Ledger) (s : Session) (ops : List RuleOp)

theorem carryOut_fixed : ((l.bench s).carryOut ops).2.fixed = (l.bench s).fixed :=
  Workbench.carryOut_keeps RuleOp.keeps_fixed ops _

theorem localSeid_carryOut : ((l.bench s).carryOut ops).2.session.localSeid = s.localSeid :=
  congrArg (·.1) (l.carryOut_fixed s ops)

theorem resourceKey_carryOut : ((l.bench s).carryOut ops).2.session.resourceKey = s.resourceKey :=
  congrArg (·.2.2.1) (l.carryOut_fixed s ops)

/-- What is not the session's in the pools stays there. -/
theorem rest_carryOut :
    ((l.bench s).carryOut ops).2.pools.rest s.resourceKey = l.pools.rest s.resourceKey := by
  have hrest : ((l.bench s).carryOut ops).2.poolRest = (l.bench s).poolRest :=
    congrArg (·.2.2.2.2) (l.carryOut_fixed s ops)
  unfold Workbench.poolRest at hrest
  rwa [l.resourceKey_carryOut s ops] at hrest

end Ledger

/-! ## §5. Sums over the live sessions. -/

/-- The sum of a function of the sessions at a desk. -/
def Desk.total {M : Type} [AddCommMonoid M] (d : Desk) (f : Session → M) : M :=
  d.sessions.total fun _ s => f s

namespace Ledger

variable {M : Type} [AddCommMonoid M] {l l' : Ledger} {key : String} {d d' : Desk}
  {seid : UInt64} {s : Session} (f : Session → M)

/-- The sum of a function of the live sessions at other desks. -/
def totalBeside (l : Ledger) (key : String) (f : Session → M) : M :=
  (l.desks.erase key).total fun _ d => d.total f

/-- The sum of a function of all live sessions but one. -/
def totalOthers (l : Ledger) (key : String) (d : Desk) (seid : UInt64) (f : Session → M) : M :=
  (d.sessions.erase seid).total (fun _ s => f s) + l.totalBeside key f

theorem total_of_desk (h : l.desks.get? key = some d) :
    l.total f = d.total f + l.totalBeside key f :=
  Table.total_of_get? (fun (_ : String) (d : Desk) => d.total f) h

theorem total_insert_desk (h : l'.desks = l.desks.insert key d) :
    l'.total f = d.total f + l.totalBeside key f := by
  unfold total
  rw [h]
  exact Table.total_insert (fun (_ : String) (d : Desk) => d.total f) l.desks key d

/-- A desk that is opened has no sessions. -/
theorem total_opened (hdesk : l.desks.get? key = none) (h : l'.desks = l.desks.insert key {}) :
    l'.total f = l.total f := by
  rw [total_insert_desk f h]
  unfold totalBeside
  rw [Table.erase_of_get?_none hdesk]
  exact zero_add _

/-- A desk whose sessions stay as they are adds as much as before. -/
theorem total_advanced (hdesk : l.desks.get? key = some d)
    (h : l'.desks = l.desks.insert key d.advanced) : l'.total f = l.total f := by
  rw [total_insert_desk f h, total_of_desk f hdesk]
  rfl

/-- A desk that is closed takes its sessions along. -/
theorem total_closed (hdesk : l.desks.get? key = some d) (h : l'.desks = l.desks.erase key) :
    l.total f = d.total f + l'.total f := by
  rw [total_of_desk f hdesk]
  unfold totalBeside total
  rw [h]
  rfl

/-- What is found under a session's number, and the others. -/
theorem total_split (hdesk : l.desks.get? key = some d) (seid : UInt64) :
    l.total f = ((d.sessions.get? seid).toList.map f).sum + l.totalOthers key d seid f := by
  rw [total_of_desk f hdesk]
  unfold Desk.total totalOthers
  rw [Table.total_split f d.sessions seid, add_assoc]

theorem total_of_session (hdesk : l.desks.get? key = some d)
    (hsession : d.sessions.get? seid = some s) :
    l.total f = f s + l.totalOthers key d seid f := by
  rw [total_split f hdesk seid, hsession]
  simp

/-- A session that is filed takes the place of what was under its number. -/
theorem total_filed (d d' : Desk) (hsessions : d'.sessions = d.sessions)
    (h : l'.desks = l.desks.insert key (d'.file s)) :
    l'.total f = f s + l.totalOthers key d s.localSeid f := by
  rw [total_insert_desk f h]
  unfold Desk.total Desk.file totalOthers
  rw [hsessions, Table.total_insert, add_assoc]

theorem total_erased
    (h : l'.desks = l.desks.insert key { d with sessions := d.sessions.erase seid }) :
    l'.total f = l.totalOthers key d seid f := total_insert_desk f h

theorem mem_total_iff {β : Type} (f : Session → Multiset β) (l : Ledger) (x : β) :
    x ∈ l.total f ↔ ∃ key seid s, l.live key seid = some s ∧ x ∈ f s := by
  unfold total
  rw [Table.mem_total]
  constructor
  · rintro ⟨key, d, hd, hx⟩
    obtain ⟨seid, s, hs, hx⟩ := (Table.mem_total _ _ _).mp hx
    exact ⟨key, seid, s, by rw [live, hd]; exact hs, hx⟩
  · rintro ⟨key, seid, s, hs, hx⟩
    obtain ⟨d, hd, hs⟩ := Option.bind_eq_some_iff.mp hs
    exact ⟨key, d, hd, (Table.mem_total _ _ _).mpr ⟨seid, s, hs, hx⟩⟩

theorem nodup_of_live {β : Type} {f : Session → Multiset β} (hnodup : (l.total f).Nodup)
    (h : l.live key seid = some s) : (f s).Nodup := by
  obtain ⟨d, hd, hs⟩ := Option.bind_eq_some_iff.mp h
  rw [total_of_session f hd hs] at hnodup
  exact (Multiset.nodup_add.mp hnodup).1

/-- If the live sessions' shares hold nothing twice, no two sessions hold the
same. -/
theorem live_unique_of_nodup {β : Type} {f : Session → Multiset β} {key' : String}
    {seid' : UInt64} {s' : Session} {x : β} (hnodup : (l.total f).Nodup)
    (h : l.live key seid = some s) (h' : l.live key' seid' = some s') (hx : x ∈ f s)
    (hx' : x ∈ f s') : key = key' ∧ seid = seid' := by
  obtain ⟨d, hd, hs⟩ := Option.bind_eq_some_iff.mp h
  obtain ⟨d', hd', hs'⟩ := Option.bind_eq_some_iff.mp h'
  have hkey : key = key' := Table.key_unique_of_nodup_total hnodup hd hd'
    ((Table.mem_total _ _ _).mpr ⟨seid, s, hs, hx⟩)
    ((Table.mem_total _ _ _).mpr ⟨seid', s', hs', hx'⟩)
  subst hkey
  cases hd.symm.trans hd'
  -- the desk is the same, so that what it holds in all tells its sessions apart
  have hdesk : (d.total f).Nodup :=
    Table.nodup_of_nodup_total (f := fun (_ : String) (d : Desk) => d.total f) hnodup hd
  exact ⟨rfl, Table.key_unique_of_nodup_total hdesk hs hs' hx hx'⟩

end Ledger

/-! ## §6. Sessions are filed under their numbers. -/

namespace Ledger

/-- Every session is filed under its own number. -/
def Filed (l : Ledger) : Prop := ∀ key seid s, l.live key seid = some s → s.localSeid = seid

theorem live_of_desk {l : Ledger} {key : String} {d : Desk} {seid : UInt64} {s : Session}
    (hdesk : l.desks.get? key = some d) (hsession : d.sessions.get? seid = some s) :
    l.live key seid = some s := by
  rw [live, hdesk]
  exact hsession

/-- A live session is at the desk that was written, or was live before. -/
theorem live_of_insert {l l' : Ledger} {key key' : String} {d : Desk} {seid : UInt64} {s : Session}
    (hdesks : l'.desks = l.desks.insert key d) (h : l'.live key' seid = some s) :
    key' = key ∧ d.sessions.get? seid = some s ∨ key' ≠ key ∧ l.live key' seid = some s := by
  unfold live at *
  rw [hdesks, Table.get?_insert] at h
  split at h
  · next hkey => exact .inl ⟨hkey, h⟩
  · next hkey => exact .inr ⟨hkey, h⟩

theorem live_of_erase {l l' : Ledger} {key key' : String} {seid : UInt64} {s : Session}
    (hdesks : l'.desks = l.desks.erase key) (h : l'.live key' seid = some s) :
    l.live key' seid = some s := by
  obtain ⟨d, hdesk, hsession⟩ := Option.bind_eq_some_iff.mp h
  rw [hdesks] at hdesk
  exact live_of_desk (Table.get?_of_erase hdesk).2 hsession

/-- At a desk that is opened nobody is live. -/
theorem live_of_opened {l l' : Ledger} {key key' : String} {seid : UInt64} {s : Session}
    (hdesks : l'.desks = l.desks.insert key {}) (h : l'.live key' seid = some s) :
    l.live key' seid = some s := by
  rcases live_of_insert hdesks h with ⟨-, hsession⟩ | ⟨-, hlive⟩
  · cases hsession
  · exact hlive

/-- Where a desk keeps no more sessions than it had, those that are live were
live before. -/
theorem live_of_kept {l l' : Ledger} {key key' : String} {d : Desk} {seid : UInt64}
    {s : Session} (hdesk : l.desks.get? key = some d) (d' : Desk)
    (hdesks : l'.desks = l.desks.insert key d')
    (h : l'.live key' seid = some s)
    (hkept : ∀ seid s, d'.sessions.get? seid = some s → d.sessions.get? seid = some s) :
    l.live key' seid = some s := by
  rcases live_of_insert hdesks h with ⟨rfl, hsession⟩ | ⟨-, hlive⟩
  · exact live_of_desk hdesk (hkept seid s hsession)
  · exact hlive

/-- A live session is the one that was filed, or was live before under another
number. -/
theorem live_of_filed {l l' : Ledger} {key key' : String} {d : Desk} {seid : UInt64}
    {s s' : Session} (hdesk : l.desks.get? key = some d) (d' : Desk)
    (hsessions : d'.sessions = d.sessions)
    (hdesks : l'.desks = l.desks.insert key (d'.file s)) (h : l'.live key' seid = some s') :
    key' = key ∧ seid = s.localSeid ∧ s' = s
      ∨ ¬ (key' = key ∧ seid = s.localSeid) ∧ l.live key' seid = some s' := by
  rcases live_of_insert hdesks h with ⟨rfl, hsession⟩ | ⟨hkey, hlive⟩
  · -- at the desk that was written the session was filed, or another is found
    have hget : (d'.sessions.insert s.localSeid s).get? seid = some s' := hsession
    rw [Table.get?_insert] at hget
    split at hget
    · next hseid => exact .inl ⟨rfl, hseid, (Option.some.inj hget).symm⟩
    · next hseid =>
      rw [hsessions] at hget
      exact .inr ⟨fun e => hseid e.2, live_of_desk hdesk hget⟩
  · exact .inr ⟨fun e => hkey e.1, hlive⟩

/-- Sessions that are released leave the desks and the numbers alone. -/
theorem foldl_release (sessions : List Session) (l : Ledger) :
    (sessions.foldl release l).desks = l.desks
      ∧ (sessions.foldl release l).nextResourceKey = l.nextResourceKey := by
  induction sessions generalizing l with
  | nil => exact ⟨rfl, rfl⟩
  | cons s sessions ih => exact ih (l.release s)

/-- Sessions that are released give back what is under their keys. -/
theorem pools_foldl_release (sessions : List Session) (l : Ledger) :
    (sessions.foldl release l).pools
      = (sessions.map Session.resourceKey).foldl Pools.releaseAll l.pools := by
  induction sessions generalizing l with
  | nil => rfl
  | cons s sessions ih => exact ih (l.release s)

theorem desks_close (l : Ledger) (key : String) (d : Desk) :
    (l.close key d).desks = l.desks.erase key :=
  (foldl_release d.sessions.values _).1

theorem nextResourceKey_close (l : Ledger) (key : String) (d : Desk) :
    (l.close key d).nextResourceKey = l.nextResourceKey :=
  (foldl_release d.sessions.values _).2

end Ledger

theorem Session.localSeid_renumbered (s : Session) (cp : Option FSeid) :
    (s.renumbered cp).localSeid = s.localSeid := by
  cases cp <;> rfl

/-- A session that is modified keeps the number that it is filed under. -/
theorem Ledger.Filed.localSeid_modified {l : Ledger} {key : String} {seid : UInt64} {s : Session}
    (hfiled : l.Filed) (hlive : l.live key seid = some s) (cp : Option FSeid)
    (ops : List RuleOp) :
    ((l.bench (s.renumbered cp)).carryOut ops).2.session.localSeid = seid :=
  (l.localSeid_carryOut _ ops).trans ((s.localSeid_renumbered cp).trans (hfiled key seid s hlive))

/-- A session that is modified stands where it stood. -/
theorem Ledger.total_modify {M : Type} [AddCommMonoid M] {l : Ledger} {key : String} {d : Desk}
    {seid : UInt64} {s : Session} (f : Session → M) (hfiled : l.Filed)
    (hdesk : l.desks.get? key = some d) (hsession : d.sessions.get? seid = some s)
    (cp : Option FSeid) (ops : List RuleOp) :
    (l.modify key d (s.renumbered cp) ops).total f
      = f ((l.bench (s.renumbered cp)).carryOut ops).2.session + l.totalOthers key d seid f := by
  rw [total_filed f d d rfl rfl, hfiled.localSeid_modified (live_of_desk hdesk hsession)]

namespace Books

/-- **Sessions stay filed** under their numbers. -/
theorem Move.filed {w w' : Books} (h : w.Move w') (hfiled : w.ledger.Filed) : w'.ledger.Filed := by
  cases h with
  | idle => exact hfiled
  | opened hdesk =>
    intro key' seid s hlive
    exact hfiled key' seid s (Ledger.live_of_opened rfl hlive)
  | closed hdesk =>
    intro key' seid s hlive
    exact hfiled key' seid s (Ledger.live_of_erase (Ledger.desks_close _ _ _) hlive)
  | rejected hdesk hwork =>
    intro key' seid s hlive
    exact hfiled key' seid s
      (Ledger.live_of_kept hdesk (Desk.advanced _) rfl hlive fun _ _ hget => hget)
  | accepted hdesk hwork =>
    -- the new session is filed under its own number, whoever was there before
    intro key' seid s hlive
    rcases Ledger.live_of_filed hdesk (Desk.advanced _) rfl rfl hlive with
      ⟨-, rfl, rfl⟩ | ⟨-, hlive⟩
    · rfl
    · exact hfiled key' seid s hlive
  | modified cp ops hdesk hsession =>
    intro key' seid s hlive
    rcases Ledger.live_of_filed hdesk _ rfl rfl hlive with ⟨-, rfl, rfl⟩ | ⟨-, hlive⟩
    · rfl
    · exact hfiled key' seid s hlive
  | deleted hdesk hsession =>
    intro key' seid' s' hlive
    exact hfiled key' seid' s'
      (Ledger.live_of_kept hdesk _ rfl hlive fun _ _ hget => (Table.get?_of_erase hget).2)

end Books

end UserPlane
