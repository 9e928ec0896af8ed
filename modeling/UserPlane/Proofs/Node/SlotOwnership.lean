/-
  UserPlane.Proofs.Node.SlotOwnership
  ───────────────────────────────────
  **EVERY SLOT HAS AN OWNER, OR WAS LEFT BEHIND.**

  The slots of the plane hold what the live sessions record, and what sessions
  left behind that never came to be: an establishment that is rejected midway
  leaves the rules that it made by then.  Beside these there can only be the
  rules of a session whose number was given out again, after the numbers of
  its association were used up.

      Books.Stocked       the slots, the live sessions and those left behind
      Books.Move.stocked  every entry keeps the account
      SlotOwnership       what the account says of every slot
-/
import Mathlib.Tactic.Abel
import UserPlane.Proofs.Node.Numbering

namespace UserPlane

/-! ## §1. The account. -/

/-- The sum of a function of the sessions that left rules behind. -/
def History.left {M : Type} [AddCommMonoid M] (h : History) (f : Session → M) : M :=
  ((h.abandoned ++ h.displaced).map f).sum

namespace Books

/-- The sum of a function of the live sessions and of those that left rules
behind. -/
def recorded {M : Type} [AddCommMonoid M] (w : Books) (f : Session → M) : M :=
  w.ledger.total f + w.history.left f

/-- The slots hold what the live sessions record, and what was left behind. -/
structure Stocked (w : Books) (farSlots qerSlots : Nat) : Prop where
  fars : w.ledger.plane.fars.Stocked farSlots (w.recorded Session.farStock)
  qers : w.ledger.plane.qers.Stocked qerSlots (w.recorded Session.qerStock)

section

variable {M : Type} [AddCommMonoid M] {w w' : Books} {key : String} {d : Desk} {s : Session}
  (f : Session → M)

/-- A session that is rejected is recorded among those that left rules
behind. -/
theorem recorded_rejected (hdesk : w.ledger.desks.get? key = some d)
    (hdesks : w'.ledger.desks = w.ledger.desks.insert key d.advanced)
    (habandoned : w'.history.abandoned = s :: w.history.abandoned)
    (hdisplaced : w'.history.displaced = w.history.displaced) :
    w'.recorded f = f s + w.recorded f := by
  unfold recorded History.left
  rw [Ledger.total_advanced f hdesk hdesks, habandoned, hdisplaced, List.cons_append, List.map_cons,
    List.sum_cons, add_left_comm]

/-- A session that is accepted is recorded among the live ones, and the one
whose number it has among those that left rules behind. -/
theorem recorded_accepted (hdesk : w.ledger.desks.get? key = some d)
    (hdesks : w'.ledger.desks = w.ledger.desks.insert key (d.advanced.file s))
    (habandoned : w'.history.abandoned = w.history.abandoned)
    (hdisplaced : w'.history.displaced
      = (d.sessions.get? s.localSeid).toList ++ w.history.displaced) :
    w'.recorded f = f s + w.recorded f := by
  unfold recorded History.left
  rw [Ledger.total_filed f d d.advanced rfl hdesks,
    Ledger.total_split f hdesk s.localSeid, habandoned, hdisplaced]
  simp only [List.map_append, List.sum_append]
  abel

end

end Books

/-! ## §2. Sessions on a ledger. -/

theorem Session.farStock_renumbered (s : Session) (cp : Option FSeid) :
    (s.renumbered cp).farStock = s.farStock := by
  cases cp <;> rfl

theorem Session.qerStock_renumbered (s : Session) (cp : Option FSeid) :
    (s.renumbered cp).qerStock = s.qerStock := by
  cases cp <;> rfl

namespace Ledger

variable {l : Ledger} {farSlots qerSlots : Nat} {fars : Multiset (Nat × FarInfo)}
  {qers : Multiset (Nat × QerInfo)}

/-- On the workbench of a new session the slots are others'. -/
theorem stocked_newcomer (d : Desk) (remoteSeid : UInt64)
    (hfars : l.plane.fars.Stocked farSlots fars) (hqers : l.plane.qers.Stocked qerSlots qers) :
    (l.bench (l.newcomer d remoteSeid)).Stocked farSlots qerSlots fars qers := by
  constructor
  · show l.plane.fars.Stocked farSlots (0 + fars)
    rwa [zero_add]
  · show l.plane.qers.Stocked qerSlots (0 + qers)
    rwa [zero_add]

/-- On the workbench of a session that the peer gave a new number the slots are
as they were. -/
theorem stocked_renumbered {s : Session} (cp : Option FSeid)
    (hfars : l.plane.fars.Stocked farSlots (s.farStock + fars))
    (hqers : l.plane.qers.Stocked qerSlots (s.qerStock + qers)) :
    (l.bench (s.renumbered cp)).Stocked farSlots qerSlots fars qers := by
  rw [← s.farStock_renumbered cp] at hfars
  rw [← s.qerStock_renumbered cp] at hqers
  exact ⟨hfars, hqers⟩

/-- Sessions that are released give back what they have in the slots. -/
theorem foldl_release_stocked (sessions : List Session)
    (hfars : l.plane.fars.Stocked farSlots ((sessions.map Session.farStock).sum + fars))
    (hqers : l.plane.qers.Stocked qerSlots ((sessions.map Session.qerStock).sum + qers)) :
    (sessions.foldl release l).plane.fars.Stocked farSlots fars
      ∧ (sessions.foldl release l).plane.qers.Stocked qerSlots qers := by
  -- to the first session, the shares of the next are others'
  induction sessions generalizing l with
  | nil => exact ⟨by simpa using hfars, by simpa using hqers⟩
  | cons s sessions ih =>
    rw [List.map_cons, List.sum_cons, add_assoc] at hfars hqers
    obtain ⟨hfars', hqers', -⟩ := Session.teardown_spec hfars hqers
    exact ih (l := l.release s) hfars' hqers'

end Ledger

/-! ## §3. Every entry keeps the account. -/

namespace Books

variable {w w' : Books} {farSlots qerSlots : Nat}

/-- **Every entry keeps the account.** -/
theorem Move.stocked (h : w.Move w') (hfiled : w.ledger.Filed)
    (hstocked : w.Stocked farSlots qerSlots) : w'.Stocked farSlots qerSlots := by
  obtain ⟨hfars, hqers⟩ := hstocked
  cases h with
  | idle => exact ⟨hfars, hqers⟩
  | opened hdesk =>
    -- a desk without sessions records nothing
    exact ⟨hfars.of_eq (congrArg (· + _) (Ledger.total_opened _ hdesk rfl)),
      hqers.of_eq (congrArg (· + _) (Ledger.total_opened _ hdesk rfl))⟩
  | @closed key d hdesk =>
    -- the sessions of the desk go one by one, each with its share
    unfold recorded at hfars hqers
    rw [Ledger.total_closed _ hdesk (Ledger.desks_close w.ledger key d), add_assoc] at hfars hqers
    unfold Desk.total at hfars hqers
    rw [← Table.sum_values] at hfars hqers
    obtain ⟨hfars', hqers'⟩ := Ledger.foldl_release_stocked
      (l := { w.ledger with desks := w.ledger.desks.erase key }) d.sessions.values hfars hqers
    exact ⟨hfars', hqers'⟩
  | @rejected key d remoteSeid ops e b hdesk hwork =>
    -- the session has its share of the slots by now, and is not filed
    have hb := (Ledger.stocked_newcomer d remoteSeid hfars hqers).carryOut ops
    rw [hwork] at hb
    exact ⟨hb.fars.of_eq (recorded_rejected _ hdesk rfl rfl rfl),
      hb.qers.of_eq (recorded_rejected _ hdesk rfl rfl rfl)⟩
  | @accepted key d remoteSeid ops b hdesk hwork =>
    -- the session is filed, and whoever had its number is displaced
    have hb := (Ledger.stocked_newcomer d remoteSeid hfars hqers).carryOut ops
    rw [hwork] at hb
    exact ⟨hb.fars.of_eq (recorded_accepted _ hdesk rfl rfl rfl),
      hb.qers.of_eq (recorded_accepted _ hdesk rfl rfl rfl)⟩
  | @modified key d seid s cp ops hdesk hsession =>
    -- to the session all the rest is others'
    unfold recorded at hfars hqers
    rw [Ledger.total_of_session _ hdesk hsession, add_assoc] at hfars hqers
    have hb := (Ledger.stocked_renumbered cp hfars hqers).carryOut ops
    have hrecorded : ∀ {M : Type} [AddCommMonoid M] (f : Session → M),
        (w.ledger.modify key d (s.renumbered cp) ops).total f + w.history.left f
          = f ((w.ledger.bench (s.renumbered cp)).carryOut ops).2.session
            + (w.ledger.totalOthers key d seid f + w.history.left f) := by
      intro M _ f
      rw [Ledger.total_modify f hfiled hdesk hsession, add_assoc]
    exact ⟨hb.fars.of_eq (hrecorded _), hb.qers.of_eq (hrecorded _)⟩
  | @deleted key d seid s hdesk hsession =>
    -- what is taken down is the session's share
    unfold recorded at hfars hqers
    rw [Ledger.total_of_session _ hdesk hsession, add_assoc] at hfars hqers
    obtain ⟨hfars', hqers', -⟩ := Session.teardown_spec hfars hqers
    exact ⟨hfars'.of_eq (congrArg (· + _) (Ledger.total_erased _ rfl)),
      hqers'.of_eq (congrArg (· + _) (Ledger.total_erased _ rfl))⟩

end Books

/-! ## §4. Who owns what. -/

/-- Whose a rule is: an association's key, the number of a session there, and
the rule's number in that session. -/
structure RuleOwner where
  key : String
  seid : UInt64
  rule : UInt32

/-- The slot that a rule of a live session records, and the information that
the session has about it. -/
def Node.owned {α β : Type} (n : Node) (rules : Session → Table UInt32 β) (share : β → Nat × α)
    (o : RuleOwner) : Option (Nat × α) :=
  (n.live o.key o.seid).bind fun s => ((rules s).get? o.rule).map share

/-- A slot is among those that rejected or displaced sessions left behind. -/
def History.Left {α β : Type} (h : History) (rules : Session → Table UInt32 β)
    (share : β → Nat × α) (slot : Nat) (info : α) : Prop :=
  ∃ s ∈ h.abandoned ++ h.displaced, ∃ id x, (rules s).get? id = some x ∧ share x = (slot, info)

/-- **Who owns the slots of a kind.** -/
structure SlotOwnership {α : Type} (slots : Slots α) (size : Nat)
    (owned : RuleOwner → Option (Nat × α)) (left : Nat → α → Prop) : Prop where
  /-- No two rules of live sessions have one slot. -/
  injective : ∀ o o' slot info info', owned o = some (slot, info) →
    owned o' = some (slot, info') → o = o'
  /-- What a session records is in the plane, in a slot there is. -/
  installed : ∀ o slot info, owned o = some (slot, info) →
    slot < size ∧ slots.get? slot = some info
  /-- A slot is free just if there is nothing in it. -/
  free_iff : ∀ slot, slot < size →
    (slots.tracker.isFree slot = true ↔ slots.get? slot = none)
  /-- Nothing is anywhere but in the slots there are, and no other is free. -/
  beyond : ∀ slot, size ≤ slot → slots.get? slot = none ∧ slots.tracker.isFree slot = false
  /-- The slots that are in use without an owner are those left behind. -/
  left_iff : ∀ slot info,
    (slots.get? slot = some info ∧ ∀ o info', owned o ≠ some (slot, info')) ↔ left slot info

section

variable {α β : Type} {n : Node} {w : Books} {rules : Session → Table UInt32 β}
  {share : β → Nat × α} {slots : Slots α} {size slot : Nat} {info : α}

theorem History.left_iff_mem (h : History) (rules : Session → Table UInt32 β)
    (share : β → Nat × α) (slot : Nat) (info : α) :
    h.Left rules share slot info ↔ (slot, info) ∈ h.left fun s => (rules s).stock share := by
  unfold Left left
  rw [Table.mem_sum_map]
  simp only [Table.mem_stock]

theorem Node.owned_eq_some {o : RuleOwner} {p : Nat × α} :
    n.owned rules share o = some p ↔
      ∃ s x, n.live o.key o.seid = some s ∧ (rules s).get? o.rule = some x ∧ share x = p := by
  unfold owned
  simp only [Option.bind_eq_some_iff, Option.map_eq_some_iff]
  constructor
  · rintro ⟨s, hs, x, hx, hp⟩
    exact ⟨s, x, hs, hx, hp⟩
  · rintro ⟨s, x, hs, hx, hp⟩
    exact ⟨s, hs, x, hx, hp⟩

/-- The slots that live sessions own, as part of the account. -/
theorem Node.mem_total_iff (hledger : w.ledger = n.ledger) :
    (slot, info) ∈ w.ledger.total (fun s => (rules s).stock share) ↔
      ∃ o, n.owned rules share o = some (slot, info) := by
  rw [Ledger.mem_total_iff, hledger]
  simp only [Node.live_ledger, Node.owned_eq_some, Table.mem_stock]
  constructor
  · rintro ⟨key, seid, s, hs, id, x, hx, hp⟩
    exact ⟨⟨key, seid, id⟩, s, x, hs, hx, hp⟩
  · rintro ⟨o, s, x, hs, hx, hp⟩
    exact ⟨o.key, o.seid, s, hs, o.rule, x, hx, hp⟩

/-- What live sessions own has one owner, if they own nothing twice. -/
theorem Node.owner_unique (hledger : w.ledger = n.ledger)
    (hnodup : (w.ledger.total fun s => (rules s).stock share).Nodup) {o o' : RuleOwner}
    {p : Nat × α} (ho : n.owned rules share o = some p) (ho' : n.owned rules share o' = some p) :
    o = o' := by
  obtain ⟨s, x, hs, hx, hp⟩ := owned_eq_some.mp ho
  obtain ⟨s', x', hs', hx', hp'⟩ := owned_eq_some.mp ho'
  rw [← live_ledger, ← hledger] at hs hs'
  -- no two sessions have it
  obtain ⟨hkey, hseid⟩ := Ledger.live_unique_of_nodup hnodup hs hs'
    ((Table.mem_stock _ _ _).mpr ⟨o.rule, x, hx, hp⟩)
    ((Table.mem_stock _ _ _).mpr ⟨o'.rule, x', hx', hp'⟩)
  rw [hkey, hseid] at hs
  cases hs.symm.trans hs'
  -- and no two rules of the session
  have hrules : ((rules s).stock share).Nodup := Ledger.nodup_of_live hnodup hs'
  have hrule : o.rule = o'.rule := Table.key_unique_of_nodup_total hrules hx hx'
    (Multiset.mem_singleton.mpr hp.symm) (Multiset.mem_singleton.mpr hp'.symm)
  cases o
  cases o'
  cases hkey
  cases hseid
  cases hrule
  rfl

/-- **The account, slot by slot.** -/
theorem Books.slotOwnership (rules : Session → Table UInt32 β) (hledger : w.ledger = n.ledger)
    (h : slots.Stocked size (w.recorded fun s => (rules s).stock share)) :
    SlotOwnership slots size (n.owned rules share) (w.history.Left rules share) := by
  obtain ⟨hlive, -, hapart⟩ := Multiset.nodup_add.mp h.nodup
  have hinstalled : ∀ o slot info, n.owned rules share o = some (slot, info) →
      slots.get? slot = some info := by
    intro o slot info ho
    have hmem := (Node.mem_total_iff hledger).mpr ⟨o, ho⟩
    exact h.mem_iff.mp (Multiset.mem_add.mpr (.inl hmem))
  constructor
  case injective =>
    intro o o' slot info info' ho ho'
    -- what is in the slot is one and the same
    have hinfo : info = info' :=
      Option.some.inj ((hinstalled o slot info ho).symm.trans (hinstalled o' slot info' ho'))
    subst hinfo
    exact Node.owner_unique hledger hlive ho ho'
  case installed =>
    intro o slot info ho
    have hget := hinstalled o slot info ho
    exact ⟨h.below slot info hget, hget⟩
  case free_iff =>
    intro slot hlt
    rw [h.free_iff]
    exact ⟨fun hfree => hfree.2, fun hnone => ⟨hlt, hnone⟩⟩
  case beyond =>
    intro slot hle
    constructor
    · cases hget : slots.get? slot with
      | none => rfl
      | some a => exact absurd (h.below slot a hget) (Nat.not_lt.mpr hle)
    · rw [Bool.eq_false_iff, Ne, h.free_iff]
      exact fun hfree => Nat.not_lt.mpr hle hfree.1
  case left_iff =>
    intro slot info
    rw [History.left_iff_mem]
    constructor
    · -- what is in use is recorded, and no live session records it
      rintro ⟨hget, hunowned⟩
      rcases Multiset.mem_add.mp (h.mem_iff.mpr hget) with hmem | hmem
      · obtain ⟨o, ho⟩ := (Node.mem_total_iff hledger).mp hmem
        exact absurd ho (hunowned o info)
      · exact hmem
    · -- what was left behind is in use, and recorded only there
      intro hleft
      have hget := h.mem_iff.mp (Multiset.mem_add.mpr (.inr hleft))
      refine ⟨hget, ?_⟩
      intro o info' ho
      have hinfo : info = info' := Option.some.inj (hget.symm.trans (hinstalled o slot info' ho))
      subst hinfo
      exact Multiset.disjoint_left.mp hapart ((Node.mem_total_iff hledger).mpr ⟨o, ho⟩) hleft

/-- The slot of a live session's rule is in use, and no other rule has it. -/
theorem SlotOwnership.of_rule {left : Nat → α → Prop}
    (h : SlotOwnership slots size (n.owned rules share) left) {key : String} {seid : UInt64}
    {s : Session} {id : UInt32} {x : β} (hlive : n.live key seid = some s)
    (hx : (rules s).get? id = some x) :
    slots.tracker.isFree (share x).1 = false
    ∧ ∀ key' seid' s' id' x', n.live key' seid' = some s' → (rules s').get? id' = some x' →
      (share x').1 = (share x).1 → key' = key ∧ seid' = seid ∧ id' = id := by
  have howned : n.owned rules share ⟨key, seid, id⟩ = some ((share x).1, (share x).2) :=
    Node.owned_eq_some.mpr ⟨s, x, hlive, hx, rfl⟩
  obtain ⟨hlt, hget⟩ := h.installed _ _ _ howned
  constructor
  · rw [Bool.eq_false_iff, Ne, h.free_iff _ hlt, hget]
    simp
  · intro key' seid' s' id' x' hlive' hx' hslot
    have howned' : n.owned rules share ⟨key', seid', id'⟩ = some ((share x).1, (share x').2) :=
      Node.owned_eq_some.mpr ⟨s', x', hlive', hx', by rw [← hslot]⟩
    cases h.injective _ _ _ _ _ howned howned'
    exact ⟨rfl, rfl, rfl⟩

end

/-! ## §5. Every node that can be reached. -/

namespace Node

variable {c : Config} {startup : Int} {heartbeats : Bool} {n : Node}

/-- A node's books begin with nothing recorded, and nothing in the slots. -/
theorem stocked_start (h : Node.start c startup heartbeats = .ok n) :
    n.newBooks.Stocked c.farMapSize.toNat c.qerMapSize.toNat := by
  have hrecorded : ∀ {M : Type} [AddCommMonoid M] (f : Session → M), n.newBooks.recorded f = 0 := by
    intro M _ f
    unfold Books.recorded Ledger.total
    rw [desks_start h]
    exact zero_add _
  have hplane : n.newBooks.ledger.plane = .make c.farMapSize.toNat c.qerMapSize.toNat :=
    (start_spec h).2.1
  constructor
  · rw [hplane, hrecorded]
    exact .make _
  · rw [hplane, hrecorded]
    exact .make _

/-- **The account holds of every node that can be reached**, and so do the
numbers. -/
theorem books_stocked (h : Node.start c startup heartbeats = .ok n) (events : List Event) :
    (n.books events).Numbered
      ∧ (n.books events).Stocked c.farMapSize.toNat c.qerMapSize.toNat := by
  refine books_induction (P := fun w => w.Numbered ∧ w.Stocked _ _) (fun w e hw => ?_)
    ⟨numbered_start h, stocked_start h⟩ events
  have hmove := w.move_enter e
  exact ⟨hmove.numbered hw.1, hmove.stocked hw.1.filed hw.2⟩

/-- **Slot ownership.**  In every node that can be reached the rules of live
sessions have slots of their own, which hold what the sessions record; a slot
is free just if it holds nothing; and what is in use without an owner was left
there by establishments that were rejected midway, or by sessions whose number
was given to another.  There are none of the latter before the numbers are used
up. -/
theorem slots_owned (h : Node.start c startup heartbeats = .ok n) (events : List Event) :
    SlotOwnership (n.run events).plane.fars c.farMapSize.toNat
        ((n.run events).owned Session.fars SessionFar.share)
        ((n.history events).Left Session.fars SessionFar.share)
      ∧ SlotOwnership (n.run events).plane.qers c.qerMapSize.toNat
        ((n.run events).owned Session.qers SessionQer.share)
        ((n.history events).Left Session.qers SessionQer.share)
      ∧ ((n.history events).tried < UInt64.size → (n.history events).displaced = []) := by
  obtain ⟨hnumbered, hstocked⟩ := books_stocked h events
  have hledger := n.ledger_books events
  have hplane : (n.books events).ledger.plane = (n.run events).plane := congrArg (·.plane) hledger
  have hfars := hstocked.fars
  have hqers := hstocked.qers
  rw [hplane] at hfars hqers
  exact ⟨Books.slotOwnership _ hledger hfars, Books.slotOwnership _ hledger hqers,
    hnumbered.displaced⟩

open Event in
/-- A first session has its forwarding rule in the first slot. -/
theorem slots_owned_first : Node.start {} 0 false = .ok standard
    ∧ ((standard.run [setup, first]).owned Session.fars SessionFar.share
        ⟨"10.0.0.1", 1, 1⟩).map Prod.fst = some 0
    ∧ SlotOwnership (standard.run [setup, first]).plane.fars 1024
        ((standard.run [setup, first]).owned Session.fars SessionFar.share)
        ((standard.history [setup, first]).Left Session.fars SessionFar.share) :=
  ⟨start_standard, by decide +kernel, (slots_owned start_standard [setup, first]).1⟩

/-- Once the numbers are used up, a slot can be in use that no live session
owns and no rejected establishment left behind. -/
theorem slot_of_displaced : ∃ events info,
    (standard.run events).plane.fars.get? 0 = some info
    ∧ (∀ o info', (standard.run events).owned Session.fars SessionFar.share o ≠ some (0, info'))
    ∧ ∀ s ∈ (standard.history events).abandoned, s.fars = .empty := by
  obtain ⟨events, s, hfars, -, htotal, hslot, habandoned, -⟩ := wrapping_spec
  have hledger := standard.ledger_books events
  obtain ⟨info, hinfo⟩ := Option.isSome_iff_exists.mp hslot
  rw [hledger] at hinfo
  refine ⟨events, info, hinfo, ?_, habandoned⟩
  intro o info' ho
  have hmem := (mem_total_iff hledger).mpr ⟨o, ho⟩
  rw [htotal, hfars] at hmem
  exact Multiset.notMem_zero _ hmem

end Node

end UserPlane
