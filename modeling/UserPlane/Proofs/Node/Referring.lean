/-
  UserPlane.Proofs.Node.Referring
  ───────────────────────────────
  **WHERE THE DETECTION RULES OF A NODE POINT TO.**

  A detection rule of a live session points to the slot of the rule that it
  names, as long as that rule was neither made anew nor removed since an
  operation gave the detection rule its name.  That slot is in use, and no
  other rule of any session has it.  The proviso cannot be dropped: a slot is
  not looked up again when the rule in it is made anew.

      Books.Referring       references are current in every live session
      Books.Move.referring  every entry keeps them so
-/
import UserPlane.Proofs.Node.SlotOwnership

namespace UserPlane

/-! ## §1. References in every session. -/

/-- In every live session the references that are undisturbed are current. -/
def Books.Referring (w : Books) : Prop :=
  ∀ key seid s, w.ledger.live key seid = some s → References (w.history.done key seid) s

theorem References.of_no_rules {s : Session} (h : s.pdrs = .empty) (done : List RuleOp) :
    References done s := by
  refine ⟨fun p pdr kind id hget => ?_, fun p pdr kind hget => ?_⟩ <;>
  · rw [h] at hget
    cases hget

theorem References.renumbered {done : List RuleOp} {s : Session} (h : References done s)
    (cp : Option FSeid) : References done (s.renumbered cp) := by
  cases cp with
  | none => exact h
  | some f =>
    refine ⟨h.named, ?_⟩
    intro p pdr kind hget hundisturbed
    have hcurrent := h.current p pdr kind hget hundisturbed
    cases kind <;> exact hcurrent

namespace History

theorem done_withDone (h : History) (key : String) (seid : UInt64) (ops : List RuleOp) :
    (h.withDone key seid ops).done key seid = ops := if_pos ⟨rfl, rfl⟩

theorem done_withDone_of_ne (h : History) {key key' : String} {seid seid' : UInt64}
    (ops : List RuleOp) (hne : ¬ (key' = key ∧ seid' = seid)) :
    (h.withDone key seid ops).done key' seid' = h.done key' seid' := if_neg hne

end History

namespace Books

variable {w w' : Books} {farSlots qerSlots : Nat}

/-- **Every entry keeps references current.** -/
theorem Move.referring (hmove : w.Move w') (hfiled : w.ledger.Filed)
    (hstocked : w.Stocked farSlots qerSlots) (h : w.Referring) : w'.Referring := by
  obtain ⟨hfars, hqers⟩ := hstocked
  cases hmove with
  | idle => exact h
  | opened hdesk =>
    intro key' seid s hlive
    exact h key' seid s (Ledger.live_of_opened rfl hlive)
  | closed hdesk =>
    -- those that are still live are as they were
    intro key' seid s hlive
    exact h key' seid s (Ledger.live_of_erase (Ledger.desks_close _ _ _) hlive)
  | rejected hdesk hwork =>
    intro key' seid s hlive
    exact h key' seid s
      (Ledger.live_of_kept hdesk (Desk.advanced _) rfl hlive fun _ _ hget => hget)
  | @accepted key d remoteSeid ops b hdesk hwork =>
    have hbench := Ledger.stocked_newcomer (l := w.ledger) d remoteSeid hfars hqers
    have hrefs := (References.of_no_rules (s := w.ledger.newcomer d remoteSeid) rfl []).carryOut
      (b := w.ledger.bench (w.ledger.newcomer d remoteSeid)) hbench ops
    rw [hwork, List.nil_append] at hrefs
    -- the new session begins without rules; the others go on as they were
    intro key' seid' s' hlive
    rcases Ledger.live_of_filed hdesk (Desk.advanced _) rfl rfl hlive with
      ⟨rfl, rfl, rfl⟩ | ⟨hne, hlive⟩
    · rw [History.done_withDone]
      exact hrefs
    · rw [History.done_withDone_of_ne _ _ hne]
      exact h key' seid' s' hlive
  | @modified key d seid s cp ops hdesk hsession =>
    -- what was done to the session before, and what is done to it now
    have hlive₀ := Ledger.live_of_desk hdesk hsession
    unfold recorded at hfars hqers
    rw [Ledger.total_of_session _ hdesk hsession, add_assoc] at hfars hqers
    have hrefs := ((h key seid s hlive₀).renumbered cp).carryOut
      (b := w.ledger.bench (s.renumbered cp)) (Ledger.stocked_renumbered cp hfars hqers) ops
    have hseid := hfiled.localSeid_modified hlive₀ cp ops
    intro key' seid' s' hlive
    rcases Ledger.live_of_filed hdesk _ rfl rfl hlive with ⟨rfl, hkey, rfl⟩ | ⟨hne, hlive⟩
    · rw [hkey, hseid, History.done_withDone]
      exact hrefs
    · rw [hseid] at hne
      rw [History.done_withDone_of_ne _ _ hne]
      exact h key' seid' s' hlive
  | deleted hdesk hsession =>
    intro key' seid' s' hlive
    exact h key' seid' s'
      (Ledger.live_of_kept hdesk _ rfl hlive fun _ _ hget => (Table.get?_of_erase hget).2)

end Books

/-! ## §2. Every node that can be reached. -/

/-- A slot of a kind is not in use. -/
def Plane.isFree (p : Plane) : SlotKind → Nat → Bool
  | .far => p.fars.tracker.isFree
  | .qer => p.qers.tracker.isFree

namespace Node

variable {c : Config} {startup : Int} {heartbeats : Bool} {n : Node}

theorem books_referring (h : Node.start c startup heartbeats = .ok n) (events : List Event) :
    (n.books events).Referring := by
  have hall := books_induction
    (P := fun w => w.Referring ∧ w.ledger.Filed ∧ w.Stocked c.farMapSize.toNat c.qerMapSize.toNat)
    (fun w e hw => ?_)
    ⟨fun key seid s hlive => ?_, (numbered_start h).filed, stocked_start h⟩ events
  · exact hall.1
  · obtain ⟨hreferring, hfiled, hstocked⟩ := hw
    have hmove := w.move_enter e
    exact ⟨hmove.referring hfiled hstocked hreferring, hmove.filed hfiled,
      hmove.stocked hfiled hstocked⟩
  · rw [Ledger.live, desks_start h] at hlive
    cases hlive

/-- A slot that a rule of a live session has is in use, and no other rule has
it. -/
theorem slot_owned (h : Node.start c startup heartbeats = .ok n) (events : List Event)
    {key : String} {seid : UInt64} {s : Session} (hlive : (n.run events).live key seid = some s)
    {kind : SlotKind} {id : UInt32} {slot : Nat} (hslot : s.slot? kind id = some slot) :
    (n.run events).plane.isFree kind slot = false
    ∧ ∀ key' seid' s' id', (n.run events).live key' seid' = some s' →
      s'.slot? kind id' = some slot → key' = key ∧ seid' = seid ∧ id' = id := by
  obtain ⟨-, hstocked⟩ := books_stocked h events
  have hledger := n.ledger_books events
  have hplane : (n.books events).ledger.plane = (n.run events).plane := congrArg (·.plane) hledger
  have hfars := hstocked.fars
  have hqers := hstocked.qers
  rw [hplane] at hfars hqers
  cases kind with
  | far =>
    have howned := Books.slotOwnership Session.fars hledger hfars
    obtain ⟨x, hx, rfl⟩ := Option.map_eq_some_iff.mp hslot
    obtain ⟨hfree, hunique⟩ := howned.of_rule hlive hx
    refine ⟨hfree, ?_⟩
    intro key' seid' s' id' hlive' hslot'
    obtain ⟨x', hx', heq⟩ := Option.map_eq_some_iff.mp hslot'
    exact hunique key' seid' s' id' x' hlive' hx' heq
  | qer =>
    have howned := Books.slotOwnership Session.qers hledger hqers
    obtain ⟨x, hx, rfl⟩ := Option.map_eq_some_iff.mp hslot
    obtain ⟨hfree, hunique⟩ := howned.of_rule hlive hx
    refine ⟨hfree, ?_⟩
    intro key' seid' s' id' hlive' hslot'
    obtain ⟨x', hx', heq⟩ := Option.map_eq_some_iff.mp hslot'
    exact hunique key' seid' s' id' x' hlive' hx' heq

/-- **References are current.**  In every node that can be reached a detection
rule of a live session that names no rule has no slot.  One that names a rule
was given that name by an operation.  If the rule was neither made anew nor
removed since, the detection rule has the slot that the session's rule of that
number has; the slot is in use, and no other rule of any live session has it. -/
theorem references_current (h : Node.start c startup heartbeats = .ok n) (events : List Event)
    {key : String} {seid : UInt64} {s : Session} (hlive : (n.run events).live key seid = some s)
    {p : UInt16} {pdr : SessionPdr} (hpdr : s.pdrs.get? p = some pdr) (kind : SlotKind) :
    (pdr.ruleId kind = none → pdr.slot kind = none)
    ∧ ∀ id, pdr.ruleId kind = some id →
      (∃ op ∈ (n.history events).done key seid, op.Names kind p id)
      ∧ (Undisturbed kind p id ((n.history events).done key seid) →
        ∃ slot, pdr.slot kind = some slot ∧ s.slot? kind id = some slot
          ∧ (n.run events).plane.isFree kind slot = false
          ∧ ∀ key' seid' s' id', (n.run events).live key' seid' = some s' →
            s'.slot? kind id' = some slot → key' = key ∧ seid' = seid ∧ id' = id) := by
  have hlive' : (n.books events).ledger.live key seid = some s := by
    rw [ledger_books, live_ledger]
    exact hlive
  have hrefs := books_referring h events key seid s hlive'
  constructor
  · intro hnone
    have hcurrent := hrefs.current p pdr kind hpdr fun id hsome => by
      rw [hnone] at hsome
      cases hsome
    rw [hnone, Session.slotOf_eq_ok] at hcurrent
    exact hcurrent
  · intro id hsome
    refine ⟨hrefs.named p pdr kind id hpdr hsome, ?_⟩
    intro hundisturbed
    have hcurrent := hrefs.current p pdr kind hpdr fun id' hsome' => by
      rw [hsome] at hsome'
      cases hsome'
      exact hundisturbed
    rw [hsome, Session.slotOf_eq_ok] at hcurrent
    obtain ⟨hslot, hsame⟩ := hcurrent
    obtain ⟨slot, hslot⟩ := Option.isSome_iff_exists.mp hslot
    rw [hslot] at hsame
    obtain ⟨hfree, hunique⟩ := slot_owned h events hlive hsame
    exact ⟨slot, hslot, hsame, hfree, hunique⟩

open Event in
/-- The detection rule of a first session points to its forwarding rule. -/
theorem references_current_first : Node.start {} 0 false = .ok standard
    ∧ ∃ s pdr slot, (standard.run [setup, first]).live "10.0.0.1" 1 = some s
      ∧ s.pdrs.get? 1 = some pdr ∧ pdr.ruleId .far = some 1
      ∧ pdr.slot .far = some slot ∧ s.slot? .far 1 = some slot
      ∧ (standard.run [setup, first]).plane.isFree .far slot = false := by
  have hnames : ((standard.run [setup, first]).live "10.0.0.1" 1).bind
      (fun s => (s.pdrs.get? 1).map (·.ruleId .far)) = some (some 1) := by decide +kernel
  have hdone : ∃ f p, (standard.history [setup, first]).done "10.0.0.1" 1
      = [.createFar f, .createPdr p] ∧ p.pdrId.ruleId = 1 ∧ p.ruleId .far = some 1 :=
    ⟨{ farId := ⟨1⟩, applyAction := ⟨2⟩ },
      { pdrId := ⟨1⟩
        pdi := { sourceInterface := .access, ueIpAddress := some { flags := 16 } }
        farId := some ⟨1⟩ }, by decide +kernel, rfl, rfl⟩
  obtain ⟨s, hs, hpdr⟩ := Option.bind_eq_some_iff.mp hnames
  obtain ⟨pdr, hpdr, hid⟩ := Option.map_eq_some_iff.mp hpdr
  obtain ⟨f, p, hdone, hp⟩ := hdone
  have hcurrent := (references_current start_standard [setup, first] hs hpdr .far).2 1 hid
  obtain ⟨slot, hslot, hsame, hfree, -⟩ := hcurrent.2
    ⟨[.createFar f], .createPdr p, [], hdone, hp, fun later hl => by cases hl⟩
  exact ⟨start_standard, s, pdr, slot, hs, hpdr, hid, hslot, hsame, hfree⟩

open Event in
/-- A forwarding rule that is made anew gets another slot; the detection rule
that names it goes on pointing to the first, which is free. -/
theorem reference_outdated : ∃ events s pdr,
    (standard.run events).live "10.0.0.1" 1 = some s ∧ s.pdrs.get? 1 = some pdr
    ∧ pdr.ruleId .far = some 1 ∧ pdr.slot .far = some 0 ∧ s.slot? .far 1 = some 1
    ∧ (standard.run events).plane.isFree .far 0 = true := by
  let events := [setup, first,
    modification 1 { createFar := [{ farId := ⟨1⟩, applyAction := ⟨2⟩ }] }]
  have hpoints : ((standard.run events).live "10.0.0.1" 1).bind (fun s => (s.pdrs.get? 1).map
      fun pdr => (pdr.ruleId .far, pdr.slot .far, s.slot? .far 1))
        = some (some 1, some 0, some 1) := by decide +kernel
  obtain ⟨s, hs, hpdr⟩ := Option.bind_eq_some_iff.mp hpoints
  obtain ⟨pdr, hpdr, heq⟩ := Option.map_eq_some_iff.mp hpdr
  rw [Prod.mk.injEq, Prod.mk.injEq] at heq
  exact ⟨events, s, pdr, hs, hpdr, heq.1, heq.2.1, heq.2.2, by decide +kernel⟩

end Node

end UserPlane
