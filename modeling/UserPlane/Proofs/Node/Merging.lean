/-
  UserPlane.Proofs.Node.Merging
  ─────────────────────────────
  **WHAT A NODE KEEPS OF RULES THAT WERE CHANGED.**

  Requests come one after the other, and between two requests about a session
  others come about other sessions.  None of that matters to a forwarding or QoS
  rule: as long as it is neither made anew nor removed, it is what was carried
  last, in the session and in its slot of the plane, between requests and amid
  them.

      Books.AddedUp        changes have added up in every live session
      Books.Move.addedUp   every entry keeps it so
      Node.rules_merged    what follows for every node that can be reached
-/
import UserPlane.Proofs.Node.Freshness
import UserPlane.Proofs.Session.Merging

namespace UserPlane

variable {ρ υ β : Type} {m : Mergeable ρ υ β}

/-! ## §1. Changes add up in every session. -/

/-- In every live session changes have added up. -/
def Books.AddedUp (m : Mergeable ρ υ β) (w : Books) : Prop :=
  ∀ key seid s, w.ledger.live key seid = some s →
    m.AddedUp (w.history.done key seid) w.ledger.n3 s

theorem Mergeable.AddedUp.renumbered {done : List RuleOp} {n3 : Ipv4} {s : Session}
    (h : m.AddedUp done n3 s) (cp : Option FSeid) : m.AddedUp done n3 (s.renumbered cp) := by
  cases cp <;> exact h.of_same rfl rfl

theorem Ledger.n3_foldl_release (sessions : List Session) (l : Ledger) :
    (sessions.foldl release l).n3 = l.n3 := by
  induction sessions generalizing l with
  | nil => rfl
  | cons s sessions ih => exact ih (l.release s)

namespace Books

variable {w w' : Books} {farSlots qerSlots : Nat}

/-- **The address at which tunnels end** stays as it is. -/
theorem Move.n3 (hmove : w.Move w') : w'.ledger.n3 = w.ledger.n3 := by
  cases hmove with
  | closed hdesk => exact Ledger.n3_foldl_release _ _
  | _ => rfl

theorem Stocked.kept_newcomer (h : w.Stocked farSlots qerSlots) (d : Desk) (remoteSeid : UInt64) :
    (w.ledger.bench (w.ledger.newcomer d remoteSeid)).Kept :=
  ⟨farSlots, qerSlots, _, _, Ledger.stocked_newcomer d remoteSeid h.fars h.qers⟩

/-- To a live session all that is not its own is others'. -/
theorem Stocked.kept_live (h : w.Stocked farSlots qerSlots) {key : String} {seid : UInt64}
    {s : Session} (hlive : w.ledger.live key seid = some s) (cp : Option FSeid) :
    (w.ledger.bench (s.renumbered cp)).Kept := by
  obtain ⟨d, hdesk, hsession⟩ := Option.bind_eq_some_iff.mp hlive
  obtain ⟨hfars, hqers⟩ := h
  unfold recorded at hfars hqers
  rw [Ledger.total_of_session _ hdesk hsession, add_assoc] at hfars hqers
  exact ⟨farSlots, qerSlots, _, _, Ledger.stocked_renumbered cp hfars hqers⟩

/-- **Every entry keeps changes added up.** -/
theorem Move.addedUp (hmove : w.Move w') (hfiled : w.ledger.Filed)
    (hstocked : w.Stocked farSlots qerSlots) (h : w.AddedUp m) : w'.AddedUp m := by
  unfold AddedUp
  rw [hmove.n3]
  cases hmove with
  | idle => exact h
  | opened hdesk =>
    intro key' seid s hlive
    exact h key' seid s (Ledger.live_of_opened rfl hlive)
  | closed hdesk =>
    -- those that are still live are as they were
    intro key' seid s hlive
    exact h key' seid s (Ledger.live_of_erase (Ledger.desks_close _ _ _) hlive)
  | rejected hdesk hwork =>
    intro key' seid s hlive
    exact h key' seid s
      (Ledger.live_of_kept hdesk (Desk.advanced _) rfl hlive fun _ _ hget => hget)
  | @accepted key d remoteSeid ops b hdesk hwork =>
    have hbegin := Mergeable.AddedUp.nil (m := m) w.ledger.n3 (w.ledger.newcomer d remoteSeid)
    have hsum := hbegin.carryOut (b := w.ledger.bench (w.ledger.newcomer d remoteSeid))
      (hstocked.kept_newcomer d remoteSeid) ops
    rw [hwork, List.nil_append] at hsum
    -- nothing was made in the new session before; the others go on as they were
    intro key' seid' s' hlive
    rcases Ledger.live_of_filed hdesk (Desk.advanced _) rfl rfl hlive with
      ⟨rfl, rfl, rfl⟩ | ⟨hne, hlive⟩
    · rw [History.done_withDone]
      exact hsum
    · rw [History.done_withDone_of_ne _ _ hne]
      exact h key' seid' s' hlive
  | @modified key d seid s cp ops hdesk hsession =>
    -- what was done to the session before, and what is done to it now
    have hlive₀ := Ledger.live_of_desk hdesk hsession
    have hsum := ((h key seid s hlive₀).renumbered cp).carryOut
      (b := w.ledger.bench (s.renumbered cp)) (hstocked.kept_live hlive₀ cp) ops
    have hseid := hfiled.localSeid_modified hlive₀ cp ops
    intro key' seid' s' hlive
    rcases Ledger.live_of_filed hdesk _ rfl rfl hlive with ⟨rfl, hkey, rfl⟩ | ⟨hne, hlive⟩
    · rw [hkey, hseid, History.done_withDone]
      exact hsum
    · rw [hseid] at hne
      rw [History.done_withDone_of_ne _ _ hne]
      exact h key' seid' s' hlive
  | deleted hdesk hsession =>
    intro key' seid' s' hlive
    exact h key' seid' s'
      (Ledger.live_of_kept hdesk _ rfl hlive fun _ _ hget => (Table.get?_of_erase hget).2)

end Books

/-! ## §2. Every node that can be reached. -/

namespace Node

variable {c : Config} {startup : Int} {heartbeats : Bool} {n : Node}

theorem callBooks_addedUp (h : Node.start c startup heartbeats = .ok n) (m : Mergeable ρ υ β)
    (cs : List Call) : (n.callBooks cs).AddedUp m := by
  have hall := callBooks_induction
    (P := fun w => w.AddedUp m ∧ w.ledger.Filed ∧ w.Stocked c.farMapSize.toNat c.qerMapSize.toNat)
    (fun w e hw => ?_)
    ⟨fun key seid s hlive => ?_, (numbered_start h).filed, stocked_start h⟩ cs
  · exact hall.1
  · obtain ⟨hsum, hfiled, hstocked⟩ := hw
    have hmove := w.move_enter e
    exact ⟨hmove.addedUp hfiled hstocked hsum, hmove.filed hfiled, hmove.stocked hfiled hstocked⟩
  · rw [Ledger.live, desks_start h] at hlive
    cases hlive

/-- **Amid a request** the rules that were made are what was carried last. -/
theorem amid_merged (h : Node.start c startup heartbeats = .ok n) (cs : List Call) {key : String}
    {seid : UInt64} {done : List RuleOp} {b : Workbench}
    (hamid : (n.calls cs).Amid (n.callHistory cs) key seid done b) :
    Merged done (n.calls cs).params.n3Address b.session b.plane := by
  have hstocked := (callBooks_stocked h cs).2
  have hledger := n.ledger_callBooks cs
  cases hamid with
  | @establishing a remoteSeid ops b hassociation hwork =>
    have hkept := hstocked.kept_newcomer a.desk remoteSeid
    rw [hledger] at hkept
    have hmerged := hkept.merged_carryOut (.nil _ _) (.nil _ _) done
    have hsame : (n.calls cs).ledger.bench ((n.calls cs).ledger.newcomer a.desk remoteSeid)
        = (n.calls cs).bench ((n.calls cs).newcomer a remoteSeid) := rfl
    rw [hsame, carriedOut_of_ok hwork, hwork] at hmerged
    exact hmerged
  | @modifying seid s cp ops b hlive hwork =>
    have hlive' : (n.callBooks cs).ledger.live key seid = some s := by
      rw [hledger, live_ledger]
      exact hlive
    have hkept := hstocked.kept_live hlive' cp
    have hfars := (callBooks_addedUp h .far cs key seid s hlive').renumbered cp
    have hqers := (callBooks_addedUp h .qer cs key seid s hlive').renumbered cp
    rw [hledger] at hkept hfars hqers
    have hmerged := hkept.merged_carryOut hfars hqers ops
    have hsame : (n.calls cs).ledger.bench (s.renumbered cp)
        = (n.calls cs).bench (s.renumbered cp) := rfl
    rw [hsame, carriedOut_of_ok hwork, hwork] at hmerged
    exact hmerged

/-- Between requests no operation of a next one has been carried out yet. -/
theorem amid_of_live {h : History} {key : String} {seid : UInt64} {s : Session}
    (hlive : n.live key seid = some s) : n.Amid h key seid (h.done key seid) (n.bench s) := by
  have hnothing : (n.bench (s.renumbered none)).carryOut [] = (.ok (), n.bench s) := rfl
  have hamid := Amid.modifying (h := h) hlive hnothing
  rwa [List.append_nil] at hamid

/-- **Changes are merged into the rules that were made.**  Take any node that can be
reached, and any of its sessions, between requests or amid one.  A forwarding or QoS
rule that an operation made, and that was neither made anew nor removed since, is in
the session and in its slot of the plane what its request composes, with each part
replaced by the last change that carried it.  Rates that were read from octets are
there in full, in bits per second. -/
theorem rules_merged (h : Node.start c startup heartbeats = .ok n) (cs : List Call)
    (key : String) (seid : UInt64) :
    (∀ s, (n.calls cs).live key seid = some s →
      Merged ((n.callHistory cs).done key seid) (n.calls cs).params.n3Address s (n.calls cs).plane)
    ∧ ∀ done b, (n.calls cs).Amid (n.callHistory cs) key seid done b →
      Merged done (n.calls cs).params.n3Address b.session b.plane :=
  ⟨fun _ hlive => amid_merged h cs (amid_of_live hlive), fun _ _ hamid => amid_merged h cs hamid⟩

namespace Merging

open Event

/-- A forwarding rule into a tunnel, with a marking. -/
def made : CreateFar where
  farId := ⟨1⟩
  applyAction := ⟨0x0200⟩
  forwardingParameters := some
    { destinationInterface := .core
      outerHeaderCreation := some { description := 0x0100, teid := some 7, ipv4 := some ⟨9⟩ }
      transportLevelMarking := some ⟨0xB8FC⟩ }

/-- Its packets are to be kept, then to go through another tunnel. -/
def changes : List UpdateFar :=
  [{ farId := ⟨1⟩, applyAction := some ⟨0x0400⟩ },
    { farId := ⟨1⟩
      updateForwardingParameters := some
        { outerHeaderCreation := some
            { description := 0x0100, teid := some 8, ipv4 := some ⟨10⟩ } } }]

/-- A QoS rule with both gates closed. -/
def limit : CreateQer where
  qerId := ⟨1⟩
  gateStatus := ⟨5⟩
  qfi := some ⟨9⟩

/-- Rates for it, the least and the greatest that can be signalled. -/
def rates : List UpdateQer := [{ qerId := ⟨1⟩, maximumBitrate := some ⟨1, 0xFFFFFFFFFF⟩ }]

/-- A peer makes the two rules and changes them. -/
def events : List Event :=
  [setup, establishment [] [made], modification 1 { createQer := [limit] },
    modification 1 { updateFar := changes, updateQer := rates }]

end Merging

open Merging in
/-- A forwarding rule goes on with its marking, the action of one change and the
tunnel of another; a QoS rule goes on with its gates and its flow, and has the rates
of a change, as they were signalled. -/
theorem rules_merged_changed : Node.start {} 0 false = .ok standard
    ∧ ∃ s slot slot', (standard.calls (events.flatMap Event.calls)).live "10.0.0.1" 1 = some s
      ∧ s.fars.get? 1 = some ⟨slot, 4, 1, 8, some (.v4 ⟨10⟩), some (.v4 ⟨0x7F000001⟩), 0xB8FC⟩
      ∧ (standard.calls (events.flatMap Event.calls)).plane.qers.get? slot'
        = some ⟨1, 1, 9, 1000, 1000 * 0xFFFFFFFFFF⟩ := by
  have hlive : ((standard.run events).live "10.0.0.1" 1).isSome = true := by decide +kernel
  have hn3 : (standard.run events).params.n3Address = ⟨0x7F000001⟩ := by decide +kernel
  have hdone : (standard.history events).done "10.0.0.1" 1
      = .createFar made :: .createQer limit
        :: (changes.map .updateFar ++ rates.map .updateQer) := by
    decide +kernel
  rw [run_eq_calls] at hlive hn3
  rw [history, books_eq_callBooks] at hdone
  obtain ⟨s, hs⟩ := Option.isSome_iff_exists.mp hlive
  have hmerged := (rules_merged start_standard _ "10.0.0.1" 1).1 s hs
  -- what comes after the rules were made only changes them
  obtain ⟨slot, hfar, -⟩ := hmerged.fars [] made _ hdone
    (by simp [changes, rates, RuleOp.Replaces])
  obtain ⟨⟨slot', -, hqer⟩, -⟩ := hmerged.qers [.createFar made] limit _ hdone
    (by simp [changes, rates, RuleOp.Replaces])
  have hmade : FarInfo.merged made (farUpdates made.farId.ruleId
      (.createQer limit :: (changes.map .updateFar ++ rates.map .updateQer))) ⟨0x7F000001⟩
        = ⟨4, 1, 8, some (.v4 ⟨10⟩), some (.v4 ⟨0x7F000001⟩), 0xB8FC⟩ := by decide
  have hlimit : QerInfo.merged limit
      (qerUpdates limit.qerId.ruleId (changes.map .updateFar ++ rates.map .updateQer))
        = ⟨1, 1, 9, 1000, 1000 * 0xFFFFFFFFFF⟩ := by decide +kernel
  rw [hn3, hmade] at hfar
  rw [hlimit] at hqer
  exact ⟨start_standard, s, slot, slot', hs, hfar, hqer⟩

end Node

end UserPlane
