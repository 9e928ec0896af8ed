/-
  UserPlane.Proofs.Session.Clearing
  ─────────────────────────────────
  **A RELEASE CLEARS ALL THAT IS THERE, AND GOES ON PAST WHAT IS NOT.**

  A session is taken down on a plane that need not agree with it: entries and
  rules may be missing, or others may have written under the same keys.  The
  order in which the session enumerates its rules is any (`Session.Listing`).
  Nothing of what the session names is left, nothing else is touched, and the
  release fails exactly if something was missing.

      Slots.Cleared            what removals do to slots
      Session.Cleared          what a release does to the plane and the pools
      Session.Present          all that a session names is there
      Listing.firstError_iff   a release succeeds exactly on what is present
      release_clears           all of it, on every plane and in every order
-/
import UserPlane.Proofs.Plane.Calls
import UserPlane.Proofs.Pool
import UserPlane.Proofs.Session.Dismantling
import UserPlane.Proofs.Session.Life

namespace UserPlane

/-! ## §1. What removals do to slots. -/

namespace Slots

variable {α : Type} {s : Slots α} {size : Nat}

/-- The slots after removals: the rules in the slots that are named are gone,
their slots are free, and all else is as it was. -/
structure Cleared (slots : List Nat) (s s' : Slots α) : Prop where
  gone : ∀ slot ∈ slots, s'.get? slot = none
  kept : ∀ slot, slot ∉ slots → s'.get? slot = s.get? slot
  freed : ∀ slot ∈ slots, s.rules.contains slot = true → s'.tracker.isFree slot = true
  others : ∀ slot, ¬ (slot ∈ slots ∧ s.rules.contains slot = true) →
    s'.tracker.isFree slot = s.tracker.isFree slot

theorem Tracked.drop (h : s.Tracked size) (slot : Nat) : (s.drop slot).Tracked size := by
  unfold Slots.drop
  cases hremove : s.remove slot with
  | none => exact h
  | some s' => exact h.remove hremove

theorem Tracked.foldl_drop (h : s.Tracked size) (slots : List Nat) :
    (slots.foldl Slots.drop s).Tracked size := by
  induction slots generalizing s with
  | nil => exact h
  | cons slot slots ih => exact ih (h.drop slot)

theorem get?_foldl_drop (slots : List Nat) (s : Slots α) (slot : Nat) :
    (slots.foldl drop s).get? slot = if slot ∈ slots then none else s.get? slot := by
  show (slots.foldl drop s).rules.get? slot = _
  rw [rules_foldl_drop, Table.get?_foldl_erase]
  rfl

/-- **Removing the rules in some slots** clears them, also those that are named
twice or hold nothing. -/
theorem Tracked.cleared (h : s.Tracked size) (slots : List Nat) :
    Cleared slots s (slots.foldl Slots.drop s) := by
  have hget := get?_foldl_drop slots s
  have hfree := (h.foldl_drop slots).free_iff
  refine ⟨fun slot hmem => ?_, fun slot hnot => ?_, fun slot hmem hthere => ?_,
    fun slot hnot => ?_⟩
  · rw [hget, if_pos hmem]
  · rw [hget, if_neg hnot]
  · obtain ⟨a, ha⟩ := Option.isSome_iff_exists.mp hthere
    exact (hfree slot).mpr ⟨h.below ha, by rw [hget, if_pos hmem]⟩
  · -- the slot holds what it held, and that decides whether it is free
    have hsame : (slots.foldl Slots.drop s).get? slot = s.get? slot := by
      by_cases hmem : slot ∈ slots
      · rw [hget, if_pos hmem]
        exact (Table.get?_of_not_contains fun hthere => hnot ⟨hmem, hthere⟩).symm
      · rw [hget, if_neg hmem]
    rw [Bool.eq_iff_iff, hfree, h.free_iff, hsame]

/-- Where nothing is there, removals change nothing. -/
theorem foldl_drop_of_none {slots : List Nat} (h : ∀ slot ∈ slots, s.get? slot = none) :
    slots.foldl drop s = s := by
  induction slots with
  | nil => rfl
  | cons slot slots ih =>
    have hnot : ¬ s.rules.contains slot = true := by
      have hnone : s.rules.get? slot = none := h slot List.mem_cons_self
      simp [Table.contains, hnone]
    rw [List.foldl_cons, drop_eq, if_neg hnot]
    exact ih fun slot' hmem => h slot' (List.mem_cons_of_mem _ hmem)

end Slots

theorem Table.foldl_erase_of_none {κ α : Type} [DecidableEq κ] {t : Table κ α} {ks : List κ}
    (h : ∀ k ∈ ks, t.get? k = none) : ks.foldl erase t = t := by
  induction ks with
  | nil => rfl
  | cons k ks ih =>
    rw [List.foldl_cons, erase_of_get?_none (h k List.mem_cons_self)]
    exact ih fun k' hmem => h k' (List.mem_cons_of_mem _ hmem)

/-! ## §2. When removals fail. -/

namespace Teardown

/-- Removals that succeed exactly on what is there, and do not touch each
other. -/
structure Removal {κ : Type} (remove : κ → Plane → Except PlaneError Plane)
    (There : Plane → κ → Prop) : Prop where
  succeeds : ∀ {p k}, There p k →
    ∃ p', remove k p = .ok p' ∧ ∀ k', k' ≠ k → (There p' k' ↔ There p k')
  fails : ∀ {p k}, ¬ There p k → ∃ e, remove k p = .error e

theorem firstError_or (e : Option PlaneError) (e' : PlaneError) : e.or (some e') ≠ none := by
  cases e <;> simp

variable {κ : Type} {remove : κ → Plane → Except PlaneError Plane} {There : Plane → κ → Prop}

theorem firstError_attempt {t : Teardown} (h : t.firstError ≠ none)
    (f : Plane → Except PlaneError Plane) : (t.attempt f).firstError ≠ none := by
  unfold attempt
  split
  · exact h
  · exact firstError_or _ _

/-- A failure is not forgotten. -/
theorem firstError_foldl (ks : List κ) {t : Teardown} (h : t.firstError ≠ none) :
    (ks.foldl (fun t k => t.attempt (remove k)) t).firstError ≠ none := by
  induction ks generalizing t with
  | nil => exact h
  | cons k ks ih => exact ih (firstError_attempt h (remove k))

/-- **Removals, one after the other,** meet no failure exactly if all that they
remove is there to begin with. -/
theorem Removal.firstError_iff (hremove : Removal remove There) {ks : List κ} (hnodup : ks.Nodup)
    (t : Teardown) :
    (ks.foldl (fun t k => t.attempt (remove k)) t).firstError = none
      ↔ t.firstError = none ∧ ∀ k ∈ ks, There t.plane k := by
  induction ks generalizing t with
  | nil => simp
  | cons k ks ih =>
    obtain ⟨hnotmem, hnodup⟩ := List.nodup_cons.mp hnodup
    rw [List.foldl_cons]
    by_cases hthere : There t.plane k
    · -- the others are there after the removal if they were before
      obtain ⟨p', hok, hothers⟩ := hremove.succeeds hthere
      have hattempt : t.attempt (remove k) = { t with plane := p' } := by simp [attempt, hok]
      have hrest : (∀ k' ∈ ks, There p' k') ↔ ∀ k' ∈ ks, There t.plane k' :=
        forall₂_congr fun k' hk' => hothers k' fun heq => hnotmem (heq ▸ hk')
      rw [hattempt, ih hnodup, List.forall_mem_cons, hrest]
      simp [hthere]
    · obtain ⟨e, herror⟩ := hremove.fails hthere
      have hattempt : (t.attempt (remove k)).firstError ≠ none := by
        simp only [attempt, herror]
        exact firstError_or _ _
      rw [List.forall_mem_cons]
      exact iff_of_false (firstError_foldl ks hattempt) fun h => hthere h.2.1

theorem removal_deletePdr :
    Removal (fun d p => p.deletePdr d) (fun p d => p.pdrs.contains d = true) where
  succeeds := by
    intro p d hthere
    refine ⟨_, if_pos hthere, fun d' hne => ?_⟩
    rw [Table.contains_erase_of_ne p.pdrs hne]
  fails hnot := ⟨_, if_neg hnot⟩

theorem removal_deleteFar :
    Removal (fun slot p => p.deleteFar slot) (fun p slot => p.fars.rules.contains slot = true) where
  succeeds := by
    intro p slot hthere
    refine ⟨{ p with fars := ⟨p.fars.rules.erase slot, p.fars.tracker.release slot⟩ }, ?_,
      fun slot' hne => ?_⟩
    · simp [Plane.deleteFar, Slots.remove, hthere]
    · rw [Table.contains_erase_of_ne p.fars.rules hne]
  fails := by
    intro p slot hnot
    exact ⟨.noRule .far slot, by simp [Plane.deleteFar, Slots.remove, hnot]⟩

theorem removal_deleteQer :
    Removal (fun slot p => p.deleteQer slot) (fun p slot => p.qers.rules.contains slot = true) where
  succeeds := by
    intro p slot hthere
    refine ⟨{ p with qers := ⟨p.qers.rules.erase slot, p.qers.tracker.release slot⟩ }, ?_,
      fun slot' hne => ?_⟩
    · simp [Plane.deleteQer, Slots.remove, hthere]
    · rw [Table.contains_erase_of_ne p.qers.rules hne]
  fails := by
    intro p slot hnot
    exact ⟨.noRule .qer slot, by simp [Plane.deleteQer, Slots.remove, hnot]⟩

theorem firstError_foldl_deletePdr {ds : List Detection} (hnodup : ds.Nodup) (t : Teardown) :
    (ds.foldl (fun t d => t.attempt (·.deletePdr d)) t).firstError = none
      ↔ t.firstError = none ∧ ∀ d ∈ ds, t.plane.pdrs.contains d = true :=
  removal_deletePdr.firstError_iff hnodup t

theorem firstError_foldl_deleteFar {fars : List SessionFar}
    (hnodup : (fars.map SessionFar.slot).Nodup) (t : Teardown) :
    (fars.foldl (fun t far => t.attempt (·.deleteFar far.slot)) t).firstError = none
      ↔ t.firstError = none
        ∧ ∀ slot ∈ fars.map SessionFar.slot, t.plane.fars.rules.contains slot = true := by
  have h := removal_deleteFar.firstError_iff hnodup t
  rwa [List.foldl_map] at h

theorem firstError_foldl_deleteQer {qers : List SessionQer}
    (hnodup : (qers.map SessionQer.slot).Nodup) (t : Teardown) :
    (qers.foldl (fun t qer => t.attempt (·.deleteQer qer.slot)) t).firstError = none
      ↔ t.firstError = none
        ∧ ∀ slot ∈ qers.map SessionQer.slot, t.plane.qers.rules.contains slot = true := by
  have h := removal_deleteQer.firstError_iff hnodup t
  rwa [List.foldl_map] at h

end Teardown

/-! ## §3. Releases in any order. -/

namespace Session

/-- The rules of a session in some order; each detection once. -/
structure Listing (s : Session) where
  detections : List Detection
  fars : List SessionFar
  qers : List SessionQer
  nodup : detections.Nodup
  mem_iff : ∀ d, d ∈ detections ↔ DetectionRules.Uses s.pdrs d
  perm_fars : fars.Perm s.fars.values
  perm_qers : qers.Perm s.qers.values

/-- The order in which the session's tables have them. -/
def listing (s : Session) : s.Listing where
  detections := s.detections
  fars := s.fars.values
  qers := s.qers.values
  nodup := nodup_eraseDups _
  mem_iff := s.mem_detections
  perm_fars := .refl _
  perm_qers := .refl _

namespace Listing

variable {s : Session}

/-- Removes the session's rules from the plane, in the order of the listing. -/
def teardown (l : s.Listing) (plane : Plane) : Teardown :=
  let t := l.detections.foldl (fun t d => t.attempt (·.deletePdr d)) { plane }
  let t := l.fars.foldl (fun t far => t.attempt (·.deleteFar far.slot)) t
  l.qers.foldl (fun t qer => t.attempt (·.deleteQer qer.slot)) t

/-- The order of the session's tables is one of them. -/
theorem teardown_listing (s : Session) (p : Plane) : s.listing.teardown p = s.teardown p := rfl

theorem perm_detections (l : s.Listing) : l.detections.Perm s.detections :=
  (List.perm_ext_iff_of_nodup l.nodup (nodup_eraseDups _)).mpr fun d =>
    (l.mem_iff d).trans (s.mem_detections d).symm

theorem perm_farSlots (l : s.Listing) : (l.fars.map SessionFar.slot).Perm s.farSlots :=
  l.perm_fars.map _

theorem perm_qerSlots (l : s.Listing) : (l.qers.map SessionQer.slot).Perm s.qerSlots :=
  l.perm_qers.map _

/-- **The plane that is left** does not depend on the order. -/
theorem plane_teardown (l : s.Listing) (p : Plane) :
    (l.teardown p).plane = p.strip s.detections s.farSlots s.qerSlots := by
  have hfirst : (l.teardown p).plane
      = p.strip l.detections (l.fars.map SessionFar.slot) (l.qers.map SessionQer.slot) := by
    unfold teardown
    dsimp only
    rw [Teardown.foldl_attempt_deleteQer, Teardown.foldl_attempt_deleteFar,
      Teardown.foldl_attempt_deletePdr, Plane.strip_strip, Plane.strip_strip]
    simp
  rw [hfirst]
  unfold Plane.strip
  rw [l.perm_detections.foldl_eq, l.perm_farSlots.foldl_eq, l.perm_qerSlots.foldl_eq]

end Listing

/-- All that a session names is in the plane. -/
structure Present (s : Session) (p : Plane) : Prop where
  pdrs : ∀ d, DetectionRules.Uses s.pdrs d → p.pdrs.contains d = true
  fars : ∀ slot ∈ s.farSlots, p.fars.rules.contains slot = true
  qers : ∀ slot ∈ s.qerSlots, p.qers.rules.contains slot = true

/-- **A release succeeds** exactly if all that the session names is there. -/
theorem Listing.firstError_iff {s : Session} (hfars : s.farSlots.Nodup) (hqers : s.qerSlots.Nodup)
    (l : s.Listing) (p : Plane) : (l.teardown p).firstError = none ↔ s.Present p := by
  unfold teardown
  dsimp only
  rw [Teardown.firstError_foldl_deleteQer (l.perm_qerSlots.nodup_iff.mpr hqers),
    Teardown.firstError_foldl_deleteFar (l.perm_farSlots.nodup_iff.mpr hfars),
    Teardown.firstError_foldl_deletePdr l.nodup, Teardown.foldl_attempt_deleteFar,
    Teardown.foldl_attempt_deletePdr]
  -- what is removed first leaves alone what is looked for later
  constructor
  · rintro ⟨⟨⟨-, hd⟩, hf⟩, hq⟩
    exact ⟨fun d huses => hd d ((l.mem_iff d).mpr huses),
      fun slot hmem => hf slot (l.perm_farSlots.mem_iff.mpr hmem),
      fun slot hmem => hq slot (l.perm_qerSlots.mem_iff.mpr hmem)⟩
  · intro h
    exact ⟨⟨⟨rfl, fun d hmem => h.pdrs d ((l.mem_iff d).mp hmem)⟩,
      fun slot hmem => h.fars slot (l.perm_farSlots.mem_iff.mp hmem)⟩,
      fun slot hmem => h.qers slot (l.perm_qerSlots.mem_iff.mp hmem)⟩

/-! ## §4. What a release leaves. -/

/-- The plane and the pools after a release: nothing is left of what the session
names or holds, and all else is as it was. -/
structure Cleared (s : Session) (p p' : Plane) (pools pools' : Pools) : Prop where
  gone : ∀ d, DetectionRules.Uses s.pdrs d → p'.pdrs.get? d = none
  kept : ∀ d, ¬ DetectionRules.Uses s.pdrs d → p'.pdrs.get? d = p.pdrs.get? d
  fars : Slots.Cleared s.farSlots p.fars p'.fars
  qers : Slots.Cleared s.qerSlots p.qers p'.qers
  idle : ¬ pools'.Busy s.resourceKey
  rest : pools'.rest s.resourceKey = pools.rest s.resourceKey
  holdings : ∀ key, key ≠ s.resourceKey → pools'.holdings key = pools.holdings key

theorem cleared_strip (s : Session) {p : Plane} {farSlots qerSlots : Nat}
    (h : p.Tracked farSlots qerSlots) (pools : Pools) :
    s.Cleared p (p.strip s.detections s.farSlots s.qerSlots) pools (s.releasePools pools) where
  gone d huses := by
    have hmem := (s.mem_detections d).mpr huses
    exact (Table.get?_foldl_erase _ _ d).trans (if_pos hmem)
  kept d hnot := by
    have hmem : d ∉ s.detections := fun hmem => hnot ((s.mem_detections d).mp hmem)
    exact (Table.get?_foldl_erase _ _ d).trans (if_neg hmem)
  fars := h.fars.cleared s.farSlots
  qers := h.qers.cleared s.qerSlots
  idle hbusy := ((Pools.busy_releaseAll pools s.resourceKey s.resourceKey).mp hbusy).1 rfl
  rest := Pools.rest_releaseAll pools s.resourceKey
  holdings _ hne := Pools.holdings_of_rest (Pools.rest_releaseAll pools s.resourceKey) hne

/-- Nothing is left to be removed a second time. -/
theorem Cleared.strip_eq {s : Session} {p p' : Plane} {pools pools' : Pools}
    (h : s.Cleared p p' pools pools') : p'.strip s.detections s.farSlots s.qerSlots = p' := by
  have hpdrs : s.detections.foldl Table.erase p'.pdrs = p'.pdrs :=
    Table.foldl_erase_of_none fun d hmem => h.gone d ((s.mem_detections d).mp hmem)
  unfold Plane.strip
  rw [hpdrs, Slots.foldl_drop_of_none h.fars.gone, Slots.foldl_drop_of_none h.qers.gone]

/-- **A release clears all that is there.**  On a plane that came about by any
calls, whatever of the session is in it, and in any order: nothing of the session
is left, and all else is as it was; no failure is reported exactly if nothing was
missing; and a second release, in an order of its own, changes nothing. -/
theorem Listing.release_clears (s : Session) (hfars : s.farSlots.Nodup) (hqers : s.qerSlots.Nodup)
    (farSlots qerSlots : Nat) (calls : List PlaneCall) (pools : Pools) (l l' : s.Listing) :
    let p := (Plane.make farSlots qerSlots).after calls
    let t := l.teardown p
    let left := s.releasePools pools
    s.Cleared p t.plane pools left
      ∧ (t.firstError = none ↔ s.Present p)
      ∧ (l'.teardown p).plane = t.plane
      ∧ (l'.teardown t.plane).plane = t.plane
      ∧ s.releasePools left = left := by
  intro p t left
  have htracked : p.Tracked farSlots qerSlots := (Plane.tracked_make farSlots qerSlots).after calls
  have hplane : t.plane = p.strip s.detections s.farSlots s.qerSlots := l.plane_teardown p
  have hcleared : s.Cleared p t.plane pools left := hplane ▸ s.cleared_strip htracked pools
  refine ⟨hcleared, l.firstError_iff hfars hqers p, ?_, ?_, ?_⟩
  · rw [l'.plane_teardown, hplane]
  · rw [l'.plane_teardown, hcleared.strip_eq]
  · exact Pools.releaseAll_of_idle hcleared.idle

/-- A session whose first two rules share a tunnel id, and whose second
forwarding rule and last detection rule are gone from the plane: a release
reports that, and what is there is cleared all the same, the tunnel id of another
session apart. -/
theorem Listing.release_clears_beside_gaps :
    let s : Session :=
      { localSeid := 1, remoteSeid := 1, resourceKey := 1
        pdrs := ((Table.empty.insert 1 ⟨.uplink 5, some 1, none, { farSlot := some 0 }⟩).insert 2
          ⟨.uplink 5, some 2, none, { farSlot := some 1 }⟩).insert 3
          ⟨.downlink4 ⟨0x0A3C0001⟩, none, some 1, { qerSlot := some 0 }⟩
        fars := (Table.empty.insert 1 ⟨0, {}⟩).insert 2 ⟨1, {}⟩
        qers := Table.empty.insert 1 ⟨0, {}⟩ }
    let calls : List PlaneCall :=
      [.newFar {}, .newFar {}, .newQer {}, .putPdr (.uplink 5) {}, .putPdr (.uplink 6) {},
        .deleteFar 1]
    let p := (Plane.make 2 2).after calls
    let pools : Pools :=
      { ipv4 := .ofNetwork ⟨0x0A3C0000, 24⟩, ipv6 := none
        teids := ⟨{ next := 7, stop := 9 }, Table.empty.insert 1 (Table.empty.insert 1 5)⟩ }
    let t := s.teardown p
    s.farSlots.Nodup ∧ s.qerSlots.Nodup ∧ s.Cleared p t.plane pools (s.releasePools pools)
      ∧ t.firstError ≠ none ∧ t.plane = (Plane.make 2 2).putPdr (.uplink 6) {} := by
  intro s calls p pools t
  have h := release_clears s (by decide) (by decide) 2 2 calls pools s.listing s.listing
  exact ⟨by decide, by decide, h.1, by decide, by decide⟩

end Session

end UserPlane
