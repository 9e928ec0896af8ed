/-
  UserPlane.Proofs.Plane.Calls
  ────────────────────────────
  **WHATEVER IS ASKED OF A PLANE, IT KNOWS ITS FREE SLOTS.**

  A plane changes by its own operations only.  A `PlaneCall` is one of them,
  asked for by whom and in what order ever; one that fails leaves the plane as
  it was.  After any calls a slot is free exactly if it holds no rule
  (`Plane.Tracked.after`), also when rules were removed behind the back of the
  session that made them.
-/
import UserPlane.Plane
import UserPlane.Proofs.Plane.Slots

namespace UserPlane

/-! ## §1. Slots. -/

namespace Slots

variable {α : Type}

/-- Of `size` slots exactly those are free that hold no rule. -/
def Tracked (s : Slots α) (size : Nat) : Prop := ∃ stock, s.Stocked size stock

namespace Tracked

variable {s s' : Slots α} {size slot : Nat} {a : α}

theorem make (size : Nat) : (Slots.make size : Slots α).Tracked size := ⟨0, Stocked.make size⟩

theorem free_iff (h : s.Tracked size) (slot : Nat) :
    s.tracker.isFree slot = true ↔ slot < size ∧ s.get? slot = none :=
  let ⟨_, hstock⟩ := h
  hstock.free_iff slot

theorem below (h : s.Tracked size) (hget : s.get? slot = some a) : slot < size :=
  let ⟨_, hstock⟩ := h
  hstock.below slot a hget

/-- The rule in a slot, and the rest of the stock. -/
theorem split (h : s.Tracked size) (hget : s.rules.contains slot = true) :
    ∃ a stock, s.Stocked size ((slot, a) ::ₘ stock) := by
  obtain ⟨stock, hstock⟩ := h
  obtain ⟨a, ha⟩ := Option.isSome_iff_exists.mp hget
  obtain ⟨rest, hrest⟩ := Multiset.exists_cons_of_mem (hstock.mem_iff.mpr ha)
  exact ⟨a, rest, hstock.of_eq hrest.symm⟩

theorem install (h : s.Tracked size) (hinstall : s.install a = some (slot, s')) :
    s'.Tracked size := by
  obtain ⟨stock, hstock⟩ := h
  exact ⟨_, (hstock.install hinstall).2⟩

theorem replace (h : s.Tracked size) (hreplace : s.replace slot a = some s') :
    s'.Tracked size := by
  have hthere : s.rules.contains slot = true := by
    by_contra hnot
    rw [Slots.replace, if_neg hnot] at hreplace
    cases hreplace
  obtain ⟨_, rest, hstock⟩ := h.split hthere
  obtain ⟨s'', heq, hs''⟩ := hstock.replace a
  cases hreplace.symm.trans heq
  exact ⟨_, hs''⟩

theorem remove (h : s.Tracked size) (hremove : s.remove slot = some s') : s'.Tracked size := by
  have hthere : s.rules.contains slot = true := by
    by_contra hnot
    rw [Slots.remove, if_neg hnot] at hremove
    cases hremove
  obtain ⟨_, rest, hstock⟩ := h.split hthere
  obtain ⟨s'', heq, hs''⟩ := hstock.remove
  cases hremove.symm.trans heq
  exact ⟨_, hs''⟩

end Tracked

end Slots

/-! ## §2. Calls. -/

/-- What can be asked of a plane. -/
inductive PlaneCall where
  | putPdr (d : Detection) (info : PdrInfo)
  | updatePdr (d : Detection) (info : PdrInfo)
  | deletePdr (d : Detection)
  | newFar (info : FarInfo)
  | updateFar (slot : Nat) (info : FarInfo)
  | deleteFar (slot : Nat)
  | newQer (info : QerInfo)
  | updateQer (slot : Nat) (info : QerInfo)
  | deleteQer (slot : Nat)

namespace PlaneCall

/-- The plane that a call leads to, unless it fails. -/
def result (p : Plane) : PlaneCall → Except PlaneError Plane
  | putPdr d info => .ok (p.putPdr d info)
  | updatePdr d info => p.updatePdr d info
  | deletePdr d => p.deletePdr d
  | newFar info => (p.newFar info).map Prod.snd
  | updateFar slot info => p.updateFar slot info
  | deleteFar slot => p.deleteFar slot
  | newQer info => (p.newQer info).map Prod.snd
  | updateQer slot info => p.updateQer slot info
  | deleteQer slot => p.deleteQer slot

end PlaneCall

namespace Plane

/-- The plane after a call; one that fails changes nothing. -/
def serve (p : Plane) (c : PlaneCall) : Plane :=
  match c.result p with
  | .ok p' => p'
  | .error _ => p

/-- The plane after calls. -/
def after (p : Plane) (calls : List PlaneCall) : Plane := calls.foldl serve p

/-- The plane knows which of its slots are free. -/
structure Tracked (p : Plane) (farSlots qerSlots : Nat) : Prop where
  fars : p.fars.Tracked farSlots
  qers : p.qers.Tracked qerSlots

variable {p p' : Plane} {farSlots qerSlots : Nat}

theorem tracked_make (farSlots qerSlots : Nat) :
    (make farSlots qerSlots).Tracked farSlots qerSlots :=
  ⟨.make farSlots, .make qerSlots⟩

/-- **A call that succeeds** leaves a plane that knows its free slots. -/
theorem Tracked.result (h : p.Tracked farSlots qerSlots) {c : PlaneCall}
    (hresult : c.result p = .ok p') : p'.Tracked farSlots qerSlots := by
  cases c with
  | putPdr d info =>
    cases hresult
    exact ⟨h.fars, h.qers⟩
  | updatePdr d info =>
    simp only [PlaneCall.result, updatePdr] at hresult
    split at hresult <;> cases hresult
    exact ⟨h.fars, h.qers⟩
  | deletePdr d =>
    simp only [PlaneCall.result, deletePdr] at hresult
    split at hresult <;> cases hresult
    exact ⟨h.fars, h.qers⟩
  | newFar info =>
    simp only [PlaneCall.result, newFar] at hresult
    split at hresult <;> cases hresult
    next hinstall => exact ⟨h.fars.install hinstall, h.qers⟩
  | updateFar slot info =>
    simp only [PlaneCall.result, updateFar] at hresult
    split at hresult <;> cases hresult
    next hreplace => exact ⟨h.fars.replace hreplace, h.qers⟩
  | deleteFar slot =>
    simp only [PlaneCall.result, deleteFar] at hresult
    split at hresult <;> cases hresult
    next hremove => exact ⟨h.fars.remove hremove, h.qers⟩
  | newQer info =>
    simp only [PlaneCall.result, newQer] at hresult
    split at hresult <;> cases hresult
    next hinstall => exact ⟨h.fars, h.qers.install hinstall⟩
  | updateQer slot info =>
    simp only [PlaneCall.result, updateQer] at hresult
    split at hresult <;> cases hresult
    next hreplace => exact ⟨h.fars, h.qers.replace hreplace⟩
  | deleteQer slot =>
    simp only [PlaneCall.result, deleteQer] at hresult
    split at hresult <;> cases hresult
    next hremove => exact ⟨h.fars, h.qers.remove hremove⟩

theorem Tracked.serve (h : p.Tracked farSlots qerSlots) (c : PlaneCall) :
    (p.serve c).Tracked farSlots qerSlots := by
  unfold Plane.serve
  split
  · next hresult => exact h.result hresult
  · exact h

/-- **After any calls** the plane knows its free slots. -/
theorem Tracked.after (h : p.Tracked farSlots qerSlots) (calls : List PlaneCall) :
    (p.after calls).Tracked farSlots qerSlots := by
  unfold Plane.after
  induction calls generalizing p with
  | nil => exact h
  | cons c calls ih => exact ih (h.serve c)

end Plane

end UserPlane
