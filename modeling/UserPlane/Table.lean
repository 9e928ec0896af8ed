/-
  UserPlane.Table
  ───────────────
  **TABLES: VALUES UNDER KEYS.**

  A table holds at most one value under each key and keeps its keys in the
  order in which they were first written.  That no key occurs twice is part of
  the type, so every operation keeps it.

      get?_insert    what is found after a write
      get?_erase     what is found after a removal
-/
namespace UserPlane

/-- Values under keys, in the order in which the keys were first written. -/
structure Table (κ α : Type) where
  entries : List (κ × α)
  nodup : (entries.map Prod.fst).Nodup := by decide
  deriving Repr

namespace Table

variable {κ α β : Type}

instance [DecidableEq κ] [DecidableEq α] : DecidableEq (Table κ α) := fun s t =>
  if h : s.entries = t.entries then
    isTrue (by cases s; cases t; cases h; rfl)
  else isFalse fun heq => h (by rw [heq])

/-- The table without entries. -/
def empty : Table κ α := ⟨[], List.nodup_nil⟩

instance : Inhabited (Table κ α) := ⟨empty⟩

/-- The keys in use. -/
def keys (t : Table κ α) : List κ := t.entries.map Prod.fst

/-- The values, in the order of their keys. -/
def values (t : Table κ α) : List α := t.entries.map Prod.snd

/-- How many keys are in use. -/
def size (t : Table κ α) : Nat := t.entries.length

variable [DecidableEq κ]

/-! ## §1. Operations. -/

/-- The value under a key. -/
def get? (t : Table κ α) (k : κ) : Option α := t.entries.lookup k

/-- Whether a key is in use. -/
def contains (t : Table κ α) (k : κ) : Bool := (t.get? k).isSome

/-- Entries after a write: in place if the key is in use, else at the end. -/
def put (k : κ) (a : α) : List (κ × α) → List (κ × α)
  | [] => [(k, a)]
  | e :: es => if e.1 = k then (k, a) :: es else e :: put k a es

theorem map_fst_put (k : κ) (a : α) (es : List (κ × α)) :
    (put k a es).map Prod.fst =
      if k ∈ es.map Prod.fst then es.map Prod.fst else es.map Prod.fst ++ [k] := by
  induction es with
  | nil => simp [put]
  | cons e es ih =>
    by_cases h : e.1 = k
    · simp [put, h]
    · have h' : ¬ k = e.1 := fun hk => h hk.symm
      by_cases hm : k ∈ es.map Prod.fst
      · simp only [put, h, if_false, List.map_cons, ih, hm, if_true, List.mem_cons, h', false_or]
      · simp only [put, h, if_false, List.map_cons, ih, hm, List.mem_cons, h', false_or,
          List.cons_append]

/-- The table with a value written under a key. -/
def insert (t : Table κ α) (k : κ) (a : α) : Table κ α where
  entries := put k a t.entries
  nodup := by
    rw [map_fst_put]
    split
    · exact t.nodup
    · next h =>
      exact List.nodup_append.mpr ⟨t.nodup, by simp, fun x hx y hy hxy => by
        rw [List.mem_singleton.mp hy] at hxy
        exact h (hxy ▸ hx)⟩

/-- The table without a key. -/
def erase (t : Table κ α) (k : κ) : Table κ α where
  entries := t.entries.filter fun e => e.1 ≠ k
  nodup := t.nodup.sublist (List.filter_sublist.map Prod.fst)

/-- The table with the value under a key, if any, changed by `f`. -/
def modify (t : Table κ α) (k : κ) (f : α → α) : Table κ α :=
  match t.get? k with
  | some a => t.insert k (f a)
  | none => t

/-- The table with every value changed by `f`. -/
def map (f : α → β) (t : Table κ α) : Table κ β where
  entries := t.entries.map fun e => (e.1, f e.2)
  nodup := by simpa [List.map_map, Function.comp_def] using t.nodup

/-! ## §2. What is found. -/

@[simp] theorem get?_empty (k : κ) : (empty : Table κ α).get? k = none := rfl

theorem lookup_cons_if (k k' : κ) (a : α) (es : List (κ × α)) :
    ((k, a) :: es).lookup k' = if k' = k then some a else es.lookup k' := by
  rw [List.lookup_cons]
  by_cases h : k' = k
  · simp [h]
  · simp [beq_false_of_ne h, h]

theorem lookup_put (k k' : κ) (a : α) (es : List (κ × α)) :
    (put k a es).lookup k' = if k' = k then some a else es.lookup k' := by
  induction es with
  | nil => exact lookup_cons_if k k' a []
  | cons e es ih =>
    obtain ⟨k₀, a₀⟩ := e
    by_cases he : k₀ = k
    · simp only [put, he, if_true, lookup_cons_if]
      by_cases hk : k' = k <;> simp [hk]
    · simp only [put, he, if_false, lookup_cons_if, ih]
      by_cases hk : k' = k₀
      · have hne : ¬ k' = k := fun h => he (hk ▸ h)
        simp [hk, he]
      · simp [hk]

/-- After a write the key holds the value and every other key what it held. -/
@[simp] theorem get?_insert (t : Table κ α) (k k' : κ) (a : α) :
    (t.insert k a).get? k' = if k' = k then some a else t.get? k' :=
  lookup_put k k' a t.entries

theorem lookup_filter_ne (k k' : κ) (es : List (κ × α)) :
    (es.filter fun e => e.1 ≠ k).lookup k' = if k' = k then none else es.lookup k' := by
  induction es with
  | nil => simp
  | cons e es ih =>
    obtain ⟨k₀, a₀⟩ := e
    by_cases he : k₀ = k
    · -- the entry goes, and nothing but `k` was found at it
      rw [List.filter_cons_of_neg (by simpa using he), ih, lookup_cons_if, he]
      by_cases hk : k' = k <;> simp [hk]
    · -- the entry stays, and is not what `k` finds
      rw [List.filter_cons_of_pos (by simpa using he), lookup_cons_if, lookup_cons_if, ih]
      by_cases hk : k' = k₀
      · simp [hk, he]
      · simp [hk]

/-- After a removal the key holds nothing and every other key what it held. -/
@[simp] theorem get?_erase (t : Table κ α) (k k' : κ) :
    (t.erase k).get? k' = if k' = k then none else t.get? k' :=
  lookup_filter_ne k k' t.entries

/-- A key is in use exactly when something is found under it. -/
theorem mem_keys_iff (t : Table κ α) (k : κ) : k ∈ t.keys ↔ (t.get? k).isSome := by
  unfold keys get?
  induction t.entries with
  | nil => simp
  | cons e es ih =>
    obtain ⟨k₀, a₀⟩ := e
    rw [lookup_cons_if, List.map_cons, List.mem_cons, ih]
    by_cases h : k = k₀ <;> simp [h]

/-- An entry is what is found under its key. -/
theorem mem_entries_iff (t : Table κ α) (k : κ) (a : α) :
    (k, a) ∈ t.entries ↔ t.get? k = some a := by
  obtain ⟨es, hes⟩ := t
  show (k, a) ∈ es ↔ es.lookup k = some a
  induction es with
  | nil => simp
  | cons e es ih =>
    obtain ⟨k₀, a₀⟩ := e
    have hcons := List.nodup_cons.mp hes
    rw [lookup_cons_if, List.mem_cons]
    by_cases h : k = k₀
    · -- the key stands here, so it stands nowhere behind
      subst h
      have hnot : (k, a) ∉ es := fun hm => hcons.1 (List.mem_map.mpr ⟨(k, a), hm, rfl⟩)
      simp only [hnot, or_false, if_true, Prod.mk.injEq, true_and, Option.some.injEq]
      exact eq_comm
    · simp [h, ih hcons.2]

end Table

end UserPlane
