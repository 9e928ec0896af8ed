/-
  UserPlane.Proofs.Table
  ──────────────────────
  **WHAT THE ENTRIES OF A TABLE AMOUNT TO.**

  A sum over the entries of a table does not depend on their order, so that
  what a write or a removal does to it can be said without looking at where
  the key stands.  Sums of numbers count; sums of multisets collect what the
  entries own.

      total_of_get?     an entry's share of a total
      total_insert      a total after a write
      mem_total         what a total of multisets holds
-/
import Mathlib.Algebra.BigOperators.Group.Multiset.Basic
import UserPlane.Table

namespace UserPlane

namespace Table

variable {κ α M : Type}

theorem eq_of_entries_eq {s t : Table κ α} (h : s.entries = t.entries) : s = t := by
  cases s
  cases t
  cases h
  rfl

/-- The sum of a function of the entries. -/
def total [AddCommMonoid M] (t : Table κ α) (f : κ → α → M) : M :=
  (t.entries.map fun e => f e.1 e.2).sum

@[simp] theorem total_empty [AddCommMonoid M] (f : κ → α → M) :
    (empty : Table κ α).total f = 0 := rfl

theorem sum_values [AddCommMonoid M] (f : α → M) (t : Table κ α) :
    (t.values.map f).sum = t.total fun _ a => f a := by
  unfold values total
  rw [List.map_map]
  rfl

/-- Each value on its own, taken together. -/
theorem total_singleton (t : Table κ α) :
    (t.total fun _ a => ({a} : Multiset α)) = (t.values : Multiset α) := by
  rw [← sum_values, ← Multiset.sum_coe, ← Multiset.map_coe, Multiset.sum_map_singleton]

variable [DecidableEq κ]

/-! ## §1. Removals and writes. -/

/-- Removing a key that is not in use changes nothing. -/
theorem erase_of_get?_none {t : Table κ α} {k : κ} (h : t.get? k = none) : t.erase k = t := by
  -- no entry has the key, so the filter drops none
  refine eq_of_entries_eq (List.filter_eq_self.mpr fun e he => ?_)
  have hk : e.1 ≠ k := by
    rintro rfl
    rw [(mem_entries_iff t e.1 e.2).mp he] at h
    cases h
  simpa using hk

theorem get?_of_not_contains {t : Table κ α} {k : κ} (h : ¬ t.contains k = true) :
    t.get? k = none := by
  simpa [contains] using h

theorem erase_of_not_contains {t : Table κ α} {k : κ} (h : ¬ t.contains k = true) :
    t.erase k = t :=
  erase_of_get?_none (get?_of_not_contains h)

/-- A table where no key is in use is empty. -/
theorem eq_empty_of_not_contains {t : Table κ α} (h : ∀ k, ¬ t.contains k = true) :
    t = empty := by
  refine eq_of_entries_eq (List.eq_nil_iff_forall_not_mem.mpr fun e he => ?_)
  -- an entry would have its key in use
  have hnone := get?_of_not_contains (h e.1)
  rw [(mem_entries_iff t e.1 e.2).mp he] at hnone
  cases hnone

theorem filter_put (k : κ) (a : α) (es : List (κ × α)) :
    ((put k a es).filter fun e => e.1 ≠ k) = es.filter fun e => e.1 ≠ k := by
  induction es with
  | nil => simp [put]
  | cons e es ih =>
    by_cases h : e.1 = k
    · simp [put, h]
    · simp only [put, h, if_false]
      rw [List.filter_cons_of_pos (by simpa using h), List.filter_cons_of_pos (by simpa using h),
        ih]

/-- A removal undoes what was written under the key, whatever it was. -/
@[simp] theorem erase_insert (t : Table κ α) (k : κ) (a : α) :
    (t.insert k a).erase k = t.erase k :=
  eq_of_entries_eq (filter_put k a t.entries)

@[simp] theorem erase_erase (t : Table κ α) (k : κ) : (t.erase k).erase k = t.erase k :=
  erase_of_get?_none (by simp)

/-- Removals commute. -/
theorem erase_comm (t : Table κ α) (k k' : κ) : (t.erase k).erase k' = (t.erase k').erase k := by
  refine eq_of_entries_eq ?_
  show (t.entries.filter _).filter _ = (t.entries.filter _).filter _
  rw [List.filter_filter, List.filter_filter]
  exact List.filter_congr fun e _ => Bool.and_comm _ _

instance : RightCommutative (erase : Table κ α → κ → Table κ α) := ⟨erase_comm⟩

/-- After many removals none of the keys holds anything, and the others what they
held. -/
theorem get?_foldl_erase (ks : List κ) (t : Table κ α) (k : κ) :
    (ks.foldl erase t).get? k = if k ∈ ks then none else t.get? k := by
  induction ks generalizing t with
  | nil => simp
  | cons k' ks ih =>
    rw [List.foldl_cons, ih, get?_erase]
    by_cases hmem : k ∈ ks
    · simp [hmem]
    · by_cases hk : k = k' <;> simp [hmem, hk]

/-- What is there without a key is there under another. -/
theorem get?_of_erase {t : Table κ α} {k k' : κ} {a : α} (h : (t.erase k).get? k' = some a) :
    k' ≠ k ∧ t.get? k' = some a := by
  rw [get?_erase] at h
  split at h
  · cases h
  · next hne => exact ⟨hne, h⟩

theorem contains_erase (t : Table κ α) (k k' : κ) :
    (t.erase k).contains k' = true ↔ k' ≠ k ∧ t.contains k' = true := by
  unfold contains
  rw [get?_erase]
  by_cases h : k' = k <;> simp [h]

theorem contains_erase_of_ne (t : Table κ α) {k k' : κ} (h : k' ≠ k) :
    (t.erase k).contains k' = t.contains k' := by
  unfold contains
  rw [get?_erase, if_neg h]

theorem put_of_lookup {k : κ} {a : α} {es : List (κ × α)} (h : es.lookup k = some a) :
    put k a es = es := by
  induction es with
  | nil => cases h
  | cons e es ih =>
    obtain ⟨k₀, a₀⟩ := e
    rw [lookup_cons_if] at h
    by_cases hk : k = k₀
    · subst hk
      rw [if_pos rfl] at h
      cases h
      simp [put]
    · rw [if_neg hk] at h
      have hk' : ¬ k₀ = k := fun e => hk e.symm
      simp only [put, hk', if_false, ih h]

theorem put_put (k : κ) (a b : α) (es : List (κ × α)) : put k b (put k a es) = put k b es := by
  induction es with
  | nil => simp [put]
  | cons e es ih =>
    by_cases h : e.1 = k
    · simp [put, h]
    · simp [put, h, ih]

/-- Of two writes under one key the second counts. -/
@[simp] theorem insert_insert (t : Table κ α) (k : κ) (a b : α) :
    (t.insert k a).insert k b = t.insert k b :=
  eq_of_entries_eq (put_put k a b t.entries)

/-- Writing what is there changes nothing. -/
theorem insert_of_get? {t : Table κ α} {k : κ} {a : α} (h : t.get? k = some a) :
    t.insert k a = t :=
  eq_of_entries_eq (put_of_lookup h)

theorem mem_values_iff (t : Table κ α) (a : α) : a ∈ t.values ↔ ∃ k, t.get? k = some a := by
  unfold values
  rw [List.mem_map]
  constructor
  · rintro ⟨⟨k, a'⟩, he, rfl⟩
    exact ⟨k, (mem_entries_iff t k a').mp he⟩
  · rintro ⟨k, hk⟩
    exact ⟨(k, a), (mem_entries_iff t k a).mpr hk, rfl⟩

/-- What is found under the keys are the values. -/
theorem filterMap_keys (t : Table κ α) : t.keys.filterMap t.get? = t.values := by
  unfold keys values
  rw [List.filterMap_map, ← List.filterMap_eq_map]
  exact List.filterMap_congr fun e he => (mem_entries_iff t e.1 e.2).mp he

theorem lookup_map {β : Type} (f : α → β) (k : κ) (es : List (κ × α)) :
    (es.map fun e => (e.1, f e.2)).lookup k = (es.lookup k).map f := by
  induction es with
  | nil => rfl
  | cons e es ih =>
    obtain ⟨k₀, a₀⟩ := e
    rw [List.map_cons, lookup_cons_if, lookup_cons_if, ih]
    split <;> rfl

@[simp] theorem get?_map {β : Type} (f : α → β) (t : Table κ α) (k : κ) :
    (t.map f).get? k = (t.get? k).map f :=
  lookup_map f k t.entries

theorem put_map {β : Type} (f : α → β) (k : κ) (a : α) (es : List (κ × α)) :
    (put k a es).map (fun e => (e.1, f e.2)) = put k (f a) (es.map fun e => (e.1, f e.2)) := by
  induction es with
  | nil => rfl
  | cons e es ih =>
    by_cases h : e.1 = k
    · simp [put, h]
    · simp [put, h, ih]

theorem map_insert {β : Type} (f : α → β) (t : Table κ α) (k : κ) (a : α) :
    (t.insert k a).map f = (t.map f).insert k (f a) :=
  eq_of_entries_eq (put_map f k a t.entries)

theorem map_erase {β : Type} (f : α → β) (t : Table κ α) (k : κ) :
    (t.erase k).map f = (t.map f).erase k := by
  apply eq_of_entries_eq
  show (t.entries.filter fun e => e.1 ≠ k).map (fun e => (e.1, f e.2))
    = (t.entries.map fun e => (e.1, f e.2)).filter fun e => e.1 ≠ k
  rw [List.filter_map]
  rfl

/-! ## §2. Totals. -/

variable [AddCommMonoid M]

theorem sum_of_lookup (f : κ → α → M) {k : κ} {a : α} {es : List (κ × α)}
    (hnodup : (es.map Prod.fst).Nodup) (h : es.lookup k = some a) :
    (es.map fun e => f e.1 e.2).sum
      = f k a + ((es.filter fun e => e.1 ≠ k).map fun e => f e.1 e.2).sum := by
  induction es with
  | nil => cases h
  | cons e es ih =>
    obtain ⟨k₀, a₀⟩ := e
    have hcons := List.nodup_cons.mp hnodup
    rw [lookup_cons_if] at h
    by_cases hk : k = k₀
    · -- the entry stands here, and the filter finds nothing more to drop
      subst hk
      rw [if_pos rfl] at h
      cases h
      have hrest : (es.filter fun e => e.1 ≠ k) = es := by
        apply List.filter_eq_self.mpr
        intro e he
        have hne : e.1 ≠ k := by
          rintro rfl
          exact hcons.1 (List.mem_map.mpr ⟨e, he, rfl⟩)
        simpa using hne
      rw [List.filter_cons_of_neg (by simp), hrest, List.map_cons, List.sum_cons]
    · -- the entry stands further on, and this one changes places with it
      rw [if_neg hk] at h
      have hk' : k₀ ≠ k := fun e => hk e.symm
      rw [List.filter_cons_of_pos (by simpa using hk'), List.map_cons, List.sum_cons,
        List.map_cons, List.sum_cons, ih hcons.2 h, add_left_comm]

/-- An entry's share can be split off a total. -/
theorem total_of_get? (f : κ → α → M) {t : Table κ α} {k : κ} {a : α}
    (h : t.get? k = some a) : t.total f = f k a + (t.erase k).total f :=
  sum_of_lookup f t.nodup h

/-- A total after a write: the new entry's share, and that of the others. -/
theorem total_insert (f : κ → α → M) (t : Table κ α) (k : κ) (a : α) :
    (t.insert k a).total f = f k a + (t.erase k).total f := by
  rw [total_of_get? f (show (t.insert k a).get? k = some a by simp), erase_insert]

theorem total_insert_of_none (f : κ → α → M) {t : Table κ α} {k : κ} (a : α)
    (h : t.get? k = none) : (t.insert k a).total f = f k a + t.total f := by
  rw [total_insert, erase_of_get?_none h]

/-- What is found under a key, and the other entries. -/
theorem total_split (f : α → M) (t : Table κ α) (k : κ) :
    (t.total fun _ a => f a)
      = ((t.get? k).toList.map f).sum + (t.erase k).total fun _ a => f a := by
  cases h : t.get? k with
  | none => simp [erase_of_get?_none h]
  | some a => simp [total_of_get? (fun _ a => f a) h]

omit [DecidableEq κ] in
theorem size_eq_total (t : Table κ α) : t.size = t.total fun _ _ => 1 := by
  unfold size total
  induction t.entries with
  | nil => rfl
  | cons e es ih => rw [List.length_cons, ih, List.map_cons, List.sum_cons, Nat.add_comm]

theorem size_insert_of_none {t : Table κ α} {k : κ} (a : α) (h : t.get? k = none) :
    (t.insert k a).size = t.size + 1 := by
  rw [size_eq_total, size_eq_total, total_insert_of_none _ a h, Nat.add_comm]

theorem mem_sum_map {β γ : Type} (f : γ → Multiset β) (x : β) (l : List γ) :
    x ∈ (l.map f).sum ↔ ∃ c ∈ l, x ∈ f c := by
  induction l with
  | nil => simp
  | cons c l ih => simp [ih]

/-- What a total of multisets holds, an entry holds. -/
theorem mem_total {β : Type} (f : κ → α → Multiset β) (t : Table κ α) (x : β) :
    x ∈ t.total f ↔ ∃ k a, t.get? k = some a ∧ x ∈ f k a := by
  unfold total
  rw [mem_sum_map]
  constructor
  · rintro ⟨⟨k, a⟩, he, hx⟩
    exact ⟨k, a, (mem_entries_iff t k a).mp he, hx⟩
  · rintro ⟨k, a, hk, hx⟩
    exact ⟨(k, a), (mem_entries_iff t k a).mpr hk, hx⟩

/-- If a total holds nothing twice, an entry's share holds nothing twice. -/
theorem nodup_of_nodup_total {β : Type} {f : κ → α → Multiset β} {t : Table κ α} {k : κ} {a : α}
    (hnodup : (t.total f).Nodup) (h : t.get? k = some a) : (f k a).Nodup := by
  rw [total_of_get? f h] at hnodup
  exact (Multiset.nodup_add.mp hnodup).1

/-- If a total holds nothing twice, two entries hold nothing in common. -/
theorem key_unique_of_nodup_total {β : Type} {f : κ → α → Multiset β} {t : Table κ α}
    {k k' : κ} {a a' : α} {x : β} (hnodup : (t.total f).Nodup) (h : t.get? k = some a)
    (h' : t.get? k' = some a') (hx : x ∈ f k a) (hx' : x ∈ f k' a') : k = k' := by
  by_contra hne
  -- what the second entry holds would be in what is left without the first
  rw [total_of_get? f h] at hnodup
  have hrest : x ∈ (t.erase k).total f :=
    (mem_total f _ x).mpr ⟨k', a', by rw [get?_erase, if_neg (Ne.symm hne), h'], hx'⟩
  exact Multiset.disjoint_left.mp (Multiset.nodup_add.mp hnodup).2.2 hx hrest

/-- The entries as pairs, without their order. -/
def pairs (t : Table κ α) : Multiset (κ × α) := t.total fun k a => {(k, a)}

omit [DecidableEq κ] in
theorem pairs_eq_coe (t : Table κ α) : t.pairs = (t.entries : Multiset (κ × α)) := by
  unfold pairs total
  induction t.entries with
  | nil => rfl
  | cons e es ih =>
    rw [List.map_cons, List.sum_cons, ih]
    rfl

omit [DecidableEq κ] in
theorem nodup_pairs (t : Table κ α) : t.pairs.Nodup := by
  rw [pairs_eq_coe]
  exact Multiset.coe_nodup.mpr (List.Nodup.of_map Prod.fst t.nodup)

theorem mem_pairs (t : Table κ α) (k : κ) (a : α) : (k, a) ∈ t.pairs ↔ t.get? k = some a := by
  unfold pairs
  rw [mem_total]
  constructor
  · rintro ⟨k', a', h, hx⟩
    cases Multiset.mem_singleton.mp hx
    exact h
  · intro h
    exact ⟨k, a, h, Multiset.mem_singleton_self _⟩

end Table

end UserPlane
