/-
  UserPlane.Proofs.Session.Supply
  ───────────────────────────────
  **WHAT THE KEYS OF A REQUEST TAKE, AND WHETHER IT IS THERE.**

  A key that is left to the node takes an address, which a session has one of
  each kind of, and a tunnel id, unless its wish has the number of one that was
  fulfilled before.  So whether the keys of a list of rules can be found depends
  on how many tunnel ids the list demands in all, and on whether there is an
  address of the kinds that it asks for:

      demand                     how many tunnel ids wishes take
      Workbench.Offers…          the pools have what is asked for
      Workbench.Served           what a key that is found has taken
      Workbench.Lacks            why no key is found
      KeyFound.served, lacks     … the one or the other
-/
import Mathlib.Data.Finset.Card
import Mathlib.Data.List.ReduceOption
import UserPlane.Proofs.Pool.Conservation
import UserPlane.Proofs.Session.Repetition
import UserPlane.Proofs.Session.Search

namespace UserPlane

/-! ## §1. What is asked for. -/

namespace Pdi

/-- The wish for a tunnel id, if the node is to choose it: its number, or none. -/
def wish? (p : Pdi) : Option (Option UInt8) :=
  (p.localFTeid.filter (·.isChoose)).map (·.chooseId)

/-- The node is to choose an IPv4 address. -/
def asksIpv4 (p : Pdi) : Bool := p.ueIpAddress.any fun a => UeIpAddress.chv4.isSet a.flags.toNat

/-- The node is to choose an IPv6 address: one is asked for, and no IPv4 address. -/
def asksIpv6 (p : Pdi) : Bool := p.ueIpAddress.any fun a =>
  !UeIpAddress.chv4.isSet a.flags.toNat && UeIpAddress.chv6.isSet a.flags.toNat

/-- There is an address: it is given, of either kind, or asked for. -/
def addressed (p : Pdi) : Bool := p.ueIpAddress.any fun a =>
  a.ipv4.isSome || a.ipv6.isSome || a.isChoose

/-- There is something to key a rule by: a tunnel end or an address. -/
def keyable (p : Pdi) : Bool := p.localFTeid.isSome || p.addressed

/-- A tunnel end that is not left to the node has a tunnel id. -/
def Stated (p : Pdi) : Prop := ∀ t ∈ p.localFTeid, t.isChoose = false → t.teid.isSome = true

end Pdi

/-- How many tunnel ids wishes take, where some numbers have theirs: one for each
wish without a number, and one for each number that has none. -/
def demand (chosen : Table UInt8 UInt32) (wishes : List (Option UInt8)) : Nat :=
  wishes.count none + (wishes.reduceOption.toFinset.filter fun k => chosen.get? k = none).card

section Demand

variable (chosen : Table UInt8 UInt32) (wishes : List (Option UInt8)) {number : UInt8}

theorem demand_nil : demand chosen [] = 0 := rfl

theorem demand_none : demand chosen (none :: wishes) = demand chosen wishes + 1 := by
  unfold demand
  rw [List.count_cons_self, List.reduceOption_cons_of_none]
  omega

/-- A number that has a tunnel id takes no other. -/
theorem demand_known (h : chosen.get? number ≠ none) :
    demand chosen (some number :: wishes) = demand chosen wishes := by
  unfold demand
  rw [List.count_cons_of_ne (by simp), List.reduceOption_cons_of_some, List.toFinset_cons,
    Finset.filter_insert, if_neg h]

/-- A number that has none takes one, and has it from then on. -/
theorem demand_new (h : chosen.get? number = none) (teid : UInt32) :
    demand chosen (some number :: wishes) = demand (chosen.insert number teid) wishes + 1 := by
  unfold demand
  rw [List.count_cons_of_ne (by simp), List.reduceOption_cons_of_some, List.toFinset_cons]
  have hsplit : (insert number wishes.reduceOption.toFinset).filter (fun k => chosen.get? k = none)
      = insert number (wishes.reduceOption.toFinset.filter fun k =>
        (chosen.insert number teid).get? k = none) := by
    ext k
    simp only [Finset.mem_filter, Finset.mem_insert, Table.get?_insert]
    by_cases hk : k = number
    · simp [hk, h]
    · simp [hk]
  rw [hsplit, Finset.card_insert_of_notMem (by simp)]
  omega

/-- Where no number has a tunnel id, every number takes one. -/
theorem demand_empty :
    demand .empty wishes = wishes.count none + wishes.reduceOption.dedup.length := by
  have hall : (wishes.reduceOption.toFinset.filter fun k =>
      (Table.empty : Table UInt8 UInt32).get? k = none) = wishes.reduceOption.toFinset :=
    Finset.filter_true_of_mem fun _ _ => rfl
  unfold demand
  rw [hall, List.card_toFinset]

/-- A wish takes a tunnel id, or has one. -/
theorem demand_granted (wish : Option UInt8) (h : wish.bind chosen.get? = none) (teid : UInt32) :
    demand chosen (wish :: wishes) = demand (chosen.noting wish teid) wishes + 1 := by
  cases wish with
  | none => exact demand_none chosen wishes
  | some number => exact demand_new chosen wishes h teid

end Demand

/-! ## §2. What the pools have. -/

namespace Workbench

/-- The pools have an IPv4 address for the session. -/
def OffersIpv4 (b : Workbench) : Prop :=
  (b.pools.ipv4.allocate b.session.resourceKey).isSome = true

/-- The pools have an IPv6 address for the session. -/
def OffersIpv6 (b : Workbench) : Prop :=
  (b.pools.ipv6.bind (·.allocate b.session.resourceKey)).isSome = true

/-- The pools have the tunnel ids that wishes take. -/
def OffersTeids (b : Workbench) (wishes : List (Option UInt8)) : Prop :=
  demand b.chosen wishes ≤ b.pools.teids.ids.left

/-- The session holds no tunnel id for the rule. -/
def Teidless (b : Workbench) (id : UInt16) : Prop :=
  (b.pools.teids.heldBy b.session.resourceKey).get? id = none

/-- **What a key that is found has taken**: it was there; addresses are there as
before, and so many tunnel ids less as the wish takes. -/
structure Served (b : Workbench) (id : UInt16) (p : Pdi) (b' : Workbench) : Prop where
  ipv4 : p.asksIpv4 = true → b.OffersIpv4
  ipv6 : p.asksIpv6 = true → b.OffersIpv6
  ipv4_iff : b'.OffersIpv4 ↔ b.OffersIpv4
  ipv6_iff : b'.OffersIpv6 ↔ b.OffersIpv6
  teids_iff : ∀ wishes, b.OffersTeids (p.wish?.toList ++ wishes) ↔ b'.OffersTeids wishes
  others : ∀ other, other ≠ id → b.Teidless other → b'.Teidless other

/-- **Why no key is found**: there is nothing to key the rule by, or what is to be
chosen is not there. -/
inductive Lacks (b : Workbench) (p : Pdi) : Prop where
  | ipv4 (hasks : p.asksIpv4 = true) (hnone : ¬ b.OffersIpv4)
  | ipv6 (hasks : p.asksIpv6 = true) (hnone : ¬ b.OffersIpv6)
  | teid (hnone : ∀ wishes, ¬ b.OffersTeids (p.wish?.toList ++ wishes))
  | key (hnone : p.keyable = false)

end Workbench

/-! ## §3. Addresses. -/

section Found

variable {b b₁ : Workbench} {p : Pdi} {id : UInt16}

/-- An address that is found leaves the tunnel ids, and both kinds of addresses
as they were offered. -/
theorem AddressFound.served {found : Option Ip × Option UeIpAddress}
    (h : AddressFound p b (.ok found) b₁) :
    (p.asksIpv4 = true → b.OffersIpv4) ∧ (p.asksIpv6 = true → b.OffersIpv6)
      ∧ (b₁.OffersIpv4 ↔ b.OffersIpv4) ∧ (b₁.OffersIpv6 ↔ b.OffersIpv6)
      ∧ (b₁.session, b₁.chosen, b₁.pools.teids) = (b.session, b.chosen, b.pools.teids)
      ∧ found.1.isSome = p.addressed := by
  cases h with
  | stated hasks =>
    -- who asks for an address of a kind asks for an address
    have hnot : p.asksIpv4 = false ∧ p.asksIpv6 = false := by
      cases ha : p.ueIpAddress with
      | none => simp [Pdi.asksIpv4, Pdi.asksIpv6, ha]
      | some a =>
        simp only [Pdi.asksIp, ha, Option.any_some, UeIpAddress.isChoose, Bool.or_eq_false_iff]
          at hasks
        simp [Pdi.asksIpv4, Pdi.asksIpv6, ha, hasks]
    refine ⟨fun h => ?_, fun h => ?_, .rfl, .rfl, rfl, ?_⟩
    · rw [hnot.1] at h
      cases h
    · rw [hnot.2] at h
      cases h
    · cases ha : p.ueIpAddress with
      | none => simp [Pdi.addressed, ha]
      | some a =>
        have hasks : a.isChoose = false := by simpa [Pdi.asksIp, ha] using hasks
        simp [Pdi.addressed, ha, hasks, UeIpAddress.ip?]
  | @ipv4 a x pools ha hchv4 hgrant =>
    obtain ⟨pool, hpool, rfl⟩ := Pools.allocateIpv4_ok hgrant
    have hbefore : b.OffersIpv4 := Option.isSome_of_eq_some hpool
    have hnow : (pool.allocate b.session.resourceKey).isSome = true :=
      Option.isSome_of_eq_some (AddressPool.allocate_again hpool)
    refine ⟨fun _ => hbefore, fun h => ?_, iff_of_true hnow hbefore, .rfl, rfl, ?_⟩
    · simp [Pdi.asksIpv6, ha, hchv4] at h
    · simp [Pdi.addressed, ha, UeIpAddress.isChoose, hchv4]
  | @ipv6 a x pools ha hchv4 hchv6 hgrant =>
    obtain ⟨pool, pool', hpool, hallocate, rfl⟩ := Pools.allocateIpv6_ok hgrant
    have hbefore : b.OffersIpv6 := by
      unfold Workbench.OffersIpv6
      rw [hpool, Option.bind_some, hallocate]
      rfl
    have hnow : (pool'.allocate b.session.resourceKey).isSome = true :=
      Option.isSome_of_eq_some (AddressPool.allocate_again hallocate)
    refine ⟨fun h => ?_, fun _ => hbefore, .rfl, iff_of_true hnow hbefore, rfl, ?_⟩
    · simp [Pdi.asksIpv4, ha, hchv4] at h
    · simp [Pdi.addressed, ha, UeIpAddress.isChoose, hchv6]

/-- An address that is not found is asked for, and not offered. -/
theorem AddressFound.lacks {e : SessionError} (h : AddressFound p b (.error e) b₁) : b.Lacks p := by
  cases h with
  | noIpv4 ha hchv4 hrefusal =>
    refine .ipv4 (by simp [Pdi.asksIpv4, ha, hchv4]) fun hoffers => ?_
    unfold Workbench.OffersIpv4 at hoffers
    rw [Pools.allocateIpv4_error hrefusal] at hoffers
    cases hoffers
  | noIpv6 ha hchv4 hchv6 hrefusal =>
    refine .ipv6 (by simp [Pdi.asksIpv6, ha, hchv4, hchv6]) fun hoffers => ?_
    unfold Workbench.OffersIpv6 at hoffers
    cases hpool : b.pools.ipv6 with
    | none =>
      rw [hpool] at hoffers
      cases hoffers
    | some pool =>
      rw [hpool, Option.bind_some, Pools.allocateIpv6_error hrefusal hpool] at hoffers
      cases hoffers

/-! ## §4. Tunnel ids. -/

/-- A tunnel id that is taken for a rule that held none is one less. -/
theorem TeidPool.left_of_allocate {t t' : TeidPool} {key : UInt64} {n : Nat}
    (h : t.allocate key id = some (n, t')) (hnone : (t.heldBy key).get? id = none) :
    t'.ids.left + 1 = t.ids.left
      ∧ ∀ other, other ≠ id → (t'.heldBy key).get? other = (t.heldBy key).get? other := by
  unfold allocate at h
  rw [hnone] at h
  obtain ⟨⟨m, ids⟩, htake, heq⟩ := Option.map_eq_some_iff.mp h
  cases heq
  refine ⟨Cursor.left_take? htake, fun other hne => ?_⟩
  rw [heldBy_insert, if_pos rfl, Table.get?_insert, if_neg hne]

/-- What a tunnel id that is found has taken. -/
theorem TunnelFound.served {t : FTeid} {found : UInt32 × Option FTeid}
    (h : TunnelFound id t b (.ok found) b₁) (hnone : b.Teidless id) :
    (∀ wishes, b.OffersTeids ((if t.isChoose then [t.chooseId] else []) ++ wishes)
      ↔ b₁.OffersTeids wishes)
    ∧ (b₁.session, b₁.pools.ipv4, b₁.pools.ipv6) = (b.session, b.pools.ipv4, b.pools.ipv6)
    ∧ ∀ other, other ≠ id → b.Teidless other → b₁.Teidless other := by
  cases h with
  | stated hasks =>
    refine ⟨fun wishes => ?_, rfl, fun _ _ h => h⟩
    rw [hasks]
    exact .rfl
  | again hasks hagain =>
    refine ⟨fun wishes => ?_, rfl, fun _ _ h => h⟩
    rw [hasks]
    obtain ⟨number, hnumber, hget⟩ := Option.bind_eq_some_iff.mp hagain
    show demand b.chosen (t.chooseId :: wishes) ≤ _ ↔ _
    rw [hnumber, demand_known _ _ (by rw [hget]; nofun)]
    exact .rfl
  | @granted teid pools hasks hnew hgrant =>
    obtain ⟨n, teids, hallocate, -, rfl⟩ := Pools.allocateTeid_ok hgrant
    obtain ⟨hleft, hothers⟩ := TeidPool.left_of_allocate hallocate hnone
    refine ⟨fun wishes => ?_, rfl, fun other hne hother => ?_⟩
    · rw [hasks]
      show demand b.chosen (t.chooseId :: wishes) ≤ b.pools.teids.ids.left
        ↔ demand (b.chosen.noting t.chooseId teid) wishes ≤ teids.ids.left
      rw [demand_granted _ _ _ hnew teid, ← hleft]
      exact Nat.add_le_add_iff_right
    · show (teids.heldBy b.session.resourceKey).get? other = none
      rw [hothers other hne]
      exact hother

/-- A tunnel id that is not found is wished for, and none is left. -/
theorem TunnelFound.lacks {t : FTeid} {e : SessionError} (h : TunnelFound id t b (.error e) b₁)
    (hstated : t.isChoose = false → t.teid.isSome = true) (wishes : List (Option UInt8)) :
    t.isChoose = true ∧ ¬ b.OffersTeids (t.chooseId :: wishes) := by
  cases h with
  | missing hasks hteid =>
    have hsome := hstated hasks
    rw [hteid] at hsome
    cases hsome
  | refused hasks hnew hrefusal =>
    refine ⟨hasks, fun hoffers => ?_⟩
    obtain ⟨hleft, -⟩ := TeidPool.left_of_allocate_none (Pools.allocateTeid_error hrefusal)
    unfold Workbench.OffersTeids at hoffers
    rw [demand_granted _ _ _ hnew 0, hleft] at hoffers
    omega

/-! ## §5. Keys. -/

theorem Pdi.wish?_of_some {t : FTeid} (ht : p.localFTeid = some t) :
    p.wish?.toList = if t.isChoose then [t.chooseId] else [] := by
  unfold wish?
  rw [ht, Option.filter_some]
  split <;> rfl

/-- What is there does not depend on more than the pools, whose they are, and what
was chosen. -/
theorem Workbench.Served.of_given {b₂ : Workbench} (h : b.Served id p b₁)
    (heq : b₂.given = b₁.given) : b.Served id p b₂ := by
  obtain ⟨hpools, hrest⟩ := Prod.mk.inj heq
  obtain ⟨hkey, hchosen⟩ := Prod.mk.inj hrest
  refine ⟨h.ipv4, h.ipv6, ?_, ?_, ?_, ?_⟩
  · rw [← h.ipv4_iff]
    unfold OffersIpv4
    rw [hpools, hkey]
  · rw [← h.ipv6_iff]
    unfold OffersIpv6
    rw [hpools, hkey]
  · intro wishes
    rw [h.teids_iff wishes]
    unfold OffersTeids
    rw [hpools, hchosen]
  · intro other hne hother
    have hnow := h.others other hne hother
    unfold Teidless at hnow ⊢
    rwa [hpools, hkey]

/-- **What a key that is found has taken.** -/
theorem KeyFound.served {d : Detection} (h : KeyFound id p b (.ok d) b₁) (hnone : b.Teidless id) :
    p.keyable = true ∧ b.Served id p b₁ := by
  cases h with
  | @tunnel address chosenAddress b₁ t teid chosenTeid b₂ haddress ht hteid =>
    obtain ⟨hipv4, hipv6, hipv4_iff, hipv6_iff, hsame, -⟩ := haddress.served
    obtain ⟨hsession, hchosen, hteids⟩ := Prod.mk.inj hsame |>.imp_right Prod.mk.inj
    have hnone₁ : b₁.Teidless id := by
      unfold Workbench.Teidless
      rw [hteids, hsession]
      exact hnone
    obtain ⟨hteids_iff, hsame₁, hothers⟩ := hteid.served hnone₁
    obtain ⟨hsession₁, hpool4, hpool6⟩ := Prod.mk.inj hsame₁ |>.imp_right Prod.mk.inj
    have hserved : b.Served id p b₂ := by
      refine ⟨hipv4, hipv6, ?_, ?_, ?_, ?_⟩
      · rw [← hipv4_iff]
        unfold Workbench.OffersIpv4
        rw [hpool4, hsession₁]
      · rw [← hipv6_iff]
        unfold Workbench.OffersIpv6
        rw [hpool6, hsession₁]
      · intro wishes
        rw [← hteids_iff wishes, Pdi.wish?_of_some ht]
        unfold Workbench.OffersTeids
        rw [hchosen, hteids]
      · intro other hne hother
        refine hothers other hne ?_
        unfold Workbench.Teidless
        rw [hteids, hsession]
        exact hother
    exact ⟨by simp [Pdi.keyable, ht], hserved.of_given rfl⟩
  | @address ip chosenAddress b₁ haddress ht =>
    obtain ⟨hipv4, hipv6, hipv4_iff, hipv6_iff, hsame, haddressed⟩ := haddress.served
    obtain ⟨hsession, hchosen, hteids⟩ := Prod.mk.inj hsame |>.imp_right Prod.mk.inj
    have hkeyable : p.keyable = true := by
      rw [Pdi.keyable, ← haddressed]
      simp
    have hserved : b.Served id p b₁ := by
      refine ⟨hipv4, hipv6, hipv4_iff, hipv6_iff, ?_, ?_⟩
      · intro wishes
        have hwish : p.wish? = none := by simp [Pdi.wish?, ht]
        rw [hwish]
        unfold Workbench.OffersTeids
        rw [hchosen, hteids]
        exact .rfl
      · intro other _ hother
        unfold Workbench.Teidless
        rw [hteids, hsession]
        exact hother
    exact ⟨hkeyable, hserved.of_given rfl⟩

/-- **Why no key is found.** -/
theorem KeyFound.lacks {e : SessionError} (h : KeyFound id p b (.error e) b₁) (hstated : p.Stated) :
    b.Lacks p := by
  cases h with
  | noAddress haddress => exact haddress.lacks
  | @noTunnel found b₁ t e b₂ haddress ht hteid =>
    obtain ⟨-, -, -, -, hsame, -⟩ := haddress.served
    obtain ⟨hsession, hchosen, hteids⟩ := Prod.mk.inj hsame |>.imp_right Prod.mk.inj
    refine .teid fun wishes hoffers => ?_
    obtain ⟨hasks, hnot⟩ := hteid.lacks (hstated t ht) wishes
    rw [Pdi.wish?_of_some ht, if_pos hasks] at hoffers
    apply hnot
    unfold Workbench.OffersTeids
    rw [hchosen, hteids]
    exact hoffers
  | neither haddress ht =>
    obtain ⟨-, -, -, -, -, haddressed⟩ := haddress.served
    refine .key ?_
    rw [Pdi.keyable, ← haddressed, ht]
    rfl

end Found

end UserPlane
