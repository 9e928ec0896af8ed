/-
  UserPlane.Proofs.Session.Repetition
  ───────────────────────────────────
  **A DETECTION RULE THAT IS MADE AGAIN.**

  Whoever asks again for what it holds is given the same again, so that a rule
  that could be made can be made again: it finds its key, and files what stands
  there already.  Only the reports grow, by what was reported the first time:

      Pools.allocateIpv4_again, …     the pools give the same again
      drafted_again                   the same rule is drafted, and reported again
      createPdr_again                 … and nothing else happens to the workbench
      carryOut_replicate              so a request may repeat a rule at will
-/
import UserPlane.Proofs.Session.Reports

namespace UserPlane

/-! ## §1. Pools. -/

theorem AddressPool.allocate_again {w : Nat} {p p' : AddressPool w} {key : UInt64} {x : BitVec w}
    (h : p.allocate key = some (x, p')) : p'.allocate key = some (x, p') := by
  unfold allocate at h
  cases hheld : p.held.get? key with
  | some offset =>
    rw [hheld] at h
    cases h
    unfold allocate
    rw [hheld]
  | none =>
    rw [hheld] at h
    obtain ⟨⟨offset, offsets⟩, -, heq⟩ := Option.map_eq_some_iff.mp h
    cases heq
    have hnow : (p.held.insert key offset).get? key = some offset := by simp
    unfold allocate
    rw [hnow]
    rfl

theorem TeidPool.allocate_again {p p' : TeidPool} {key : UInt64} {rule : UInt16} {n : Nat}
    (h : p.allocate key rule = some (n, p')) : p'.allocate key rule = some (n, p') := by
  unfold allocate at h
  cases hheld : (p.heldBy key).get? rule with
  | some teid =>
    rw [hheld] at h
    cases h
    unfold allocate
    rw [hheld]
  | none =>
    rw [hheld] at h
    obtain ⟨⟨teid, ids⟩, -, heq⟩ := Option.map_eq_some_iff.mp h
    cases heq
    have hnow : (heldBy ⟨ids, p.held.insert key ((p.heldBy key).insert rule n)⟩ key).get? rule
        = some n := by simp [heldBy]
    unfold allocate
    rw [hnow]

namespace Pools

variable {p p' q : Pools} {key : UInt64}

theorem allocateIpv4_again {a : Ipv4} (h : p.allocateIpv4 key = .ok (a, p'))
    (hq : q.ipv4 = p'.ipv4) : q.allocateIpv4 key = .ok (a, q) := by
  unfold allocateIpv4 at h
  split at h
  · next bits ipv4 hallocate =>
    cases h
    unfold allocateIpv4
    rw [hq, AddressPool.allocate_again hallocate]
    exact congrArg (fun ipv4 => Except.ok (_, { q with ipv4 })) hq.symm
  · cases h

theorem allocateIpv6_again {a : Ipv6} (h : p.allocateIpv6 key = .ok (a, p'))
    (hq : q.ipv6 = p'.ipv6) : q.allocateIpv6 key = .ok (a, q) := by
  unfold allocateIpv6 at h
  split at h
  · cases h
  · split at h
    · next pool _ bits pool' hallocate =>
      cases h
      unfold allocateIpv6
      rw [hq]
      dsimp only
      rw [AddressPool.allocate_again hallocate]
      exact congrArg (fun ipv6 => Except.ok (_, { q with ipv6 })) hq.symm
    · cases h

theorem allocateTeid_again {rule : UInt16} {teid : UInt32}
    (h : p.allocateTeid key rule = .ok (teid, p')) (hq : q.teids = p'.teids) :
    q.allocateTeid key rule = .ok (teid, q) := by
  unfold allocateTeid at h
  split at h
  · next n teids hallocate =>
    cases h
    unfold allocateTeid
    rw [hq, TeidPool.allocate_again hallocate]
    exact congrArg (fun teids => Except.ok (_, { q with teids })) hq.symm
  · cases h

end Pools

/-! ## §2. Keys. -/

/-- What the draft of a detection rule is made from. -/
def Workbench.sources (b : Workbench) : Pools × Table UInt8 UInt32 × UInt64 × Ipv4
    × Table UInt32 SessionFar × Table UInt32 SessionQer :=
  (b.pools, b.chosen, b.session.resourceKey, b.n3, b.session.fars, b.session.qers)

theorem Workbench.besidePdrs_sources : BesidePdrs sources := ⟨fun _ _ => rfl, fun _ _ => rfl⟩

namespace RuleStep

variable {b b' : Workbench} {id : UInt16} {p : Pdi}

/-- A step that the pools have granted is granted again where they stand. -/
theorem fromPools_again {α : Type} {f : Pools → UInt64 → Except PoolError (α × Pools)} {a : α}
    (h : f b.pools b.session.resourceKey = .ok (a, b.pools)) :
    (fromPools f).work b = (.ok a, b) := by
  rw [work_fromPools, h]

theorem fromPools_eq_ok {α : Type} {f : Pools → UInt64 → Except PoolError (α × Pools)} {a : α}
    (h : (fromPools f).work b = (.ok a, b')) :
    ∃ pools, f b.pools b.session.resourceKey = .ok (a, pools) ∧ b' = { b with pools } := by
  rw [work_fromPools] at h
  split at h
  · next x pools hf =>
    cases h
    exact ⟨pools, hf, rfl⟩
  · cases h

/-- The same address is found where the addresses stand as they were left. -/
theorem ueAddress_again {found : Option Ip × Option UeIpAddress}
    (h : (ueAddress p).work b = (.ok found, b')) {b₂ : Workbench}
    (hipv4 : b₂.pools.ipv4 = b'.pools.ipv4) (hipv6 : b₂.pools.ipv6 = b'.pools.ipv6)
    (hkey : b₂.session.resourceKey = b.session.resourceKey) :
    (ueAddress p).work b₂ = (.ok found, b₂) := by
  unfold ueAddress at h ⊢
  cases ha : p.ueIpAddress with
  | none =>
    rw [ha] at h
    cases h
    rfl
  | some wish =>
    rw [ha] at h
    dsimp only at h ⊢
    split at h
    · next hv4 =>
      obtain ⟨x, b₁, hpool, h⟩ := work_bind_eq_ok h
      cases h
      obtain ⟨pools, hallocate, rfl⟩ := fromPools_eq_ok hpool
      rw [← hkey] at hallocate
      rw [if_pos hv4]
      exact work_bind_ok (fromPools_again (Pools.allocateIpv4_again hallocate hipv4))
    · next hv4 =>
      rw [if_neg hv4]
      split at h
      · next hv6 =>
        obtain ⟨x, b₁, hpool, h⟩ := work_bind_eq_ok h
        cases h
        obtain ⟨pools, hallocate, rfl⟩ := fromPools_eq_ok hpool
        rw [← hkey] at hallocate
        rw [if_pos hv6]
        exact work_bind_ok (fromPools_again (Pools.allocateIpv6_again hallocate hipv6))
      · next hv6 =>
        cases h
        rw [if_neg hv6]
        rfl

/-- The same tunnel id is chosen where the tunnel ids stand as they were left. -/
theorem chooseTeid_again {wish : Option UInt8} {teid : UInt32}
    (h : (chooseTeid id wish).work b = (.ok teid, b')) {b₂ : Workbench}
    (hteids : b₂.pools.teids = b'.pools.teids) (hchosen : b₂.chosen = b'.chosen)
    (hkey : b₂.session.resourceKey = b.session.resourceKey) :
    (chooseTeid id wish).work b₂ = (.ok teid, b₂) := by
  unfold chooseTeid at h ⊢
  rw [work_bind_ok (work_get _)] at h ⊢
  cases hagain : wish.bind b.chosen.get? with
  | some teid' =>
    -- the wish was fulfilled before
    rw [hagain] at h
    cases h
    rw [hchosen, hagain]
    rfl
  | none =>
    rw [hagain] at h
    obtain ⟨teid', b₁, hpool, h⟩ := work_bind_eq_ok h
    obtain ⟨pools, hallocate, rfl⟩ := fromPools_eq_ok hpool
    rw [← hkey] at hallocate
    cases wish with
    | none =>
      cases h
      exact work_bind_ok (fromPools_again (Pools.allocateTeid_again hallocate hteids))
    | some number =>
      cases h
      have hnow : (b.chosen.insert number teid).get? number = some teid := by simp
      rw [hchosen, Option.bind_some, hnow]
      rfl

/-- What is chosen leaves the addresses alone. -/
theorem keeps_addresses_chooseTeid (id : UInt16) (wish : Option UInt8) :
    Keeps (fun b => (b.pools.ipv4, b.pools.ipv6, b.session.resourceKey, b.n3))
      (chooseTeid id wish) := by
  unfold chooseTeid
  refine .bind .get fun b => ?_
  split
  · exact .pure _
  · refine .bind (.fromPools fun b teid pools h => ?_) fun teid => ?_
    · unfold Pools.allocateTeid at h
      split at h <;> cases h
      rfl
    · cases wish with
      | none => exact .pure _
      | some number => exact .bind (.modifying fun _ => rfl) fun _ => .pure _

theorem localTeid_again {t : FTeid} {found : UInt32 × Option FTeid}
    (h : (localTeid id t).work b = (.ok found, b')) {b₂ : Workbench}
    (hteids : b₂.pools.teids = b'.pools.teids) (hchosen : b₂.chosen = b'.chosen)
    (hkey : b₂.session.resourceKey = b.session.resourceKey) (hn3 : b₂.n3 = b.n3) :
    (localTeid id t).work b₂ = (.ok found, b₂) := by
  unfold localTeid at h ⊢
  split at h
  · next hchoose =>
    obtain ⟨teid, b₁, hteid, h⟩ := work_bind_eq_ok h
    have hkept := keeps_addresses_chooseTeid id t.chooseId b
    rw [hteid] at hkept
    have hend : b₁.n3 = b.n3 := congrArg (·.2.2.2) hkept
    rw [work_bind_ok (work_get b₁)] at h
    cases h
    rw [if_pos hchoose, work_bind_ok (chooseTeid_again hteid hteids hchosen hkey),
      work_bind_ok (work_get b₂), hn3, ← hend]
    rfl
  · next hchoose =>
    rw [if_neg hchoose]
    cases hteid : t.teid with
    | none =>
      rw [hteid] at h
      cases h
    | some teid =>
      rw [hteid] at h
      cases h
      rfl

theorem keeps_addresses_localTeid (id : UInt16) (t : FTeid) :
    Keeps (fun b => (b.pools.ipv4, b.pools.ipv6, b.session.resourceKey, b.n3))
      (localTeid id t) := by
  unfold localTeid
  split
  · exact .bind (keeps_addresses_chooseTeid id _) fun _ => .bind .get fun _ => .pure _
  · split
    · exact .pure _
    · exact .throw _

/-- The same key is found again where everything stands as it was left, and is
reported as it was. -/
theorem detection_again {d : Detection} (h : (detection id p).work b = (.ok d, b')) :
    ∃ rs, b'.created = b.created ++ rs ∧ ∀ b₂ : Workbench, b₂.sources = b'.sources →
      (detection id p).work b₂ = (.ok d, { b₂ with created := b₂.created ++ rs }) := by
  -- the key of the session and the end of the tunnels are never touched
  have hstanding := keeps_detection id p b
  rw [h] at hstanding
  have hkey' : b'.session.resourceKey = b.session.resourceKey :=
    congrArg (·.1.resourceKey) hstanding
  have hn3' : b'.n3 = b.n3 := congrArg (·.2.2.1) hstanding
  unfold detection at h ⊢
  obtain ⟨⟨address, chosenAddress⟩, b₁, haddress, h⟩ := work_bind_eq_ok h
  have hcreated := (ueAddress_reports haddress).1
  have hstanding₁ := keeps_ueAddress p b
  rw [haddress] at hstanding₁
  have hkey₁ : b₁.session.resourceKey = b.session.resourceKey :=
    congrArg (·.1.resourceKey) hstanding₁
  have hn3₁ : b₁.n3 = b.n3 := congrArg (·.2.2.1) hstanding₁
  dsimp only at h
  cases ht : p.localFTeid with
  | some t =>
    rw [ht] at h
    obtain ⟨⟨teid, chosenTeid⟩, b₂, hteid, h⟩ := work_bind_eq_ok h
    have hkept := keeps_addresses_localTeid id t b₁
    rw [hteid] at hkept
    have hipv4 : b₂.pools.ipv4 = b₁.pools.ipv4 := congrArg (·.1) hkept
    have hipv6 : b₂.pools.ipv6 = b₁.pools.ipv6 := congrArg (·.2.1) hkept
    cases (work_report (chosenTeid.isSome || chosenAddress.isSome)
      [⟨⟨id⟩, chosenTeid, chosenAddress⟩] (.uplink teid) b₂).symm.trans h
    refine ⟨_, congrArg (· ++ _) ((localTeid_reports hteid).1.trans hcreated), ?_⟩
    intro b₃ hsources
    have hpools : b₃.pools = b₂.pools := congrArg (·.1) hsources
    have hchosen : b₃.chosen = b₂.chosen := congrArg (·.2.1) hsources
    have hkey : b₃.session.resourceKey = b.session.resourceKey :=
      (congrArg (·.2.2.1) hsources).trans hkey'
    have hn3 : b₃.n3 = b.n3 := (congrArg (·.2.2.2.1) hsources).trans hn3'
    rw [work_bind_ok (ueAddress_again haddress (by rw [hpools, hipv4]) (by rw [hpools, hipv6])
      hkey)]
    dsimp only
    exact (work_bind_ok (localTeid_again hteid (congrArg _ hpools) hchosen (hkey.trans hkey₁.symm)
      (hn3.trans hn3₁.symm))).trans (work_report _ _ _ b₃)
  | none =>
    rw [ht] at h
    cases address with
    | none => cases h
    | some ip =>
      cases (work_report (false || chosenAddress.isSome) [⟨⟨id⟩, none, chosenAddress⟩]
        (.downlink ip) b₁).symm.trans h
      refine ⟨_, congrArg (· ++ _) hcreated, ?_⟩
      intro b₃ hsources
      have hpools : b₃.pools = b₁.pools := congrArg (·.1) hsources
      have hkey : b₃.session.resourceKey = b.session.resourceKey :=
        (congrArg (·.2.2.1) hsources).trans hkey'
      rw [work_bind_ok (ueAddress_again haddress (congrArg _ hpools) (congrArg _ hpools) hkey)]
      exact work_report _ _ _ b₃

/-! ## §3. Rules. -/

/-- **The same rule is drafted again** where everything stands as it was left. -/
theorem drafted_again {r : CreatePdr} {pdr : SessionPdr}
    (h : (drafted r).work b = (.ok pdr, b')) :
    ∃ rs, b'.created = b.created ++ rs ∧ ∀ b₂ : Workbench, b₂.sources = b'.sources →
      (drafted r).work b₂ = (.ok pdr, { b₂ with created := b₂.created ++ rs }) := by
  obtain ⟨rs, hcreated, hagain⟩ := detection_again (drafted_key h)
  have hstanding := keeps_drafted r b
  rw [h] at hstanding
  unfold drafted at h
  obtain ⟨key, b₁, hkey, h⟩ := work_bind_eq_ok h
  obtain ⟨farSlot, b₂, hfar, h⟩ := work_bind_eq_ok h
  obtain ⟨qerSlot, b₃, hqer, h⟩ := work_bind_eq_ok h
  obtain ⟨flow, b₄, hflow, h⟩ := work_bind_eq_ok h
  rw [work_ofSession, Prod.mk.injEq] at hfar hqer
  rw [work_flow, Prod.mk.injEq] at hflow
  obtain ⟨hfar, rfl⟩ := hfar
  obtain ⟨hqer, rfl⟩ := hqer
  obtain ⟨hflow, rfl⟩ := hflow
  cases h
  refine ⟨rs, hcreated, fun b₂ hsources => ?_⟩
  have hfar₂ : b₂.session.farSlot (r.farId.map (·.ruleId)) = .ok farSlot := by
    have hfars : b₂.session.fars = b'.session.fars := congrArg (·.2.2.2.2.1) hsources
    rw [← hfar]
    unfold Session.farSlot
    rw [hfars]
  have hqer₂ : b₂.session.qerSlot (r.qerId.map (·.ruleId)) = .ok qerSlot := by
    have hqers : b₂.session.qers = b'.session.qers := congrArg (·.2.2.2.2.2) hsources
    rw [← hqer]
    unfold Session.qerSlot
    rw [hqers]
  unfold drafted
  rw [work_bind_ok (hagain b₂ hsources), work_bind, work_ofSession]
  dsimp only
  rw [hfar₂]
  dsimp only
  rw [work_bind, work_ofSession]
  dsimp only
  rw [hqer₂]
  dsimp only
  rw [work_bind, work_flow, hflow]
  rfl

/-- What every rule that is filed comes to at last. -/
theorem work_put (id : UInt16) (pdr : SessionPdr) (b : Workbench) :
    (do
      onPlane fun p => .ok (p.putPdr pdr.detection pdr.info)
      onSession fun s => { s with pdrs := s.pdrs.insert id pdr } : RuleStep Unit).work b
      = (.ok (), { b with
          plane := b.plane.putPdr pdr.detection pdr.info
          session := { b.session with pdrs := b.session.pdrs.insert id pdr } }) := rfl

/-- What is filed stands in the session and in the plane. -/
theorem filed_eq_ok {pdr : SessionPdr} (h : (filed id pdr).work b = (.ok (), b')) :
    b'.session.pdrs.get? id = some pdr ∧ b'.plane.pdrs.get? pdr.detection = some pdr.info := by
  have hput : ∃ b₁ : Workbench, b' = { b₁ with
      plane := b₁.plane.putPdr pdr.detection pdr.info
      session := { b₁.session with pdrs := b₁.session.pdrs.insert id pdr } } := by
    unfold filed at h
    rw [work_bind_ok (work_get b)] at h
    cases hget : b.session.pdrs.get? id with
    | none =>
      rw [hget] at h
      exact ⟨b, (congrArg Prod.snd ((work_put id pdr b).symm.trans h)).symm⟩
    | some previous =>
      rw [hget] at h
      dsimp only at h
      split at h
      · obtain ⟨-, b₁, -, h⟩ := work_bind_eq_ok h
        exact ⟨b₁, (congrArg Prod.snd ((work_put id pdr b₁).symm.trans h)).symm⟩
      · exact ⟨b, (congrArg Prod.snd ((work_put id pdr b).symm.trans h)).symm⟩
  obtain ⟨b₁, rfl⟩ := hput
  exact ⟨by simp, by simp [Plane.putPdr]⟩

/-- Filing what stands there changes nothing. -/
theorem filed_again {pdr : SessionPdr} (hsession : b.session.pdrs.get? id = some pdr)
    (hplane : b.plane.pdrs.get? pdr.detection = some pdr.info) :
    (filed id pdr).work b = (.ok (), b) := by
  unfold filed
  rw [work_bind_ok (work_get b), hsession]
  dsimp only
  rw [if_neg (not_not.mpr rfl)]
  refine (work_put id pdr b).trans ?_
  rw [Plane.putPdr, Table.insert_of_get? hplane, Table.insert_of_get? hsession]

/-- **A rule that was made can be made again**: its key is found, its entry stands,
and nothing but the reports grows. -/
theorem createPdr_again {r : CreatePdr} (h : (createPdr r).work b = (.ok (), b')) :
    ∃ rs, b'.created = b.created ++ rs
      ∧ (createPdr r).work b' = (.ok (), { b' with created := b'.created ++ rs }) := by
  rw [createPdr_eq] at h ⊢
  obtain ⟨pdr, b₁, hdraft, hfile⟩ := work_bind_eq_ok h
  obtain ⟨rs, hcreated, hagain⟩ := drafted_again hdraft
  have hsources := keeps_filed Workbench.besidePdrs_sources r.pdrId.ruleId pdr b₁
  have hkept := keeps_filed Workbench.besidePdrs_created r.pdrId.ruleId pdr b₁
  rw [hfile] at hsources hkept
  obtain ⟨hsession, hplane⟩ := filed_eq_ok hfile
  refine ⟨rs, hkept.trans hcreated, ?_⟩
  rw [work_bind_ok (hagain b' hsources)]
  exact filed_again hsession hplane

end RuleStep

/-- What a rule that was made does when it is made some times more. -/
theorem Workbench.carryOut_more {r : CreatePdr} {rs : List CreatedPdr} (k : Nat)
    {b b' : Workbench} (h : (RuleOp.createPdr r).step.work b = (.ok (), b'))
    (hcreated : b'.created = b.created ++ rs) :
    b'.carryOut (List.replicate k (.createPdr r))
      = (.ok (), { b' with created := b'.created ++ (List.replicate k rs).flatten }) := by
  induction k generalizing b b' with
  | zero =>
    show _ = (Except.ok (), { b' with created := b'.created ++ [] })
    rw [List.append_nil]
    rfl
  | succ k ih =>
    obtain ⟨rs', hcreated', hagain⟩ := RuleStep.createPdr_again h
    obtain rfl : rs = rs' := List.append_cancel_left (hcreated.symm.trans hcreated')
    rw [List.replicate_succ, carryOut_cons]
    rw [show (RuleOp.createPdr r).step.work b' = _ from hagain]
    dsimp only
    rw [ih hagain rfl, List.replicate_succ, List.flatten_cons, List.append_assoc]

/-- **A request may repeat a rule at will**: the rule is reported as often as it is
made, and nothing else becomes of it. -/
theorem Workbench.carryOut_replicate {r : CreatePdr} {b b' : Workbench}
    (h : (RuleOp.createPdr r).step.work b = (.ok (), b')) :
    ∃ rs, b'.created = b.created ++ rs ∧ ∀ k,
      b.carryOut (List.replicate (k + 1) (.createPdr r))
        = (.ok (), { b' with created := b.created ++ (List.replicate (k + 1) rs).flatten }) := by
  obtain ⟨rs, hcreated, -⟩ := RuleStep.createPdr_again h
  refine ⟨rs, hcreated, fun k => ?_⟩
  rw [List.replicate_succ, carryOut_cons, h]
  dsimp only
  rw [carryOut_more k h hcreated, hcreated, List.append_assoc, List.replicate_succ,
    List.flatten_cons]

end UserPlane
