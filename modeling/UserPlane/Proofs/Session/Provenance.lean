/-
  UserPlane.Proofs.Session.Provenance
  ───────────────────────────────────
  **WHERE THE KEYS OF DETECTION RULES COME FROM.**

  The peer names the key of a detection rule, or leaves it to the node.  A key
  that the node chose is held by the session, as long as the rule has it: a
  tunnel id under the number of the rule that asked for it, which is the rule
  itself unless the wish for it had a number, and an address under the session's
  key (`Keyed`).  Nothing that is held is taken away by an operation, so this
  can be read off the operation that keyed the rule last (`Provenance`).

      Pdi.named?            the key that detection information names
      detection_keyed       where the key comes from that is found
      RuleOp.keyed          a rule keeps its key, or is keyed by the operation
      Traced.carryOut       provenance along a request
-/
import UserPlane.Proofs.Pool.Grants
import UserPlane.Proofs.Session.Confinement
import UserPlane.Proofs.Session.References

namespace UserPlane

/-! ## §1. Named and chosen keys. -/

/-- Whether the node is to choose the address. -/
def UeIpAddress.isChoose (a : UeIpAddress) : Bool :=
  chv4.isSet a.flags.toNat || chv6.isSet a.flags.toNat

/-- The address that is named. -/
def UeIpAddress.ip? (a : UeIpAddress) : Option Ip := (a.ipv4.map Ip.v4).or (a.ipv6.map Ip.v6)

namespace Pdi

/-- The key that detection information names, if the node is not to choose it. -/
def named? (p : Pdi) : Option Detection :=
  match p.localFTeid with
  | some t => if t.isChoose then none else t.teid.map .uplink
  | none => p.ueIpAddress.bind fun a => if a.isChoose then none else a.ip?.map .downlink

/-- The node is to choose a tunnel id, under the number of a wish or under none. -/
def ChoosesTeid (p : Pdi) (wish : Option UInt8) : Prop :=
  ∃ t, p.localFTeid = some t ∧ t.isChoose = true ∧ t.chooseId = wish

/-- The key is an address that the node is to choose. -/
def ChoosesIp (p : Pdi) : Prop :=
  p.localFTeid = none ∧ ∃ a, p.ueIpAddress = some a ∧ a.isChoose = true

end Pdi

/-- Where the key of a detection rule comes from, by the detection information
that it was keyed by, and by what the session holds. -/
inductive Keyed (p : Pools) (key : UInt64) (id : UInt16) (pdi : Pdi) : Detection → Prop where
  | named {d : Detection} (hnamed : pdi.named? = some d) : Keyed p key id pdi d
  | teid {wish : Option UInt8} {rule : UInt16} {teid : UInt32} (hchooses : pdi.ChoosesTeid wish)
      (hholds : p.HoldsTeid key rule teid) (hown : wish = none → rule = id) :
      Keyed p key id pdi (.uplink teid)
  | ip {ip : Ip} (hchooses : pdi.ChoosesIp) (hholds : p.HoldsIp key ip) :
      Keyed p key id pdi (.downlink ip)

/-- A key's origin stays as long as the session holds what it held. -/
theorem Keyed.mono {p p' : Pools} {key : UInt64} {id : UInt16} {pdi : Pdi} {d : Detection}
    (h : Keyed p key id pdi d) (hkept : p.Kept p' key) : Keyed p' key id pdi d := by
  cases h with
  | named hnamed => exact .named hnamed
  | teid hchooses hholds hown => exact .teid hchooses (hkept.teid _ _ hholds) hown
  | ip hchooses hholds => exact .ip hchooses (hkept.ip _ hholds)

theorem Pdi.ChoosesTeid.wish_eq {p : Pdi} {wish wish' : Option UInt8} (h : p.ChoosesTeid wish)
    (h' : p.ChoosesTeid wish') : wish = wish' := by
  obtain ⟨t, ht, -, rfl⟩ := h
  obtain ⟨t', ht', -, rfl⟩ := h'
  cases ht.symm.trans ht'
  rfl

/-- **A tunnel id that is chosen for a rule alone** is held for that rule. -/
theorem Keyed.of_choosesTeid {p : Pools} {key : UInt64} {id : UInt16} {pdi : Pdi} {d : Detection}
    (h : Keyed p key id pdi d) (hchooses : pdi.ChoosesTeid none) :
    ∃ teid, d = .uplink teid ∧ p.HoldsTeid key id teid := by
  cases h with
  | named hnamed =>
    obtain ⟨t, ht, hchoose, -⟩ := hchooses
    simp [Pdi.named?, ht, hchoose] at hnamed
  | teid hchooses' hholds hown =>
    obtain rfl := hown (hchooses'.wish_eq hchooses)
    exact ⟨_, rfl, hholds⟩
  | ip hip hholds =>
    obtain ⟨t, ht, -⟩ := hchooses
    cases ht.symm.trans hip.1

/-- **An address that is chosen** is held by the session. -/
theorem Keyed.of_choosesIp {p : Pools} {key : UInt64} {id : UInt16} {pdi : Pdi} {d : Detection}
    (h : Keyed p key id pdi d) (hchooses : pdi.ChoosesIp) :
    ∃ ip, d = .downlink ip ∧ p.HoldsIp key ip := by
  cases h with
  | named hnamed =>
    obtain ⟨hnone, a, ha, hchoose⟩ := hchooses
    simp [Pdi.named?, hnone, ha, hchoose] at hnamed
  | teid hteid _ _ =>
    obtain ⟨t, ht, -⟩ := hteid
    cases ht.symm.trans hchooses.1
  | ip _ hholds => exact ⟨_, rfl, hholds⟩

/-- A session holds a key: the tunnel id for one of its rules, or the address. -/
def Pools.HoldsKey (p : Pools) (key : UInt64) : Detection → Prop
  | .uplink teid => ∃ rule, p.HoldsTeid key rule teid
  | .downlink4 a => p.HoldsIp key (.v4 a)
  | .downlink6 a => p.HoldsIp key (.v6 a)

theorem Pools.holdsKey_downlink {p : Pools} {key : UInt64} (ip : Ip) :
    p.HoldsKey key (.downlink ip) ↔ p.HoldsIp key ip := by
  cases ip <;> exact Iff.rfl

theorem Pools.Kept.holdsKey {p p' : Pools} {key : UInt64} {d : Detection} (h : p.Kept p' key)
    (hholds : p.HoldsKey key d) : p'.HoldsKey key d := by
  cases d with
  | uplink teid => exact hholds.imp fun rule => h.teid rule teid
  | downlink4 a => exact h.ip (.v4 a) hholds
  | downlink6 a => exact h.ip (.v6 a) hholds

/-- **No key is held by two sessions.** -/
theorem Pools.Sound.holdsKey_unique {p : Pools} {k k' : UInt64} {d : Detection} (h : p.Sound)
    (hk : p.HoldsKey k d) (hk' : p.HoldsKey k' d) : k = k' := by
  cases d with
  | uplink teid =>
    obtain ⟨r, hr⟩ := hk
    obtain ⟨r', hr'⟩ := hk'
    exact (h.holdsTeid_unique hr hr').1
  | downlink4 a =>
    have hk : p.HoldsIp k (.v4 a) := hk
    exact h.holdsIp_unique hk hk'
  | downlink6 a =>
    have hk : p.HoldsIp k (.v6 a) := hk
    exact h.holdsIp_unique hk hk'

/-- A tunnel id was named, or is held for a rule: the rule itself, or one whose
wish had the same number. -/
theorem Keyed.of_uplink {p : Pools} {key : UInt64} {id : UInt16} {pdi : Pdi} {d : Detection}
    {teid : UInt32} (h : Keyed p key id pdi d) (hd : d = .uplink teid) :
    pdi.named? = some d ∨ ∃ wish rule, pdi.ChoosesTeid wish ∧ p.HoldsTeid key rule teid
      ∧ (wish = none → rule = id) := by
  cases h with
  | named hnamed => exact .inl hnamed
  | teid hchooses hholds hown =>
    cases hd
    exact .inr ⟨_, _, hchooses, hholds, hown⟩
  | @ip ip _ _ => cases ip <;> cases hd

/-- A key was named, or is held. -/
theorem Keyed.named_or_holds {p : Pools} {key : UInt64} {id : UInt16} {pdi : Pdi} {d : Detection}
    (h : Keyed p key id pdi d) : pdi.named? = some d ∨ p.HoldsKey key d := by
  cases h with
  | named hnamed => exact .inl hnamed
  | teid _ hholds _ => exact .inr ⟨_, hholds⟩
  | ip _ hholds => exact .inr ((Pools.holdsKey_downlink _).mpr hholds)

/-! ## §2. Steps that take nothing away. -/

namespace Workbench

/-- What was chosen in the request is held by the session. -/
def ChosenHeld (b : Workbench) : Prop :=
  ∀ wish teid, b.chosen.get? wish = some teid →
    ∃ rule, b.pools.HoldsTeid b.session.resourceKey rule teid

/-- From one workbench to the other nothing was taken away from anybody, and
what was chosen in the request is held still. -/
structure Grows (b b' : Workbench) : Prop where
  pools : b.pools.Grows b'.pools
  resourceKey : b'.session.resourceKey = b.session.resourceKey
  chosen : b.ChosenHeld → b'.ChosenHeld

/-- What the session has been given, and under which key. -/
def given (b : Workbench) : Pools × UInt64 × Table UInt8 UInt32 :=
  (b.pools, b.session.resourceKey, b.chosen)

theorem besidePdrs_given : BesidePdrs given := ⟨fun _ _ => rfl, fun _ _ => rfl⟩

namespace Grows

variable {b b' b'' : Workbench}

theorem of_given (h : b'.given = b.given) : b.Grows b' := by
  have hpools : b'.pools = b.pools := congrArg (·.1) h
  have hkey : b'.session.resourceKey = b.session.resourceKey := congrArg (·.2.1) h
  have hchosen : b'.chosen = b.chosen := congrArg (·.2.2) h
  refine ⟨hpools ▸ .refl _, hkey, ?_⟩
  unfold ChosenHeld
  rw [hpools, hkey, hchosen]
  exact id

theorem trans (h : b.Grows b') (h' : b'.Grows b'') : b.Grows b'' :=
  ⟨h.pools.trans h'.pools, h'.resourceKey.trans h.resourceKey, fun hb => h'.chosen (h.chosen hb)⟩

theorem of_pools {pools : Pools} (h : b.pools.Grows pools) : b.Grows { b with pools } :=
  ⟨h, rfl, fun hb wish teid hwish => (hb wish teid hwish).imp fun rule =>
    (h.kept _).teid rule teid⟩

end Grows

end Workbench

namespace RuleStep

variable {α β : Type} {b b' : Workbench}

/-- A step takes nothing away, even if it fails. -/
def Grows (x : RuleStep α) : Prop := ∀ b : Workbench, b.Grows (x.work b).2

namespace Grows

variable {x : RuleStep α}

theorem of_keeps (h : Keeps Workbench.given x) : Grows x := fun b => .of_given (h b)

theorem bind {f : α → RuleStep β} (hx : Grows x) (hf : ∀ a, Grows (f a)) :
    Grows (x >>= f) := by
  intro b
  have hb := hx b
  rw [work_bind]
  cases hwork : x.work b with
  | mk r b' =>
    rw [hwork] at hb
    cases r with
    | ok a => exact hb.trans (hf a b')
    | error e => exact hb

theorem fromPools {f : Pools → UInt64 → Except PoolError (α × Pools)}
    (hf : ∀ p key a p', f p key = .ok (a, p') → p.Grows p') : Grows (RuleStep.fromPools f) := by
  intro b
  rw [work_fromPools]
  cases hpools : f b.pools b.session.resourceKey with
  | ok r => exact .of_pools (hf _ _ r.1 r.2 hpools)
  | error e => exact .of_given rfl

end Grows

/-! ## §3. The key that is found. -/

theorem grows_ueAddress (p : Pdi) : Grows (ueAddress p) := by
  unfold ueAddress
  cases p.ueIpAddress with
  | none => exact .of_keeps (.pure _)
  | some a =>
    dsimp only
    split
    · exact .bind (.fromPools fun _ _ _ _ h => (Pools.grows_allocateIpv4 h).1) fun _ =>
        .of_keeps (.pure _)
    · split
      · exact .bind (.fromPools fun _ _ _ _ h => (Pools.grows_allocateIpv6 h).1) fun _ =>
          .of_keeps (.pure _)
      · exact .of_keeps (.pure _)

/-- An address that is found where it is the key is held, or was named. -/
theorem ueAddress_keyed {p : Pdi} {ip : Ip} {report : Option UeIpAddress}
    (h : (ueAddress p).work b = (.ok (some ip, report), b')) (hnone : p.localFTeid = none)
    (id : UInt16) : Keyed b'.pools b.session.resourceKey id p (.downlink ip) := by
  unfold ueAddress at h
  cases ha : p.ueIpAddress with
  | none =>
    rw [ha] at h
    cases h
  | some a =>
    rw [ha] at h
    dsimp only at h
    -- the node is to choose an IPv4 address, or an IPv6 address, or none
    split at h
    · next hv4 =>
      obtain ⟨x, b₁, hpool, h⟩ := work_bind_eq_ok h
      cases h
      rw [work_fromPools] at hpool
      split at hpool
      · next hallocate =>
        cases hpool
        exact .ip ⟨hnone, a, ha, by simp [UeIpAddress.isChoose, hv4]⟩
          (Pools.grows_allocateIpv4 hallocate).2
      · cases hpool
    · next hv4 =>
      split at h
      · next hv6 =>
        obtain ⟨x, b₁, hpool, h⟩ := work_bind_eq_ok h
        cases h
        rw [work_fromPools] at hpool
        split at hpool
        · next hallocate =>
          cases hpool
          exact .ip ⟨hnone, a, ha, by simp [UeIpAddress.isChoose, hv6]⟩
            (Pools.grows_allocateIpv6 hallocate).2
        · cases hpool
      · next hv6 =>
        have hip : a.ip? = some ip := congrArg (fun r => (r.1.toOption.bind (·.1))) h
        exact .named (by simp [Pdi.named?, hnone, ha, UeIpAddress.isChoose, hv4, hv6, hip])

/-- A tunnel id that is chosen is held by the session, for the rule itself if the
wish for it has no number; and nothing is taken away. -/
theorem chooseTeid_spec (id : UInt16) (wish : Option UInt8) (b : Workbench) :
    b.Grows ((chooseTeid id wish).work b).2
    ∧ ∀ teid b', b.ChosenHeld → (chooseTeid id wish).work b = (.ok teid, b') →
      ∃ rule, b'.pools.HoldsTeid b.session.resourceKey rule teid ∧ (wish = none → rule = id) := by
  unfold chooseTeid
  rw [work_bind_ok (work_get b)]
  cases hagain : wish.bind b.chosen.get? with
  | some teid =>
    -- the wish was fulfilled before in this request
    refine ⟨.of_given rfl, fun teid' b' hchosen h => ?_⟩
    cases h
    obtain ⟨number, rfl, hget⟩ := Option.bind_eq_some_iff.mp hagain
    obtain ⟨rule, hholds⟩ := hchosen number teid hget
    exact ⟨rule, hholds, fun hnone => by cases hnone⟩
  | none =>
    dsimp only
    rw [work_bind, work_fromPools]
    cases hallocate : b.pools.allocateTeid b.session.resourceKey id with
    | error e => exact ⟨.of_given rfl, fun _ _ _ h => by cases h⟩
    | ok r =>
      obtain ⟨teid, pools⟩ := r
      obtain ⟨hgrows, hholds⟩ := Pools.grows_allocateTeid hallocate
      cases wish with
      | none =>
        refine ⟨.of_pools hgrows, fun teid' b' _ h => ?_⟩
        cases h
        exact ⟨id, hholds, fun _ => rfl⟩
      | some number =>
        refine ⟨⟨hgrows, rfl, fun hchosen number' teid' hget => ?_⟩, fun teid' b' _ h => ?_⟩
        · -- what was chosen just now is held as well
          have hget : (b.chosen.insert number teid).get? number' = some teid' := hget
          rw [Table.get?_insert] at hget
          split at hget
          · cases hget
            exact ⟨id, hholds⟩
          · exact (Workbench.Grows.of_pools hgrows).chosen hchosen number' teid' hget
        · cases h
          exact ⟨id, hholds, fun _ => rfl⟩

theorem grows_localTeid (id : UInt16) (t : FTeid) : Grows (localTeid id t) := by
  unfold localTeid
  split
  · exact .bind (fun b => (chooseTeid_spec id t.chooseId b).1) fun _ =>
      .of_keeps (.bind .get fun _ => .pure _)
  · split
    · exact .of_keeps (.pure _)
    · exact .of_keeps (.throw _)

/-- A tunnel id that is found is held, or was named. -/
theorem localTeid_keyed {p : Pdi} {t : FTeid} {id : UInt16} {teid : UInt32}
    {report : Option FTeid} (hchosen : b.ChosenHeld) (ht : p.localFTeid = some t)
    (h : (localTeid id t).work b = (.ok (teid, report), b')) :
    Keyed b'.pools b.session.resourceKey id p (.uplink teid) := by
  unfold localTeid at h
  split at h
  · next hchoose =>
    obtain ⟨teid', b₁, hteid, h⟩ := work_bind_eq_ok h
    obtain ⟨rule, hholds, hown⟩ := (chooseTeid_spec id t.chooseId b).2 teid' b₁ hchosen hteid
    rw [work_bind_ok (work_get b₁)] at h
    cases h
    exact .teid ⟨t, ht, hchoose, rfl⟩ hholds hown
  · next hchoose =>
    split at h
    · next teid' hteid =>
      cases h
      exact .named (by simp [Pdi.named?, ht, hchoose, hteid])
    · cases h

/-- Reporting what was chosen, if anything was, changes nothing but the report. -/
theorem work_report (c : Bool) (created : List CreatedPdr) (d : Detection) (b : Workbench) :
    (do
      if c then modify fun b => { b with created := b.created ++ created }
      return d : RuleStep Detection).work b
      = (.ok d, { b with created := b.created ++ if c then created else [] }) := by
  cases c with
  | true => rfl
  | false =>
    have hnone : b.created = b.created ++ if false then created else [] :=
      (List.append_nil _).symm
    exact congrArg (fun created => (Except.ok d, { b with created })) hnone

theorem grows_detection (id : UInt16) (p : Pdi) : Grows (detection id p) := by
  have hreport : ∀ (c : Bool) (created : List CreatedPdr) (d : Detection), Grows (do
      if c then modify fun b => { b with created := b.created ++ created }
      return d) := by
    intro c created d b
    rw [work_report]
    exact .of_given rfl
  unfold detection
  refine .bind (grows_ueAddress p) fun a => ?_
  dsimp only
  split
  · exact .bind (grows_localTeid _ _) fun _ => .bind (.of_keeps (.pure _)) fun _ => hreport _ _ _
  · exact .bind (.of_keeps (.pure _)) fun _ => hreport _ _ _
  · exact .bind (.of_keeps (.throw _)) fun _ => hreport _ _ _

/-- **Where a key comes from that is found**: it was named, or it is held. -/
theorem detection_keyed {id : UInt16} {p : Pdi} {d : Detection} (hchosen : b.ChosenHeld)
    (h : (detection id p).work b = (.ok d, b')) :
    Keyed b'.pools b.session.resourceKey id p d := by
  unfold detection at h
  obtain ⟨⟨address, chosenAddress⟩, b₁, haddress, h⟩ := work_bind_eq_ok h
  have hgrows := grows_ueAddress p b
  rw [haddress] at hgrows
  dsimp only at h hgrows
  cases ht : p.localFTeid with
  | some t =>
    rw [ht] at h
    obtain ⟨⟨teid, chosenTeid⟩, b₂, hteid, h⟩ := work_bind_eq_ok h
    cases (work_report (chosenTeid.isSome || chosenAddress.isSome)
      [⟨⟨id⟩, chosenTeid, chosenAddress⟩] (.uplink teid) b₂).symm.trans h
    have hkeyed := localTeid_keyed (hgrows.chosen hchosen) ht hteid
    rwa [hgrows.resourceKey] at hkeyed
  | none =>
    rw [ht] at h
    cases address with
    | none => cases h
    | some ip =>
      cases (work_report (false || chosenAddress.isSome) [⟨⟨id⟩, none, chosenAddress⟩]
        (.downlink ip) b₁).symm.trans h
      exact ueAddress_keyed haddress ht id

/-! ## §4. Every operation. -/

theorem grows_drafted (r : CreatePdr) : Grows (drafted r) :=
  .bind (grows_detection _ _) fun _ => .bind (.of_keeps (.ofSession _)) fun _ =>
    .bind (.of_keeps (.ofSession _)) fun _ => .bind (.of_keeps (keeps_flow _)) fun _ =>
      .of_keeps (.pure _)

theorem grows_rekeyed (pdr : SessionPdr) (r : UpdatePdr) : Grows (rekeyed pdr r) := by
  unfold rekeyed
  cases r.pdi with
  | none => exact .of_keeps (.pure _)
  | some pdi =>
    exact .bind (grows_detection _ _) fun _ => .bind (.of_keeps (keeps_flow _)) fun _ =>
      .of_keeps (.pure _)

theorem grows_redrafted (r : UpdatePdr) : Grows (redrafted r) := by
  unfold redrafted
  refine .bind (.of_keeps .get) fun b => ?_
  cases b.session.pdrs.get? r.pdrId.ruleId with
  | none => exact .of_keeps (.throw _)
  | some previous =>
    exact .bind (.of_keeps (keeps_renamed _ _)) fun _ => .bind (grows_rekeyed _ _) fun _ =>
      .of_keeps (.pure _)

end RuleStep

/-- **No operation takes anything away**, whether it succeeds or fails. -/
theorem RuleOp.grows (op : RuleOp) : RuleStep.Grows op.step := by
  cases op with
  | createPdr r =>
    rw [RuleOp.step, RuleStep.createPdr_eq]
    exact .bind (RuleStep.grows_drafted r) fun _ =>
      .of_keeps (RuleStep.keeps_filed Workbench.besidePdrs_given _ _)
  | updatePdr r =>
    rw [RuleOp.step, RuleStep.updatePdr_eq]
    exact .bind (RuleStep.grows_redrafted r) fun _ =>
      .of_keeps (RuleStep.keeps_refiled Workbench.besidePdrs_given _ _ _)
  | removePdr id => exact .of_keeps (RuleStep.keeps_removal Workbench.besidePdrs_given id)
  | _ => exact .of_keeps ((keeps_besidesTreatment rfl).map Workbench.given)

/-! ## §5. The operation that keyed a rule last. -/

/-- The detection information by which an operation keys a detection rule. -/
def RuleOp.pdi? (op : RuleOp) (id : UInt16) : Option Pdi :=
  match op with
  | .createPdr r => if r.pdrId.ruleId = id then some r.pdi else none
  | .updatePdr r => if r.pdrId.ruleId = id then r.pdi else none
  | _ => none

/-- The detection information by which a detection rule was keyed last. -/
def lastPdi (done : List RuleOp) (id : UInt16) : Option Pdi :=
  done.reverse.findSome? (·.pdi? id)

theorem lastPdi_concat (done : List RuleOp) (op : RuleOp) (id : UInt16) :
    lastPdi (done ++ [op]) id = (op.pdi? id).or (lastPdi done id) := by
  unfold lastPdi
  rw [List.reverse_append, List.reverse_singleton, List.singleton_append, List.findSome?_cons]
  cases op.pdi? id <;> rfl

theorem RuleOp.pdrId_of_pdi {op : RuleOp} {id : UInt16} {pdi : Pdi} (h : op.pdi? id = some pdi) :
    op.pdrId? = some id := by
  cases op with
  | createPdr r =>
    unfold pdi? at h
    dsimp only at h
    split at h
    · next hid => exact congrArg some hid
    · cases h
  | updatePdr r =>
    unfold pdi? at h
    dsimp only at h
    split at h
    · next hid => exact congrArg some hid
    · cases h
  | _ => cases h

/-- The operation that keyed a rule last named the key. -/
def NamedLast (done : List RuleOp) (id : UInt16) (d : Detection) : Prop :=
  ∃ pdi, lastPdi done id = some pdi ∧ pdi.named? = some d

/-- The operation that keyed a rule last left its tunnel id to the node, under
the number of a wish. -/
def SharedLast (done : List RuleOp) (id : UInt16) : Prop :=
  ∃ pdi number, lastPdi done id = some pdi ∧ pdi.ChoosesTeid (some number)

/-- Every detection rule of a session has its key from the operation that keyed
it last. -/
def Provenance (done : List RuleOp) (pools : Pools) (s : Session) : Prop :=
  ∀ id pdr, s.pdrs.get? id = some pdr →
    ∃ pdi, lastPdi done id = some pdi ∧ Keyed pools s.resourceKey id pdi pdr.detection

theorem Provenance.mono {done : List RuleOp} {pools pools' : Pools} {s : Session}
    (h : Provenance done pools s) (hkept : pools.Kept pools' s.resourceKey) :
    Provenance done pools' s := by
  intro id pdr hget
  obtain ⟨pdi, hlast, hkeyed⟩ := h id pdr hget
  exact ⟨pdi, hlast, hkeyed.mono hkept⟩

/-- **A key that another session holds** is a rule's only if it was named. -/
theorem Provenance.namedLast {done : List RuleOp} {pools pools' : Pools} {s : Session}
    (h : Provenance done pools s) (hkept : pools.Kept pools' s.resourceKey) (hsound : pools'.Sound)
    {key : UInt64} {d : Detection} (hholds : pools'.HoldsKey key d) (hne : s.resourceKey ≠ key)
    {id : UInt16} {pdr : SessionPdr} (hget : s.pdrs.get? id = some pdr) (hd : pdr.detection = d) :
    NamedLast done id d := by
  obtain ⟨pdi, hlast, hkeyed⟩ := h id pdr hget
  rw [hd] at hkeyed
  rcases hkeyed.named_or_holds with hnamed | hheld
  · exact ⟨pdi, hlast, hnamed⟩
  · exact absurd (hsound.holdsKey_unique (hkept.holdsKey hheld) hholds) hne

/-! ## §6. Along a request. -/

section

variable {b b' : Workbench} {op : RuleOp} {id : UInt16} {pdr : SessionPdr}

/-- **A detection rule keeps its key, or is keyed by the operation.** -/
theorem RuleOp.keyed (op : RuleOp) (hchosen : b.ChosenHeld)
    (hget : (op.step.work b).2.session.pdrs.get? id = some pdr) :
    (∃ before, b.session.pdrs.get? id = some before ∧ pdr.detection = before.detection
        ∧ ((op.step.work b).1 = .ok () → op.pdi? id = none))
      ∨ (op.step.work b).1 = .ok () ∧ ∃ pdi, op.pdi? id = some pdi
        ∧ Keyed (op.step.work b).2.pools b.session.resourceKey id pdi pdr.detection := by
  cases op.became hget with
  | stayed hget hother =>
    refine .inl ⟨pdr, hget, rfl, fun hok => Option.eq_none_iff_forall_ne_some.mpr ?_⟩
    exact fun pdi hpdi => hother hok (RuleOp.pdrId_of_pdi hpdi)
  | @made r b₁ hop hid hok hdraft hpools =>
    subst hop hid
    refine .inr ⟨hok, r.pdi, if_pos rfl, ?_⟩
    rw [hpools]
    exact RuleStep.detection_keyed hchosen (RuleStep.drafted_key hdraft)
  | @changed r previous b₁ hop hid hok hdraft hpools =>
    subst hop hid
    obtain ⟨hprevious, ⟨hnone, hsame, -⟩ | ⟨pdi, hpdi, hfound⟩⟩ := RuleStep.redrafted_key hdraft
    · -- the request leaves the detection information out, so that the key stays
      exact .inl ⟨previous, hprevious, hsame, fun _ => (if_pos rfl).trans hnone⟩
    · refine .inr ⟨hok, pdi, (if_pos rfl).trans hpdi, ?_⟩
      rw [hpools]
      exact RuleStep.detection_keyed hchosen hfound

/-- What is filed when an operation succeeds is there. -/
theorem RuleStep.exists_of_writes {α : Type} {draft : RuleStep α} {file : α → RuleStep Unit}
    {written : α → SessionPdr} (hfile : ∀ a, RuleStep.Writes id (written a) (file a))
    (hwork : (draft >>= file).work b = (.ok (), b')) :
    ∃ pdr, b'.session.pdrs.get? id = some pdr := by
  obtain ⟨a, b₁, -, hfiled⟩ := RuleStep.work_bind_eq_ok hwork
  rcases hfile a b₁ with ⟨e, herror, -⟩ | ⟨-, hwritten⟩
  · rw [hfiled] at herror
    cases herror
  · rw [hfiled] at hwritten
    dsimp only at hwritten
    exact ⟨written a, by simp [hwritten]⟩

theorem RuleOp.exists_pdr (hid : op.pdrId? = some id) (hwork : op.step.work b = (.ok (), b')) :
    ∃ pdr, b'.session.pdrs.get? id = some pdr := by
  cases op with
  | createPdr r =>
    cases hid
    rw [RuleOp.step, RuleStep.createPdr_eq] at hwork
    exact RuleStep.exists_of_writes (RuleStep.filed_writes _) hwork
  | updatePdr r =>
    cases hid
    rw [RuleOp.step, RuleStep.updatePdr_eq] at hwork
    exact RuleStep.exists_of_writes
      (fun q : SessionPdr × SessionPdr => RuleStep.refiled_writes _ q.1 q.2) hwork
  | _ => cases hid

/-- **A rule that an operation keys** is there when it succeeds, with the key that
was asked for. -/
theorem RuleOp.keyed_of_pdi {pdi : Pdi} (hchosen : b.ChosenHeld) (hpdi : op.pdi? id = some pdi)
    (hwork : op.step.work b = (.ok (), b')) :
    ∃ pdr, b'.session.pdrs.get? id = some pdr
      ∧ Keyed b'.pools b.session.resourceKey id pdi pdr.detection := by
  obtain ⟨pdr, hget⟩ := RuleOp.exists_pdr (RuleOp.pdrId_of_pdi hpdi) hwork
  refine ⟨pdr, hget, ?_⟩
  have hafter : (op.step.work b).2.session.pdrs.get? id = some pdr := by rwa [hwork]
  have hkeyed := op.keyed hchosen hafter
  rw [hwork] at hkeyed
  rcases hkeyed with ⟨-, -, -, hnone⟩ | ⟨-, pdi', hpdi', hkeyed⟩
  · cases hpdi.symm.trans (hnone rfl)
  · cases hpdi.symm.trans hpdi'
    exact hkeyed

/-- On a workbench nothing is out twice, what was chosen is held, and every
detection rule has its key from the operation that keyed it last. -/
structure Workbench.Traced (done : List RuleOp) (b : Workbench) : Prop where
  sound : b.pools.Sound
  chosen : b.ChosenHeld
  provenance : Provenance done b.pools b.session

namespace Workbench.Traced

variable {done : List RuleOp}

theorem of_ok (h : b.Traced done) (hwork : op.step.work b = (.ok (), b')) :
    b'.Traced (done ++ [op]) := by
  obtain rfl : (op.step.work b).2 = b' := by rw [hwork]
  have hgrows := op.grows b
  refine ⟨hgrows.pools.sound h.sound, hgrows.chosen h.chosen, ?_⟩
  intro id pdr hget
  rw [hgrows.resourceKey]
  rcases op.keyed h.chosen hget with ⟨before, hbefore, hsame, hnone⟩ | ⟨-, pdi, hpdi, hkeyed⟩
  · obtain ⟨pdi, hlast, hkeyed⟩ := h.provenance id before hbefore
    refine ⟨pdi, ?_, hsame ▸ hkeyed.mono (hgrows.pools.kept _)⟩
    rw [lastPdi_concat, hnone (by rw [hwork]), Option.none_or, hlast]
  · refine ⟨pdi, ?_, hkeyed⟩
    rw [lastPdi_concat, hpdi, Option.some_or]

theorem of_error {e : SessionError} (h : b.Traced done)
    (hwork : op.step.work b = (.error e, b')) : b'.Traced done := by
  obtain rfl : (op.step.work b).2 = b' := by rw [hwork]
  have hgrows := op.grows b
  refine ⟨hgrows.pools.sound h.sound, hgrows.chosen h.chosen, ?_⟩
  intro id pdr hget
  rw [hgrows.resourceKey]
  rcases op.keyed h.chosen hget with ⟨before, hbefore, hsame, -⟩ | ⟨hok, -⟩
  · obtain ⟨pdi, hlast, hkeyed⟩ := h.provenance id before hbefore
    exact ⟨pdi, hlast, hsame ▸ hkeyed.mono (hgrows.pools.kept _)⟩
  · rw [hwork] at hok
    cases hok

/-- **Provenance along a request.** -/
theorem carryOut (h : b.Traced done) (ops : List RuleOp) :
    (b.carryOut ops).2.Traced (done ++ carriedOut ops b) :=
  Workbench.carryOut_induction (P := fun done b => b.Traced done)
    (fun _ _ _ _ h hwork => h.of_ok hwork) (fun _ _ _ _ _ h hwork => h.of_error hwork) ops done h

/-- **A tunnel id that is chosen for a rule alone** is that of another rule of
the session only if it was named for that one, or if it was held for this rule
before, and the other had it under the number of a wish. -/
theorem own_named_or_shared (h : b.Traced done) (hwork : op.step.work b = (.ok (), b')) {pdi : Pdi}
    (hpdi : op.pdi? id = some pdi) {teid : UInt32}
    (hholds : b'.pools.HoldsTeid b.session.resourceKey id teid) {other : UInt16}
    (hne : other ≠ id) (hget : b'.session.pdrs.get? other = some pdr)
    (hteid : pdr.detection = .uplink teid) :
    NamedLast done other (.uplink teid)
      ∨ SharedLast done other ∧ b.pools.HoldsTeid b.session.resourceKey id teid := by
  obtain rfl : (op.step.work b).2 = b' := by rw [hwork]
  have hgrows := (op.grows b).pools
  -- the operation is about one rule, and the other stayed as it was
  have hstayed : b.session.pdrs.get? other = some pdr := by
    cases op.became hget with
    | stayed hget _ => exact hget
    | made hop hid _ _ _ =>
      subst hop hid
      exact absurd (Option.some.inj (RuleOp.pdrId_of_pdi hpdi)) hne
    | changed hop hid _ _ _ =>
      subst hop hid
      exact absurd (Option.some.inj (RuleOp.pdrId_of_pdi hpdi)) hne
  obtain ⟨pdi', hlast, hkeyed⟩ := h.provenance other pdr hstayed
  rcases hkeyed.of_uplink hteid with hnamed | ⟨wish, rule, hchooses, hheld, hown⟩
  · exact .inl ⟨pdi', hlast, hteid ▸ hnamed⟩
  · -- one rule holds the tunnel id, before and after
    obtain ⟨-, rfl⟩ :=
      (hgrows.sound h.sound).holdsTeid_unique ((hgrows.kept _).teid _ _ hheld) hholds
    cases wish with
    | none => exact absurd (hown rfl).symm hne
    | some number => exact .inr ⟨⟨pdi', number, hlast, hchooses⟩, hheld⟩

end Workbench.Traced

end

end UserPlane
