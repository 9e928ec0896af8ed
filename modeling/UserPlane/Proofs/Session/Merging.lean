/-
  UserPlane.Proofs.Session.Merging
  ────────────────────────────────
  **WHAT BECOMES OF A RULE THAT IS MADE AND THEN CHANGED.**

  A forwarding or QoS rule is composed from the request that makes it, and
  changed in place by those that change it.  Each part of it is what was carried
  last: by the last change that carried it, or else by the request that made the
  rule.  The parts of an outer header go together.

      FarInfo.foldl_update    forwarding rules, part by part
      QerInfo.foldl_update    QoS rules, part by part
      bitsPerSecond_of_decode rates that were signalled are not cut
      Mergeable.carryOut      changes add up along the operations of requests
-/
import UserPlane.Proofs.Element.Rereading
import UserPlane.Proofs.Session.References

namespace UserPlane

/-! ## §1. What was carried last. -/

section

variable {υ α : Type}

/-- The last thing of a kind that requests carry. -/
def lastCarried (carries : υ → Option α) (us : List υ) : Option α :=
  (us.filterMap carries).getLast?

theorem lastCarried_append_singleton (carries : υ → Option α) (us : List υ) (u : υ) :
    lastCarried carries (us ++ [u]) = (carries u).or (lastCarried carries us) := by
  unfold lastCarried
  rw [List.filterMap_append]
  cases h : carries u <;> simp [h]

/-- What is found in an option, or else what there was, after one more was put before
it. -/
theorem elim_or {β : Type} (o o' : Option α) (b : β) (f : α → β) :
    (o.or o').elim b f = o.elim (o'.elim b f) f := by
  cases o <;> rfl

end

/-! ## §2. Forwarding rules. -/

/-- The outer header that a request to make a rule carries. -/
def CreateFar.header (r : CreateFar) : Option OuterHeaderCreation :=
  r.forwardingParameters.bind (·.outerHeaderCreation)

/-- The marking that a request to make a rule carries. -/
def CreateFar.marking (r : CreateFar) : Option TransportLevelMarking :=
  r.forwardingParameters.bind (·.transportLevelMarking)

/-- The outer header that a request to change a rule carries. -/
def UpdateFar.header (r : UpdateFar) : Option OuterHeaderCreation :=
  r.updateForwardingParameters.bind (·.outerHeaderCreation)

/-- The marking that a request to change a rule carries. -/
def UpdateFar.marking (r : UpdateFar) : Option TransportLevelMarking :=
  r.updateForwardingParameters.bind (·.transportLevelMarking)

namespace FarInfo

/-- What is composed from a request, with each part replaced by the last that
changes carried; an outer header replaces its number, tunnel id and both addresses
together. -/
def merged (r : CreateFar) (us : List UpdateFar) (n3 : Ipv4) : FarInfo :=
  let info := ofCreate r n3
  let action := lastCarried (·.applyAction) us
  let header := lastCarried UpdateFar.header us
  let marking := lastCarried UpdateFar.marking us
  { action := action.elim info.action (·.firstOctet)
    outerHeaderCreation := header.elim info.outerHeaderCreation (·.firstOctet)
    teid := header.elim info.teid (·.teid.getD 0)
    remoteIp := header.elim info.remoteIp fun h => (h.ipv4.map Ip.v4).or (h.ipv6.map Ip.v6)
    localIp := header.elim info.localIp fun _ => some (.v4 n3)
    transportLevelMarking := marking.elim info.transportLevelMarking (·.value) }

/-- A change, part by part. -/
theorem update_eq (info : FarInfo) (u : UpdateFar) (n3 : Ipv4) :
    info.update u n3 =
      { action := u.applyAction.elim info.action (·.firstOctet)
        outerHeaderCreation := u.header.elim info.outerHeaderCreation (·.firstOctet)
        teid := u.header.elim info.teid (·.teid.getD 0)
        remoteIp := u.header.elim info.remoteIp fun h => (h.ipv4.map Ip.v4).or (h.ipv6.map Ip.v6)
        localIp := u.header.elim info.localIp fun _ => some (.v4 n3)
        transportLevelMarking := u.marking.elim info.transportLevelMarking (·.value) } := by
  obtain ⟨id, action, parameters⟩ := u
  cases action <;> cases parameters with
  | none => rfl
  | some p =>
    obtain ⟨_, _, header, marking⟩ := p
    cases header <;> cases marking <;> rfl

theorem merged_append_singleton (r : CreateFar) (us : List UpdateFar) (u : UpdateFar) (n3 : Ipv4) :
    merged r (us ++ [u]) n3 = (merged r us n3).update u n3 := by
  rw [update_eq]
  unfold merged
  simp only [lastCarried_append_singleton, elim_or]

/-- **Changes add up** to what each part was replaced by last. -/
theorem foldl_update (r : CreateFar) (us : List UpdateFar) (n3 : Ipv4) :
    us.foldl (fun info u => info.update u n3) (ofCreate r n3) = merged r us n3 := by
  induction us using List.reverseRecOn with
  | nil => rfl
  | append_singleton us u ih => rw [List.foldl_concat, ih, merged_append_singleton]

/-- A rule that was made and then changed is as one that is made with the last of
everything that was carried. -/
theorem ofCreate_eq_merged {r r' : CreateFar} {us : List UpdateFar}
    (haction : r'.applyAction = (lastCarried (·.applyAction) us).getD r.applyAction)
    (hheader : r'.header = (lastCarried UpdateFar.header us).or r.header)
    (hmarking : r'.marking = (lastCarried UpdateFar.marking us).or r.marking) (n3 : Ipv4) :
    ofCreate r' n3 = merged r us n3 := by
  have hmake : ∀ r : CreateFar, ofCreate r n3
      = ({} : FarInfo).update ⟨r.farId, some r.applyAction, some ⟨none, none, r.header, r.marking⟩⟩
          n3 := by
    rintro ⟨id, action, parameters⟩
    cases parameters <;> rfl
  unfold merged
  simp only [hmake, update_eq, UpdateFar.header, UpdateFar.marking, Option.bind_some, haction,
    hheader, hmarking, elim_or, Option.elim_some]
  cases lastCarried (·.applyAction) us <;> rfl

end FarInfo

/-! ## §3. QoS rules. -/

namespace QerInfo

/-- What is composed from a request, with each part replaced by the last that
changes carried; both gates go together, and so do both rates. -/
def merged (r : CreateQer) (us : List UpdateQer) : QerInfo :=
  let info := ofCreate r
  let gates := lastCarried (·.gateStatus) us
  let rates := lastCarried (·.maximumBitrate) us
  let qfi := lastCarried (·.qfi) us
  { gateUplink := gates.elim info.gateUplink
      fun g => UInt8.ofNat (GateStatus.uplink.get g.bits.toNat)
    gateDownlink := gates.elim info.gateDownlink
      fun g => UInt8.ofNat (GateStatus.downlink.get g.bits.toNat)
    qfi := qfi.elim info.qfi fun q => UInt8.ofNat (Qfi.value.get q.bits.toNat)
    maxBitrateUplink := rates.elim info.maxBitrateUplink fun m => bitsPerSecond m.uplink
    maxBitrateDownlink := rates.elim info.maxBitrateDownlink fun m => bitsPerSecond m.downlink }

/-- A change, part by part. -/
theorem update_eq (info : QerInfo) (u : UpdateQer) :
    info.update u =
      { gateUplink := u.gateStatus.elim info.gateUplink
          fun g => UInt8.ofNat (GateStatus.uplink.get g.bits.toNat)
        gateDownlink := u.gateStatus.elim info.gateDownlink
          fun g => UInt8.ofNat (GateStatus.downlink.get g.bits.toNat)
        qfi := u.qfi.elim info.qfi fun q => UInt8.ofNat (Qfi.value.get q.bits.toNat)
        maxBitrateUplink := u.maximumBitrate.elim info.maxBitrateUplink
          fun m => bitsPerSecond m.uplink
        maxBitrateDownlink := u.maximumBitrate.elim info.maxBitrateDownlink
          fun m => bitsPerSecond m.downlink } := by
  obtain ⟨id, gates, rates, qfi⟩ := u
  cases gates <;> cases rates <;> cases qfi <;> rfl

theorem merged_append_singleton (r : CreateQer) (us : List UpdateQer) (u : UpdateQer) :
    merged r (us ++ [u]) = (merged r us).update u := by
  rw [update_eq]
  unfold merged
  simp only [lastCarried_append_singleton, elim_or]

/-- **Changes add up** to what each part was replaced by last. -/
theorem foldl_update (r : CreateQer) (us : List UpdateQer) :
    us.foldl update (ofCreate r) = merged r us := by
  induction us using List.reverseRecOn with
  | nil => rfl
  | append_singleton us u ih => rw [List.foldl_concat, ih, merged_append_singleton]

/-- The rates are those that were carried last. -/
theorem rates_merged {r : CreateQer} {us : List UpdateQer} {m : Mbr}
    (h : (lastCarried (·.maximumBitrate) us).or r.maximumBitrate = some m) :
    (merged r us).maxBitrateUplink = bitsPerSecond m.uplink
      ∧ (merged r us).maxBitrateDownlink = bitsPerSecond m.downlink := by
  unfold merged
  cases hlast : lastCarried (·.maximumBitrate) us with
  | some m' =>
    rw [hlast, Option.some_or] at h
    cases h
    exact ⟨rfl, rfl⟩
  | none =>
    -- no change carried rates, so they are those that the rule was made with
    rw [hlast, Option.none_or] at h
    obtain ⟨id, gates, rates, qfi⟩ := r
    cases h
    cases qfi <;> exact ⟨rfl, rfl⟩

end QerInfo

/-- Rates are read from five octets each, and so are below 2⁴⁰. -/
theorem Mbr.signalled {bs : Octets} {m : Mbr} (h : Element.decode bs = .ok m) :
    m.WellFormed ∧ m.uplink.toNat = Octets.toNat (bs.take 5)
      ∧ m.downlink.toNat = Octets.toNat ((bs.drop 5).take 5) := by
  obtain ⟨hwf, rest, rfl⟩ := Mbr.of_decode h
  have hread : ∀ v < 1099511627776, Octets.toNat (Octets.ofNat 5 v) = v := fun v hv =>
    (Octets.toNat_ofNat 5 v).trans (Nat.mod_eq_of_lt hv)
  refine ⟨hwf, ?_, ?_⟩
  · show _ = Octets.toNat ((Octets.ofNat 5 _ ++ Octets.ofNat 5 _ ++ rest).take 5)
    rw [List.append_assoc, List.take_left' (Octets.length_ofNat 5 _), hread _ hwf.uplink]
  · show _ = Octets.toNat (((Octets.ofNat 5 _ ++ Octets.ofNat 5 _ ++ rest).drop 5).take 5)
    rw [List.append_assoc, List.drop_left' (Octets.length_ofNat 5 _),
      List.take_left' (Octets.length_ofNat 5 _), hread _ hwf.downlink]

/-- Rates below 2⁴⁰ kilobits are far from the greatest number of bits. -/
theorem toNat_bitsPerSecond {rate : UInt64} (h : rate.toNat < 1099511627776) :
    (bitsPerSecond rate).toNat = 1000 * rate.toNat := by
  unfold bitsPerSecond
  rw [UInt64.toNat_ofNat']
  omega

/-- **Rates that were signalled** are kept in bits per second, and never cut. -/
theorem bitsPerSecond_of_decode {bs : Octets} {m : Mbr} (h : Element.decode bs = .ok m) :
    (bitsPerSecond m.uplink).toNat = 1000 * Octets.toNat (bs.take 5)
      ∧ (bitsPerSecond m.downlink).toNat = 1000 * Octets.toNat ((bs.drop 5).take 5) := by
  obtain ⟨hwf, hup, hdown⟩ := Mbr.signalled h
  rw [toNat_bitsPerSecond hwf.uplink, toNat_bitsPerSecond hwf.downlink, hup, hdown]
  exact ⟨rfl, rfl⟩

/-! ## §4. Rules that are made, and changed where they are. -/

/-- The slots hold what the session records, whatever others have there. -/
def Workbench.Kept (b : Workbench) : Prop :=
  ∃ farSlots qerSlots fars qers, b.Stocked farSlots qerSlots fars qers

theorem Workbench.Kept.step {b : Workbench} (h : b.Kept) (op : RuleOp) :
    (op.step.work b).2.Kept :=
  let ⟨farSlots, qerSlots, fars, qers, hstocked⟩ := h
  ⟨farSlots, qerSlots, fars, qers, op.keeps_stocked hstocked⟩

theorem Workbench.Kept.carryOut {b : Workbench} (h : b.Kept) (ops : List RuleOp) :
    (b.carryOut ops).2.Kept :=
  let ⟨farSlots, qerSlots, fars, qers, hstocked⟩ := h
  ⟨farSlots, qerSlots, fars, qers, hstocked.carryOut ops⟩

theorem RuleOp.n3_step {b b' : Workbench} {op : RuleOp} {result : Except SessionError Unit}
    (hwork : op.step.work b = (result, b')) : b'.n3 = b.n3 := by
  have hfixed := op.keeps_fixed b
  rw [hwork] at hfixed
  exact congrArg (·.2.2.2.1) hfixed

theorem Workbench.n3_carryOut (b : Workbench) (ops : List RuleOp) :
    (b.carryOut ops).2.n3 = b.n3 :=
  congrArg (·.2.2.2.1) (carryOut_keeps RuleOp.keeps_fixed ops b)

section

variable {ρ υ β : Type}

/-- Rules that are made under a number, with a slot of their own and what is composed
from the request, and changed in that slot. -/
structure Mergeable (ρ υ β : Type) where
  kind : SlotKind
  make : ρ → RuleOp
  id : ρ → UInt32
  /-- The change of a rule that an operation is. -/
  change? : UInt32 → RuleOp → Option υ
  /-- A rule's slot, and what is in it. -/
  rule? : Session → UInt32 → Option (Nat × β)
  made : Ipv4 → ρ → β
  changed : Ipv4 → β → υ → β
  of_make : ∀ {b b' : Workbench} {r : ρ}, b.Kept → (make r).step.work b = (.ok (), b') →
    ∃ slot, rule? b'.session (id r) = some (slot, made b.n3 r)
  of_change : ∀ {b b' : Workbench} {op : RuleOp} {u : υ} {i : UInt32}, b.Kept →
    change? i op = some u → op.step.work b = (.ok (), b') →
    ∃ slot info, rule? b.session i = some (slot, info)
      ∧ rule? b'.session i = some (slot, changed b.n3 info u)
  of_other : ∀ {b : Workbench} {op : RuleOp} {i : UInt32}, b.Kept → change? i op = none →
    ¬ op.Replaces kind i → rule? (op.step.work b).2.session i = rule? b.session i
  of_error : ∀ {b b' : Workbench} {op : RuleOp} {e : SessionError}, b.Kept →
    op.step.work b = (.error e, b') → ∀ i, rule? b'.session i = rule? b.session i
  of_same : ∀ {s s' : Session}, s'.fars = s.fars → s'.qers = s.qers → rule? s' = rule? s

namespace Mergeable

variable {m : Mergeable ρ υ β} {b b' : Workbench} {done : List RuleOp}

/-- Every rule that was made, and neither made anew nor removed since, is what its
request and the changes since come to. -/
def AddedUp (m : Mergeable ρ υ β) (done : List RuleOp) (n3 : Ipv4) (s : Session) : Prop :=
  ∀ before r after, done = before ++ m.make r :: after →
    (∀ op ∈ after, ¬ op.Replaces m.kind (m.id r)) →
    ∃ slot, m.rule? s (m.id r)
      = some (slot, (after.filterMap (m.change? (m.id r))).foldl (m.changed n3) (m.made n3 r))

theorem AddedUp.nil (n3 : Ipv4) (s : Session) : m.AddedUp [] n3 s := by
  intro before r after heq
  cases before <;> cases heq

theorem AddedUp.of_same {n3 : Ipv4} {s s' : Session} (hsum : m.AddedUp done n3 s)
    (hfars : s'.fars = s.fars) (hqers : s'.qers = s.qers) : m.AddedUp done n3 s' := by
  unfold AddedUp
  rwa [m.of_same hfars hqers]

theorem AddedUp.of_ok {op : RuleOp} (hsum : m.AddedUp done b.n3 b.session) (hkept : b.Kept)
    (hwork : op.step.work b = (.ok (), b')) : m.AddedUp (done ++ [op]) b.n3 b'.session := by
  intro before r after heq hafter
  -- the operation made the rule, or comes after the one that did
  cases after using List.reverseRecOn with
  | nil =>
    obtain ⟨-, hlast⟩ := List.append_inj' heq rfl
    cases hlast
    exact m.of_make hkept hwork
  | append_singleton after last =>
    rw [← List.cons_append, ← List.append_assoc] at heq
    obtain ⟨rfl, hlast⟩ := List.append_inj' heq rfl
    cases hlast
    obtain ⟨slot, hrule⟩ := hsum before r after rfl fun op' hmem =>
      hafter op' (List.mem_append_left _ hmem)
    refine ⟨slot, ?_⟩
    rw [List.filterMap_append]
    cases hchange : m.change? (m.id r) op with
    | some u =>
      obtain ⟨slot', info, hbefore, hrule'⟩ := m.of_change hkept hchange hwork
      cases hrule.symm.trans hbefore
      rw [hrule']
      simp [hchange]
    | none =>
      have hsame := m.of_other hkept hchange (hafter op (by simp))
      rw [hwork] at hsame
      rw [hsame, hrule]
      simp [hchange]

theorem AddedUp.of_error {op : RuleOp} {e : SessionError}
    (hsum : m.AddedUp done b.n3 b.session) (hkept : b.Kept)
    (hwork : op.step.work b = (.error e, b')) : m.AddedUp done b.n3 b'.session := by
  intro before r after heq hafter
  rw [m.of_error hkept hwork]
  exact hsum before r after heq hafter

/-- **Changes add up along a request.** -/
theorem AddedUp.carryOut (hsum : m.AddedUp done b.n3 b.session) (hkept : b.Kept)
    (ops : List RuleOp) :
    m.AddedUp (done ++ carriedOut ops b) b.n3 (b.carryOut ops).2.session := by
  have hall := Workbench.carryOut_induction
    (P := fun done' b' => b'.Kept ∧ b'.n3 = b.n3 ∧ m.AddedUp done' b'.n3 b'.session)
    ?_ ?_ ops done ⟨hkept, rfl, hsum⟩
  · obtain ⟨-, hn3, hsum'⟩ := hall
    rwa [hn3] at hsum'
  · intro done' op b₁ b₂ ⟨hkept₁, hn3, hsum₁⟩ hwork
    have hkept₂ := hkept₁.step op
    have hsame : b₂.n3 = b₁.n3 := RuleOp.n3_step hwork
    rw [hwork] at hkept₂
    exact ⟨hkept₂, hsame.trans hn3, hsame ▸ hsum₁.of_ok hkept₁ hwork⟩
  · intro done' op b₁ b₂ e ⟨hkept₁, hn3, hsum₁⟩ hwork
    have hkept₂ := hkept₁.step op
    have hsame : b₂.n3 = b₁.n3 := RuleOp.n3_step hwork
    rw [hwork] at hkept₂
    exact ⟨hkept₂, hsame.trans hn3, hsame ▸ hsum₁.of_error hkept₁ hwork⟩

end Mergeable

end

/-! ## §5. Forwarding and QoS rules are such rules. -/

namespace RuleOp

/-- The change of a forwarding rule that an operation is. -/
def farUpdate? (id : UInt32) : RuleOp → Option UpdateFar
  | updateFar u => if u.farId.ruleId = id then some u else none
  | _ => none

/-- The change of a QoS rule that an operation is. -/
def qerUpdate? (id : UInt32) : RuleOp → Option UpdateQer
  | updateQer u => if u.qerId.ruleId = id then some u else none
  | _ => none

theorem farUpdate?_eq_some {id : UInt32} {op : RuleOp} {u : UpdateFar}
    (h : op.farUpdate? id = some u) : op = updateFar u ∧ u.farId.ruleId = id := by
  cases op with
  | updateFar u' =>
    simp only [farUpdate?, Option.ite_none_right_eq_some, Option.some.injEq] at h
    obtain ⟨hid, rfl⟩ := h
    exact ⟨rfl, hid⟩
  | _ => cases h

theorem qerUpdate?_eq_some {id : UInt32} {op : RuleOp} {u : UpdateQer}
    (h : op.qerUpdate? id = some u) : op = updateQer u ∧ u.qerId.ruleId = id := by
  cases op with
  | updateQer u' =>
    simp only [qerUpdate?, Option.ite_none_right_eq_some, Option.some.injEq] at h
    obtain ⟨hid, rfl⟩ := h
    exact ⟨rfl, hid⟩
  | _ => cases h

section

variable {b b' : Workbench} {op : RuleOp} {id : UInt32} {e : SessionError}

/-- What neither changes a forwarding rule, nor makes it anew or removes it, leaves it
as it is. -/
theorem far_of_other (h : b.Kept) (hchange : op.farUpdate? id = none)
    (hkept : ¬ op.Replaces .far id) :
    (op.step.work b).2.session.fars.get? id = b.session.fars.get? id := by
  obtain ⟨farSlots, qerSlots, fars, qers, h⟩ := h
  -- what is about forwarding rules is about another one; the rest leaves all of them alone
  cases op with
  | createFar r =>
    rcases RuleStep.createFar_work r h.fars with hwork | ⟨slot, slots, -, hwork, -⟩ <;>
      rw [RuleOp.step, hwork]
    exact (Table.get?_insert _ _ _ _).trans (if_neg fun heq => hkept ⟨rfl, heq.symm⟩)
  | updateFar r =>
    have hne : ¬ r.farId.ruleId = id := by
      intro heq
      rw [farUpdate?, if_pos heq] at hchange
      cases hchange
    rcases RuleStep.updateFar_work r h.fars with hwork | ⟨far, slots, -, hwork, -⟩ <;>
      rw [RuleOp.step, hwork]
    exact (Table.get?_insert _ _ _ _).trans (if_neg fun heq => hne heq.symm)
  | removeFar id' =>
    rcases RuleStep.removeFar_work id' h.fars with ⟨hwork, -⟩ | ⟨slots, hwork, -⟩ <;>
      rw [RuleOp.step, hwork]
    exact (Table.get?_erase _ _ _).trans (if_neg fun heq => hkept ⟨rfl, heq.symm⟩)
  | createQer r => exact congrArg (·.session.fars.get? id) (RuleStep.keeps_createQer r b)
  | updateQer r => exact congrArg (·.session.fars.get? id) (RuleStep.keeps_updateQer r b)
  | removeQer id' => exact congrArg (·.session.fars.get? id) (RuleStep.keeps_removeQer id' b)
  | createPdr r => exact congrArg (·.1.fars.get? id) (RuleStep.keeps_createPdr r b)
  | updatePdr r => exact congrArg (·.1.fars.get? id) (RuleStep.keeps_updatePdr r b)
  | removePdr id' => exact congrArg (·.1.fars.get? id) (RuleStep.keeps_removePdr id' b)

/-- What neither changes a QoS rule, nor makes it anew or removes it, leaves it as it
is. -/
theorem qer_of_other (h : b.Kept) (hchange : op.qerUpdate? id = none)
    (hkept : ¬ op.Replaces .qer id) :
    (op.step.work b).2.session.qers.get? id = b.session.qers.get? id := by
  obtain ⟨farSlots, qerSlots, fars, qers, h⟩ := h
  -- what is about QoS rules is about another one; the rest leaves all of them alone
  cases op with
  | createFar r => exact congrArg (·.session.qers.get? id) (RuleStep.keeps_createFar r b)
  | updateFar r => exact congrArg (·.session.qers.get? id) (RuleStep.keeps_updateFar r b)
  | removeFar id' => exact congrArg (·.session.qers.get? id) (RuleStep.keeps_removeFar id' b)
  | createQer r =>
    rcases RuleStep.createQer_work r h.qers with hwork | ⟨slot, slots, -, hwork, -⟩ <;>
      rw [RuleOp.step, hwork]
    exact (Table.get?_insert _ _ _ _).trans (if_neg fun heq => hkept ⟨rfl, heq.symm⟩)
  | updateQer r =>
    have hne : ¬ r.qerId.ruleId = id := by
      intro heq
      rw [qerUpdate?, if_pos heq] at hchange
      cases hchange
    rcases RuleStep.updateQer_work r h.qers with hwork | ⟨qer, slots, -, hwork, -⟩ <;>
      rw [RuleOp.step, hwork]
    exact (Table.get?_insert _ _ _ _).trans (if_neg fun heq => hne heq.symm)
  | removeQer id' =>
    rcases RuleStep.removeQer_work id' h.qers with ⟨hwork, -⟩ | ⟨slots, hwork, -⟩ <;>
      rw [RuleOp.step, hwork]
    exact (Table.get?_erase _ _ _).trans (if_neg fun heq => hkept ⟨rfl, heq.symm⟩)
  | createPdr r => exact congrArg (·.1.qers.get? id) (RuleStep.keeps_createPdr r b)
  | updatePdr r => exact congrArg (·.1.qers.get? id) (RuleStep.keeps_updatePdr r b)
  | removePdr id' => exact congrArg (·.1.qers.get? id) (RuleStep.keeps_removePdr id' b)

/-- **What fails** leaves all forwarding and QoS rules as they are. -/
theorem rules_of_error (h : b.Kept) (hwork : op.step.work b = (.error e, b')) :
    b'.session.fars = b.session.fars ∧ b'.session.qers = b.session.qers := by
  obtain ⟨farSlots, qerSlots, fars, qers, h⟩ := h
  have hkept (heq : (op.step.work b).2.besidesPdrs = b.besidesPdrs) :
      b'.session.fars = b.session.fars ∧ b'.session.qers = b.session.qers := by
    rw [hwork] at heq
    exact ⟨congrArg (·.1.fars) heq, congrArg (·.1.qers) heq⟩
  -- an operation on forwarding or QoS rules fails without a trace, or not at all
  cases op with
  | createFar r =>
    rcases RuleStep.createFar_work r h.fars with heq | ⟨_, _, -, heq, -⟩ <;>
      cases hwork.symm.trans heq
    exact ⟨rfl, rfl⟩
  | updateFar r =>
    rcases RuleStep.updateFar_work r h.fars with heq | ⟨_, _, -, heq, -⟩ <;>
      cases hwork.symm.trans heq
    exact ⟨rfl, rfl⟩
  | removeFar id' =>
    rcases RuleStep.removeFar_work id' h.fars with ⟨heq, -⟩ | ⟨_, heq, -⟩ <;>
      cases hwork.symm.trans heq
  | createQer r =>
    rcases RuleStep.createQer_work r h.qers with heq | ⟨_, _, -, heq, -⟩ <;>
      cases hwork.symm.trans heq
    exact ⟨rfl, rfl⟩
  | updateQer r =>
    rcases RuleStep.updateQer_work r h.qers with heq | ⟨_, _, -, heq, -⟩ <;>
      cases hwork.symm.trans heq
    exact ⟨rfl, rfl⟩
  | removeQer id' =>
    rcases RuleStep.removeQer_work id' h.qers with ⟨heq, -⟩ | ⟨_, heq, -⟩ <;>
      cases hwork.symm.trans heq
  | createPdr r => exact hkept (RuleStep.keeps_createPdr r b)
  | updatePdr r => exact hkept (RuleStep.keeps_updatePdr r b)
  | removePdr id' => exact hkept (RuleStep.keeps_removePdr id' b)

end

end RuleOp

/-- Forwarding rules. -/
def Mergeable.far : Mergeable CreateFar UpdateFar FarInfo where
  kind := .far
  make := .createFar
  id r := r.farId.ruleId
  change? := RuleOp.farUpdate?
  rule? s id := (s.fars.get? id).map SessionFar.share
  made n3 r := .ofCreate r n3
  changed n3 info u := info.update u n3
  of_make := by
    intro b b' r h hwork
    obtain ⟨farSlots, qerSlots, fars, qers, h⟩ := h
    rcases RuleStep.createFar_work r h.fars with heq | ⟨slot, _, -, heq, -⟩ <;>
      cases hwork.symm.trans heq
    exact ⟨slot, by simp [RuleStep.withFars, SessionFar.share]⟩
  of_change := by
    intro b b' op u i h hchange hwork
    obtain ⟨rfl, rfl⟩ := RuleOp.farUpdate?_eq_some hchange
    obtain ⟨farSlots, qerSlots, fars, qers, h⟩ := h
    rcases RuleStep.updateFar_work u h.fars with heq | ⟨far, _, hfar, heq, -⟩ <;>
      cases hwork.symm.trans heq
    exact ⟨far.slot, far.info, by simp [hfar, SessionFar.share],
      by simp [RuleStep.withFars, SessionFar.share]⟩
  of_other h hchange hkept := congrArg _ (RuleOp.far_of_other h hchange hkept)
  of_error h hwork i := by rw [(RuleOp.rules_of_error h hwork).1]
  of_same hfars _ := by rw [hfars]

/-- QoS rules. -/
def Mergeable.qer : Mergeable CreateQer UpdateQer QerInfo where
  kind := .qer
  make := .createQer
  id r := r.qerId.ruleId
  change? := RuleOp.qerUpdate?
  rule? s id := (s.qers.get? id).map SessionQer.share
  made _ r := .ofCreate r
  changed _ info u := info.update u
  of_make := by
    intro b b' r h hwork
    obtain ⟨farSlots, qerSlots, fars, qers, h⟩ := h
    rcases RuleStep.createQer_work r h.qers with heq | ⟨slot, _, -, heq, -⟩ <;>
      cases hwork.symm.trans heq
    exact ⟨slot, by simp [RuleStep.withQers, SessionQer.share]⟩
  of_change := by
    intro b b' op u i h hchange hwork
    obtain ⟨rfl, rfl⟩ := RuleOp.qerUpdate?_eq_some hchange
    obtain ⟨farSlots, qerSlots, fars, qers, h⟩ := h
    rcases RuleStep.updateQer_work u h.qers with heq | ⟨qer, _, hqer, heq, -⟩ <;>
      cases hwork.symm.trans heq
    exact ⟨qer.slot, qer.info, by simp [hqer, SessionQer.share],
      by simp [RuleStep.withQers, SessionQer.share]⟩
  of_other h hchange hkept := congrArg _ (RuleOp.qer_of_other h hchange hkept)
  of_error h hwork i := by rw [(RuleOp.rules_of_error h hwork).2]
  of_same _ hqers := by rw [hqers]

/-! ## §6. In the session and in the plane. -/

/-- The changes of a forwarding rule among operations. -/
def farUpdates (id : UInt32) (ops : List RuleOp) : List UpdateFar :=
  ops.filterMap (RuleOp.farUpdate? id)

/-- The changes of a QoS rule among operations. -/
def qerUpdates (id : UInt32) (ops : List RuleOp) : List UpdateQer :=
  ops.filterMap (RuleOp.qerUpdate? id)

/-- What has become of the rules that operations made.  A rule that was neither made
anew nor removed since is, in the session and in its slot of the plane, what was
carried last; rates that were signalled are there in full. -/
structure Merged (done : List RuleOp) (n3 : Ipv4) (s : Session) (plane : Plane) : Prop where
  fars : ∀ before r after, done = before ++ .createFar r :: after →
    (∀ op ∈ after, ¬ op.Replaces .far r.farId.ruleId) →
    let info := FarInfo.merged r (farUpdates r.farId.ruleId after) n3
    ∃ slot, s.fars.get? r.farId.ruleId = some ⟨slot, info⟩ ∧ plane.fars.get? slot = some info
  qers : ∀ before r after, done = before ++ .createQer r :: after →
    (∀ op ∈ after, ¬ op.Replaces .qer r.qerId.ruleId) →
    let us := qerUpdates r.qerId.ruleId after
    let info := QerInfo.merged r us
    (∃ slot, s.qers.get? r.qerId.ruleId = some ⟨slot, info⟩ ∧ plane.qers.get? slot = some info)
      ∧ ∀ (bs : Octets) (m : Mbr), Element.decode bs = .ok m →
        (lastCarried (·.maximumBitrate) us).or r.maximumBitrate = some m →
        info.maxBitrateUplink.toNat = 1000 * Octets.toNat (bs.take 5)
          ∧ info.maxBitrateDownlink.toNat = 1000 * Octets.toNat ((bs.drop 5).take 5)

/-- **What has become of rules**, where changes have added up and the slots hold what
the session records. -/
theorem Workbench.Kept.merged {b : Workbench} {done : List RuleOp} (hkept : b.Kept)
    (hfars : Mergeable.far.AddedUp done b.n3 b.session)
    (hqers : Mergeable.qer.AddedUp done b.n3 b.session) :
    Merged done b.n3 b.session b.plane := by
  obtain ⟨farSlots, qerSlots, fars, qers, hstocked⟩ := hkept
  constructor
  · intro before r after heq hafter
    obtain ⟨slot, hrule⟩ := hfars before r after heq hafter
    obtain ⟨⟨slot', info⟩, hget, hshare⟩ := Option.map_eq_some_iff.mp hrule
    cases hshare
    have hinfo := FarInfo.foldl_update r (farUpdates r.farId.ruleId after) b.n3
    have hmem := (Table.mem_stock SessionFar.share b.session.fars _).mpr ⟨_, _, hget, rfl⟩
    rw [← hinfo]
    exact ⟨slot', hget, hstocked.fars.mem_iff.mp (Multiset.mem_add.mpr (.inl hmem))⟩
  · intro before r after heq hafter
    refine ⟨?_, fun bs m hdecode hlast => ?_⟩
    · obtain ⟨slot, hrule⟩ := hqers before r after heq hafter
      obtain ⟨⟨slot', info⟩, hget, hshare⟩ := Option.map_eq_some_iff.mp hrule
      cases hshare
      have hinfo := QerInfo.foldl_update r (qerUpdates r.qerId.ruleId after)
      have hmem := (Table.mem_stock SessionQer.share b.session.qers _).mpr ⟨_, _, hget, rfl⟩
      rw [← hinfo]
      exact ⟨slot', hget, hstocked.qers.mem_iff.mp (Multiset.mem_add.mpr (.inl hmem))⟩
    · obtain ⟨hup, hdown⟩ := QerInfo.rates_merged hlast
      rw [hup, hdown]
      exact bitsPerSecond_of_decode hdecode

/-- **What has become of rules along a request**, whether it succeeds or fails. -/
theorem Workbench.Kept.merged_carryOut {b : Workbench} {done : List RuleOp} (hkept : b.Kept)
    (hfars : Mergeable.far.AddedUp done b.n3 b.session)
    (hqers : Mergeable.qer.AddedUp done b.n3 b.session) (ops : List RuleOp) :
    Merged (done ++ carriedOut ops b) b.n3 (b.carryOut ops).2.session (b.carryOut ops).2.plane := by
  have hfars' := hfars.carryOut hkept ops
  have hqers' := hqers.carryOut hkept ops
  rw [← b.n3_carryOut ops] at hfars' hqers' ⊢
  exact (hkept.carryOut ops).merged hfars' hqers'

end UserPlane
