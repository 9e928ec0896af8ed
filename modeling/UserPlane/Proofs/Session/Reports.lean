/-
  UserPlane.Proofs.Session.Reports
  ────────────────────────────────
  **WHAT IS REPORTED AS CHOSEN.**

  Finding the key of a detection rule adds one report at most, of what was chosen
  where the detection information wished it.  No other step of an operation
  touches the reports, so that those of a request stand in order beside some of
  its operations:

      Pdi.Reports            a report answers the wishes of detection information
      detection_reports      what finding a key adds
      RuleOp.reports         what an operation adds
      Workbench.carryOut_reports   what a request adds
      reports_paid           what reports take, by what their operations take
-/
import Mathlib.Data.List.Forall2
import UserPlane.Proofs.Message.Sizes
import UserPlane.Proofs.Session.Provenance

namespace UserPlane

/-! ## §1. Reports. -/

/-- A report says of the tunnel end and of the address what was chosen, if it was
wished that the node choose. -/
structure Pdi.Reports (p : Pdi) (r : CreatedPdr) : Prop where
  localFTeid : ∀ t ∈ r.localFTeid, (∃ wish ∈ p.localFTeid, wish.isChoose = true)
    ∧ ∃ n3 teid, t = .ofIp (.v4 n3) teid
  ueIpAddress : ∀ a ∈ r.ueIpAddress, (∃ wish ∈ p.ueIpAddress, wish.isChoose = true)
    ∧ ∃ ip destination, a = .ofIp ip destination
  not_empty : r.localFTeid.isSome || r.ueIpAddress.isSome

/-- A report is about the detection rule that the operation keys. -/
def RuleOp.Reports (op : RuleOp) (r : CreatedPdr) : Prop :=
  ∃ pdi, op.pdi? r.pdrId.ruleId = some pdi ∧ pdi.Reports r

/-- What has been reported is no part of the detection rules. -/
theorem Workbench.besidePdrs_created : BesidePdrs Workbench.created :=
  ⟨fun _ _ => rfl, fun _ _ => rfl⟩

namespace RuleStep

variable {b b' : Workbench} {id : UInt16} {p : Pdi}

/-! ## §2. The reports of a key. -/

theorem keeps_created_fromPools {α : Type} (f : Pools → UInt64 → Except PoolError (α × Pools)) :
    Keeps Workbench.created (fromPools f) := .fromPools fun _ _ _ _ => rfl

/-- An address is reported if it was chosen. -/
theorem ueAddress_reports {address : Option Ip} {report : Option UeIpAddress}
    (h : (ueAddress p).work b = (.ok (address, report), b')) :
    b'.created = b.created ∧ ∀ a ∈ report, (∃ wish ∈ p.ueIpAddress, wish.isChoose = true)
      ∧ ∃ ip destination, a = .ofIp ip destination := by
  unfold ueAddress at h
  cases ha : p.ueIpAddress with
  | none =>
    rw [ha] at h
    cases h
    exact ⟨rfl, nofun⟩
  | some wish =>
    rw [ha] at h
    dsimp only at h
    split at h
    · next hv4 =>
      obtain ⟨x, b₁, hpool, h⟩ := work_bind_eq_ok h
      have hcreated := keeps_created_fromPools Pools.allocateIpv4 b
      rw [hpool] at hcreated
      cases h
      refine ⟨hcreated, fun a hmem => ?_⟩
      cases hmem
      exact ⟨⟨wish, rfl, by simp [UeIpAddress.isChoose, hv4]⟩, _, _, rfl⟩
    · split at h
      · next hv6 =>
        obtain ⟨x, b₁, hpool, h⟩ := work_bind_eq_ok h
        have hcreated := keeps_created_fromPools Pools.allocateIpv6 b
        rw [hpool] at hcreated
        cases h
        refine ⟨hcreated, fun a hmem => ?_⟩
        cases hmem
        exact ⟨⟨wish, rfl, by simp [UeIpAddress.isChoose, hv6]⟩, _, _, rfl⟩
      · cases h
        exact ⟨rfl, nofun⟩

theorem keeps_created_chooseTeid (id : UInt16) (wish : Option UInt8) :
    Keeps Workbench.created (chooseTeid id wish) := by
  unfold chooseTeid
  refine .bind .get fun b => ?_
  -- a number that was chosen under this wish before is used again
  split
  · exact .pure _
  · refine .bind (keeps_created_fromPools _) fun teid => ?_
    cases wish with
    | none => exact .pure _
    | some number => exact .bind (.modifying fun _ => rfl) fun _ => .pure _

/-- A tunnel end is reported if it was chosen. -/
theorem localTeid_reports {t : FTeid} {teid : UInt32} {report : Option FTeid}
    (h : (localTeid id t).work b = (.ok (teid, report), b')) :
    b'.created = b.created ∧ ∀ e ∈ report, t.isChoose = true
      ∧ ∃ n3 teid, e = .ofIp (.v4 n3) teid := by
  unfold localTeid at h
  split at h
  · next hchoose =>
    obtain ⟨teid', b₁, hteid, h⟩ := work_bind_eq_ok h
    have hcreated := keeps_created_chooseTeid id t.chooseId b
    rw [hteid] at hcreated
    rw [work_bind_ok (work_get b₁)] at h
    cases h
    refine ⟨hcreated, fun e hmem => ?_⟩
    cases hmem
    exact ⟨hchoose, _, _, rfl⟩
  · split at h
    · cases h
      exact ⟨rfl, nofun⟩
    · cases h

/-- **Finding a key adds one report at most**, of what was chosen. -/
theorem detection_reports {d : Detection} (h : (detection id p).work b = (.ok d, b')) :
    b'.created = b.created
      ∨ ∃ r : CreatedPdr, r.pdrId = ⟨id⟩ ∧ p.Reports r ∧ b'.created = b.created ++ [r] := by
  unfold detection at h
  obtain ⟨⟨address, chosenAddress⟩, b₁, haddress, h⟩ := work_bind_eq_ok h
  obtain ⟨hcreated, hip⟩ := ueAddress_reports haddress
  dsimp only at h
  cases ht : p.localFTeid with
  | some t =>
    rw [ht] at h
    obtain ⟨⟨teid, chosenTeid⟩, b₂, hteid, h⟩ := work_bind_eq_ok h
    obtain ⟨hkept, hchosen⟩ := localTeid_reports hteid
    cases (work_report (chosenTeid.isSome || chosenAddress.isSome)
      [⟨⟨id⟩, chosenTeid, chosenAddress⟩] (.uplink teid) b₂).symm.trans h
    rw [← hcreated, ← hkept]
    cases hsome : chosenTeid.isSome || chosenAddress.isSome with
    | false => exact .inl (List.append_nil _)
    | true =>
      refine .inr ⟨_, rfl, ⟨fun e he => ?_, hip, hsome⟩, rfl⟩
      obtain ⟨hwish, hend⟩ := hchosen e he
      exact ⟨⟨t, ht, hwish⟩, hend⟩
  | none =>
    rw [ht] at h
    cases address with
    | none => cases h
    | some ip =>
      cases (work_report (false || chosenAddress.isSome) [⟨⟨id⟩, none, chosenAddress⟩]
        (.downlink ip) b₁).symm.trans h
      rw [← hcreated]
      cases hsome : false || chosenAddress.isSome with
      | false => exact .inl (List.append_nil _)
      | true => exact .inr ⟨⟨⟨id⟩, none, chosenAddress⟩, rfl, ⟨nofun, hip, hsome⟩, rfl⟩

end RuleStep

/-! ## §3. The reports of a request. -/

/-- **An operation adds one report at most**, about the rule that it keys. -/
theorem RuleOp.reports {op : RuleOp} {b b' : Workbench} (h : op.step.work b = (.ok (), b')) :
    b'.created = b.created ∨ ∃ r, op.Reports r ∧ b'.created = b.created ++ [r] := by
  have hkept : ∀ {x : RuleStep Unit}, RuleStep.Keeps Workbench.created x →
      x.work b = (.ok (), b') → b'.created = b.created := by
    intro x hx hwork
    have hb := hx b
    rwa [hwork] at hb
  cases op with
  | removePdr id =>
    exact .inl (hkept (RuleStep.keeps_removal Workbench.besidePdrs_created id) h)
  | createPdr r =>
    rw [RuleOp.step, RuleStep.createPdr_eq] at h
    obtain ⟨pdr, b₁, hdraft, hfile⟩ := RuleStep.work_bind_eq_ok h
    have hfiled := RuleStep.keeps_filed Workbench.besidePdrs_created r.pdrId.ruleId pdr b₁
    rw [hfile] at hfiled
    dsimp only at hfiled
    rw [hfiled]
    refine (RuleStep.detection_reports (RuleStep.drafted_key hdraft)).imp id ?_
    rintro ⟨report, hid, hreports, hcreated⟩
    exact ⟨report, ⟨r.pdi, by simp [pdi?, hid], hreports⟩, hcreated⟩
  | updatePdr r =>
    rw [RuleOp.step, RuleStep.updatePdr_eq] at h
    obtain ⟨⟨previous, pdr⟩, b₁, hdraft, hfile⟩ := RuleStep.work_bind_eq_ok h
    have hfiled :=
      RuleStep.keeps_refiled Workbench.besidePdrs_created r.pdrId.ruleId previous pdr b₁
    dsimp only at hfile
    rw [hfile] at hfiled
    dsimp only at hfiled
    rw [hfiled]
    obtain ⟨-, ⟨-, -, rfl⟩ | ⟨pdi, hpdi, hfound⟩⟩ := RuleStep.redrafted_key hdraft
    · exact .inl rfl
    · refine (RuleStep.detection_reports hfound).imp id ?_
      rintro ⟨report, hid, hreports, hcreated⟩
      exact ⟨report, ⟨pdi, by simp [pdi?, hid, hpdi], hreports⟩, hcreated⟩
  | _ => exact .inl (hkept ((keeps_besidesTreatment rfl).map (·.created)) h)

/-- **The reports of a request** stand in order beside some of its operations. -/
theorem Workbench.carryOut_reports {ops : List RuleOp} {b b' : Workbench}
    (h : b.carryOut ops = (.ok (), b')) :
    ∃ rs, b'.created = b.created ++ rs
      ∧ List.SublistForall₂ (fun r op => op.Reports r) rs ops := by
  -- along the operations, none of which fails
  induction ops generalizing b with
  | nil =>
    cases h
    exact ⟨[], (List.append_nil _).symm, .nil⟩
  | cons op ops ih =>
    rw [carryOut_cons] at h
    cases hop : op.step.work b with
    | mk result b₁ =>
      rw [hop] at h
      cases result with
      | error e => cases h
      | ok u =>
        obtain ⟨rs, hrs, hbeside⟩ := ih h
        rcases RuleOp.reports hop with hsame | ⟨r, hreports, hadded⟩
        · exact ⟨rs, hsame ▸ hrs, .cons_right hbeside⟩
        · refine ⟨r :: rs, ?_, .cons hreports hbeside⟩
          rw [hrs, hadded, List.append_assoc]
          rfl

/-! ## §4. What reports take. -/

/-- What the rule of an operation takes at least, if it may be reported on. -/
def RuleOp.least : RuleOp → Nat
  | .createPdr r => r.least
  | .updatePdr r => r.least
  | _ => 0

/-- A rule that was made or changed takes ten octets and its detection
information. -/
theorem RuleOp.least_of_pdi {op : RuleOp} {id : UInt16} {pdi : Pdi} (h : op.pdi? id = some pdi) :
    op.least = 10 + pdi.least := by
  cases op with
  | createPdr r =>
    unfold pdi? at h
    dsimp only at h
    split at h
    · cases h
      rfl
    · cases h
  | updatePdr r =>
    unfold pdi? at h
    dsimp only at h
    split at h
    · simp only [least, UpdatePdr.least, h, Option.elim_some]
    · cases h
  | _ => cases h

/-- **A report is paid for**: one of a tunnel end and of an address takes 44 octets
for 29 at least, and any other 31 for 24. -/
theorem RuleOp.Reports.paid {op : RuleOp} {r : CreatedPdr} (h : op.Reports r) :
    Element.size r ≤ 44 ∧ 29 ≤ op.least ∨ Element.size r ≤ 31 ∧ 24 ≤ op.least := by
  obtain ⟨pdi, hpdi, hreports⟩ := h
  rw [RuleOp.least_of_pdi hpdi, CreatedPdr.size_eq]
  unfold Pdi.least
  have hteid : r.localFTeid.elim 0 Element.size = 0 ∧ r.localFTeid = none
      ∨ r.localFTeid.elim 0 Element.size = 13 ∧ (pdi.localFTeid.elim 0 fun _ => 5) = 5 := by
    cases ht : r.localFTeid with
    | none => exact .inl ⟨rfl, rfl⟩
    | some t =>
      obtain ⟨⟨wish, hwish, -⟩, n3, teid, rfl⟩ := hreports.localFTeid t ht
      exact .inr ⟨FTeid.size_ofIp n3 teid, by rw [Option.mem_def.mp hwish]; rfl⟩
  have haddress : r.ueIpAddress.elim 0 Element.size = 0 ∧ r.ueIpAddress = none
      ∨ r.ueIpAddress.elim 0 Element.size ≤ 21 ∧ (pdi.ueIpAddress.elim 0 fun _ => 5) = 5 := by
    cases ha : r.ueIpAddress with
    | none => exact .inl ⟨rfl, rfl⟩
    | some a =>
      obtain ⟨⟨wish, hwish, -⟩, ip, destination, rfl⟩ := hreports.ueIpAddress a ha
      exact .inr ⟨UeIpAddress.size_ofIp_le ip destination, by rw [Option.mem_def.mp hwish]; rfl⟩
  have hsome := hreports.not_empty
  rcases hteid with ⟨hteid, ht⟩ | hteid
  · rcases haddress with ⟨-, ha⟩ | haddress
    · simp [ht, ha] at hsome
    · omega
  · omega

/-- **The reports of a request are paid for** by its operations: `x` of them at 29
octets and `y` at 24. -/
theorem reports_paid {rs : List CreatedPdr} {ops : List RuleOp}
    (h : List.SublistForall₂ (fun r op => op.Reports r) rs ops) :
    ∃ x y, (rs.map Element.size).sum ≤ 44 * x + 31 * y
      ∧ 29 * x + 24 * y ≤ (ops.map RuleOp.least).sum := by
  induction h with
  | nil => exact ⟨0, 0, by simp, by simp⟩
  | cons hreports _ ih =>
    obtain ⟨x, y, hsize, hleast⟩ := ih
    simp only [List.map_cons, List.sum_cons]
    rcases hreports.paid with hboth | hone
    · exact ⟨x + 1, y, by omega, by omega⟩
    · exact ⟨x, y + 1, by omega, by omega⟩
  | cons_right _ ih =>
    obtain ⟨x, y, hsize, hleast⟩ := ih
    simp only [List.map_cons, List.sum_cons]
    exact ⟨x, y, hsize, by omega⟩

end UserPlane
