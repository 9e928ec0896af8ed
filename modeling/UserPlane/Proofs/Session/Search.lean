/-
  UserPlane.Proofs.Session.Search
  ───────────────────────────────
  **THE SEARCH FOR A KEY, OUTCOME BY OUTCOME.**

  What a detection rule is keyed by is found in two steps: the subscriber's
  address, and a tunnel id if the rule is to have one.  Each step can go in few
  ways, and each way tells what was found, what was granted or refused, and
  what the workbench looks like afterwards:

      AddressFound    a stated address, a chosen one, or a refusal
      TunnelFound     a stated tunnel id, a chosen one, or a refusal
      KeyFound        the one after the other, and the report of what was chosen
-/
import UserPlane.Proofs.Session.Provenance

namespace UserPlane

namespace Pdi

/-- The node is to choose the tunnel id. -/
def asksTeid (p : Pdi) : Bool := p.localFTeid.any (·.isChoose)

/-- The node is to choose the address. -/
def asksIp (p : Pdi) : Bool := p.ueIpAddress.any (·.isChoose)

theorem asksTeid_iff (p : Pdi) : p.asksTeid = true ↔ ∃ wish, p.ChoosesTeid wish := by
  unfold asksTeid ChoosesTeid
  simp only [Option.any_eq_true]
  exact ⟨fun ⟨t, ht, hchoose⟩ => ⟨_, t, ht, hchoose, rfl⟩,
    fun ⟨_, t, ht, hchoose, _⟩ => ⟨t, ht, hchoose⟩⟩

end Pdi

/-- The choices of a request with one more, if the wish has a number. -/
def Table.noting (chosen : Table UInt8 UInt32) (wish : Option UInt8) (teid : UInt32) :
    Table UInt8 UInt32 :=
  match wish with
  | some number => chosen.insert number teid
  | none => chosen

/-- The workbench with a report, if there is anything in it. -/
def Workbench.reporting (b : Workbench) (r : CreatedPdr) : Workbench :=
  { b with created := b.created ++ if r.localFTeid.isSome || r.ueIpAddress.isSome then [r] else [] }

/-! ## §1. Outcomes. -/

/-- How the search for the subscriber's address can go. -/
inductive AddressFound (p : Pdi) (b : Workbench) :
    Except SessionError (Option Ip × Option UeIpAddress) → Workbench → Prop where
  | stated (hasks : p.asksIp = false) :
      AddressFound p b (.ok (p.ueIpAddress.bind (·.ip?), none)) b
  | ipv4 {a : UeIpAddress} {x : Ipv4} {pools : Pools} (ha : p.ueIpAddress = some a)
      (hchv4 : UeIpAddress.chv4.isSet a.flags.toNat = true)
      (hgrant : b.pools.allocateIpv4 b.session.resourceKey = .ok (x, pools)) :
      AddressFound p b
        (.ok (some (.v4 x), some (.ofIp (.v4 x) (UeIpAddress.sd.isSet a.flags.toNat))))
        { b with pools }
  | noIpv4 {a : UeIpAddress} {e : PoolError} (ha : p.ueIpAddress = some a)
      (hchv4 : UeIpAddress.chv4.isSet a.flags.toNat = true)
      (hrefusal : b.pools.allocateIpv4 b.session.resourceKey = .error e) :
      AddressFound p b (.error (.pool e)) b
  | ipv6 {a : UeIpAddress} {x : Ipv6} {pools : Pools} (ha : p.ueIpAddress = some a)
      (hchv4 : UeIpAddress.chv4.isSet a.flags.toNat = false)
      (hchv6 : UeIpAddress.chv6.isSet a.flags.toNat = true)
      (hgrant : b.pools.allocateIpv6 b.session.resourceKey = .ok (x, pools)) :
      AddressFound p b
        (.ok (some (.v6 x), some (.ofIp (.v6 x) (UeIpAddress.sd.isSet a.flags.toNat))))
        { b with pools }
  | noIpv6 {a : UeIpAddress} {e : PoolError} (ha : p.ueIpAddress = some a)
      (hchv4 : UeIpAddress.chv4.isSet a.flags.toNat = false)
      (hchv6 : UeIpAddress.chv6.isSet a.flags.toNat = true)
      (hrefusal : b.pools.allocateIpv6 b.session.resourceKey = .error e) :
      AddressFound p b (.error (.pool e)) b

/-- How the search for a tunnel id can go. -/
inductive TunnelFound (id : UInt16) (t : FTeid) (b : Workbench) :
    Except SessionError (UInt32 × Option FTeid) → Workbench → Prop where
  | stated {teid : UInt32} (hasks : t.isChoose = false) (hteid : t.teid = some teid) :
      TunnelFound id t b (.ok (teid, none)) b
  | missing (hasks : t.isChoose = false) (hteid : t.teid = none) :
      TunnelFound id t b (.error (.missingElement "F-TEID")) b
  | again {teid : UInt32} (hasks : t.isChoose = true)
      (hagain : t.chooseId.bind b.chosen.get? = some teid) :
      TunnelFound id t b (.ok (teid, some (.ofIp (.v4 b.n3) teid))) b
  | granted {teid : UInt32} {pools : Pools} (hasks : t.isChoose = true)
      (hnew : t.chooseId.bind b.chosen.get? = none)
      (hgrant : b.pools.allocateTeid b.session.resourceKey id = .ok (teid, pools)) :
      TunnelFound id t b (.ok (teid, some (.ofIp (.v4 b.n3) teid)))
        { b with pools, chosen := b.chosen.noting t.chooseId teid }
  | refused {e : PoolError} (hasks : t.isChoose = true)
      (hnew : t.chooseId.bind b.chosen.get? = none)
      (hrefusal : b.pools.allocateTeid b.session.resourceKey id = .error e) :
      TunnelFound id t b (.error (.pool e)) b

/-- How the search for what a rule is keyed by can go. -/
inductive KeyFound (id : UInt16) (p : Pdi) (b : Workbench) :
    Except SessionError Detection → Workbench → Prop where
  | noAddress {e : SessionError} {b₁ : Workbench} (haddress : AddressFound p b (.error e) b₁) :
      KeyFound id p b (.error e) b₁
  | tunnel {address : Option Ip} {chosenAddress : Option UeIpAddress} {b₁ : Workbench} {t : FTeid}
      {teid : UInt32} {chosenTeid : Option FTeid} {b₂ : Workbench}
      (haddress : AddressFound p b (.ok (address, chosenAddress)) b₁) (ht : p.localFTeid = some t)
      (hteid : TunnelFound id t b₁ (.ok (teid, chosenTeid)) b₂) :
      KeyFound id p b (.ok (.uplink teid)) (b₂.reporting ⟨⟨id⟩, chosenTeid, chosenAddress⟩)
  | noTunnel {found : Option Ip × Option UeIpAddress} {b₁ : Workbench} {t : FTeid}
      {e : SessionError} {b₂ : Workbench} (haddress : AddressFound p b (.ok found) b₁)
      (ht : p.localFTeid = some t) (hteid : TunnelFound id t b₁ (.error e) b₂) :
      KeyFound id p b (.error e) b₂
  | address {ip : Ip} {chosenAddress : Option UeIpAddress} {b₁ : Workbench}
      (haddress : AddressFound p b (.ok (some ip, chosenAddress)) b₁) (ht : p.localFTeid = none) :
      KeyFound id p b (.ok (.downlink ip)) (b₁.reporting ⟨⟨id⟩, none, chosenAddress⟩)
  | neither {chosenAddress : Option UeIpAddress} {b₁ : Workbench}
      (haddress : AddressFound p b (.ok (none, chosenAddress)) b₁) (ht : p.localFTeid = none) :
      KeyFound id p b (.error (.missingElement "F-TEID or UE IP Address")) b₁

namespace RuleStep

variable {b b' : Workbench}

/-! ## §2. Every search has one of the outcomes. -/

/-- **The search for an address.** -/
theorem ueAddress_found (p : Pdi) (b : Workbench) :
    AddressFound p b ((ueAddress p).work b).1 ((ueAddress p).work b).2 := by
  unfold ueAddress
  cases ha : p.ueIpAddress with
  | none =>
    have hstated := AddressFound.stated (p := p) (b := b) (by simp [Pdi.asksIp, ha])
    rwa [ha] at hstated
  | some a =>
    dsimp only
    split
    · next hchv4 =>
      rw [work_bind, work_fromPools]
      cases hpool : b.pools.allocateIpv4 b.session.resourceKey with
      | ok r => exact .ipv4 ha hchv4 hpool
      | error e => exact .noIpv4 ha hchv4 hpool
    · next hchv4 =>
      have hchv4 := Bool.eq_false_iff.mpr hchv4
      split
      · next hchv6 =>
        rw [work_bind, work_fromPools]
        cases hpool : b.pools.allocateIpv6 b.session.resourceKey with
        | ok r => exact .ipv6 ha hchv4 hchv6 hpool
        | error e => exact .noIpv6 ha hchv4 hchv6 hpool
      · next hchv6 =>
        -- nothing is to be chosen
        have hstated := AddressFound.stated (p := p) (b := b)
          (by simp [Pdi.asksIp, ha, UeIpAddress.isChoose, hchv4, hchv6])
        rwa [ha] at hstated

/-- **The search for a tunnel id.** -/
theorem localTeid_found (id : UInt16) (t : FTeid) (b : Workbench) :
    TunnelFound id t b ((localTeid id t).work b).1 ((localTeid id t).work b).2 := by
  unfold localTeid
  split
  · next hasks =>
    unfold chooseTeid
    rw [bind_assoc, work_bind_ok (work_get b)]
    cases hagain : t.chooseId.bind b.chosen.get? with
    | some teid => exact .again hasks hagain
    | none =>
      dsimp only
      rw [bind_assoc, work_bind, work_fromPools]
      cases hpool : b.pools.allocateTeid b.session.resourceKey id with
      | error e => exact .refused hasks hagain hpool
      | ok r =>
        have hgranted := TunnelFound.granted hasks hagain hpool
        -- whether the wish has a number or not
        cases hwish : t.chooseId <;> rw [hwish] at hgranted <;> exact hgranted
  · next hasks =>
    have hasks := Bool.eq_false_iff.mpr hasks
    cases hteid : t.teid with
    | some teid => exact .stated hasks hteid
    | none => exact .missing hasks hteid

/-- **The search for a key.** -/
theorem detection_found (id : UInt16) (p : Pdi) (b : Workbench) :
    KeyFound id p b ((detection id p).work b).1 ((detection id p).work b).2 := by
  have haddress := ueAddress_found p b
  unfold detection
  rw [work_bind]
  cases hwork : (ueAddress p).work b with
  | mk found b₁ =>
    rw [hwork] at haddress
    cases found with
    | error e => exact .noAddress haddress
    | ok found =>
      obtain ⟨address, chosenAddress⟩ := found
      dsimp only
      cases ht : p.localFTeid with
      | some t =>
        have hteid := localTeid_found id t b₁
        dsimp only
        rw [work_bind]
        cases hwork₁ : (localTeid id t).work b₁ with
        | mk found b₂ =>
          rw [hwork₁] at hteid
          cases found with
          | error e => exact .noTunnel haddress ht hteid
          | ok found =>
            -- what is left is the report
            dsimp only
            rw [pure_bind, work_report]
            exact .tunnel haddress ht hteid
      | none =>
        cases address with
        | some ip =>
          dsimp only
          rw [pure_bind, work_report]
          exact .address haddress ht
        | none => exact .neither haddress ht

theorem detection_found_of_eq {id : UInt16} {p : Pdi} {r : Except SessionError Detection}
    (h : (detection id p).work b = (r, b')) : KeyFound id p b r b' := by
  have hfound := detection_found id p b
  rwa [h] at hfound

end RuleStep

end UserPlane
