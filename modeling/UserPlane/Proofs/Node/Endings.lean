/-
  UserPlane.Proofs.Node.Endings
  ─────────────────────────────
  **HOWEVER AN ASSOCIATION ENDS, THE SAME IS TAKEN DOWN.**

  An association ends when its peer releases it, when its peer sets up a new one,
  and when one heartbeat too many was left unanswered (`Node.Ends`).  Each of the
  three closes a desk of the ledger, which releases the sessions at it in the
  order of their table; and so does deleting them one by one, in whatever order
  (`Ledger.deletions`).  What is left is the same, but for the order in which
  the pools were given back what the sessions held (`Node.ends_alike`).
-/
import UserPlane.Proofs.Node.Calls
import UserPlane.Proofs.Pool.Returns
import UserPlane.Proofs.Session.Dismantling
import UserPlane.Proofs.Session.Life

namespace UserPlane

/-! ## §1. Endings and deletions. -/

/-- **What ends the association under a key**: the call, and what is filed under
the key after it. -/
inductive Node.Ends (n : Node) (key : String) : Call → Option Association → Prop where
  /-- The peer releases the association. -/
  | released {src : SocketAddress} {cut : Header.Cut} {m : AssociationReleaseRequest}
      (hkey : associationKey src = key)
      (hread : Message.decode cut.header.type cut.body = .ok (.associationReleaseRequest m))
      (hnamed : m.nodeId.isSome) : Ends n key (.message src cut) none
  /-- The peer sets up a new association. -/
  | renewed {src : SocketAddress} {cut : Header.Cut} {m : AssociationSetupRequest} {id : NodeId}
      (hkey : associationKey src = key)
      (hread : Message.decode cut.header.type cut.body = .ok (.associationSetupRequest m))
      (hnamed : m.nodeId = some id) :
      Ends n key (.message src cut) (some { id := id.text, address := src })
  /-- The running timer finds one heartbeat too many unanswered. -/
  | expired {timer : UInt64} {a : Association} (htimed : timedAssociation n key timer = some a)
      (hlast : n.params.heartbeatRetries < a.heartbeatFailures + 1) :
      Ends n key (.heartbeatFailed key timer) none

/-- The peer of the association under a key asks for a session to be deleted. -/
inductive Call.Deletes (key : String) (seid : UInt64) : Call → Prop where
  | mk {src : SocketAddress} {cut : Header.Cut} {m : SessionDeletionRequest}
      (hkey : associationKey src = key)
      (hread : Message.decode cut.header.type cut.body = .ok (.sessionDeletionRequest m))
      (hseid : cut.header.seid = some seid) : Deletes key seid (.message src cut)

/-! ## §2. In the ledger. -/

namespace Ledger

/-- Sessions that are released leave the plane without anything of them. -/
theorem plane_foldl_release (sessions : List Session) (l : Ledger) :
    (sessions.foldl release l).plane = l.plane.without sessions := by
  rw [← Plane.foldl_teardown]
  induction sessions generalizing l with
  | nil => rfl
  | cons s sessions ih => exact ih (l.release s)

/-- **Sessions that are deleted one by one** leave the plane without anything of
them, and the pools with what they held given back in that order. -/
theorem deletions {key : String} {seids : List UInt64} {l : Ledger} {d : Desk}
    (hdesk : l.desks.get? key = some d) (hnodup : seids.Nodup)
    (hthere : ∀ seid ∈ seids, (d.sessions.get? seid).isSome = true) :
    ((seids.map (Entry.deleted key)).foldl enter l).plane
        = l.plane.without (seids.filterMap d.sessions.get?)
      ∧ ((seids.map (Entry.deleted key)).foldl enter l).pools
        = ((seids.filterMap d.sessions.get?).map Session.resourceKey).foldl Pools.releaseAll
            l.pools := by
  induction seids generalizing l d with
  | nil => exact ⟨rfl, rfl⟩
  | cons seid seids ih =>
    obtain ⟨hnot, hnodup⟩ := List.nodup_cons.mp hnodup
    obtain ⟨s, hs⟩ := Option.isSome_iff_exists.mp (hthere seid List.mem_cons_self)
    have henter : l.enter (.deleted key seid) = l.delete key d seid s := by
      simp only [enter, hdesk, hs]
    have hdesk' : (l.delete key d seid s).desks.get? key
        = some { d with sessions := d.sessions.erase seid } := by
      show (l.desks.insert key _).get? key = _
      rw [Table.get?_insert, if_pos rfl]
    -- the sessions that are deleted later are where they were
    have hkept : ∀ seid' ∈ seids, (d.sessions.erase seid).get? seid' = d.sessions.get? seid' := by
      intro seid' hmem
      rw [Table.get?_erase, if_neg fun heq : seid' = seid => hnot (heq ▸ hmem)]
    obtain ⟨hplane, hpools⟩ := ih hdesk' hnodup fun seid' hmem => by
      rw [hkept seid' hmem]
      exact hthere seid' (List.mem_cons_of_mem seid hmem)
    rw [List.map_cons, List.foldl_cons, henter, List.filterMap_cons_some hs, hplane, hpools,
      List.filterMap_congr hkept, ← Plane.foldl_teardown, ← Plane.foldl_teardown]
    exact ⟨rfl, rfl⟩

end Ledger

namespace Node

variable {n : Node} {key : String} {a : Association} {c : Call} {left : Option Association}

/-- A call that ends an association closes its desk, and opens another if something
is filed after it. -/
theorem Ends.callEntries_eq (h : n.Ends key c left) :
    n.callEntries c = .closed key :: left.toList.map fun _ => .opened key := by
  cases h with
  | released hkey hread hnamed =>
    obtain ⟨id, hid⟩ := Option.isSome_iff_exists.mp hnamed
    simp [callEntries, Header.Cut.entries, hread, Message.entries, hid, hkey]
  | renewed hkey hread hnamed =>
    simp [callEntries, Header.Cut.entries, hread, Message.entries, hnamed, hkey]
  | @expired timer b htimed hlast =>
    have hexpired : ({ b with heartbeatFailures := b.heartbeatFailures + 1 } :
        Association).isExpired n.params.heartbeatRetries = true := decide_eq_true hlast
    simp [callEntries, failureEntries, htimed, hexpired]

/-- **An association that ends** gives back all that its sessions have. -/
theorem Ends.plane_pools (h : n.Ends key c left) (hget : n.associations.get? key = some a) :
    (n.call c).plane = n.plane.without a.sessions.values
      ∧ (n.call c).pools
        = (a.sessions.values.map Session.resourceKey).foldl Pools.releaseAll n.pools := by
  have hdesk : n.ledger.desks.get? key = some a.desk := by
    rw [get?_desks, hget]
    rfl
  have hclosed : n.ledger.enter (.closed key) = n.ledger.close key a.desk := by
    simp only [Ledger.enter, hdesk]
  have hplane : (n.ledger.close key a.desk).plane = n.plane.without a.sessions.values :=
    Ledger.plane_foldl_release a.sessions.values { n.ledger with desks := _ }
  have hpools : (n.ledger.close key a.desk).pools
      = (a.sessions.values.map Session.resourceKey).foldl Pools.releaseAll n.pools :=
    Ledger.pools_foldl_release a.sessions.values { n.ledger with desks := _ }
  -- a desk that is opened touches neither the plane nor the pools
  have hopened (l : Ledger) :
      (l.enter (.opened key)).plane = l.plane ∧ (l.enter (.opened key)).pools = l.pools := by
    unfold Ledger.enter
    dsimp only
    cases l.desks.get? key <;> exact ⟨rfl, rfl⟩
  have hledger := n.ledger_call c
  rw [h.callEntries_eq, List.foldl_cons, hclosed] at hledger
  show (n.call c).ledger.plane = _ ∧ (n.call c).ledger.pools = _
  rw [hledger, ← hplane, ← hpools]
  cases left with
  | none => exact ⟨rfl, rfl⟩
  | some a' => exact hopened _

/-- What is filed under the key of an association that has ended. -/
theorem Ends.get? (h : n.Ends key c left) : (n.call c).associations.get? key = left := by
  cases h with
  | @released src cut m hkey hread hnamed =>
    obtain ⟨id, hid⟩ := Option.isSome_iff_exists.mp hnamed
    show ((treatCut src cut).run n).2.associations.get? key = none
    unfold treatCut
    rw [hread]
    refine treatMessage_holds (Q := fun n => n.associations.get? key = none)
      (fun _ _ hnone => hnone) cut.header _ src n nofun fun handle hhandle metrics => ?_
    cases hhandle
    unfold handleAssociationRelease
    rw [run_get_bind, hid]
    dsimp only
    rw [run_bind, hkey]
    -- whether there was an association shows in the answer only
    cases ((removeAssociation key).run { n with metrics }).1 <;>
      exact get?_removeAssociation key { n with metrics }
  | @renewed src cut m id hkey hread hnamed =>
    show ((treatCut src cut).run n).2.associations.get? key = _
    unfold treatCut
    rw [hread]
    refine treatMessage_holds (Q := fun n => n.associations.get? key = some _)
      (fun _ _ hsome => hsome) cut.header _ src n nofun fun handle hhandle metrics => ?_
    cases hhandle
    unfold handleAssociationSetup
    rw [run_get_bind, hnamed]
    dsimp only
    rw [run_bind, run_bind, ← hkey]
    exact get?_withAssociation _ (associationKey src) _
  | @expired timer b htimed hlast =>
    show ((recordFailure key timer).run n).2.associations.get? key = none
    rw [recordFailure_run_some htimed, if_pos hlast]
    dsimp only
    rw [(dropAssociation_spec _ key b.failedOnce).1, Table.get?_erase, if_pos rfl]

/-- Requests for deletion make the entries of deletions. -/
theorem callTrace_deletions {seids : List UInt64} {ds : List Call}
    (h : List.Forall₂ (Call.Deletes key) seids ds) (n : Node) :
    n.callTrace ds = seids.map (Entry.deleted key) := by
  induction h generalizing n with
  | nil => rfl
  | cons hdeletes _ ih =>
    cases hdeletes with
    | mk hkey hread hseid =>
      rw [callTrace, ih, List.map_cons]
      simp [callEntries, Header.Cut.entries, hread, Message.entries, hkey, hseid]

/-! ## §3. All endings are alike. -/

/-- **However an association ends, the same is taken down.**  Let an association end
by release, by a new setup or by an unanswered heartbeat, or let its sessions be
deleted one by one in any order: the plane is left the same, the tables and the
trackers of its slots included, and the pools alike, with as many addresses and
tunnel ids free.  Nothing is left under any detection, in any slot, or in the
pools of what the sessions had; and an association that was set up anew is as if
there had been none before. -/
theorem ends_alike (hget : n.associations.get? key = some a) (hends : n.Ends key c left)
    {seids : List UInt64} {ds : List Call} (hseids : seids.Perm a.sessions.keys)
    (hdeletes : List.Forall₂ (Call.Deletes key) seids ds) :
    (n.call c).plane = (n.calls ds).plane
      ∧ (n.call c).pools.Alike (n.calls ds).pools
      ∧ (n.call c).pools.freeIpv4 = (n.calls ds).pools.freeIpv4
      ∧ (n.call c).pools.freeTeids = (n.calls ds).pools.freeTeids
      ∧ (∀ s ∈ a.sessions.values,
        (∀ id pdr, s.pdrs.get? id = some pdr →
            (n.call c).plane.pdrs.get? pdr.detection = none)
          ∧ (∀ id far, s.fars.get? id = some far → (n.call c).plane.fars.get? far.slot = none)
          ∧ (∀ id qer, s.qers.get? id = some qer → (n.call c).plane.qers.get? qer.slot = none)
          ∧ ¬ (n.call c).pools.Busy s.resourceKey)
      ∧ (n.call c).associations.get? key = left
      ∧ ∀ a', left = some a' → a'.sessions = .empty ∧ a'.nextSessionId = 1
        ∧ a'.nextSequence = 1 ∧ a'.heartbeatFailures = 0 ∧ a'.timer = none := by
  obtain ⟨hplane, hpools⟩ := hends.plane_pools hget
  have hdesk : n.ledger.desks.get? key = some a.desk := by
    rw [get?_desks, hget]
    rfl
  -- the sessions in the order in which they are deleted
  have hperm : (seids.filterMap a.sessions.get?).Perm a.sessions.values := by
    rw [← a.sessions.filterMap_keys]
    exact hseids.filterMap _
  obtain ⟨hplane', hpools'⟩ := Ledger.deletions hdesk (hseids.nodup_iff.mpr a.sessions.nodup)
    fun seid hseid => (a.sessions.mem_keys_iff seid).mp (hseids.mem_iff.mp hseid)
  rw [← callTrace_deletions hdeletes n, ← n.ledger_calls ds] at hplane' hpools'
  have halike : (n.call c).pools.Alike (n.calls ds).pools := by
    show Pools.Alike _ (n.calls ds).ledger.pools
    rw [hpools, hpools']
    exact Pools.returns_perm (hperm.symm.map _) n.pools
  have hsame : (n.call c).plane = (n.calls ds).plane := by
    show _ = (n.calls ds).ledger.plane
    rw [hplane, hplane']
    exact Plane.without_perm hperm.symm n.plane
  refine ⟨hsame, halike, halike.free.1, halike.free.2, fun s hs => ?_, hends.get?, ?_⟩
  · rw [hplane, hpools]
    obtain ⟨hpdrs, hfars, hqers⟩ := Plane.without_gone hs n.plane
    refine ⟨fun id pdr hpdr => ?_, fun id far hfar => ?_, fun id qer hqer => ?_,
      Pools.not_busy_returns (List.mem_map_of_mem hs) n.pools⟩
    · exact hpdrs _ ((s.mem_detections _).mpr ⟨id, pdr, hpdr, rfl⟩)
    · exact hfars _ (List.mem_map_of_mem ((Table.mem_values_iff _ _).mpr ⟨id, hfar⟩))
    · exact hqers _ (List.mem_map_of_mem ((Table.mem_values_iff _ _).mpr ⟨id, hqer⟩))
  · rintro a' rfl
    cases hends
    exact ⟨rfl, rfl, rfl, rfl, rfl⟩

open Event in
/-- A peer with two sessions, each with a detection rule for tunnel 5 and one for a tunnel
that the node chose. -/
def sharedTunnel : Node :=
  let rule (id : UInt16) (t : FTeid) : CreatePdr :=
    { pdrId := ⟨id⟩
      pdi := { sourceInterface := .access, localFTeid := some t }
      farId := some ⟨1⟩ }
  let rules := [rule 1 (.ofIp peer.ip 5), rule 2 (.choose true false none)]
  let far : CreateFar := { farId := ⟨1⟩, applyAction := ⟨2⟩ }
  standard.run [setup, establishment rules [far], establishment rules [far]]

/-- The peer's release does what the deletion of its second session and then of its first
does. -/
theorem ends_alike_two :
    let release : Call := .message Event.peer ⟨⟨0x20, 9, 13, none, 4, none⟩,
      Message.body (.associationReleaseRequest ⟨some (.ofIp Event.peer.ip)⟩), []⟩
    let delete (seid : UInt64) : Call :=
      .message Event.peer ⟨⟨0x21, 54, 12, some seid, 5, none⟩, [], []⟩
    ∃ a, sharedTunnel.associations.get? "10.0.0.1" = some a
      ∧ sharedTunnel.Ends "10.0.0.1" release none
      ∧ [2, 1].Perm a.sessions.keys
      ∧ List.Forall₂ (Call.Deletes "10.0.0.1") [2, 1] [delete 2, delete 1]
      ∧ (sharedTunnel.call release).plane = (sharedTunnel.calls [delete 2, delete 1]).plane
      ∧ (sharedTunnel.call release).pools.Alike
          (sharedTunnel.calls [delete 2, delete 1]).pools
      ∧ (sharedTunnel.call release).pools.freeTeids
        = (sharedTunnel.calls [delete 2, delete 1]).pools.freeTeids := by
  intro release delete
  have hkey : associationKey Event.peer = "10.0.0.1" := by decide +kernel
  have hkeys : (sharedTunnel.associations.get? "10.0.0.1").map (·.sessions.keys)
      = some [1, 2] := by decide +kernel
  obtain ⟨a, hget, hsessions⟩ := Option.map_eq_some_iff.mp hkeys
  have hends : sharedTunnel.Ends "10.0.0.1" release none :=
    .released (m := ⟨some (.ofIp Event.peer.ip)⟩) hkey (by decide +kernel) rfl
  have hperm : [2, 1].Perm a.sessions.keys := by
    rw [hsessions]
    exact .swap 1 2 []
  have hdeletes : List.Forall₂ (Call.Deletes "10.0.0.1") [2, 1] [delete 2, delete 1] :=
    .cons (.mk (m := {}) hkey (by decide +kernel) rfl)
      (.cons (.mk (m := {}) hkey (by decide +kernel) rfl) .nil)
  obtain ⟨hplane, hpools, -, hteids, -⟩ := ends_alike hget hends hperm hdeletes
  exact ⟨a, hget, hends, hperm, hdeletes, hplane, hpools, hteids⟩

end Node

end UserPlane
