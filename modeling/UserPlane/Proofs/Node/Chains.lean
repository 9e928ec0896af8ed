/-
  UserPlane.Proofs.Node.Chains
  ────────────────────────────
  **A CHAIN OF MESSAGES IS ITS MESSAGES, ONE BY ONE.**

  A datagram may hold several messages, of which all but the last say that
  another follows.  A node treats it as it would treat a datagram for each of
  them (`Node.chain_one_by_one`): the state it ends in and the answers it gives
  are the same, whatever stands behind the last message, whether or not the
  bodies can be read and the requests granted.  Where no message can be cut off,
  what was before has its effect and the rest has none.
-/
import UserPlane.Node.Dispatch
import UserPlane.Proofs.Message.Framing
import UserPlane.Proofs.Node.Run

namespace UserPlane

/-! ## §1. The first message and the rest. -/

/-- Treats octets as datagrams of their own, one by one; the answers are handed
back in order. -/
def treatEach (parts : List Octets) (src : SocketAddress) : StateM Node (List Outgoing) :=
  List.flatten <$> parts.mapM fun part => treatDatagram part src

/-- What follows a message in the datagram plays no part in its treatment. -/
theorem treatCut_rest (src : SocketAddress) (c : Header.Cut) (rest : Octets) :
    treatCut src { c with rest } = treatCut src c := rfl

theorem treatDatagram_of_walk_eq_nil {bs : Octets} (h : Header.walk bs = [])
    (src : SocketAddress) : treatDatagram bs src = pure [] := by
  unfold treatDatagram
  rw [h]
  rfl

/-- **A message in front is treated first**, as if it came alone; if it says that
another follows, the octets behind it are treated next. -/
theorem treatDatagram_append {followed : Bool} {m : Octets} (h : Header.Whole followed m)
    (more : Octets) (src : SocketAddress) :
    treatDatagram (m ++ more) src = do
      let answers ← treatDatagram m src
      let others ← if followed then treatDatagram more src else pure []
      return answers ++ others := by
  obtain ⟨c, halone, hmore⟩ := h.walk
  unfold treatDatagram
  rw [hmore, halone, List.filterMapM_cons, List.filterMapM_cons, treatCut_rest]
  have hrest : (if followed then Header.walk more else []).filterMapM (treatCut src)
      = if followed then (Header.walk more).filterMapM (treatCut src) else pure [] := by
    cases followed <;> rfl
  rw [hrest, bind_assoc]
  congr 1
  funext answer
  cases answer <;> cases followed <;> simp

/-! ## §2. Chains. -/

/-- **Messages that say that others follow** are treated one by one, and then what
is behind them. -/
theorem treatDatagram_chain {ms : List Octets} (h : ∀ m ∈ ms, Header.Whole true m)
    (more : Octets) (src : SocketAddress) :
    treatDatagram (ms.flatten ++ more) src = do
      let answers ← treatEach ms src
      let others ← treatDatagram more src
      return answers ++ others := by
  induction ms with
  | nil => simp [treatEach]
  | cons m ms ih =>
    have hm : Header.Whole true m := h m (by simp)
    rw [List.flatten_cons, List.append_assoc, treatDatagram_append hm,
      ih fun x hx => h x (by simp [hx])]
    simp only [treatEach, List.mapM_cons, List.flatten_cons, List.append_assoc,
      map_eq_pure_bind, bind_assoc, pure_bind, if_true]

/-- A chain that ends with a message that none follows; what is behind it is
passed over. -/
theorem treatDatagram_chain_last {ms : List Octets} {m : Octets}
    (h : ∀ m ∈ ms, Header.Whole true m) (hlast : Header.Whole false m) (trailing : Octets)
    (src : SocketAddress) :
    treatDatagram (ms.flatten ++ m ++ trailing) src = treatEach (ms ++ [m]) src := by
  rw [List.append_assoc, treatDatagram_chain h, treatDatagram_append hlast]
  simp [treatEach, List.mapM_append]

/-- A chain that breaks off where no message can be cut off. -/
theorem treatDatagram_chain_broken {ms : List Octets} {broken : Octets} {e : WireFault}
    (h : ∀ m ∈ ms, Header.Whole true m) (hbroken : Header.decode broken = .error e)
    (src : SocketAddress) :
    treatDatagram (ms.flatten ++ broken) src = treatEach ms src := by
  rw [treatDatagram_chain h, treatDatagram_of_walk_eq_nil (Header.walk_of_error hbroken)]
  simp

namespace Node

/-- **A chain is its messages, one by one.**  For every state and source: messages
of which all but the last say that another follows, and whatever is behind the
last one, leave the node in the state and get the answers that they would as
datagrams of their own; a chain that breaks off where no message can be cut off
does what the messages before that do.  Every step of a walk takes eight octets
or more, so that every walk comes to its end. -/
theorem chain_one_by_one (n : Node) (src : SocketAddress) :
    (∀ (ms : List Octets) (m trailing : Octets), (∀ x ∈ ms, Header.Whole true x) →
        Header.Whole false m →
        (treatDatagram (ms.flatten ++ m ++ trailing) src).run n
          = (treatEach (ms ++ [m]) src).run n)
      ∧ (∀ (ms : List Octets) (broken : Octets) (e : WireFault),
        (∀ x ∈ ms, Header.Whole true x) → Header.decode broken = .error e →
        (treatDatagram (ms.flatten ++ broken) src).run n = (treatEach ms src).run n)
      ∧ ∀ bs : Octets,
        List.IsChain (fun before behind => behind + 8 ≤ before)
            (bs.length :: (Header.walk bs).map (·.rest.length))
          ∧ 8 * (Header.walk bs).length ≤ bs.length := by
  refine ⟨?_, ?_, fun bs => ⟨Header.walk_progress bs, Header.walk_length bs⟩⟩
  · intro ms m trailing h hlast
    rw [treatDatagram_chain_last h hlast]
  · intro ms broken e h hbroken
    rw [treatDatagram_chain_broken h hbroken]

/-- A heartbeat request, a second one without its time stamp, which cannot be read, both
saying that another message follows, and a request for an association, with an octet
behind it that is no message. -/
theorem chain_one_by_one_three :
    let beat : Octets := [0x24, 1, 0, 12, 0, 0, 7, 0, 0, 96, 0, 4, 0, 0, 0, 1]
    let unreadable : Octets := [0x24, 1, 0, 4, 0, 0, 8, 0]
    let request : Octets := (Message.associationSetupRequest
      ⟨some (.ofIp Event.peer.ip), some ⟨1⟩, none⟩).encode 9 none
    (∀ x ∈ [beat, unreadable], Header.Whole true x) ∧ Header.Whole false request
      ∧ Header.decode [0xFF] = .error (.truncated "PFCP header" 4 1)
      ∧ (treatDatagram ([beat, unreadable].flatten ++ request ++ [0xFF]) Event.peer).run standard
        = (treatEach ([beat, unreadable] ++ [request]) Event.peer).run standard
      ∧ (treatDatagram ([beat, unreadable].flatten ++ [0xFF]) Event.peer).run standard
        = (treatEach [beat, unreadable] Event.peer).run standard := by
  intro beat unreadable request
  have hbeat : Header.Whole true beat :=
    ⟨⟨⟨0x24, 1, 12, none, 7, none⟩, beat.drop 8, []⟩, by decide +kernel, rfl, by decide⟩
  have hunreadable : Header.Whole true unreadable :=
    ⟨⟨⟨0x24, 1, 4, none, 8, none⟩, [], []⟩, by decide +kernel, rfl, by decide⟩
  have hrequest : Header.Whole false request :=
    ⟨⟨⟨0x20, 5, 21, none, 9, none⟩, request.drop 8, []⟩, by decide +kernel, rfl, by decide⟩
  have hfollowed : ∀ x ∈ [beat, unreadable], Header.Whole true x := by
    simp [hbeat, hunreadable]
  have hbroken : Header.decode [0xFF] = .error (.truncated "PFCP header" 4 1) := rfl
  have hchain := chain_one_by_one standard Event.peer
  exact ⟨hfollowed, hrequest, hbroken, hchain.1 _ _ _ hfollowed hrequest,
    hchain.2.1 _ _ _ hfollowed hbroken⟩

end Node

end UserPlane
