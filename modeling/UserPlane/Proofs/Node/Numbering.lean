/-
  UserPlane.Proofs.Node.Numbering
  ───────────────────────────────
  **THE NUMBERS OF SESSIONS.**

  A session has a number with its association, and a key under which it holds
  addresses and tunnel ids.  Both are counted up with every establishment that
  is tried, and both begin again once all 64 bits are used up.  Until then a
  number means one session: the keys of the live sessions are distinct, and no
  session takes the place of another.

      Desk.Numbered         the numbers of an association
      Books.Numbered        the numbers and keys of a node
      Books.Move.numbered   every entry keeps them
-/
import UserPlane.Proofs.Node.Run

namespace UserPlane

/-- The key under which a session holds addresses and tunnel ids. -/
def Session.key (s : Session) : Multiset UInt64 := {s.resourceKey}

theorem Session.key_renumbered (s : Session) (cp : Option FSeid) :
    (s.renumbered cp).key = s.key := by
  cases cp <;> rfl

theorem Ledger.key_carryOut (l : Ledger) (s : Session) (ops : List RuleOp) :
    ((l.bench s).carryOut ops).2.session.key = s.key := by
  unfold Session.key
  rw [l.resourceKey_carryOut s ops]

/-- A session that is modified keeps its key. -/
theorem Ledger.total_key_modify {l : Ledger} {key : String} {d : Desk} {seid : UInt64}
    {s : Session} (hfiled : l.Filed) (hdesk : l.desks.get? key = some d)
    (hsession : d.sessions.get? seid = some s) (cp : Option FSeid) (ops : List RuleOp) :
    (l.modify key d (s.renumbered cp) ops).total Session.key = l.total Session.key := by
  rw [total_modify _ hfiled hdesk hsession, key_carryOut, Session.key_renumbered,
    total_of_session _ hdesk hsession]

/-! ## §1. The numbers of an association. -/

/-- Of the numbers given out so far a desk gave out a first part, and its
sessions have numbers from it. -/
structure Desk.Numbered (d : Desk) (tried : Nat) : Prop where
  next_le : d.nextSessionId.toNat ≤ 1 + tried
  below : ∀ seid s, d.sessions.get? seid = some s → seid < d.nextSessionId

namespace Desk

variable {d : Desk} {tried : Nat}

theorem numbered_empty (tried : Nat) : ({} : Desk).Numbered tried where
  next_le := by
    show 1 ≤ 1 + tried
    omega
  below seid s h := by cases h

namespace Numbered

theorem mono (h : d.Numbered tried) : d.Numbered (tried + 1) where
  next_le := by
    have hle := h.next_le
    omega
  below := h.below

theorem toNat_advanced (h : d.Numbered tried) (hfew : tried + 2 < UInt64.size) :
    d.advanced.nextSessionId.toNat = d.nextSessionId.toNat + 1 := by
  have hle := h.next_le
  have hnext : (d.nextSessionId + 1).toNat = d.nextSessionId.toNat + 1 := by
    rw [UInt64.toNat_add]
    apply Nat.mod_eq_of_lt
    have hsize : UInt64.size = 2 ^ 64 := rfl
    rw [UInt64.toNat_one]
    omega
  -- the next number is not zero, so that none is passed over
  unfold advanced
  dsimp only
  rw [if_neg fun hzero => by simp [hzero] at hnext]
  exact hnext

/-- A desk from which a number was given out. -/
theorem advanced (h : d.Numbered tried) (hfew : tried + 2 < UInt64.size) :
    d.advanced.Numbered (tried + 1) where
  next_le := by
    have hle := h.next_le
    rw [h.toNat_advanced hfew]
    omega
  below seid s hget := by
    have hlt : seid.toNat < d.nextSessionId.toNat := h.below seid s hget
    show seid.toNat < d.advanced.nextSessionId.toNat
    rw [h.toNat_advanced hfew]
    omega

/-- A desk where a session was filed under a number that was given out. -/
theorem file (h : d.Numbered tried) {s : Session} (hlt : s.localSeid < d.nextSessionId) :
    (d.file s).Numbered tried where
  next_le := h.next_le
  below seid s' hget := by
    have hget : (d.sessions.insert s.localSeid s).get? seid = some s' := hget
    rw [Table.get?_insert] at hget
    split at hget
    · next heq => exact heq ▸ hlt
    · exact h.below seid s' hget

theorem erase (h : d.Numbered tried) (seid : UInt64) :
    ({ d with sessions := d.sessions.erase seid } : Desk).Numbered tried where
  next_le := h.next_le
  below seid' s hget := h.below seid' s (Table.get?_of_erase hget).2

/-- The number that is given out next is not in use. -/
theorem get?_next (h : d.Numbered tried) : d.sessions.get? d.nextSessionId = none := by
  cases hget : d.sessions.get? d.nextSessionId with
  | none => rfl
  | some s =>
    have hlt : d.nextSessionId.toNat < d.nextSessionId.toNat := h.below _ s hget
    omega

end Numbered

end Desk

/-! ## §2. The numbers and keys of a node. -/

/-- The numbers that were given out, as long as they last. -/
structure Books.Numbered (w : Books) : Prop where
  filed : w.ledger.Filed
  next_key : w.ledger.nextResourceKey = UInt64.ofNat (1 + w.history.tried)
  desks : w.history.tried + 1 < UInt64.size → ∀ key d, w.ledger.desks.get? key = some d →
    d.Numbered w.history.tried
  keys : ∀ k ∈ w.ledger.total Session.key, ∃ j < w.history.tried, k = UInt64.ofNat (1 + j)
  nodup : w.history.tried < UInt64.size → (w.ledger.total Session.key).Nodup
  displaced : w.history.tried < UInt64.size → w.history.displaced = []

/-- The key that is given out next is none of those given out. -/
theorem ofNat_ne_of_lt {j k : Nat} (hlt : j < k) (hfew : k < UInt64.size) :
    UInt64.ofNat (1 + j) ≠ UInt64.ofNat (1 + k) := by
  intro heq
  have hmod : (1 + j) % UInt64.size = (1 + k) % UInt64.size := congrArg UInt64.toNat heq
  rw [Nat.mod_eq_of_lt (show 1 + j < UInt64.size by omega)] at hmod
  -- the last key that is given out is zero, which no other key was
  by_cases hlast : 1 + k < UInt64.size
  · rw [Nat.mod_eq_of_lt hlast] at hmod
    omega
  · have hk : 1 + k = UInt64.size := by omega
    rw [hk, Nat.mod_self] at hmod
    omega

/-- What becomes of a desk by a write under a key. -/
theorem Table.forall_insert {κ α : Type} [DecidableEq κ] {P : α → Prop} {t : Table κ α} {k : κ}
    {a : α} (ha : P a) (ht : ∀ k a, t.get? k = some a → P a) :
    ∀ k' a', (t.insert k a).get? k' = some a' → P a' := by
  intro k' a' hget
  rw [Table.get?_insert] at hget
  split at hget
  · exact Option.some.inj hget ▸ ha
  · exact ht k' a' hget

namespace Books

variable {w w' : Books}

namespace Numbered

/-- The next key is not that of a live session. -/
theorem next_not_mem (h : w.Numbered) (hfew : w.history.tried < UInt64.size) :
    w.ledger.nextResourceKey ∉ w.ledger.total Session.key := by
  intro hmem
  obtain ⟨j, hlt, heq⟩ := h.keys _ hmem
  rw [h.next_key] at heq
  exact ofNat_ne_of_lt hlt hfew heq.symm

theorem next_succ (h : w.Numbered) :
    w.ledger.nextResourceKey + 1 = UInt64.ofNat (1 + (w.history.tried + 1)) := by
  rw [h.next_key, ← Nat.add_assoc, UInt64.ofNat_add (1 + w.history.tried) 1]
  rfl

/-- No number is given out, and no session is new. -/
theorem of_le (h : w.Numbered) (hfiled : w'.ledger.Filed)
    (hnext : w'.ledger.nextResourceKey = w.ledger.nextResourceKey)
    (htried : w'.history.tried = w.history.tried)
    (hdisplaced : w'.history.displaced = w.history.displaced)
    (hdesks : w.history.tried + 1 < UInt64.size → ∀ key d, w'.ledger.desks.get? key = some d →
      d.Numbered w.history.tried)
    (hle : w'.ledger.total Session.key ≤ w.ledger.total Session.key) : w'.Numbered := by
  constructor
  case filed => exact hfiled
  case next_key =>
    rw [hnext, htried]
    exact h.next_key
  case desks =>
    rw [htried]
    exact hdesks
  case keys =>
    intro k hk
    rw [htried]
    exact h.keys k (Multiset.mem_of_le hle hk)
  case nodup =>
    intro hfew
    rw [htried] at hfew
    exact Multiset.nodup_of_le hle (h.nodup hfew)
  case displaced =>
    rw [htried, hdisplaced]
    exact h.displaced

/-- A number and a key are given out; at most one session is new, and it has
that key. -/
theorem of_tried (h : w.Numbered) (hfiled : w'.ledger.Filed)
    (hnext : w'.ledger.nextResourceKey = w.ledger.nextResourceKey + 1)
    (htried : w'.history.tried = w.history.tried + 1)
    (hdisplaced : w.history.tried + 1 < UInt64.size → w'.history.displaced = [])
    (hdesks : w.history.tried + 2 < UInt64.size → ∀ key d, w'.ledger.desks.get? key = some d →
      d.Numbered (w.history.tried + 1))
    (hle : w'.ledger.total Session.key
      ≤ w.ledger.nextResourceKey ::ₘ w.ledger.total Session.key) : w'.Numbered := by
  constructor
  case filed => exact hfiled
  case next_key =>
    rw [hnext, htried]
    exact h.next_succ
  case desks =>
    rw [htried]
    exact hdesks
  case keys =>
    intro k hk
    rw [htried]
    rcases Multiset.mem_cons.mp (Multiset.mem_of_le hle hk) with rfl | hk
    · exact ⟨w.history.tried, Nat.lt_succ_self _, h.next_key⟩
    · obtain ⟨j, hlt, heq⟩ := h.keys k hk
      exact ⟨j, Nat.lt_succ_of_lt hlt, heq⟩
  case nodup =>
    intro hfew
    rw [htried] at hfew
    -- the key that is given out is none of those given out before
    have hfew' : w.history.tried < UInt64.size := Nat.lt_of_succ_lt hfew
    exact Multiset.nodup_of_le hle
      (Multiset.nodup_cons.mpr ⟨h.next_not_mem hfew', h.nodup hfew'⟩)
  case displaced =>
    rw [htried]
    exact hdisplaced

end Numbered

/-- **Every entry keeps the numbers.** -/
theorem Move.numbered (hmove : w.Move w') (h : w.Numbered) : w'.Numbered := by
  have hfiled := hmove.filed h.filed
  cases hmove with
  | idle => exact h
  | @opened key hdesk =>
    -- a desk begins with the first number
    refine h.of_le hfiled rfl rfl rfl ?_ ?_
    · intro hfew
      exact Table.forall_insert (Desk.numbered_empty _) (h.desks hfew)
    · rw [Ledger.total_opened _ hdesk rfl]
  | @closed key d hdesk =>
    -- fewer sessions, and no new numbers
    have hdesks := Ledger.desks_close w.ledger key d
    refine h.of_le hfiled (Ledger.nextResourceKey_close w.ledger key d) rfl rfl ?_ ?_
    · intro hfew key' d' hget
      rw [hdesks] at hget
      exact h.desks hfew key' d' (Table.get?_of_erase hget).2
    · rw [Ledger.total_closed Session.key hdesk hdesks]
      exact Multiset.le_add_left _ _
  | @rejected key d remoteSeid ops e b hdesk hwork =>
    -- numbers are used up, and no session has them
    refine h.of_tried hfiled rfl rfl ?_ ?_ ?_
    · intro hfew
      exact h.displaced (Nat.lt_of_succ_lt hfew)
    · intro hfew
      have hdesks := h.desks (Nat.lt_of_succ_lt hfew)
      exact Table.forall_insert ((hdesks key d hdesk).advanced hfew)
        fun key' d' hget => (hdesks key' d' hget).mono
    · rw [Ledger.total_advanced _ hdesk rfl]
      exact Multiset.le_cons_self _ _
  | @accepted key d remoteSeid ops b hdesk hwork =>
    -- the new session has the numbers that were next
    have hseid : b.session.localSeid = d.nextSessionId := by
      have hseid := w.ledger.localSeid_carryOut (w.ledger.newcomer d remoteSeid) ops
      rwa [hwork] at hseid
    have hkey : b.session.key = {w.ledger.nextResourceKey} := by
      have hkey := w.ledger.key_carryOut (w.ledger.newcomer d remoteSeid) ops
      rwa [hwork] at hkey
    refine h.of_tried hfiled rfl rfl ?_ ?_ ?_
    · -- the number that was next was not in use, so nobody is displaced
      intro hfew
      have hnone := (h.desks hfew key d hdesk).get?_next
      show (d.sessions.get? b.session.localSeid).toList ++ w.history.displaced = []
      rw [hseid, hnone, h.displaced (Nat.lt_of_succ_lt hfew)]
      rfl
    · intro hfew
      have hdesks := h.desks (Nat.lt_of_succ_lt hfew)
      have hadvanced := (hdesks key d hdesk).advanced hfew
      have hlt : b.session.localSeid < d.advanced.nextSessionId := by
        show b.session.localSeid.toNat < d.advanced.nextSessionId.toNat
        rw [hseid, (hdesks key d hdesk).toNat_advanced hfew]
        omega
      exact Table.forall_insert (hadvanced.file hlt) fun key' d' hget => (hdesks key' d' hget).mono
    · rw [Ledger.total_split Session.key hdesk b.session.localSeid]
      show Ledger.total _ Session.key ≤ _
      rw [Ledger.total_filed _ d d.advanced rfl rfl, hkey, Multiset.singleton_add]
      exact (Multiset.cons_le_cons_iff _).mpr (Multiset.le_add_left _ _)
  | @modified key d seid s cp ops hdesk hsession =>
    -- the session keeps its numbers
    have hseid := h.filed.localSeid_modified (Ledger.live_of_desk hdesk hsession) cp ops
    refine h.of_le hfiled rfl rfl rfl ?_ ?_
    · intro hfew
      have hdesks := h.desks hfew
      have hnumbered := hdesks key d hdesk
      refine Table.forall_insert (hnumbered.file ?_) hdesks
      rw [hseid]
      exact hnumbered.below seid s hsession
    · rw [Ledger.total_key_modify h.filed hdesk hsession cp ops]
  | @deleted key d seid s hdesk hsession =>
    -- one session less, and no new numbers
    refine h.of_le hfiled rfl rfl rfl ?_ ?_
    · intro hfew
      have hdesks := h.desks hfew
      exact Table.forall_insert ((hdesks key d hdesk).erase seid) hdesks
    · have htotal : (w.ledger.delete key d seid s).total Session.key
          = w.ledger.totalOthers key d seid Session.key := Ledger.total_erased _ rfl
      rw [htotal, Ledger.total_of_session Session.key hdesk hsession]
      exact Multiset.le_add_left _ _

end Books

/-! ## §3. At the start. -/

/-- A node's numbers begin at one. -/
theorem Node.numbered_start {c : Config} {startup : Int} {heartbeats : Bool} {n : Node}
    (h : Node.start c startup heartbeats = .ok n) : n.newBooks.Numbered := by
  have hdesks := desks_start h
  have htotal : n.newBooks.ledger.total Session.key = 0 := by
    unfold Ledger.total
    rw [hdesks]
    rfl
  refine ⟨?_, ?_, ?_, ?_, ?_, fun _ => rfl⟩
  · intro key seid s hlive
    rw [Ledger.live, hdesks] at hlive
    cases hlive
  · exact (start_spec h).2.2.1
  · intro _ key d hget
    rw [hdesks] at hget
    cases hget
  · intro k hk
    rw [htotal] at hk
    exact absurd hk (Multiset.notMem_zero k)
  · intro _
    rw [htotal]
    exact Multiset.nodup_zero

/-! ## §4. Numbers that are used up. -/

/-- The number that an association gives out after it gave out others; zero is
never one. -/
def Desk.seidAfter (given : Nat) : UInt64 := UInt64.ofNat (1 + given % (2 ^ 64 - 1))

theorem Desk.advanced_seidAfter (given : Nat) (sessions : Table UInt64 Session) :
    Desk.advanced ⟨seidAfter given, sessions⟩ = ⟨seidAfter (given + 1), sessions⟩ := by
  have hnext : seidAfter given + 1 = UInt64.ofNat (2 + given % (2 ^ 64 - 1)) := by
    unfold seidAfter
    rw [show 2 + given % (2 ^ 64 - 1) = 1 + given % (2 ^ 64 - 1) + 1 by omega,
      UInt64.ofNat_add (1 + given % (2 ^ 64 - 1)) 1]
    rfl
  unfold advanced
  dsimp only
  rw [hnext]
  by_cases hlast : given % (2 ^ 64 - 1) = 2 ^ 64 - 2
  · -- all numbers were given out: one is the next again
    have hmod : (given + 1) % (2 ^ 64 - 1) = 0 := by omega
    unfold seidAfter
    rw [hlast, hmod]
    rfl
  · have hmod : (given + 1) % (2 ^ 64 - 1) = given % (2 ^ 64 - 1) + 1 := by omega
    have hne : UInt64.ofNat (2 + given % (2 ^ 64 - 1)) ≠ 0 := by
      intro hzero
      have hsize : (2 + given % (2 ^ 64 - 1)) % 2 ^ 64 = 0 := congrArg UInt64.toNat hzero
      omega
    unfold seidAfter
    rw [if_neg hne, hmod, ← Nat.add_assoc, Nat.add_right_comm]

/-- **Establishments that are rejected at once** use up numbers, and change
nothing else: not the plane, and not what is held under other keys than the new
ones. -/
theorem Books.after_futile {w : Books} {key : String} {sessions : Table UInt64 Session}
    {given : Nat} {remoteSeid : UInt64} {ops : List RuleOp}
    (hdesk : w.ledger.desks.get? key = some ⟨Desk.seidAfter given, sessions⟩)
    (hfutile : ∀ (l : Ledger) (s : Session), ∃ e, (l.bench s).carryOut ops = (.error e, l.bench s))
    (count : Nat) :
    let w' := w.after (List.replicate count (.tried key remoteSeid ops))
    w'.ledger.desks = w.ledger.desks.insert key ⟨Desk.seidAfter (given + count), sessions⟩
    ∧ w'.ledger.plane = w.ledger.plane
    ∧ w'.ledger.nextResourceKey = w.ledger.nextResourceKey + UInt64.ofNat count
    ∧ w'.history.displaced = w.history.displaced
    ∧ w'.history.done = w.history.done
    ∧ (∀ s ∈ w'.history.abandoned, s ∈ w.history.abandoned ∨ s.fars = .empty ∧ s.qers = .empty)
    ∧ w'.ledger.pools = ((List.range count).map fun i =>
      w.ledger.nextResourceKey + UInt64.ofNat i).foldl Pools.releaseAll w.ledger.pools := by
  -- on how many there are, of which the last is looked at
  induction count with
  | zero =>
    exact ⟨(Table.insert_of_get? hdesk).symm, rfl, (UInt64.add_zero _).symm, rfl, rfl,
      fun s hs => .inl hs, rfl⟩
  | succ count ih =>
    obtain ⟨hdesks, hplane, hnext, hdisplaced, hdone, habandoned, hpools⟩ := ih
    have hlast : w.after (List.replicate (count + 1) (.tried key remoteSeid ops))
        = (w.after (List.replicate count (.tried key remoteSeid ops))).enter
          (.tried key remoteSeid ops) := by
      rw [List.replicate_succ', after, List.foldl_append]
      rfl
    rw [hlast]
    generalize w.after (List.replicate count (.tried key remoteSeid ops)) = v at *
    have hget : v.ledger.desks.get? key = some ⟨Desk.seidAfter (given + count), sessions⟩ := by
      rw [hdesks, Table.get?_insert, if_pos rfl]
    -- the last one fails where it begins, and gives back what it never had
    obtain ⟨e, hwork⟩ := hfutile v.ledger
      (v.ledger.newcomer ⟨Desk.seidAfter (given + count), sessions⟩ remoteSeid)
    have henter : v.enter (.tried key remoteSeid ops) =
        ⟨{ v.ledger with
            desks := v.ledger.desks.insert key ⟨Desk.seidAfter (given + (count + 1)), sessions⟩
            pools := v.ledger.pools.releaseAll v.ledger.nextResourceKey
            nextResourceKey := v.ledger.nextResourceKey + 1 },
          { v.history with
            tried := v.history.tried + 1
            abandoned := v.ledger.newcomer ⟨Desk.seidAfter (given + count), sessions⟩ remoteSeid
              :: v.history.abandoned }⟩ := by
      unfold enter Ledger.enter History.enter
      dsimp only
      rw [hget]
      dsimp only
      unfold Ledger.attempt History.attempt
      dsimp only
      rw [hwork, Desk.advanced_seidAfter]
      rfl
    rw [henter]
    refine ⟨?_, hplane, ?_, hdisplaced, hdone, ?_, ?_⟩
    · dsimp only
      rw [hdesks, Table.insert_insert]
    · dsimp only
      rw [hnext, UInt64.ofNat_add count 1, ← UInt64.add_assoc]
      rfl
    · intro s hs
      rcases List.mem_cons.mp hs with rfl | hs
      · exact .inr ⟨rfl, rfl⟩
      · exact habandoned s hs
    · dsimp only
      rw [List.range_succ, List.map_append, List.foldl_append, hpools, hnext]
      rfl

/-! ## §5. One session in the place of another. -/

namespace Event

/-- The peer asks for a first session, with an address of the pool and a
forwarding rule. -/
def first : Event :=
  establishment
    [{ pdrId := ⟨1⟩
       pdi := { sourceInterface := .access, ueIpAddress := some { flags := 16 } }
       farId := some ⟨1⟩ }]
    [{ farId := ⟨1⟩, applyAction := ⟨2⟩ }]

/-- A detection rule without anything to detect. -/
def blind : CreatePdr := { pdrId := ⟨1⟩, pdi := { sourceInterface := .access } }

/-- A session, and then establishments that are rejected at once until the
number of that session is given out again. -/
def wrapping (count : Nat) : List Event :=
  [setup, first] ++ (List.replicate count (establishment [blind] []) ++ [establishment [] []])

end Event

namespace Node

open Event

theorem entries_blind (n : Node) :
    n.entries (establishment [blind] []) = [.tried "10.0.0.1" 1 [.createPdr blind]] := by
  show (Header.walk _).flatMap _ = _
  decide +kernel

theorem entries_bare (n : Node) : n.entries (establishment [] []) = [.tried "10.0.0.1" 1 []] := by
  show (Header.walk _).flatMap _ = _
  decide +kernel

theorem books_wrapping (count : Nat) :
    standard.books (wrapping count) =
      ((standard.books [setup, first]).after
        (List.replicate count (.tried "10.0.0.1" 1 [.createPdr blind]))).enter
        (.tried "10.0.0.1" 1 []) := by
  unfold wrapping
  rw [books_append, trace_append, trace_replicate entries_blind, trace, trace, entries_bare,
    Books.after, List.foldl_append]
  rfl

/-- The keys that are used up behind a first session are the numbers from two
on. -/
theorem one_ne_of_used {k : UInt64} {count : Nat}
    (hk : k ∈ (List.range count).map fun i => (2 : UInt64) + UInt64.ofNat i)
    (hcount : count < 2 ^ 64) : k ≠ 1 := by
  obtain ⟨i, hi, rfl⟩ := List.mem_map.mp hk
  rw [List.mem_range] at hi
  intro heq
  have hmod : (2 + i) % 2 ^ 64 = 1 := by
    have hnat := congrArg UInt64.toNat heq
    rwa [UInt64.toNat_add, UInt64.toNat_ofNat', Nat.add_mod_mod] at hnat
  omega

/-- **All numbers but one are used up.**  A first session is alone at the only
desk, and its number is the next that is given out. -/
theorem worn_spec : ∃ count sessions,
    let w := (standard.books [setup, first]).after
      (List.replicate count (.tried "10.0.0.1" 1 [.createPdr blind]))
    w.ledger.desks.get? "10.0.0.1" = some ⟨1, sessions⟩
    ∧ (∃ s, sessions.get? 1 = some s ∧ s.fars.contains 1 = true)
    ∧ sessions.erase 1 = .empty
    ∧ w.ledger.desks.erase "10.0.0.1" = .empty
    ∧ w.ledger.nextResourceKey = 0
    ∧ (w.ledger.plane.fars.get? 0).isSome = true
    ∧ (∀ s ∈ w.history.abandoned, s.fars = .empty)
    ∧ w.ledger.pools.Busy 1 := by
  obtain ⟨count, hcount⟩ : ∃ count, count = 2 ^ 64 - 2 := ⟨_, rfl⟩
  refine ⟨count, ?_⟩
  -- the first session, alone at the only desk
  have hnext₁ : ((standard.books [setup, first]).ledger.desks.get? "10.0.0.1").map
      (·.nextSessionId) = some (Desk.seidAfter 1) := by decide +kernel
  have hrule₁ : ((standard.books [setup, first]).ledger.desks.get? "10.0.0.1").bind
      (fun d => (d.sessions.get? 1).map (·.fars.contains 1)) = some true := by decide +kernel
  have halone₁ : ((standard.books [setup, first]).ledger.desks.get? "10.0.0.1").map
      (·.sessions.erase 1) = some .empty := by decide +kernel
  have honly₁ : (standard.books [setup, first]).ledger.desks.erase "10.0.0.1" = .empty :=
    Table.eq_of_entries_eq (List.eq_nil_of_length_eq_zero (by decide +kernel))
  have hslot₁ : ((standard.books [setup, first]).ledger.plane.fars.get? 0).isSome = true := by
    decide +kernel
  have hbusy₁ : (standard.books [setup, first]).ledger.pools.Busy 1 := by
    left
    decide +kernel
  have hkey₁ : (standard.books [setup, first]).ledger.nextResourceKey = 2 := by decide +kernel
  have habandoned₁ : (standard.books [setup, first]).history.abandoned = [] :=
    List.eq_nil_of_length_eq_zero (by decide +kernel)
  generalize standard.books [setup, first] = w₁ at *
  obtain ⟨⟨next, sessions⟩, hdesk₁, rfl⟩ := Option.map_eq_some_iff.mp hnext₁
  rw [hdesk₁] at halone₁ hrule₁
  obtain ⟨s, hs, hrule⟩ := Option.map_eq_some_iff.mp hrule₁
  -- rejected establishments use up all other numbers
  have hfutile : ∀ (l : Ledger) (s : Session),
      ∃ e, (l.bench s).carryOut [.createPdr blind] = (.error e, l.bench s) := fun l s => ⟨_, rfl⟩
  obtain ⟨hdesks₂, hplane₂, hkey₂, -, -, habandoned₂, hpools₂⟩ :=
    Books.after_futile hdesk₁ hfutile count
  have hseid : Desk.seidAfter (1 + count) = 1 := by
    rw [hcount]
    rfl
  rw [hseid] at hdesks₂
  refine ⟨sessions, ?_, ⟨s, hs, hrule⟩, Option.some.inj halone₁, ?_, ?_, ?_, ?_, ?_⟩
  · rw [hdesks₂, Table.get?_insert, if_pos rfl]
  · rw [hdesks₂, Table.erase_insert, honly₁]
  · rw [hkey₂, hkey₁, hcount]
    rfl
  · rw [hplane₂, hslot₁]
  · intro s hs
    rcases habandoned₂ s hs with hs | hs
    · rw [habandoned₁] at hs
      cases hs
    · exact hs.1
  · rw [hpools₂, hkey₁]
    refine (Pools.busy_foldl_releaseAll _ fun k hk => ?_).mpr hbusy₁
    exact (one_ne_of_used hk (by omega)).symm

/-- An establishment without rules files a session under the next number. -/
theorem enter_bare {w : Books} {key : String} {d : Desk}
    (hdesk : w.ledger.desks.get? key = some d) (remoteSeid : UInt64) :
    w.enter (.tried key remoteSeid []) = ⟨w.ledger.attempt key d remoteSeid [],
      w.history.attempt w.ledger key d remoteSeid []⟩ := by
  unfold Books.enter Ledger.enter History.enter
  dsimp only
  rw [hdesk]

/-- **A session in the place of another.**  When the number of a session is
given out again the session is gone, but what it has in the plane and in the
pools stays. -/
theorem wrapping_spec : ∃ events s, s.fars = .empty ∧ s.resourceKey = 0
    ∧ (∀ {M : Type} [AddCommMonoid M] (f : Session → M),
      (standard.books events).ledger.total f = f s)
    ∧ ((standard.books events).ledger.plane.fars.get? 0).isSome = true
    ∧ (∀ s ∈ (standard.books events).history.abandoned, s.fars = .empty)
    ∧ (standard.books events).ledger.pools.Busy 1 := by
  obtain ⟨count, sessions, hworn⟩ := worn_spec
  have hbooks := books_wrapping count
  generalize (standard.books [setup, first]).after
    (List.replicate count (.tried "10.0.0.1" 1 [.createPdr blind])) = w at *
  obtain ⟨hdesk, -, halone, honly, hkey, hslot, habandoned, hbusy⟩ := hworn
  rw [enter_bare hdesk] at hbooks
  refine ⟨wrapping count, w.ledger.newcomer ⟨1, sessions⟩ 1, rfl, hkey, ?_, ?_, ?_, ?_⟩
  · intro M _ f
    rw [hbooks]
    refine (Ledger.total_filed f (l := w.ledger) ⟨1, sessions⟩ (Desk.advanced _) rfl rfl).trans ?_
    have hothers : w.ledger.totalOthers "10.0.0.1" ⟨1, sessions⟩ 1 f = 0 := by
      unfold Ledger.totalOthers Ledger.totalBeside
      rw [honly]
      dsimp only
      rw [halone]
      exact zero_add _
    exact (congrArg (f _ + ·) hothers).trans (add_zero _)
  · rw [hbooks]
    exact hslot
  · intro s hs
    rw [hbooks] at hs
    exact habandoned s hs
  · rw [hbooks]
    exact hbusy

end Node

end UserPlane
