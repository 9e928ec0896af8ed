/-
  UserPlane.Proofs.Flow
  ─────────────────────
  **WHICH TEXTS ARE FLOW DESCRIPTIONS, AND OF WHICH FLOWS.**

  The grammar is written down by itself, in relations that no reader occurs in:

      FlowProtocol.Named       the word for a protocol
      PortRange.Written        one port, or `low-high`
      IpNetwork.Written        an address with or without a length behind `/`
      FlowEnd.Written          an end: its address, and ports or none
      Flow.Described           a whole description

  A text is read exactly if the words that it is made of (`Parted`) are a
  description, and as just the flow that they describe
  (`Flow.ofText_iff_described`).  The reader goes by single characters and by
  one word ahead; it misses nothing, because a number has no dash in it
  (`dash_not_mem`), an address no slash (`slash_not_mem`), and `to` is no ports
  (`not_written_to`).
-/
import UserPlane.Flow
import UserPlane.Proofs.Address.Grammar
import UserPlane.Proofs.Address.Network

namespace UserPlane

/-! ## §1. Where a text is cut. -/

/-- The text is the words with blanks before them, between them and behind. -/
inductive Parted : List Char → List (List Char) → Prop where
  | nil : Parted [] []
  | blank {c : Char} {cs : List Char} {ws : List (List Char)} (hc : isBlank c = true)
    (more : Parted cs ws) : Parted (c :: cs) ws
  | word {w cs : List Char} {ws : List (List Char)} (hne : w ≠ [])
    (hw : ∀ c ∈ w, isBlank c = false) (hend : ∀ c ∈ cs.head?, isBlank c = true)
    (more : Parted cs ws) : Parted (w ++ cs) (w :: ws)

theorem parted_splitBlanks (cs : List Char) : Parted cs (splitBlanks cs) := by
  fun_induction splitBlanks cs with
  | case1 => exact .nil
  | case2 c cs hc ih => exact .blank hc ih
  | case3 c cs hc ih =>
    have hcs : c :: cs = (c :: cs.takeWhile (!isBlank ·)) ++ cs.dropWhile (!isBlank ·) := by
      rw [List.cons_append, List.takeWhile_append_dropWhile]
    rw [hcs]
    refine .word (by simp) (fun d hd => ?_) (fun d hd => ?_) ih
    · rcases List.mem_cons.mp hd with rfl | hd
      · simpa using hc
      · simpa using List.mem_takeWhile_imp (p := (!isBlank ·)) hd
    · have hfirst := List.head?_dropWhile_not (!isBlank ·) cs
      rw [Option.mem_def.mp hd] at hfirst
      simpa using hfirst

/-- A text is the words of no other list. -/
theorem Parted.splitBlanks_eq {cs : List Char} {ws : List (List Char)} (h : Parted cs ws) :
    splitBlanks cs = ws := by
  induction h with
  | nil => rw [splitBlanks]
  | blank hc _ ih => rw [splitBlanks, if_pos hc, ih]
  | @word w cs ws hne hw hend _ ih =>
    obtain ⟨c, w, rfl⟩ := List.exists_cons_of_ne_nil hne
    have hfirst : ¬ isBlank c = true := by simp [hw c List.mem_cons_self]
    have hrest : ∀ d ∈ w, (!isBlank d) = true := fun d hd => by
      simp [hw d (List.mem_cons_of_mem c hd)]
    have hstop : cs.takeWhile (!isBlank ·) = [] ∧ cs.dropWhile (!isBlank ·) = cs := by
      cases cs with
      | nil => exact ⟨rfl, rfl⟩
      | cons d cs =>
        have hd := hend d rfl
        have hneg : ¬ (!isBlank d) = true := by simp [hd]
        exact ⟨List.takeWhile_cons_of_neg hneg, List.dropWhile_cons_of_neg hneg⟩
    rw [List.cons_append, splitBlanks, if_neg hfirst, List.takeWhile_append_of_pos hrest,
      List.dropWhile_append_of_pos hrest, hstop.1, hstop.2, List.append_nil, ih]

/-- **The words of a text** are those that it is parted into by its blanks. -/
theorem words_eq_iff {s : String} {ws : List String} :
    words s = ws ↔ Parted s.toList (ws.map String.toList) := by
  unfold words
  constructor
  · rintro rfl
    rw [List.map_map]
    have hid : String.toList ∘ String.ofList = id := funext fun _ => String.toList_ofList
    rw [hid, List.map_id]
    exact parted_splitBlanks _
  · intro h
    rw [h.splitBlanks_eq, List.map_map]
    have hid : String.ofList ∘ String.toList = id := funext fun _ => String.ofList_toList
    rw [hid, List.map_id]

/-- What a text is before the separator and behind it. -/
theorem eq_of_splitOnce {sep : Char} {cs front : List Char} {back : Option (List Char)}
    (h : splitOnce sep cs = (front, back)) :
    sep ∉ front ∧ cs = front ++ (back.map (sep :: ·)).getD [] := by
  induction cs generalizing front with
  | nil =>
    cases h
    exact ⟨List.not_mem_nil, rfl⟩
  | cons c cs ih =>
    rw [splitOnce] at h
    split at h
    · next hc =>
      cases h
      exact ⟨List.not_mem_nil, by rw [hc]; rfl⟩
    · next hc =>
      cases h
      obtain ⟨hfront, hcs⟩ := ih rfl
      refine ⟨?_, by rw [List.cons_append, ← hcs]⟩
      simpa [Ne.symm hc] using hfront

theorem splitOnce_of_not_mem {sep : Char} {cs : List Char} (h : sep ∉ cs) :
    splitOnce sep cs = (cs, none) := by
  induction cs with
  | nil => rfl
  | cons c cs ih =>
    rw [splitOnce, if_neg (Ne.symm (List.ne_of_not_mem_cons h)),
      ih (List.not_mem_of_not_mem_cons h)]

theorem splitOnce_append {sep : Char} {front : List Char} (h : sep ∉ front) (back : List Char) :
    splitOnce sep (front ++ sep :: back) = (front, some back) := by
  induction front with
  | nil => exact if_pos rfl
  | cons c front ih =>
    rw [List.cons_append, splitOnce, if_neg (Ne.symm (List.ne_of_not_mem_cons h)),
      ih (List.not_mem_of_not_mem_cons h)]

/-! ## §2. The grammar. -/

/-- The word names the protocol. -/
inductive FlowProtocol.Named : String → FlowProtocol → Prop where
  | icmp : Named "icmp" .icmp
  | ip : Named "ip" .ip
  | tcp : Named "tcp" .tcp
  | udp : Named "udp" .udp
  | icmp6 : Named "icmp6" .icmp6
  | number : Named "58" .icmp6

/-- The text writes the ports: one, or the lowest and the highest. -/
inductive PortRange.Written : List Char → PortRange → Prop where
  | single {cs : List Char} {port : Nat} (h : Numeral.Decimal cs port) (hmax : port ≤ 65535) :
    Written cs ⟨port, port⟩
  | range {cs ds : List Char} {low high : Nat} (hlow : Numeral.Decimal cs low)
    (hhigh : Numeral.Decimal ds high) (hle : low ≤ high) (hmax : high ≤ 65535) :
    Written (cs ++ '-' :: ds) ⟨low, high⟩

/-- The network of length `n` has the first `n` bits of the address, and zeros
behind them. -/
structure Network.Cut {w : Nat} (network : Network w) (address : BitVec w) (n : Nat) : Prop where
  length : network.length = n
  front : ∀ i < n, network.first.getMsbD i = address.getMsbD i
  behind : ∀ i, n ≤ i → network.first.getMsbD i = false

/-- The network is of the address's kind, and cut from it. -/
inductive IpNetwork.Cut : IpNetwork → Ip → Nat → Prop where
  | v4 {network : Network 32} {a : Ipv4} {n : Nat} (h : network.Cut a.bits n) :
    Cut (.v4 network) (.v4 a) n
  | v6 {network : Network 128} {a : Ipv6} {n : Nat} (h : network.Cut a.bits n) :
    Cut (.v6 network) (.v6 a) n

/-- The text writes the network: an address alone, or with a length that fits it. -/
inductive IpNetwork.Written : List Char → IpNetwork → Prop where
  | host {cs : List Char} {ip : Ip} {network : IpNetwork} (h : Ip.Literal cs ip)
    (hcut : network.Cut ip ip.width) : Written cs network
  | masked {cs ds : List Char} {ip : Ip} {n : Nat} {network : IpNetwork} (h : Ip.Literal cs ip)
    (hn : Numeral.Decimal ds n) (hle : n ≤ ip.width) (hcut : network.Cut ip n) :
    Written (cs ++ '/' :: ds) network

namespace FlowEnd

/-- The word writes the end, with the ports that it stands for alone. -/
inductive Address (destination : Bool) : String → FlowEnd → Prop where
  | any : Address destination "any" ⟨none, .full⟩
  | assigned (h : destination = true) : Address destination "assigned" ⟨none, .assigned⟩
  | network {token : String} {network : IpNetwork} (h : network.Written token.toList) :
    Address destination token ⟨some network, .full⟩

/-- The words write the end: its address, and ports or none. -/
inductive Written (destination : Bool) : List String → FlowEnd → Prop where
  | bare {token : String} {e : FlowEnd} (h : Address destination token e) :
    Written destination [token] e
  | withPorts {token word : String} {e : FlowEnd} {ports : PortRange}
    (h : Address destination token e) (hports : ports.Written word.toList) :
    Written destination [token, word] { e with ports }

/-- The source of a flow towards these words: one with every port starts at port
1 if they assign the destination. -/
def towards (destination : List String) (source : FlowEnd) : FlowEnd :=
  if destination.head? = some "assigned" ∧ source.ports = .full then
    { source with ports := .assigned }
  else source

end FlowEnd

/-- **The words describe the flow.** -/
inductive Flow.Described : List String → Flow → Prop where
  | permit {token : String} {protocol : FlowProtocol} {from_ to_ : List String}
    {source destination : FlowEnd} (hprotocol : protocol.Named token)
    (hsource : source.Written false from_) (hdestination : destination.Written true to_) :
    Described ("permit" :: "out" :: token :: "from" :: (from_ ++ "to" :: to_))
      ⟨protocol, source.towards to_, destination⟩

/-! ## §3. Protocols and ports. -/

namespace Flow

theorem bind_eq_ok {α β : Type} {x : Except FlowError α} {f : α → Except FlowError β} {b : β} :
    (x >>= f) = .ok b ↔ ∃ a, x = .ok a ∧ f a = .ok b := by
  cases x <;> simp [bind, Except.bind]

theorem protocol?_eq_ok_iff {token : String} {protocol : FlowProtocol} :
    protocol? token = .ok protocol ↔ protocol.Named token := by
  constructor
  · intro h
    unfold protocol? at h
    split at h
    all_goals cases h
    all_goals constructor
  · intro h
    cases h <;> rfl

theorem port?_eq_ok_iff {cs : List Char} {port : Nat} :
    port? cs = .ok port ↔ Numeral.Decimal cs port ∧ port ≤ 65535 := by
  unfold port?
  split
  · next e hread =>
    constructor
    · nofun
    · rintro ⟨h, hmax⟩
      rw [Numeral.readDecimal_eq_ok_iff.mpr ⟨h, by omega⟩] at hread
      cases hread
  · next p hread =>
    obtain ⟨hp, -⟩ := Numeral.readDecimal_eq_ok_iff.mp hread
    constructor
    · intro h
      split at h
      · cases h
      · cases h
        exact ⟨hp, by omega⟩
    · rintro ⟨h, hmax⟩
      rw [Numeral.readDecimal_eq_ok_iff.mpr ⟨h, by omega⟩] at hread
      cases hread
      rw [if_neg (by omega)]

/-- A number has no dash in it. -/
theorem dash_not_mem {cs : List Char} {n : Nat} (h : Numeral.Decimal cs n) : '-' ∉ cs :=
  h.not_mem (by decide) (by decide)

theorem ports?_eq_ok_iff {token : String} {ports : PortRange} :
    ports? token = .ok ports ↔ ports.Written token.toList := by
  obtain ⟨cs, hcs⟩ : ∃ cs, token.toList = cs := ⟨_, rfl⟩
  unfold ports?
  rw [hcs]
  constructor
  · intro h
    obtain ⟨⟨first, second⟩, hsplit⟩ : ∃ parts, splitOnce '-' cs = parts := ⟨_, rfl⟩
    obtain ⟨-, rfl⟩ := eq_of_splitOnce hsplit
    rw [hsplit] at h
    obtain ⟨low, hlow, h⟩ := bind_eq_ok.mp h
    obtain ⟨hdecimal, hmax⟩ := port?_eq_ok_iff.mp hlow
    cases second with
    | none =>
      obtain ⟨high, hhigh, h⟩ := bind_eq_ok.mp h
      cases hhigh
      dsimp only at h
      rw [if_neg (Nat.lt_irrefl low)] at h
      cases h
      rw [Option.map_none, Option.getD_none, List.append_nil]
      exact .single hdecimal hmax
    | some back =>
      obtain ⟨high, hhigh, h⟩ := bind_eq_ok.mp h
      obtain ⟨hdecimal', hmax'⟩ := port?_eq_ok_iff.mp hhigh
      dsimp only at h
      split at h
      · cases h
      · next hle =>
        cases h
        exact .range hdecimal hdecimal' (by omega) hmax'
  · intro h
    cases h with
    | @single _ port h hmax =>
      rw [splitOnce_of_not_mem (dash_not_mem h)]
      refine bind_eq_ok.mpr ⟨port, port?_eq_ok_iff.mpr ⟨h, hmax⟩, ?_⟩
      exact bind_eq_ok.mpr ⟨port, rfl, if_neg (Nat.lt_irrefl port)⟩
    | @range _ _ low high hlow hhigh hle hmax =>
      rw [splitOnce_append (dash_not_mem hlow)]
      refine bind_eq_ok.mpr ⟨low, port?_eq_ok_iff.mpr ⟨hlow, by omega⟩, ?_⟩
      exact bind_eq_ok.mpr ⟨high, port?_eq_ok_iff.mpr ⟨hhigh, hmax⟩, if_neg (by omega)⟩

/-- `to` is no ports, so that ports left out are not looked for in it. -/
theorem not_written_to (ports : PortRange) : ¬ ports.Written "to".toList := by
  have hto {cs : List Char} {n : Nat} (h : Numeral.Decimal cs n) : 't' ∉ cs :=
    h.not_mem (by decide) (by decide)
  intro h
  have hmem : 't' ∈ "to".toList := by decide
  generalize hcs : "to".toList = cs at h hmem
  cases h with
  | single h => exact hto h hmem
  | range hlow hhigh =>
    rcases List.mem_append.mp hmem with hmem | hmem
    · exact hto hlow hmem
    · rcases List.mem_cons.mp hmem with hdash | hmem
      · exact absurd hdash (by decide)
      · exact hto hhigh hmem

end Flow

/-! ## §4. Networks. -/

namespace Network

variable {w : Nat} {network : Network w} {address : BitVec w} {n : Nat}

theorem getMsbD_mask (hle : n ≤ w) (i : Nat) : (mask w n).getMsbD i = decide (i < n) := by
  unfold mask
  rw [BitVec.getMsbD_shiftLeft, BitVec.getMsbD_allOnes]
  exact decide_eq_decide.mpr (by omega)

/-- **What is cut from an address**, at any length that fits it, is the network it
lies in. -/
theorem cut_iff (hle : n ≤ w) : network.Cut address n ↔ network = around address n := by
  constructor
  · intro h
    obtain ⟨first, length⟩ := network
    obtain rfl : length = n := h.length
    have hfirst : first = address &&& mask w length := by
      apply BitVec.eq_of_getMsbD_eq
      intro i hi
      rw [BitVec.getMsbD_and, getMsbD_mask hle]
      by_cases hin : i < length
      · simpa [hin] using h.front i hin
      · simpa [hin] using h.behind i (by omega)
    rw [around, ← hfirst]
  · rintro rfl
    refine ⟨rfl, fun i hi => ?_, fun i hi => ?_⟩
    · show (address &&& mask w n).getMsbD i = _
      rw [BitVec.getMsbD_and, getMsbD_mask hle]
      simp [hi]
    · show (address &&& mask w n).getMsbD i = _
      rw [BitVec.getMsbD_and, getMsbD_mask hle]
      simp [hi]

end Network

namespace IpNetwork

/-- **An address with the bits behind the length cleared is always the first of a
network**: the one that is cut from it. -/
theorem make?_truncate {ip : Ip} {n : Nat} (hle : n ≤ ip.width) :
    ∃ network, make? (ip.truncate n) n = .ok network
      ∧ ∀ other : IpNetwork, other.Cut ip n ↔ other = network := by
  cases ip with
  | v4 a =>
    have hwidth : n ≤ 32 := hle
    refine ⟨.v4 (.around a.bits n), ?_, fun other => ⟨?_, ?_⟩⟩
    · exact congrArg (Except.map v4) (Network.make?_around a.bits hwidth)
    · rintro (⟨h⟩ | ⟨h⟩)
      rw [(Network.cut_iff hwidth).mp h]
    · rintro rfl
      exact .v4 ((Network.cut_iff hwidth).mpr rfl)
  | v6 a =>
    have hwidth : n ≤ 128 := hle
    refine ⟨.v6 (.around a.bits n), ?_, fun other => ⟨?_, ?_⟩⟩
    · exact congrArg (Except.map v6) (Network.make?_around a.bits hwidth)
    · rintro (⟨h⟩ | ⟨h⟩)
      rw [(Network.cut_iff hwidth).mp h]
    · rintro rfl
      exact .v6 ((Network.cut_iff hwidth).mpr rfl)

end IpNetwork

namespace Flow

/-- An address has no slash in it. -/
theorem slash_not_mem {cs : List Char} {ip : Ip} (h : Ip.Literal cs ip) : '/' ∉ cs :=
  fun hslash => absurd (h.isAddressChar _ hslash) (by decide)

/-- A length that fits the address is all that the last step asks for. -/
theorem cut_eq_ok_iff {token : String} {ip : Ip} {n : Nat} {network : IpNetwork} :
    (if ip.width < n then Except.error (FlowError.lengthTooLong n ip)
      else
        match IpNetwork.make? (ip.truncate n) n with
        | .ok network => .ok network
        | .error e => .error (FlowError.invalidNetwork token e)) = Except.ok network
      ↔ n ≤ ip.width ∧ network.Cut ip n := by
  by_cases hlong : ip.width < n
  · rw [if_pos hlong]
    exact ⟨nofun, fun h => absurd h.1 (by omega)⟩
  · obtain ⟨cut, hmake, hcut⟩ := IpNetwork.make?_truncate (Nat.le_of_not_lt hlong)
    rw [if_neg hlong, hmake, hcut]
    constructor
    · rintro ⟨⟩
      exact ⟨by omega, rfl⟩
    · rintro ⟨-, rfl⟩
      rfl

theorem network?_eq_ok_iff {token : String} {network : IpNetwork} :
    network? token = .ok network ↔ network.Written token.toList := by
  obtain ⟨cs, hcs⟩ : ∃ cs, token.toList = cs := ⟨_, rfl⟩
  unfold network?
  rw [hcs]
  constructor
  · intro h
    obtain ⟨⟨addr, length⟩, hsplit⟩ : ∃ parts, splitOnce '/' cs = parts := ⟨_, rfl⟩
    obtain ⟨-, rfl⟩ := eq_of_splitOnce hsplit
    rw [hsplit] at h
    cases hip : Ip.ofText? addr with
    | none =>
      simp only [hip] at h
      cases h
    | some ip =>
      have hlit := Ip.ofText?_eq_some_iff.mp hip
      simp only [hip] at h
      cases length with
      | none =>
        obtain ⟨-, hcut⟩ := cut_eq_ok_iff.mp h
        rw [Option.map_none, Option.getD_none, List.append_nil]
        exact .host hlit hcut
      | some ds =>
        cases hn : Numeral.readDecimal 255 ds with
        | error e =>
          simp only [hn] at h
          cases h
        | ok n =>
          simp only [hn] at h
          obtain ⟨hle, hcut⟩ := cut_eq_ok_iff.mp h
          exact .masked hlit (Numeral.readDecimal_eq_ok_iff.mp hn).1 hle hcut
  · intro h
    cases h with
    | host hlit hcut =>
      rw [splitOnce_of_not_mem (slash_not_mem hlit)]
      simp only [Ip.ofText?_eq_some_iff.mpr hlit]
      exact cut_eq_ok_iff.mpr ⟨Nat.le_refl _, hcut⟩
    | @masked _ _ ip n _ hlit hn hle hcut =>
      have hwidth : ip.width ≤ 255 := by cases ip <;> simp [Ip.width]
      rw [splitOnce_append (slash_not_mem hlit)]
      simp only [Ip.ofText?_eq_some_iff.mpr hlit,
        Numeral.readDecimal_eq_ok_iff.mpr ⟨hn, hle.trans hwidth⟩]
      exact cut_eq_ok_iff.mpr ⟨hle, hcut⟩

/-! ## §5. Ends. -/

/-- A word with a character that is in no address, no number and no slash writes no
network. -/
theorem not_written_of_mem {token : String} {network : IpNetwork} {c : Char}
    (hmem : c ∈ token.toList) (hc : ¬ IsAddressChar c) (hslash : c ≠ '/') (hplus : c ≠ '+') :
    ¬ network.Written token.toList := by
  have hdigit : Numeral.digitValue? 10 c = none := by
    by_contra hsome
    exact hc (.inr (.inr (Numeral.isDigit_hex (Option.isSome_iff_ne_none.mpr hsome))))
  intro h
  generalize token.toList = cs at h hmem
  cases h with
  | host hlit => exact hc (hlit.isAddressChar c hmem)
  | masked hlit hn =>
    rcases List.mem_append.mp hmem with hmem | hmem
    · exact hc (hlit.isAddressChar c hmem)
    · exact (List.mem_cons.mp hmem).elim hslash (hn.not_mem hplus hdigit)

theorem address?_eq_ok_iff {destination : Bool} {token : String} {e : FlowEnd} :
    address? destination token = .ok e ↔ FlowEnd.Address destination token e := by
  unfold address?
  by_cases hany : token = "any"
  · rw [if_pos hany]
    constructor
    · rintro ⟨⟩
      rw [hany]
      exact .any
    · intro h
      cases h with
      | any => rfl
      | assigned => exact absurd hany (by decide)
      | network h =>
        have hmem : 'n' ∈ token.toList := by rw [hany]; decide
        exact absurd h (not_written_of_mem hmem (by decide) (by decide) (by decide))
  · rw [if_neg hany]
    by_cases hassigned : token = "assigned" ∧ destination = true
    · rw [if_pos hassigned]
      constructor
      · rintro ⟨⟩
        rw [hassigned.1]
        exact .assigned hassigned.2
      · intro h
        cases h with
        | any => exact absurd rfl hany
        | assigned => rfl
        | network h =>
          have hmem : 's' ∈ token.toList := by rw [hassigned.1]; decide
          exact absurd h (not_written_of_mem hmem (by decide) (by decide) (by decide))
    · rw [if_neg hassigned]
      constructor
      · intro h
        obtain ⟨network, hnetwork, hpure⟩ := bind_eq_ok.mp h
        cases hpure
        exact .network (network?_eq_ok_iff.mp hnetwork)
      · intro h
        cases h with
        | any => exact absurd rfl hany
        | assigned h => exact absurd ⟨rfl, h⟩ hassigned
        | network h => exact bind_eq_ok.mpr ⟨_, network?_eq_ok_iff.mpr h, rfl⟩

/-- **An end is read off the front of the words** where nothing or `to` follows. -/
theorem exists_written_iff {destination : Bool} {ws rest : List String} {e : FlowEnd}
    (hrest : ∀ word ∈ rest.head?, word = "to") :
    (∃ front, ws = front ++ rest ∧ FlowEnd.Written destination front e)
      ↔ end? destination ws = .ok (e, rest) := by
  constructor
  · rintro ⟨front, rfl, h⟩
    cases h with
    | bare h =>
      have haddress := address?_eq_ok_iff.mpr h
      cases rest with
      | nil => exact bind_eq_ok.mpr ⟨e, haddress, rfl⟩
      | cons next more =>
        obtain rfl := hrest next rfl
        exact bind_eq_ok.mpr ⟨e, haddress, rfl⟩
    | @withPorts token word e' ports h hports =>
      have hword : word ≠ "to" := by
        rintro rfl
        exact not_written_to ports hports
      refine bind_eq_ok.mpr ⟨e', address?_eq_ok_iff.mpr h, ?_⟩
      rw [if_neg hword]
      exact bind_eq_ok.mpr ⟨ports, ports?_eq_ok_iff.mpr hports, rfl⟩
  · intro h
    unfold end? at h
    split at h
    · cases h
    · next token =>
      obtain ⟨e', haddress, hpure⟩ := bind_eq_ok.mp h
      cases hpure
      exact ⟨[token], rfl, .bare (address?_eq_ok_iff.mp haddress)⟩
    · next token next more =>
      obtain ⟨e', haddress, h⟩ := bind_eq_ok.mp h
      split at h
      · cases h
        exact ⟨[token], rfl, .bare (address?_eq_ok_iff.mp haddress)⟩
      · obtain ⟨ports, hports, hpure⟩ := bind_eq_ok.mp h
        cases hpure
        exact ⟨[token, next], rfl,
          .withPorts (address?_eq_ok_iff.mp haddress) (ports?_eq_ok_iff.mp hports)⟩

/-! ## §6. Whole descriptions. -/

theorem body?_eq_ok_iff {text : String} {ws rest : List String} :
    body? text ws = .ok rest ↔ ws = "permit" :: "out" :: rest := by
  constructor
  · intro h
    unfold body? at h
    split at h
    · cases h
      rfl
    · split at h <;> cases h
    · cases h
  · rintro rfl
    rfl

/-- The flow to the end that all these words write. -/
def flow? (protocol : FlowProtocol) (source : FlowEnd) (ws : List String) :
    Except FlowError Flow := do
  let (destination, trailing) ← end? true ws
  if trailing.isEmpty then .ok ⟨protocol, source.towards ws, destination⟩
  else .error (.trailing trailing)

/-- The flow that is written behind its source. -/
def to? (text : String) (protocol : FlowProtocol) (source : FlowEnd) :
    List String → Except FlowError Flow
  | "to" :: rest => flow? protocol source rest
  | _ => .error (.expectTo text)

/-- The flow that is written behind `permit out`. -/
def from? (text : String) : List String → Except FlowError Flow
  | token :: "from" :: rest => do
    let protocol ← protocol? token
    let (source, rest) ← end? false rest
    to? text protocol source rest
  | _ => .error (.expectProtocol text)

/-- A description is read in stages. -/
theorem ofText_eq (text : String) : ofText text = (body? text (words text) >>= from? text) := by
  refine congrArg (bind (body? text (words text))) (funext fun ws => ?_)
  split
  · next token rest =>
    rw [from?]
    cases protocol? token with
    | error e => rfl
    | ok protocol =>
      refine congrArg (bind (end? false rest)) (funext fun found => ?_)
      obtain ⟨source, ws⟩ := found
      dsimp only
      split
      · rw [to?]
        rfl
      · next hother =>
        rw [to?]
        · rfl
        · exact hother
  · next hother =>
    rw [from?]
    · rfl
    · exact hother

theorem flow?_eq_ok_iff {protocol : FlowProtocol} {source : FlowEnd} {ws : List String} {f : Flow} :
    flow? protocol source ws = .ok f
      ↔ ∃ destination, FlowEnd.Written true ws destination
        ∧ f = ⟨protocol, source.towards ws, destination⟩ := by
  constructor
  · intro h
    obtain ⟨⟨destination, trailing⟩, hend, h⟩ := bind_eq_ok.mp h
    dsimp only at h
    split at h
    · next hnone =>
      cases h
      rw [List.isEmpty_iff.mp hnone] at hend
      obtain ⟨front, rfl, hwritten⟩ := (exists_written_iff (by simp)).mpr hend
      rw [List.append_nil]
      exact ⟨destination, hwritten, rfl⟩
    · cases h
  · rintro ⟨destination, hwritten, rfl⟩
    have hend : end? true ws = .ok (destination, []) :=
      (exists_written_iff (by simp)).mp ⟨ws, (List.append_nil ws).symm, hwritten⟩
    exact bind_eq_ok.mpr ⟨_, hend, rfl⟩

theorem to?_eq_ok_iff {text : String} {protocol : FlowProtocol} {source : FlowEnd}
    {ws : List String} {f : Flow} :
    to? text protocol source ws = .ok f
      ↔ ∃ rest, ws = "to" :: rest ∧ flow? protocol source rest = .ok f := by
  constructor
  · intro h
    unfold to? at h
    split at h
    · next rest => exact ⟨rest, rfl, h⟩
    · cases h
  · rintro ⟨rest, rfl, h⟩
    exact h

theorem from?_eq_ok_iff {text : String} {ws : List String} {f : Flow} :
    from? text ws = .ok f ↔ Described ("permit" :: "out" :: ws) f := by
  constructor
  · intro h
    unfold from? at h
    split at h
    · next token ws =>
      obtain ⟨protocol, hprotocol, hends⟩ := bind_eq_ok.mp h
      obtain ⟨⟨source, rest⟩, hend, hto⟩ := bind_eq_ok.mp hends
      obtain ⟨rest, rfl, hflow⟩ := to?_eq_ok_iff.mp hto
      obtain ⟨front, rfl, hsource⟩ := (exists_written_iff (by simp)).mpr hend
      obtain ⟨destination, hdestination, rfl⟩ := flow?_eq_ok_iff.mp hflow
      exact .permit (protocol?_eq_ok_iff.mp hprotocol) hsource hdestination
    · cases h
  · intro h
    cases h with
    | @permit token protocol front rest source destination hprotocol hsource hdestination =>
      have hend : end? false (front ++ "to" :: rest) = .ok (source, "to" :: rest) :=
        (exists_written_iff (by simp)).mp ⟨front, rfl, hsource⟩
      refine bind_eq_ok.mpr ⟨protocol, protocol?_eq_ok_iff.mpr hprotocol, ?_⟩
      refine bind_eq_ok.mpr ⟨_, hend, ?_⟩
      exact to?_eq_ok_iff.mpr ⟨rest, rfl, flow?_eq_ok_iff.mpr ⟨destination, hdestination, rfl⟩⟩

/-- A text is read as a flow exactly if its words describe it. -/
theorem ofText_eq_ok_iff {text : String} {f : Flow} :
    ofText text = .ok f ↔ Described (words text) f := by
  rw [ofText_eq, bind_eq_ok]
  constructor
  · rintro ⟨ws, hbody, h⟩
    rw [body?_eq_ok_iff.mp hbody]
    exact from?_eq_ok_iff.mp h
  · intro h
    obtain ⟨ws, hws⟩ : ∃ ws, words text = "permit" :: "out" :: ws := by
      generalize words text = ws at h
      cases h
      exact ⟨_, rfl⟩
    rw [hws] at h ⊢
    exact ⟨ws, rfl, from?_eq_ok_iff.mpr h⟩

/-! ## §7. An error that does not come up. -/

/-- The reader does not stop at a network that cannot be made. -/
def MakesNetworks {α : Type} (x : Except FlowError α) : Prop :=
  ∀ token cause, x ≠ .error (.invalidNetwork token cause)

theorem MakesNetworks.bind {α β : Type} {x : Except FlowError α} {f : α → Except FlowError β}
    (hx : MakesNetworks x) (hf : ∀ a, MakesNetworks (f a)) : MakesNetworks (x >>= f) := by
  cases x with
  | error e =>
    intro token cause h
    cases h
    exact hx token cause rfl
  | ok a => exact hf a

theorem makesNetworks_ok {α : Type} (a : α) : MakesNetworks (.ok a) := nofun

theorem makesNetworks_protocol? (token : String) : MakesNetworks (protocol? token) := by
  unfold protocol?
  split <;> nofun

theorem makesNetworks_port? (cs : List Char) : MakesNetworks (port? cs) := by
  unfold port?
  split
  · nofun
  · split <;> nofun

theorem makesNetworks_ports? (token : String) : MakesNetworks (ports? token) := by
  have hlast (low high : Nat) : MakesNetworks (if high < low then
      Except.error (FlowError.reversedPorts token) else .ok (⟨low, high⟩ : PortRange)) := by
    split <;> nofun
  unfold ports?
  refine (makesNetworks_port? _).bind fun low => ?_
  dsimp only
  split
  · exact (makesNetworks_port? _).bind (hlast low)
  · exact (makesNetworks_ok low).bind (hlast low)

/-- Behind a length that fits, the cleared address is the first of a network. -/
theorem makesNetworks_network? (token : String) : MakesNetworks (network? token) := by
  have hlast (ip : Ip) (n : Nat) : MakesNetworks (if ip.width < n then
      Except.error (FlowError.lengthTooLong n ip)
      else
        match IpNetwork.make? (ip.truncate n) n with
        | .ok network => .ok network
        | .error e => .error (.invalidNetwork token e)) := by
    split
    · nofun
    · next hle =>
      obtain ⟨network, hmake, -⟩ := IpNetwork.make?_truncate (Nat.le_of_not_lt hle)
      rw [hmake]
      nofun
  unfold network?
  dsimp only
  split
  · next ip hip =>
    refine (makesNetworks_ok ip).bind fun ip => ?_
    split
    · exact (makesNetworks_ok _).bind (hlast ip)
    · split
      · exact (makesNetworks_ok _).bind (hlast ip)
      · nofun
  · nofun

theorem makesNetworks_address? (destination : Bool) (token : String) :
    MakesNetworks (address? destination token) := by
  unfold address?
  split
  · nofun
  · split
    · nofun
    · exact (makesNetworks_network? token).bind fun network => makesNetworks_ok _

theorem makesNetworks_end? (destination : Bool) (ws : List String) :
    MakesNetworks (end? destination ws) := by
  unfold end?
  split
  · nofun
  · exact (makesNetworks_address? _ _).bind fun e => makesNetworks_ok _
  · refine (makesNetworks_address? _ _).bind fun e => ?_
    split
    · nofun
    · exact (makesNetworks_ports? _).bind fun ports => makesNetworks_ok _

theorem makesNetworks_from? (text : String) (ws : List String) :
    MakesNetworks (from? text ws) := by
  unfold from?
  split
  · refine (makesNetworks_protocol? _).bind fun protocol => ?_
    refine (makesNetworks_end? _ _).bind fun found => ?_
    unfold to?
    dsimp only
    split
    · refine (makesNetworks_end? _ _).bind fun found => ?_
      dsimp only
      split <;> nofun
    · nofun
  · nofun

theorem makesNetworks_body? (text : String) (ws : List String) :
    MakesNetworks (body? text ws) := by
  unfold body?
  split
  · nofun
  · split <;> nofun
  · nofun

/-- **A text is read exactly if the words that its blanks part it into are a flow description**,
as the flow that they describe, and no text is refused for a network that cannot be made. -/
theorem ofText_iff_described (text : String) :
    (∀ f, ofText text = .ok f
      ↔ ∃ ws, Parted text.toList (ws.map String.toList) ∧ Described ws f)
      ∧ ∀ token cause, ofText text ≠ .error (.invalidNetwork token cause) := by
  constructor
  · intro f
    rw [ofText_eq_ok_iff]
    constructor
    · intro h
      exact ⟨words text, words_eq_iff.mp rfl, h⟩
    · rintro ⟨ws, hparted, h⟩
      rwa [words_eq_iff.mpr hparted]
  · rw [ofText_eq]
    exact (makesNetworks_body? _ _).bind (makesNetworks_from? text)

end Flow

end UserPlane
