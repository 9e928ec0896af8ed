/-
  UserPlane.Proofs.Element.NodeNames
  ──────────────────────────────────
  **A NODE'S NAME IN WRITING, IN OCTETS, AND IN WRITING AGAIN.**

  A text names a node by the address that it writes or, if it writes none, by a
  domain name: labels with points between them.  Points at its end are not part
  of the name; all else comes back from the octets.

      splitLabels_flatMap      the octets of labels are cut into these labels
      NodeId.text_ofFqdn       a domain name in writing is the text without its points
      Labelled                 the rounds in which octets are cut into labels
      NodeId.names_kept        names come back, and every id can be shown

  What is cut into labels need not have been written as labels: a label that
  announces more octets than there are is what is left of them.
-/
import Mathlib.Data.List.DropRight
import UserPlane.Proofs.Address.Text
import UserPlane.Proofs.Element.Rereading

namespace UserPlane

/-! ## §1. Labels. -/

/-- A label at the front of octets is cut off whole. -/
theorem splitLabels_labelOctets_append {label : String} (h : (Utf8.encode label).length ≤ 63)
    (rest : Octets) :
    splitLabels (labelOctets label ++ rest) = Utf8.encode label :: splitLabels rest := by
  have hwhole : (Utf8.encode label).take 63 = Utf8.encode label := List.take_of_length_le h
  have hcount : (UInt8.ofNat (Utf8.encode label).length).toNat = (Utf8.encode label).length := by
    rw [UInt8.toNat_ofNat']
    omega
  unfold labelOctets
  rw [hwhole]
  show splitLabels (UInt8.ofNat (Utf8.encode label).length :: (Utf8.encode label ++ rest)) = _
  rw [splitLabels, hcount, List.take_left, List.drop_left]

/-- **The octets of labels** are cut into these labels. -/
theorem splitLabels_flatMap {labels : List String}
    (h : ∀ label ∈ labels, (Utf8.encode label).length ≤ 63) :
    splitLabels (labels.flatMap labelOctets) = labels.map Utf8.encode := by
  induction labels with
  | nil => rw [List.flatMap_nil, splitLabels, List.map_nil]
  | cons label labels ih =>
    obtain ⟨hlabel, hlabels⟩ := List.forall_mem_cons.mp h
    rw [List.flatMap_cons, splitLabels_labelOctets_append hlabel, ih hlabels, List.map_cons]

/-- **The rounds in which octets are cut into labels**: each takes an octet of length
and as many octets as it announces, or as there are. -/
inductive Labelled : Octets → List Octets → Nat → Prop where
  | done : Labelled [] [] 0
  | round {n : UInt8} {rest : Octets} {labels : List Octets} {rounds : Nat}
    (more : Labelled (rest.drop n.toNat) labels rounds) :
    Labelled (n :: rest) (rest.take n.toNat :: labels) (rounds + 1)

/-- **Any octets are cut into labels**, in no more rounds than there are octets. -/
theorem labelled_splitLabels (bs : Octets) :
    ∃ rounds ≤ bs.length, Labelled bs (splitLabels bs) rounds := by
  fun_induction splitLabels bs with
  | case1 => exact ⟨0, Nat.le_refl 0, .done⟩
  | case2 n rest ih =>
    obtain ⟨rounds, hrounds, hmore⟩ := ih
    rw [List.length_drop] at hrounds
    refine ⟨rounds + 1, ?_, .round hmore⟩
    rw [List.length_cons]
    omega

/-! ## §2. Domain names in writing. -/

/-- A text is cut at the separator, as lists are. -/
theorem splitAll_eq_splitOn (sep : Char) (cs : List Char) : splitAll sep cs = cs.splitOn sep := by
  induction cs with
  | nil => rfl
  | cons c cs ih =>
    rw [splitAll, List.splitOn_cons_eq_if_modifyHead, ih]
    by_cases hc : c = sep
    · rw [if_pos hc, if_pos (by simp [hc])]
    · rw [if_neg hc, if_neg (by simp [hc])]
      -- there always is a first part, which the character is put in front of
      have hsome : cs.splitOn sep ≠ [] := List.splitOn_ne_nil sep cs
      cases hparts : cs.splitOn sep with
      | nil => exact absurd hparts hsome
      | cons part parts => rfl

/-- The labels of a domain name are the parts between its points, but for points at the end. -/
theorem labelsOf_eq (s : String) :
    labelsOf s = ((s.toList.rdropWhile (· = '.')).splitOn '.').map String.ofList := by
  unfold labelsOf
  rw [splitAll_eq_splitOn]
  rfl

namespace NodeId

variable {s : String}

/-- The labels of the text, without points at its end, are short enough to be written whole. -/
def ShortLabels (s : String) : Prop :=
  ∀ label ∈ (s.toList.rdropWhile (· = '.')).splitOn '.',
    (Utf8.encode (String.ofList label)).length ≤ 63

instance : Decidable (ShortLabels s) :=
  inferInstanceAs (Decidable (∀ label ∈ (s.toList.rdropWhile (· = '.')).splitOn '.', _))

/-- **A domain name in writing** is the text without the points at its end. -/
theorem text_ofFqdn (h : ShortLabels s) :
    (ofFqdn s).text = String.ofList (s.toList.rdropWhile (· = '.')) := by
  have hlabels : ∀ label ∈ labelsOf s, (Utf8.encode label).length ≤ 63 := by
    rw [labelsOf_eq]
    intro label hlabel
    obtain ⟨cs, hcs, rfl⟩ := List.mem_map.mp hlabel
    exact h cs hcs
  have htext : (ofFqdn s).text
      = String.intercalate "." ((splitLabels ((labelsOf s).flatMap labelOctets)).map Utf8.lossy) :=
    rfl
  apply String.toList_inj.mp
  rw [htext, splitLabels_flatMap hlabels, labelsOf_eq]
  -- what is written of a label is shown as the label again
  have hshown : (fun cs => String.toList (Utf8.lossy (Utf8.encode (String.ofList cs)))) = id := by
    funext cs
    rw [Utf8.lossy_encode, String.toList_ofList]
    rfl
  rw [String.toList_intercalate, List.map_map, List.map_map, List.map_map]
  show ['.'].intercalate (List.map (fun cs => String.toList (Utf8.lossy (Utf8.encode
    (String.ofList cs)))) _) = _
  rw [hshown, List.map_id]
  exact (List.intercalate_splitOn '.').trans String.toList_ofList.symm

/-- A text that writes no address is a domain name. -/
theorem ofText_of_not_literal (h : ∀ ip, ¬ Ip.Literal s.toList ip) : ofText s = ofFqdn s := by
  have hnone : Ip.ofText? s.toList = none := by
    rw [Option.eq_none_iff_forall_ne_some]
    exact fun ip hip => h ip (Ip.ofText?_eq_some_iff.mp hip)
  unfold ofText
  rw [hnone]

/-- The text of an address names a node by it. -/
theorem ofText_text (ip : Ip) : ofText ip.text = ofIp ip := by
  unfold ofText
  rw [Ip.text, String.toList_ofList, Ip.ofText?_chars]

/-! ## §3. Ids on the wire. -/

/-- A domain name has at least one label, which may be empty. -/
theorem wellFormed_ofFqdn (s : String) : (ofFqdn s).WellFormed := by
  have hsome : labelsOf s ≠ [] := by
    rw [labelsOf_eq]
    simp
  obtain ⟨label, labels, hlabels⟩ := List.exists_cons_of_ne_nil hsome
  show (!((labelsOf s).flatMap labelOctets).isEmpty) = true
  rw [hlabels]
  rfl

/-- An id is one element, if its length can be written. -/
theorem split_encode {n : NodeId} (h : n.octets.length ≤ 65534) :
    RawElement.split (Element.encode n) = ([⟨60, Element.payload n⟩], none) := by
  have hshort : ∀ e ∈ [rawElement n], e.value.length < 65536 := by
    intro e he
    rw [List.mem_singleton.mp he]
    show n.octets.length + 1 < 65536
    omega
  have halone : Element.encode n = RawElement.encodeAll [rawElement n] := by
    simp [RawElement.encodeAll, Element.encode]
  rw [halone, RawElement.split_encodeAll hshort]
  rfl

/-- What is read as the id of an IPv4 address is one, and is shown as it. -/
theorem text_of_ipv4 {n : NodeId} (hwf : n.WellFormed) (hkind : n.kind = .ipv4) :
    ∃ a : Ipv4, a.octets = n.octets ∧ n.text = a.text := by
  obtain ⟨kind, octets⟩ := n
  obtain rfl : kind = .ipv4 := hkind
  have hlength : octets.length = 4 := by simpa [WellFormed, lengthOk] using hwf
  refine ⟨.ofOctets octets, Ipv4.octets_ofOctets hlength, ?_⟩
  simp [text, toIp, hlength, Ip.text, Ip.chars, Ipv4.text]

/-- What is read as the id of an IPv6 address is one, and is shown as it. -/
theorem text_of_ipv6 {n : NodeId} (hwf : n.WellFormed) (hkind : n.kind = .ipv6) :
    ∃ a : Ipv6, a.octets = n.octets ∧ n.text = a.text := by
  obtain ⟨kind, octets⟩ := n
  obtain rfl : kind = .ipv6 := hkind
  have hlength : octets.length = 16 := by simpa [WellFormed, lengthOk] using hwf
  refine ⟨.ofOctets octets, Ipv6.octets_ofOctets hlength, ?_⟩
  simp [text, toIp, hlength, Ip.text, Ip.chars, Ipv6.text]

/-- **Every id is shown**: the labels of a domain name are found in no more rounds than
it has octets, and an address is shown as it is written. -/
structure Shown (n : NodeId) : Prop where
  fqdn : ∃ labels rounds, Labelled n.octets labels rounds ∧ rounds ≤ n.octets.length
    ∧ (n.kind = .fqdn → n.text = String.intercalate "." (labels.map Utf8.lossy))
  ipv4 : n.kind = .ipv4 → ∃ a : Ipv4, a.octets = n.octets ∧ n.text = a.text
  ipv6 : n.kind = .ipv6 → ∃ a : Ipv6, a.octets = n.octets ∧ n.text = a.text

theorem shown_of_wellFormed {n : NodeId} (hwf : n.WellFormed) : Shown n where
  fqdn := by
    obtain ⟨rounds, hrounds, hlabelled⟩ := labelled_splitLabels n.octets
    refine ⟨splitLabels n.octets, rounds, hlabelled, hrounds, fun hkind => ?_⟩
    simp [text, toIp, hkind]
  ipv4 := text_of_ipv4 hwf
  ipv6 := text_of_ipv6 hwf

/-! ## §4. Names. -/

/-- **Names are kept.**  The text of an address names a node by it, and is shown
again.  Any other text names it by a domain name: if its labels are short enough to
be written whole and their octets few enough to be counted, the id is written as one
element, read from its value, and shown as the text without the points at its end.
Every id that is read, from whatever octets, is shown, an address as it is written. -/
theorem names_kept :
    (∀ ip : Ip, ofText ip.text = ofIp ip ∧ (ofText ip.text).text = ip.text)
    ∧ (∀ s : String, (∀ ip, ¬ Ip.Literal s.toList ip) → ShortLabels s →
      (ofText s).octets.length ≤ 65534 →
      ∃ value n, RawElement.split (Element.encode (ofText s)) = ([⟨60, value⟩], none)
        ∧ read value = .ok n ∧ n.text = String.ofList (s.toList.rdropWhile (· = '.')))
    ∧ ∀ (bs : Octets) (n : NodeId), read bs = .ok n → Shown n := by
  refine ⟨fun ip => ?_, fun s hnot hlabels hlength => ?_, fun bs n hread => ?_⟩
  · rw [ofText_text]
    exact ⟨rfl, text_ofIp ip⟩
  · have hfqdn : ofText s = ofFqdn s := ofText_of_not_literal hnot
    have hwf : (ofText s).WellFormed := hfqdn ▸ wellFormed_ofFqdn s
    refine ⟨_, ofText s, split_encode hlength, read_payload hwf, ?_⟩
    rw [hfqdn]
    exact text_ofFqdn hlabels
  · exact shown_of_wellFormed (of_decode hread).1

/-- A domain name with two points at its end. -/
def dotted : String := "upf.example.."

/-- The name comes back without the points; a label that announces three octets, where
there is one, is shown as well. -/
theorem names_kept_dotted :
    (∀ ip, ¬ Ip.Literal dotted.toList ip) ∧ ShortLabels dotted
    ∧ (ofText dotted).octets.length ≤ 65534
    ∧ (∃ value n, RawElement.split (Element.encode (ofText dotted)) = ([⟨60, value⟩], none)
      ∧ read value = .ok n ∧ n.text = "upf.example")
    ∧ read [2, 3, 97] = .ok ⟨.fqdn, [3, 97]⟩ ∧ Shown ⟨.fqdn, [3, 97]⟩ := by
  have hnot : ∀ ip, ¬ Ip.Literal dotted.toList ip := by
    intro ip hip
    have hread := Ip.ofText?_eq_some_iff.mpr hip
    rw [show Ip.ofText? dotted.toList = none by decide +kernel] at hread
    cases hread
  have hlabels : ShortLabels dotted := by decide +kernel
  have hlength : (ofText dotted).octets.length ≤ 65534 := by decide +kernel
  have hread : read [2, 3, 97] = .ok ⟨.fqdn, [3, 97]⟩ := rfl
  have hname : String.ofList (dotted.toList.rdropWhile (· = '.')) = "upf.example" := by
    decide +kernel
  obtain ⟨value, n, hsplit, hvalue, htext⟩ := names_kept.2.1 dotted hnot hlabels hlength
  exact ⟨hnot, hlabels, hlength, ⟨value, n, hsplit, hvalue, htext.trans hname⟩, hread,
    names_kept.2.2 _ _ hread⟩

end NodeId

end UserPlane
