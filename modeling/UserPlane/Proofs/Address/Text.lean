/-
  UserPlane.Proofs.Address.Text
  ─────────────────────────────
  **A WRITTEN ADDRESS READS BACK.**

  The writing of an address is a literal of it, and so the reader gives it back
  (`Ip.ofText?_chars`), whichever of the three ways an IPv6 address is written
  in: its eight groups, some groups with a run of zeros left out, or an IPv4
  address behind `::ffff:`.  So the writing tells addresses apart, and with it
  the key of an association tells peers apart (`associationKey_injective`).

      digitsValue_digits      a numeral spells its number
      Ipv4.literal_chars      the writing of an IPv4 address
      row_groupChars          groups in writing are a row
      IsZero.restore          what is left out can be put back
-/
import UserPlane.Association
import UserPlane.Proofs.Address.Grammar
import UserPlane.Proofs.Table

namespace UserPlane

/-! ## §1. Numerals. -/

namespace Numeral

variable {base : Nat}

theorem digitValue?_digitChar {d : Nat} (hbase : base ≤ 16) (hd : d < base) :
    digitValue? base (digitChar d) = some d := by
  -- the value of a digit does not depend on the base, only whether it is one
  have hvalue : ∀ d < 16, digitValue? 16 (digitChar d) = some d := by decide
  have hsixteen := hvalue d (by omega)
  unfold digitValue? at hsixteen ⊢
  obtain ⟨hd', -⟩ := Option.filter_eq_some_iff.mp hsixteen
  exact Option.filter_eq_some_iff.mpr ⟨hd', by simpa using hd⟩

/-- A property of numerals that holds of single digits, and is kept by one more
digit. -/
theorem digits_induction {P : Nat → List Char → Prop}
    (hdigit : ∀ d < base + 2, P d [digitChar d])
    (hmore : ∀ q d cs, 0 < q → d < base + 2 → P q cs → P (q * (base + 2) + d) (cs ++ [digitChar d]))
    (n : Nat) : P n (digits base n) := by
  induction n using Nat.strongRecOn with
  | ind n ih =>
    rw [digits]
    split
    · next hlt => exact hdigit n hlt
    · next hge =>
      have hpos : 0 < n / (base + 2) := Nat.div_pos (by omega) (by omega)
      have hless : n / (base + 2) < n := Nat.div_lt_self (by omega) (by omega)
      have hlast : n % (base + 2) < base + 2 := Nat.mod_lt _ (by omega)
      have hall := hmore _ _ _ hpos hlast (ih _ hless)
      rwa [Nat.div_add_mod'] at hall

/-- A numeral consists of digits. -/
theorem isDigit_digits (base : Nat) (hbase : base + 2 ≤ 16) (n : Nat) :
    ∀ c ∈ digits base n, (digitValue? (base + 2) c).isSome = true := by
  refine digits_induction (P := fun _ cs => ∀ c ∈ cs, (digitValue? (base + 2) c).isSome = true)
    ?_ ?_ n
  · intro d hd c hc
    rw [List.mem_singleton.mp hc, digitValue?_digitChar hbase hd]
    rfl
  · intro q d cs _ hd hcs c hc
    rcases List.mem_append.mp hc with hc | hc
    · exact hcs c hc
    · rw [List.mem_singleton.mp hc, digitValue?_digitChar hbase hd]
      rfl

/-- A numeral spells its number. -/
theorem digitsValue_digits (base : Nat) (hbase : base + 2 ≤ 16) (n : Nat) :
    digitsValue (base + 2) (digits base n) = n := by
  refine digits_induction (P := fun n cs => digitsValue (base + 2) cs = n) ?_ ?_ n
  · intro d hd
    show 0 * (base + 2) + (digitValue? (base + 2) (digitChar d)).getD 0 = d
    rw [digitValue?_digitChar hbase hd]
    simp
  · intro q d cs _ hd hcs
    unfold digitsValue at hcs ⊢
    rw [List.foldl_append, hcs, List.foldl_cons, List.foldl_nil, digitValue?_digitChar hbase hd]
    rfl

theorem digits_ne_nil (base n : Nat) : digits base n ≠ [] :=
  digits_induction (P := fun _ cs => cs ≠ []) (fun _ _ => by simp) (fun _ _ _ _ _ _ => by simp) n

/-- A number with at most `k` digits is below a power of the base. -/
theorem length_digits_le (base n : Nat) :
    ∀ k, 0 < k → n < (base + 2) ^ k → (digits base n).length ≤ k := by
  refine digits_induction (P := fun n cs => ∀ k, 0 < k → n < (base + 2) ^ k → cs.length ≤ k)
    ?_ ?_ n
  · intro d _ k hk _
    exact hk
  · intro q d cs hq hd hcs k hk hlt
    -- the quotient has one digit less
    obtain ⟨j, rfl⟩ : ∃ j, k = j + 1 := ⟨k - 1, by omega⟩
    have hpow : q < (base + 2) ^ j := by
      rw [pow_succ] at hlt
      by_contra hge
      have hle := Nat.mul_le_mul_right (base + 2) (Nat.le_of_not_lt hge)
      omega
    have hj : 0 < j := by
      rcases Nat.eq_zero_or_pos j with rfl | hj
      · simp at hpow
        omega
      · exact hj
    rw [List.length_append, List.length_singleton]
    have hlength := hcs j hj hpow
    omega

/-- No number but zero begins with the digit zero. -/
theorem head?_digits (base : Nat) (hbase : base + 2 ≤ 16) (n : Nat) :
    n ≠ 0 → (digits base n).head? ≠ some '0' := by
  refine (digits_induction (P := fun n cs => cs ≠ [] ∧ (n ≠ 0 → cs.head? ≠ some '0')) ?_ ?_ n).2
  · intro d hd
    refine ⟨by simp, ?_⟩
    intro hne hzero
    have hchar : digitChar d = '0' := by simpa using hzero
    have hvalue := digitValue?_digitChar hbase hd
    rw [hchar, show '0' = digitChar 0 from rfl, digitValue?_digitChar hbase (by omega)] at hvalue
    exact hne (Option.some.inj hvalue).symm
  · intro q d cs hq _ hcs
    refine ⟨by simp, ?_⟩
    rw [List.head?_append_of_ne_nil _ hcs.1]
    exact fun _ => hcs.2 (by omega)

end Numeral

/-! ## §2. IPv4. -/

namespace Ipv4

/-- An octet is written in decimal. -/
theorem octet_decimal {n : Nat} (hn : n < 256) : Octet (Numeral.decimal n) n where
  spells := Numeral.spells_iff.mpr ⟨Numeral.digits_ne_nil 8 n,
    Numeral.isDigit_digits 8 (by omega) n, Numeral.digitsValue_digits 8 (by omega) n⟩
  short := Numeral.length_digits_le 8 n 3 (by omega) (by omega)
  le := by omega
  noLeadingZero := by
    intro hhead
    have hzero : n = 0 := by
      by_contra hne
      exact Numeral.head?_digits 8 (by omega) n hne hhead
    rw [hzero, Numeral.decimal, Numeral.digits]
    rfl

/-- An address is its four octets. -/
theorem exists_octets (a : Ipv4) : ∃ b₃ b₂ b₁ b₀ : UInt8, a.octets = [b₃, b₂, b₁, b₀]
    ∧ a = ⟨BitVec.ofNat 32
      (((b₃.toNat * 256 + b₂.toNat) * 256 + b₁.toNat) * 256 + b₀.toNat)⟩ := by
  have hread := ofOctets_octets a
  obtain ⟨b₃, b₂, b₁, b₀, hocts⟩ : ∃ b₃ b₂ b₁ b₀, a.octets = [b₃, b₂, b₁, b₀] :=
    ⟨_, _, _, _, rfl⟩
  refine ⟨b₃, b₂, b₁, b₀, hocts, ?_⟩
  rw [hocts, ofOctets] at hread
  refine hread.symm.trans (congrArg (fun n => (⟨BitVec.ofNat 32 n⟩ : Ipv4)) ?_)
  simp only [Octets.toNat, Octets.bound, List.length_cons, List.length_nil]
  omega

/-- **The writing of an IPv4 address** is a literal of it. -/
theorem literal_chars (a : Ipv4) : Literal a.chars a := by
  obtain ⟨b₃, b₂, b₁, b₀, hocts, ha⟩ := a.exists_octets
  have hchars : a.chars = Numeral.decimal b₃.toNat ++ '.' :: (Numeral.decimal b₂.toNat
      ++ '.' :: (Numeral.decimal b₁.toNat ++ '.' :: Numeral.decimal b₀.toNat)) := by
    unfold chars
    rw [hocts]
    rfl
  have hlit := Literal.octets (octet_decimal b₃.toNat_lt) (octet_decimal b₂.toNat_lt)
    (octet_decimal b₁.toNat_lt) (octet_decimal b₀.toNat_lt)
  rwa [← ha, ← hchars] at hlit

end Ipv4

/-! ## §3. Groups. -/

namespace Ipv6

/-- A group is written in hexadecimal. -/
theorem group_hex {g : Nat} (hg : g < 65536) : Group (Numeral.hex g) g where
  spells := Numeral.spells_iff.mpr ⟨Numeral.digits_ne_nil 14 g,
    Numeral.isDigit_digits 14 (by omega) g, Numeral.digitsValue_digits 14 (by omega) g⟩
  short := Numeral.length_digits_le 14 g 4 (by omega) (by omega)

/-- Groups in writing, each with a colon before it. -/
def tailChars (gs : List Nat) : List Char := gs.flatMap fun g => ':' :: Numeral.hex g

theorem groupChars_cons (g : Nat) (gs : List Nat) :
    groupChars (g :: gs) = Numeral.hex g ++ tailChars gs := by
  unfold groupChars tailChars
  induction gs generalizing g with
  | nil => simp [joinWith]
  | cons g' gs ih =>
    have hjoin : joinWith ':' ((g :: g' :: gs).map Numeral.hex)
        = Numeral.hex g ++ ':' :: joinWith ':' ((g' :: gs).map Numeral.hex) := rfl
    rw [hjoin, ih]
    rfl

theorem row_tailChars (gs : List Nat) (hgs : ∀ g ∈ gs, g < 65536) :
    Row false false (tailChars gs) gs := by
  induction gs with
  | nil => exact .none
  | cons g gs ih =>
    exact .group (group_hex (hgs g List.mem_cons_self))
      (ih fun g' hg' => hgs g' (List.mem_cons_of_mem g hg'))

/-- **Groups in writing** are a row. -/
theorem row_groupChars (gs : List Nat) (hgs : ∀ g ∈ gs, g < 65536) :
    Row true false (groupChars gs) gs := by
  cases gs with
  | nil => exact .none
  | cons g gs =>
    rw [groupChars_cons]
    exact .group (group_hex (hgs g List.mem_cons_self))
      (row_tailChars gs fun g' hg' => hgs g' (List.mem_cons_of_mem g hg'))

end Ipv6

/-! ## §4. Zeros that are left out. -/

/-- A stretch of a list has only zeros in it. -/
def Stretch.IsZero (s : Stretch) (gs : List Nat) : Prop :=
  ∀ i, s.start ≤ i → i < s.start + s.length → gs[i]? = some 0

/-- What is found in a list is zero, if what was found before it is: the stretch
that is open reaches up to the position that is looked at. -/
theorem isZero_longestZerosFrom {all : List Nat} (before gs : List Nat) (hall : all = before ++ gs)
    {current best : Stretch} (hcurrent : current.IsZero all)
    (hends : current.length ≠ 0 → current.start + current.length = before.length)
    (hbest : best.IsZero all) :
    (longestZerosFrom before.length current best gs).IsZero all := by
  induction gs generalizing before current best with
  | nil => exact hbest
  | cons g gs ih =>
    have hall' : all = (before ++ [g]) ++ gs := by rw [hall, List.append_assoc]; rfl
    have hlength : (before ++ [g]).length = before.length + 1 := List.length_append
    have hget : all[before.length]? = some g := by
      rw [hall, List.getElem?_append_right (Nat.le_refl _), Nat.sub_self]
      rfl
    unfold longestZerosFrom
    rw [← hlength]
    by_cases hzero : g = 0
    · rw [if_pos hzero]
      -- the open stretch goes on, or begins here
      obtain ⟨start, hstart⟩ : ∃ start,
          start = if current.length = 0 then before.length else current.start := ⟨_, rfl⟩
      have hstart' : start + current.length = before.length := by
        rw [hstart]
        split
        · omega
        · next hne => exact hends hne
      have hopen : (⟨start, current.length + 1⟩ : Stretch).IsZero all := by
        intro i hle hlt
        dsimp only at hle hlt
        by_cases hi : i = before.length
        · rw [hi, hget, hzero]
        · refine hcurrent i ?_ ?_
          · split at hstart <;> omega
          · split at hstart <;> omega
      rw [← hstart]
      refine ih (before ++ [g]) hall' hopen (fun _ => ?_) ?_
      · dsimp only
        omega
      · split
        · exact hopen
        · exact hbest
    · rw [if_neg hzero]
      exact ih (before ++ [g]) hall' (fun i _ hlt => absurd hlt (by simp))
        (fun hne => absurd rfl hne) hbest

theorem isZero_longestZeros (gs : List Nat) : (longestZeros gs).IsZero gs :=
  isZero_longestZerosFrom [] gs rfl (fun i _ hlt => absurd hlt (by simp))
    (fun hne => absurd rfl hne) (fun i _ hlt => absurd hlt (by simp))

/-- A stretch of zeros that is not empty ends within the list. -/
theorem Stretch.IsZero.end_le {s : Stretch} {gs : List Nat} (h : s.IsZero gs) (hs : 0 < s.length) :
    s.start + s.length ≤ gs.length := by
  have hlast := h (s.start + s.length - 1) (by omega) (by omega)
  have hlt : s.start + s.length - 1 < gs.length := by
    by_contra hge
    rw [List.getElem?_eq_none (Nat.le_of_not_lt hge)] at hlast
    cases hlast
  omega

/-- **Zeros that are left out** can be put back. -/
theorem Stretch.IsZero.restore {s : Stretch} {gs : List Nat} (h : s.IsZero gs) :
    gs.take s.start ++ List.replicate s.length 0 ++ gs.drop (s.start + s.length) = gs := by
  have hmiddle : (gs.drop s.start).take s.length = List.replicate s.length 0 := by
    rcases Nat.eq_zero_or_pos s.length with hzero | hpos
    · rw [hzero, List.take_zero]
      rfl
    · have hend := h.end_le hpos
      refine List.eq_replicate_iff.mpr ⟨by simp; omega, ?_⟩
      intro g hg
      obtain ⟨i, hi⟩ := List.mem_iff_getElem?.mp hg
      rw [List.getElem?_take] at hi
      split at hi
      · next hlt =>
        rw [List.getElem?_drop, h _ (by omega) (by omega)] at hi
        exact (Option.some.inj hi).symm
      · cases hi
  rw [← hmiddle, List.append_assoc, ← List.drop_drop, List.take_append_drop, List.take_append_drop]

/-! ## §5. IPv6. -/

namespace Ipv6

/-- The first groups are what stands in front of the others. -/
theorem foldl_group (a : Ipv6) {k : Nat} (hk : k ≤ 8) :
    ((List.range k).map a.group).foldl (fun acc g => acc * 65536 + g) 0
      = a.bits.toNat >>> (16 * (8 - k)) := by
  induction k with
  | zero =>
    rw [Nat.shiftRight_eq_div_pow, Nat.div_eq_of_lt a.bits.isLt]
    rfl
  | succ k ih =>
    have hnext : 16 * (8 - k) = 16 * (8 - (k + 1)) + 16 := by omega
    have hgroup : a.group k = a.bits.toNat >>> (16 * (8 - (k + 1))) % 65536 := by
      rw [group, show 7 - k = 8 - (k + 1) by omega]
    rw [List.range_succ, List.map_append, List.foldl_append, ih (by omega), List.map_singleton,
      List.foldl_cons, List.foldl_nil, hnext, hgroup, Nat.shiftRight_add,
      Nat.shiftRight_eq_div_pow _ 16]
    omega

/-- An address is its groups. -/
theorem ofGroups_groups (a : Ipv6) : ofGroups a.groups = a := by
  rw [ofGroups, groups, a.foldl_group (Nat.le_refl 8), Nat.sub_self, Nat.mul_zero,
    Nat.shiftRight_zero, BitVec.ofNat_toNat, BitVec.setWidth_eq]

theorem length_groups (a : Ipv6) : a.groups.length = 8 := rfl

theorem groups_lt (a : Ipv6) : ∀ g ∈ a.groups, g < 65536 := by
  intro g hg
  obtain ⟨i, -, rfl⟩ := List.mem_map.mp hg
  exact Nat.mod_lt _ (by omega)

/-- An IPv4 address behind `::ffff:` is a literal. -/
theorem literal_mapped (v4 : Ipv4) :
    Literal ([':', ':', 'f', 'f', 'f', 'f', ':'] ++ v4.chars)
      (ofGroups [0, 0, 0, 0, 0, 65535, v4.bits.toNat / 65536, v4.bits.toNat % 65536]) := by
  have hones : Group ['f', 'f', 'f', 'f'] 65535 :=
    ⟨Numeral.spells_iff.mpr ⟨nofun, by simp [Numeral.digitValue?], rfl⟩, by decide⟩
  -- the group of ones, and behind it the address, which counts as two
  have hback : Row true true _ [65535, v4.bits.toNat / 65536, v4.bits.toNat % 65536] :=
    .group hones (.v4 v4.literal_chars)
  exact .compressed .none hback (by simp)

/-- **The writing of an IPv6 address** is a literal of it. -/
theorem literal_chars (a : Ipv6) : Literal a.chars a := by
  unfold chars mapped?
  split
  · next v4 hmapped =>
    split at hmapped
    · next hones =>
      cases hmapped
      -- the last groups are the IPv4 address, the first ones are fixed
      have hgroups : ofGroups [0, 0, 0, 0, 0, 65535,
          (BitVec.ofNat 32 a.bits.toNat).toNat / 65536,
          (BitVec.ofNat 32 a.bits.toNat).toNat % 65536] = a := by
        obtain ⟨bits⟩ := a
        have hlt : bits.toNat < 2 ^ 128 := bits.isLt
        dsimp only at hones ⊢
        rw [Nat.shiftRight_eq_div_pow] at hones
        unfold ofGroups
        congr 1
        apply BitVec.eq_of_toNat_eq
        simp only [List.foldl_cons, List.foldl_nil, BitVec.toNat_ofNat]
        omega
      have hlit := literal_mapped ⟨BitVec.ofNat 32 a.bits.toNat⟩
      rwa [hgroups] at hlit
    · cases hmapped
  · dsimp only
    split
    · next hlong =>
      have hzeros := isZero_longestZeros a.groups
      have hend := hzeros.end_le (by omega)
      have hrestore := hzeros.restore
      generalize longestZeros a.groups = z at *
      rw [length_groups] at hend
      have hfront : (a.groups.take z.start).length = z.start := by
        rw [List.length_take, length_groups]
        omega
      have hback : (a.groups.drop (z.start + z.length)).length = 8 - (z.start + z.length) := by
        rw [List.length_drop, length_groups]
      have hlit := Literal.compressed
        (row_groupChars _ fun g hg => a.groups_lt g (List.mem_of_mem_take hg))
        (row_groupChars _ fun g hg => a.groups_lt g (List.mem_of_mem_drop hg))
        (by omega : (a.groups.take z.start).length
          + (a.groups.drop (z.start + z.length)).length < 8)
      rw [hfront, hback, show 8 - z.start - (8 - (z.start + z.length)) = z.length by omega,
        hrestore, ofGroups_groups] at hlit
      rwa [List.append_assoc]
    · have hlit := Literal.full (row_groupChars a.groups a.groups_lt) a.length_groups
      rwa [ofGroups_groups] at hlit

end Ipv6

/-! ## §6. Both kinds. -/

namespace Ip

theorem literal_chars (a : Ip) : Literal a.chars a := by
  cases a with
  | v4 a => exact .v4 a.literal_chars
  | v6 a => exact .v6 a.literal_chars

/-- **A written address reads back.** -/
theorem ofText?_chars (a : Ip) : ofText? a.chars = some a :=
  ofText?_eq_some_iff.mpr a.literal_chars

/-- The writing tells addresses apart. -/
theorem text_injective : Function.Injective text := by
  intro a b h
  have hchars : a.chars = b.chars := by
    have htoList := congrArg String.toList h
    rwa [text, text, String.toList_ofList, String.toList_ofList] at htoList
  have hread := a.ofText?_chars
  rw [hchars, b.ofText?_chars] at hread
  exact (Option.some.inj hread).symm

end Ip

/-- The key of an association tells peers apart by their address. -/
theorem associationKey_injective {a b : SocketAddress} (h : associationKey a = associationKey b) :
    a.ip = b.ip :=
  Ip.text_injective h

end UserPlane
