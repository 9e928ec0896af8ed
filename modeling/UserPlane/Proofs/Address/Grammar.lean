/-
  UserPlane.Proofs.Address.Grammar
  ────────────────────────────────
  **WHICH TEXTS WRITE NUMBERS AND ADDRESSES.**

  The texts are said by rules of their own, and the readers accept just these:

      Numeral.Spells     digits that spell a number
      Numeral.Decimal    … after an optional plus sign
      Ipv4.Literal       four octets with points between them
      Ipv6.Literal       eight groups, or fewer with `::` for the zeros, of which
                         the last two may be written as an IPv4 address
      Ip.ofText?_eq_some_iff
                         a text is read as an address exactly if it writes it

  A reader takes the longest writing at the front of a text.  What follows is
  therefore part of what is said of it: no further digit behind a number
  (`NoDigit`), nothing or a double colon behind a run of groups (`Ended`).
-/
import Mathlib.Data.List.Induction
import Mathlib.Data.List.TakeWhile
import UserPlane.Address.Reading

namespace UserPlane

/-! ## §1. Digits. -/

namespace Numeral

/-- The digits spell the number. -/
inductive Spells (base : Nat) : List Char → Nat → Prop where
  | digit {c : Char} {d : Nat} (h : digitValue? base c = some d) : Spells base [c] d
  | more {cs : List Char} {n : Nat} {c : Char} {d : Nat} (front : Spells base cs n)
    (h : digitValue? base c = some d) : Spells base (cs ++ [c]) (n * base + d)

/-- A decimal number, after an optional plus sign. -/
inductive Decimal : List Char → Nat → Prop where
  | plain {cs : List Char} {n : Nat} (h : Spells 10 cs n) : Decimal cs n
  | signed {cs : List Char} {n : Nat} (h : Spells 10 cs n) : Decimal ('+' :: cs) n

end Numeral

/-- No digit is at the front of a text. -/
def NoDigit (base : Nat) (cs : List Char) : Prop :=
  ∀ c ∈ cs.head?, (Numeral.digitValue? base c).isSome = false

theorem noDigit_nil (base : Nat) : NoDigit base [] := fun c hc => by cases hc

theorem noDigit_cons {base : Nat} {c : Char} (cs : List Char)
    (h : (Numeral.digitValue? base c).isSome = false) : NoDigit base (c :: cs) := by
  intro d hd
  cases hd
  exact h

/-- The digits at the front of a text are those up to where there is none. -/
theorem spanDigits_append {base : Nat} {ds rest : List Char}
    (hds : ∀ c ∈ ds, (Numeral.digitValue? base c).isSome = true) (hrest : NoDigit base rest) :
    spanDigits base (ds ++ rest) = (ds, rest) := by
  have htake : rest.takeWhile (fun c => (Numeral.digitValue? base c).isSome) = []
      ∧ rest.dropWhile (fun c => (Numeral.digitValue? base c).isSome) = rest := by
    cases rest with
    | nil => exact ⟨rfl, rfl⟩
    | cons c cs =>
      have hc := hrest c rfl
      exact ⟨List.takeWhile_cons_of_neg (by simp [hc]), List.dropWhile_cons_of_neg (by simp [hc])⟩
  unfold spanDigits
  rw [List.takeWhile_append_of_pos hds, List.dropWhile_append_of_pos hds, htake.1, htake.2,
    List.append_nil]

/-- What is taken off the front of a text is digits, and no digit follows. -/
theorem eq_of_spanDigits {base : Nat} {cs ds rest : List Char}
    (h : spanDigits base cs = (ds, rest)) :
    cs = ds ++ rest ∧ (∀ c ∈ ds, (Numeral.digitValue? base c).isSome = true)
      ∧ NoDigit base rest := by
  obtain ⟨hds, hrest⟩ := Prod.mk.inj h
  refine ⟨?_, fun c hc => ?_, fun c hc => ?_⟩
  · rw [← hds, ← hrest, List.takeWhile_append_dropWhile]
  · rw [← hds] at hc
    exact List.mem_takeWhile_imp (p := fun c => (Numeral.digitValue? base c).isSome) hc
  · rw [← hrest] at hc
    have hfirst := List.head?_dropWhile_not (fun c => (Numeral.digitValue? base c).isSome) cs
    rw [Option.mem_def.mp hc] at hfirst
    simpa using hfirst

namespace Numeral

variable {base : Nat} {cs : List Char} {n : Nat}

/-- Digits, at least one, spell the number that is their value. -/
theorem spells_iff : Spells base cs n
    ↔ cs ≠ [] ∧ (∀ c ∈ cs, (digitValue? base c).isSome = true) ∧ digitsValue base cs = n := by
  have hlast (cs : List Char) (c : Char) :
      digitsValue base (cs ++ [c]) = digitsValue base cs * base + (digitValue? base c).getD 0 := by
    simp [digitsValue]
  constructor
  · intro h
    induction h with
    | digit h => simp [digitsValue, h]
    | more front h ih =>
      obtain ⟨-, hdigits, rfl⟩ := ih
      refine ⟨by simp, ?_, by rw [hlast, h]; rfl⟩
      intro c hc
      rcases List.mem_append.mp hc with hc | hc
      · exact hdigits c hc
      · rw [List.mem_singleton.mp hc, h]
        rfl
  · rintro ⟨hne, hdigits, rfl⟩
    induction cs using List.reverseRecOn with
    | nil => exact absurd rfl hne
    | append_singleton cs c ih =>
      obtain ⟨d, hd⟩ := Option.isSome_iff_exists.mp (hdigits c (by simp))
      have hvalue := hlast cs c
      rw [hd, Option.getD_some] at hvalue
      rw [hvalue]
      cases cs with
      | nil => simpa [digitsValue] using Spells.digit hd
      | cons b bs =>
        exact .more (ih (by simp) fun x hx => hdigits x (List.mem_append.mpr (.inl hx))) hd

theorem Spells.ne_nil (h : Spells base cs n) : cs ≠ [] := (spells_iff.mp h).1

theorem Spells.isDigit (h : Spells base cs n) : ∀ c ∈ cs, (digitValue? base c).isSome = true :=
  (spells_iff.mp h).2.1

/-- What is neither a digit nor the plus sign is in no decimal number. -/
theorem Decimal.not_mem {c : Char} (h : Decimal cs n) (hplus : c ≠ '+')
    (hc : digitValue? 10 c = none) : c ∉ cs := by
  intro hmem
  have hspells {ds : List Char} (h : Spells 10 ds n) : c ∉ ds := by
    intro hmem
    have hdigit := h.isDigit c hmem
    rw [hc] at hdigit
    cases hdigit
  cases h with
  | plain h => exact hspells h hmem
  | signed h => exact (List.mem_cons.mp hmem).elim hplus (hspells h)

/-- A number does not get smaller by further digits. -/
theorem le_foldl_digits (hbase : 0 < base) (cs : List Char) (acc : Nat) :
    acc ≤ cs.foldl (fun acc c => acc * base + (digitValue? base c).getD 0) acc := by
  induction cs generalizing acc with
  | nil => exact Nat.le_refl _
  | cons c cs ih =>
    have hstep : acc ≤ acc * base + (digitValue? base c).getD 0 :=
      (Nat.le_mul_of_pos_right acc hbase).trans (Nat.le_add_right _ _)
    exact hstep.trans (ih _)

/-- Further digits are taken into a number as long as it stays within the limit. -/
theorem readDigits_eq_ok_iff (hbase : 0 < base) {limit acc : Nat} (hacc : acc ≤ limit) :
    readDigits base limit acc cs = .ok n ↔ (∀ c ∈ cs, (digitValue? base c).isSome = true)
      ∧ cs.foldl (fun acc c => acc * base + (digitValue? base c).getD 0) acc = n ∧ n ≤ limit := by
  induction cs generalizing acc with
  | nil =>
    show Except.ok acc = .ok n ↔ _
    simp only [Except.ok.injEq, List.not_mem_nil, false_implies, implies_true, true_and,
      List.foldl_nil]
    omega
  | cons c cs ih =>
    rw [readDigits, List.foldl_cons]
    cases hd : digitValue? base c with
    | none => simp [hd]
    | some d =>
      dsimp only
      by_cases hover : limit < acc * base + d
      · -- the number only grows from here
        have hgrows := le_foldl_digits hbase cs (acc * base + d)
        rw [if_pos hover]
        simp only [reduceCtorEq, false_iff, Option.getD_some]
        rintro ⟨-, rfl, hle⟩
        omega
      · rw [if_neg hover, ih (by omega)]
        simp [hd]

/-- **A decimal number within the limit** is what is read. -/
theorem readDecimal_eq_ok_iff {limit : Nat} :
    readDecimal limit cs = .ok n ↔ Decimal cs n ∧ n ≤ limit := by
  have hspells (cs : List Char) (hne : cs ≠ []) :
      readDigits 10 limit 0 cs = .ok n ↔ Spells 10 cs n ∧ n ≤ limit := by
    rw [readDigits_eq_ok_iff (by decide) (Nat.zero_le _), spells_iff]
    exact ⟨fun ⟨hdigits, hvalue, hle⟩ => ⟨⟨hne, hdigits, hvalue⟩, hle⟩,
      fun ⟨⟨_, hdigits, hvalue⟩, hle⟩ => ⟨hdigits, hvalue, hle⟩⟩
  have hplus (cs : List Char) : ¬ Spells 10 ('+' :: cs) n := by
    intro h
    exact absurd (h.isDigit '+' List.mem_cons_self) (by decide)
  have hdecimal : Decimal cs n ↔ Spells 10 cs n ∨ ∃ ds, cs = '+' :: ds ∧ Spells 10 ds n := by
    constructor
    · rintro (h | h)
      · exact .inl h
      · exact .inr ⟨_, rfl, h⟩
    · rintro (h | ⟨ds, rfl, h⟩)
      · exact .plain h
      · exact .signed h
  rw [hdecimal, readDecimal]
  unfold read
  split
  · simpa using fun h => absurd rfl h.ne_nil
  · constructor
    · nofun
    · rintro ⟨h | ⟨ds, heq, h⟩, -⟩
      · exact absurd h (hplus [])
      · cases heq
        exact absurd rfl h.ne_nil
  · next ds hne =>
    rw [hspells ds (by rintro rfl; exact hne rfl)]
    simp [hplus]
  · next hempty hsign hother =>
    rw [hspells cs hempty]
    constructor
    · rintro ⟨h, hle⟩
      exact ⟨.inl h, hle⟩
    · rintro ⟨h | ⟨ds, rfl, h⟩, hle⟩
      · exact ⟨h, hle⟩
      · exact absurd rfl (hother ds)

end Numeral

theorem readChar?_eq_some_iff {c : Char} {cs rest : List Char} :
    readChar? c cs = some rest ↔ cs = c :: rest := by
  cases cs with
  | nil => simp [readChar?]
  | cons d ds => simp [readChar?]

/-! ## §2. IPv4. -/

namespace Ipv4

/-- One to three decimal digits for a number up to 255; the only one that begins
with a zero is zero itself. -/
structure Octet (cs : List Char) (n : Nat) : Prop where
  spells : Numeral.Spells 10 cs n
  short : cs.length ≤ 3
  le : n ≤ 255
  noLeadingZero : cs.head? = some '0' → cs = ['0']

/-- **Four octets with points between them.** -/
inductive Literal : List Char → Ipv4 → Prop where
  | octets {a b c d : List Char} {i j k l : Nat} (ha : Octet a i) (hb : Octet b j)
    (hc : Octet c k) (hd : Octet d l) :
    Literal (a ++ '.' :: (b ++ '.' :: (c ++ '.' :: d)))
      ⟨BitVec.ofNat 32 (((i * 256 + j) * 256 + k) * 256 + l)⟩

theorem noDigit_dot (cs : List Char) : NoDigit 10 ('.' :: cs) := noDigit_cons cs (by decide)

/-- An octet at the front of a text is what is read. -/
theorem readOctet?_eq_some_iff {cs rest : List Char} {n : Nat} :
    readOctet? cs = some (n, rest) ↔ ∃ ds, cs = ds ++ rest ∧ Octet ds n ∧ NoDigit 10 rest := by
  constructor
  · intro h
    obtain ⟨⟨ds, rest'⟩, hspan⟩ : ∃ parts, spanDigits 10 cs = parts := ⟨_, rfl⟩
    obtain ⟨heq, hdigits, hrest⟩ := eq_of_spanDigits hspan
    simp only [readOctet?, hspan] at h
    split at h
    · cases h
    · next hform =>
      split at h
      · cases h
      · next hle =>
        cases h
        simp only [not_or, not_and] at hform
        obtain ⟨hne, hshort, hzero⟩ := hform
        have hspells := Numeral.spells_iff.mpr ⟨hne, hdigits, rfl⟩
        refine ⟨ds, heq, ⟨hspells, by omega, by omega, ?_⟩, hrest⟩
        intro hhead
        -- a zero in front is not followed by a digit
        have hone : ¬ 1 < ds.length := fun hlong => hzero hlong hhead
        obtain ⟨more, rfl⟩ := List.head?_eq_some_iff.mp hhead
        rw [List.length_cons] at hone
        rw [List.length_eq_zero_iff.mp (by omega : more.length = 0)]
  · rintro ⟨ds, rfl, hoctet, hrest⟩
    obtain ⟨hne, hdigits, hvalue⟩ := Numeral.spells_iff.mp hoctet.spells
    have hshort := hoctet.short
    have hle := hoctet.le
    have hform : ¬ (ds = [] ∨ 3 < ds.length ∨ (1 < ds.length ∧ ds.head? = some '0')) := by
      rintro (hnil | hlong | ⟨hlong, hhead⟩)
      · exact hne hnil
      · omega
      · rw [hoctet.noLeadingZero hhead] at hlong
        exact absurd hlong (by decide)
    unfold readOctet?
    rw [spanDigits_append hdigits hrest]
    dsimp only
    rw [hvalue, if_neg hform, if_neg (by omega)]

/-- An IPv4 address at the front of a text is what is read. -/
theorem read?_eq_some_iff {cs rest : List Char} {a : Ipv4} :
    read? cs = some (a, rest) ↔ ∃ ds, cs = ds ++ rest ∧ Literal ds a ∧ NoDigit 10 rest := by
  unfold read?
  simp only [Option.bind_eq_bind, Option.bind_eq_some_iff, Prod.exists, readChar?_eq_some_iff,
    readOctet?_eq_some_iff]
  constructor
  · rintro ⟨i, cs₁, ⟨a, rfl, ha, -⟩, cs₂, rfl, j, cs₃, ⟨b, rfl, hb, -⟩, cs₄, rfl, k, cs₅,
      ⟨c, rfl, hc, -⟩, cs₆, rfl, l, cs₇, ⟨d, rfl, hd, hrest⟩, heq⟩
    cases heq
    exact ⟨_, by simp, .octets ha hb hc hd, hrest⟩
  · rintro ⟨ds, rfl, h, hrest⟩
    cases h with
    | octets ha hb hc hd =>
      exact ⟨_, _, ⟨_, by simp, ha, noDigit_dot _⟩, _, rfl, _, _, ⟨_, rfl, hb, noDigit_dot _⟩, _,
        rfl, _, _, ⟨_, rfl, hc, noDigit_dot _⟩, _, rfl, _, _, ⟨_, rfl, hd, hrest⟩, rfl⟩

/-- A literal begins with a digit of its first octet, and a point follows this. -/
theorem Literal.exists_octet {cs : List Char} {a : Ipv4} (h : Literal cs a) :
    ∃ ds rest, cs = ds ++ '.' :: rest ∧ ∀ c ∈ ds, (Numeral.digitValue? 10 c).isSome = true := by
  cases h with
  | octets ha => exact ⟨_, _, rfl, ha.spells.isDigit⟩

end Ipv4

/-! ## §3. IPv6. -/

/-- Behind a group stands a colon, or nothing. -/
def Closed (cs : List Char) : Prop := ∀ c ∈ cs.head?, c = ':'

/-- A colon is a digit in no base. -/
theorem Closed.noDigit {cs : List Char} (h : Closed cs) (base : Nat) : NoDigit base cs := by
  intro c hc
  rw [h c hc]
  rfl

theorem closed_cons (cs : List Char) : Closed (':' :: cs) := by
  intro c hc
  cases hc
  rfl

theorem closed_nil : Closed [] := fun c hc => by cases hc

/-- Digits behind which no point stands are not the beginning of an IPv4 address. -/
theorem Ipv4.read?_of_closed {ds rest : List Char}
    (hds : ∀ c ∈ ds, (Numeral.digitValue? 16 c).isSome = true) (hrest : Closed rest) :
    Ipv4.read? (ds ++ rest) = none := by
  by_contra hsome
  obtain ⟨⟨a, rest'⟩, hread⟩ := Option.ne_none_iff_exists'.mp hsome
  obtain ⟨lit, heq, hlit, -⟩ := read?_eq_some_iff.mp hread
  obtain ⟨os, more, rfl, hos⟩ := hlit.exists_octet
  -- the point is in the digits, or what is behind them begins with a digit or a point
  rw [List.append_assoc, List.cons_append, List.append_eq_append_iff] at heq
  obtain ⟨mid, rfl, hmid⟩ | ⟨mid, rfl, hmid⟩ := heq
  · cases mid with
    | nil =>
      rw [List.nil_append] at hmid
      exact absurd (hrest '.' (by rw [hmid]; rfl)) (by decide)
    | cons c mid =>
      have hcolon : c = ':' := hrest c (by rw [hmid]; rfl)
      have hdigit := hos c (List.mem_append.mpr (.inr List.mem_cons_self))
      rw [hcolon] at hdigit
      exact absurd hdigit (by decide)
  · cases mid with
    | nil =>
      rw [List.nil_append] at hmid
      exact absurd (hrest '.' (by rw [← hmid]; rfl)) (by decide)
    | cons c mid =>
      obtain ⟨rfl, -⟩ := List.cons_eq_cons.mp hmid
      exact absurd (hds '.' (List.mem_append.mpr (.inr List.mem_cons_self))) (by decide)

namespace Ipv6

/-- One to four hexadecimal digits. -/
structure Group (cs : List Char) (g : Nat) : Prop where
  spells : Numeral.Spells 16 cs g
  short : cs.length ≤ 4

/-- The colon before a group, which the first group of a row is without. -/
def lead (first : Bool) : List Char := if first then [] else [':']

/-- Groups in a row with colons between them, where an IPv4 address may stand for
the last two.  The row begins with a colon when it goes on from other groups. -/
inductive Row : (first endsInV4 : Bool) → List Char → List Nat → Prop where
  | none {first : Bool} : Row first false [] []
  | v4 {first : Bool} {cs : List Char} {a : Ipv4} (h : Ipv4.Literal cs a) :
    Row first true (lead first ++ cs) [a.bits.toNat / 65536, a.bits.toNat % 65536]
  | group {first endsInV4 : Bool} {cs ds : List Char} {g : Nat} {gs : List Nat} (h : Group cs g)
    (more : Row false endsInV4 ds gs) : Row first endsInV4 (lead first ++ (cs ++ ds)) (g :: gs)

/-- **Eight groups, or fewer with a double colon** for the zeros left out, of
which there is at least one.  An IPv4 address stands only at the end. -/
inductive Literal : List Char → Ipv6 → Prop where
  | full {endsInV4 : Bool} {cs : List Char} {gs : List Nat} (h : Row true endsInV4 cs gs)
    (hlength : gs.length = 8) : Literal cs (ofGroups gs)
  | compressed {endsInV4 : Bool} {cs ds : List Char} {front back : List Nat}
    (hfront : Row true false cs front) (hback : Row true endsInV4 ds back)
    (hroom : front.length + back.length < 8) :
    Literal (cs ++ ':' :: ':' :: ds)
      (ofGroups (front ++ List.replicate (8 - front.length - back.length) 0 ++ back))

/-- A group at the front of a text is what is read. -/
theorem readGroup?_eq_some_iff {cs rest : List Char} {g : Nat} :
    readGroup? cs = some (g, rest) ↔ ∃ ds, cs = ds ++ rest ∧ Group ds g ∧ NoDigit 16 rest := by
  constructor
  · intro h
    obtain ⟨⟨ds, rest'⟩, hspan⟩ : ∃ parts, spanDigits 16 cs = parts := ⟨_, rfl⟩
    obtain ⟨heq, hdigits, hrest⟩ := eq_of_spanDigits hspan
    simp only [readGroup?, hspan] at h
    split at h
    · cases h
    · next hform =>
      cases h
      simp only [not_or] at hform
      exact ⟨ds, heq, ⟨Numeral.spells_iff.mpr ⟨hform.1, hdigits, rfl⟩, by omega⟩, hrest⟩
  · rintro ⟨ds, rfl, hgroup, hrest⟩
    obtain ⟨hne, hdigits, hvalue⟩ := Numeral.spells_iff.mp hgroup.spells
    have hshort := hgroup.short
    have hform : ¬ (ds = [] ∨ 4 < ds.length) := by
      rintro (hnil | hlong)
      · exact hne hnil
      · omega
    unfold readGroup?
    rw [spanDigits_append hdigits hrest]
    dsimp only
    rw [hvalue, if_neg hform]

/-- Where a row can begin. -/
theorem start_eq_some_iff {first : Bool} {cs start : List Char} :
    (if first then some cs else readChar? ':' cs) = some start ↔ cs = lead first ++ start := by
  cases first with
  | true => simp [lead]
  | false => simp [lead, readChar?_eq_some_iff]

/-- **What is read as a run** is a row of groups, as many as there is room for. -/
theorem row_readRun (first : Bool) (room : Nat) (cs : List Char) :
    ∃ ds, cs = ds ++ (readRun first room cs).rest
      ∧ Row first (readRun first room cs).endsInV4 ds (readRun first room cs).groups
      ∧ (readRun first room cs).groups.length ≤ room := by
  induction room generalizing first cs with
  | zero => exact ⟨[], rfl, .none, Nat.le_refl 0⟩
  | succ room ih =>
    unfold readRun
    dsimp only
    split
    · next a rest hv4 =>
      split at hv4
      · next hroom =>
        obtain ⟨start, hstart, hread⟩ := Option.bind_eq_some_iff.mp hv4
        obtain ⟨ds, rfl, hlit, -⟩ := Ipv4.read?_eq_some_iff.mp hread
        refine ⟨lead first ++ ds, ?_, .v4 hlit, ?_⟩
        · rw [List.append_assoc]
          exact start_eq_some_iff.mp hstart
        · show 2 ≤ room + 1
          omega
      · cases hv4
    · split
      · next g rest hgroup =>
        obtain ⟨start, hstart, hread⟩ := Option.bind_eq_some_iff.mp hgroup
        obtain ⟨ds, rfl, hds, -⟩ := readGroup?_eq_some_iff.mp hread
        obtain ⟨more, hmore, hrow, hlength⟩ := ih false rest
        refine ⟨lead first ++ (ds ++ more), ?_, .group hds hrow, Nat.succ_le_succ hlength⟩
        rw [List.append_assoc, List.append_assoc, ← hmore]
        exact start_eq_some_iff.mp hstart
      · exact ⟨[], rfl, .none, Nat.zero_le _⟩

/-- Behind the last group stands a double colon, or nothing. -/
def Ended (cs : List Char) : Prop := cs = [] ∨ ∃ rest, cs = ':' :: ':' :: rest

theorem Ended.closed {cs : List Char} (h : Ended cs) : Closed cs := by
  rcases h with rfl | ⟨rest, rfl⟩
  · exact closed_nil
  · exact closed_cons _

theorem readGroup?_of_closed {rest : List Char} (hrest : Closed rest) : readGroup? rest = none := by
  cases rest with
  | nil => rfl
  | cons c cs =>
    obtain rfl : c = ':' := hrest c rfl
    rfl

/-- Where the groups have ended no more are read. -/
theorem readRun_ended {cs : List Char} (h : Ended cs) (first : Bool) (room : Nat) :
    readRun first room cs = ⟨[], false, cs⟩ := by
  cases room with
  | zero => rfl
  | succ room =>
    have hclosed : ∀ start, (if first then some cs else readChar? ':' cs) = some start →
        Closed start := by
      intro start hstart
      have hcs := start_eq_some_iff.mp hstart
      rcases h with rfl | ⟨rest, rfl⟩
      · rw [(List.append_eq_nil_iff.mp hcs.symm).2]
        exact closed_nil
      · cases first with
        | true =>
          rw [← show _ = start from hcs]
          exact closed_cons _
        | false =>
          obtain ⟨-, hrest⟩ := List.cons_eq_cons.mp hcs
          rw [← show _ = start from hrest]
          exact closed_cons _
    have hv4 : (if first then some cs else readChar? ':' cs).bind Ipv4.read? = none :=
      Option.bind_eq_none_iff.mpr fun start hstart =>
        Ipv4.read?_of_closed (List.forall_mem_nil _) (hclosed start hstart)
    have hgroup : (if first then some cs else readChar? ':' cs).bind readGroup? = none :=
      Option.bind_eq_none_iff.mpr fun start hstart => readGroup?_of_closed (hclosed start hstart)
    unfold readRun
    dsimp only
    rw [hv4, hgroup, ite_self]

/-- A row that goes on from other groups begins with a colon. -/
theorem Row.closed {endsInV4 : Bool} {cs rest : List Char} {gs : List Nat}
    (h : Row false endsInV4 cs gs) (hrest : Closed rest) : Closed (cs ++ rest) := by
  cases h with
  | none => exact hrest
  | v4 h => exact closed_cons _
  | group h more => exact closed_cons _

/-- **A row of groups is read**, where it has ended and there is room for it. -/
theorem Row.readRun_eq {first endsInV4 : Bool} {cs rest : List Char} {gs : List Nat}
    (h : Row first endsInV4 cs gs) (hrest : Ended rest) :
    ∀ room, gs.length ≤ room → readRun first room (cs ++ rest) = ⟨gs, endsInV4, rest⟩ := by
  induction h with
  | none => exact fun room _ => readRun_ended hrest _ room
  | @v4 first cs a h =>
    intro room hroom
    obtain ⟨room, rfl⟩ : ∃ r, room = r + 1 := ⟨room - 1, by simp at hroom; omega⟩
    have hstart : (if first then some (lead first ++ cs ++ rest)
        else readChar? ':' (lead first ++ cs ++ rest)) = some (cs ++ rest) :=
      start_eq_some_iff.mpr (List.append_assoc _ _ _)
    have hread := Ipv4.read?_eq_some_iff.mpr ⟨cs, rfl, h, hrest.closed.noDigit 10⟩
    unfold readRun
    dsimp only
    rw [hstart, Option.bind_some, hread, if_pos (by simpa using hroom)]
  | @group first endsInV4 cs ds g gs h more ih =>
    intro room hroom
    obtain ⟨room, rfl⟩ : ∃ r, room = r + 1 := ⟨room - 1, by simp at hroom; omega⟩
    have hclosed := more.closed hrest.closed
    have hstart : (if first then some (lead first ++ (cs ++ ds) ++ rest)
        else readChar? ':' (lead first ++ (cs ++ ds) ++ rest)) = some (cs ++ (ds ++ rest)) :=
      start_eq_some_iff.mpr (by simp)
    have hread := readGroup?_eq_some_iff.mpr ⟨cs, rfl, h, hclosed.noDigit 16⟩
    unfold readRun
    dsimp only
    rw [hstart, Option.bind_some, Option.bind_some, Ipv4.read?_of_closed h.spells.isDigit hclosed,
      ite_self, hread]
    dsimp only
    rw [ih room (by simpa using hroom)]

/-- **The IPv6 address that a text writes** is what is read. -/
theorem ofText?_eq_some_iff {cs : List Char} {a : Ipv6} : ofText? cs = some a ↔ Literal cs a := by
  have hwhole : ofText? cs = some a ↔ read? cs = some (a, []) := by
    unfold ofText?
    split <;> simp_all
  rw [hwhole]
  constructor
  · intro h
    obtain ⟨front, hcs, hfront, hlength⟩ := row_readRun true 8 cs
    simp only [read?] at h
    split at h
    · next height =>
      obtain ⟨rfl, hrest⟩ := Prod.mk.inj (Option.some.inj h)
      rw [hrest, List.append_nil] at hcs
      rw [hcs] at hfront height ⊢
      exact .full hfront height
    · next hfewer =>
      split at h
      · cases h
      · next hends =>
        simp only [Option.bind_eq_bind, Option.bind_eq_some_iff, readChar?_eq_some_iff,
          Option.pure_def, Option.some.injEq, Prod.mk.injEq] at h
        obtain ⟨_, hcolon, back, rfl, rfl, hrest⟩ := h
        obtain ⟨ds, hds, hback, hroom⟩ := row_readRun true
          (7 - (readRun true 8 cs).groups.length) back
        rw [hrest, List.append_nil] at hds
        rw [hcolon] at hcs
        rw [Bool.not_eq_true] at hends
        rw [hends] at hfront
        rw [← hds] at hback
        have hlit := Literal.compressed hfront hback (by omega)
        rwa [← hcs] at hlit
  · intro h
    cases h with
    | full h hlength =>
      have hrun := h.readRun_eq (.inl rfl) 8 (by omega)
      rw [List.append_nil] at hrun
      simp only [read?, hrun]
      rw [if_pos hlength]
    | @compressed _ cs ds front back hfront hback hroom =>
      have hhead := hfront.readRun_eq (.inr ⟨ds, rfl⟩) 8 (by omega)
      have htail := hback.readRun_eq (.inl rfl) (7 - front.length) (by omega)
      rw [List.append_nil] at htail
      simp only [read?, hhead]
      rw [if_neg (by omega)]
      simp only [Bool.false_eq_true, if_false, Option.bind_eq_bind, readChar?, if_true,
        Option.bind_some, htail]
      rfl

/-- An IPv6 address in writing is not the beginning of an IPv4 one. -/
theorem Literal.read4?_eq_none {cs : List Char} {a : Ipv6} (h : Literal cs a) :
    Ipv4.read? cs = none := by
  cases h with
  | full h hlength =>
    cases h with
    | none => cases hlength
    | v4 h => cases hlength
    | group h more =>
      have hclosed := more.closed closed_nil
      rw [List.append_nil] at hclosed
      have hnone := Ipv4.read?_of_closed h.spells.isDigit hclosed
      exact hnone
  | @compressed _ _ back _ _ hfront =>
    cases hfront with
    | none => exact Ipv4.read?_of_closed (List.forall_mem_nil _) (closed_cons _)
    | group h more =>
      have hclosed := more.closed (closed_cons (':' :: back))
      have hnone := Ipv4.read?_of_closed h.spells.isDigit hclosed
      rwa [← List.append_assoc] at hnone

end Ipv6

/-! ## §4. Both kinds. -/

/-- A decimal digit is a hexadecimal one. -/
theorem Numeral.isDigit_hex {c : Char} (h : (digitValue? 10 c).isSome = true) :
    (digitValue? 16 c).isSome = true := by
  unfold digitValue? at h ⊢
  obtain ⟨d, hd⟩ := Option.isSome_iff_exists.mp h
  obtain ⟨hvalue, hlt⟩ := Option.filter_eq_some_iff.mp hd
  rw [hvalue]
  have hlt' : d < 10 := by simpa using hlt
  simp [Option.filter, show d < 16 by omega]

/-- The characters of addresses. -/
def IsAddressChar (c : Char) : Prop :=
  c = '.' ∨ c = ':' ∨ (Numeral.digitValue? 16 c).isSome = true

instance : DecidablePred IsAddressChar := fun _ => inferInstanceAs (Decidable (_ ∨ _))

theorem Ipv4.Literal.isAddressChar {cs : List Char} {a : Ipv4} (h : Literal cs a) :
    ∀ c ∈ cs, IsAddressChar c := by
  intro c hc
  cases h with
  | octets ha hb hc' hd =>
    simp only [List.mem_append, List.mem_cons] at hc
    rcases hc with hc | rfl | hc | rfl | hc | rfl | hc
    · exact .inr (.inr (Numeral.isDigit_hex (ha.spells.isDigit c hc)))
    · exact .inl rfl
    · exact .inr (.inr (Numeral.isDigit_hex (hb.spells.isDigit c hc)))
    · exact .inl rfl
    · exact .inr (.inr (Numeral.isDigit_hex (hc'.spells.isDigit c hc)))
    · exact .inl rfl
    · exact .inr (.inr (Numeral.isDigit_hex (hd.spells.isDigit c hc)))

namespace Ipv6

theorem isAddressChar_lead (first : Bool) : ∀ c ∈ lead first, IsAddressChar c := by
  intro c hc
  cases first with
  | true => cases hc
  | false => exact .inr (.inl (List.mem_singleton.mp hc))

theorem Row.isAddressChar {first endsInV4 : Bool} {cs : List Char} {gs : List Nat}
    (h : Row first endsInV4 cs gs) : ∀ c ∈ cs, IsAddressChar c := by
  induction h with
  | none => exact List.forall_mem_nil _
  | v4 h =>
    intro c hc
    exact (List.mem_append.mp hc).elim (isAddressChar_lead _ c) (h.isAddressChar c)
  | group h more ih =>
    intro c hc
    simp only [List.mem_append] at hc
    rcases hc with hc | hc | hc
    · exact isAddressChar_lead _ c hc
    · exact .inr (.inr (h.spells.isDigit c hc))
    · exact ih c hc

theorem Literal.isAddressChar {cs : List Char} {a : Ipv6} (h : Literal cs a) :
    ∀ c ∈ cs, IsAddressChar c := by
  intro c hc
  cases h with
  | full h => exact h.isAddressChar c hc
  | compressed hfront hback =>
    simp only [List.mem_append, List.mem_cons] at hc
    rcases hc with hc | rfl | rfl | hc
    · exact hfront.isAddressChar c hc
    · exact .inr (.inl rfl)
    · exact .inr (.inl rfl)
    · exact hback.isAddressChar c hc

end Ipv6

namespace Ip

/-- The text writes the address. -/
inductive Literal : List Char → Ip → Prop where
  | v4 {cs : List Char} {a : Ipv4} (h : Ipv4.Literal cs a) : Literal cs (.v4 a)
  | v6 {cs : List Char} {a : Ipv6} (h : Ipv6.Literal cs a) : Literal cs (.v6 a)

theorem Literal.isAddressChar {cs : List Char} {a : Ip} (h : Literal cs a) :
    ∀ c ∈ cs, IsAddressChar c := by
  cases h with
  | v4 h => exact h.isAddressChar
  | v6 h => exact h.isAddressChar

/-- **The address that a text writes** is what is read. -/
theorem ofText?_eq_some_iff {cs : List Char} {a : Ip} : ofText? cs = some a ↔ Literal cs a := by
  constructor
  · intro h
    unfold ofText? at h
    split at h
    · next v4 hread =>
      obtain ⟨ds, rfl, hlit, -⟩ := Ipv4.read?_eq_some_iff.mp hread
      cases h
      rw [List.append_nil]
      exact .v4 hlit
    · cases h
    · obtain ⟨v6, hread, rfl⟩ := Option.map_eq_some_iff.mp h
      exact .v6 (Ipv6.ofText?_eq_some_iff.mp hread)
  · intro h
    unfold ofText?
    cases h with
    | v4 h =>
      rw [Ipv4.read?_eq_some_iff.mpr ⟨cs, (List.append_nil cs).symm, h, noDigit_nil 10⟩]
    | v6 h =>
      rw [h.read4?_eq_none, Ipv6.ofText?_eq_some_iff.mpr h]
      rfl

end Ip

end UserPlane
