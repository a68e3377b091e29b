import PowerLink.Proofs.Numerals

/-!
# What is a numeral

A numeral is one or more digits, the highest one first, with or without a plus sign in
front.  The digits from ten on are letters in either case, and any number of zeros may
stand in front.  A text is read as a number exactly if it is a numeral with this value.
A numeral that has to fit in a byte can also be read in a byte, giving up at the first
product or sum that does not fit, because the totals never get smaller.
-/

namespace PowerLink.Text

/-- The character is this digit of the base. -/
def StandsFor (base : Nat) (c : Char) (digit : Nat) : Prop :=
  digit < base ∧ (c = Nat.digitChar digit ∨ c = (Nat.digitChar digit).toUpper)

/-- One or more digits of the base, the highest one first. -/
structure WritesDigits (base : Nat) (text : List Char) (n : Nat) : Prop where
  ne_nil : text ≠ []
  exists_digits : ∃ digits, List.Forall₂ (StandsFor base) text digits ∧
    Nat.ofDigits base digits.reverse = n

/-- Digits of the base, with or without a plus sign in front. -/
inductive IsNumeral (base : Nat) : List Char → Nat → Prop
  | unsigned {text : List Char} {n : Nat} (hdigits : WritesDigits base text n) :
      IsNumeral base text n
  | signed {text : List Char} {n : Nat} (hdigits : WritesDigits base text n) :
      IsNumeral base ('+' :: text) n

/-! ## One digit -/

section

variable {base digit : Nat} {c : Char}

theorem digitValue?_eq_filter (hbase : base ≤ 16) (c : Char) :
    digitValue? base c = (digitValue? 16 c).filter (· < base) := by
  have hless (digit : Nat) : (decide (digit < 16) && decide (digit < base)) =
      decide (digit < base) := by
    by_cases hdigit : digit < base
    · have hsixteen : digit < 16 := hdigit.trans_le hbase
      simp [hdigit, hsixteen]
    · simp [hdigit]
  simp only [digitValue?, Option.filter_filter, hless]

theorem digitValue?_digitChar (hdigit : digit < 16) :
    digitValue? 16 (Nat.digitChar digit) = some digit ∧
      digitValue? 16 (Nat.digitChar digit).toUpper = some digit := by
  decide +revert

theorem eq_digitChar_of_digitValue? {code : Nat} (hcode : code < 103) :
    ∀ digit ∈ digitValue? 16 (Char.ofNat code),
      Char.ofNat code = Nat.digitChar digit ∨
        Char.ofNat code = (Nat.digitChar digit).toUpper := by
  decide +revert

/-- No letter behind `f` is a digit, and `f` has the highest code of all digits. -/
theorem toNat_lt_of_digitValue? (hvalue : digitValue? 16 c = some digit) :
    digit < 16 ∧ c.toNat < 103 := by
  obtain ⟨hrange, hdigit⟩ := Option.filter_eq_some_iff.mp hvalue
  have hdigit : digit < 16 := of_decide_eq_true hdigit
  refine ⟨hdigit, ?_⟩
  have hnine : '9'.toNat = 57 := rfl
  have ha : 'a'.toNat = 97 := rfl
  have hZ : 'Z'.toNat = 90 := rfl
  split at hrange
  next hbetween =>
    have hle : c.toNat ≤ '9'.toNat := hbetween.2
    omega
  next =>
    split at hrange
    next =>
      have hsub := Option.some.inj hrange
      omega
    next =>
      split at hrange
      next hbetween =>
        have hle : c.toNat ≤ 'Z'.toNat := hbetween.2
        omega
      next => cases hrange

/-- The value of a digit is read exactly from the characters that stand for it. -/
theorem digitValue?_eq_some_iff (hbase : base ≤ 16) :
    digitValue? base c = some digit ↔ StandsFor base c digit := by
  rw [digitValue?_eq_filter hbase, Option.filter_eq_some_iff, decide_eq_true_iff]
  constructor
  · rintro ⟨hvalue, hdigit⟩
    obtain ⟨_, hcode⟩ := toNat_lt_of_digitValue? hvalue
    rw [← Char.ofNat_toNat c] at hvalue ⊢
    exact ⟨hdigit, eq_digitChar_of_digitValue? hcode digit hvalue⟩
  · rintro ⟨hdigit, rfl | rfl⟩
    · exact ⟨(digitValue?_digitChar (hdigit.trans_le hbase)).1, hdigit⟩
    · exact ⟨(digitValue?_digitChar (hdigit.trans_le hbase)).2, hdigit⟩

end

/-! ## Many digits -/

section

variable {base n : Nat} {text : List Char} (hbase : base ≤ 16)

include hbase

/-- The total read so far is a digit above all others. -/
theorem digitsFrom?_eq_some_iff {total : Nat} :
    digitsFrom? base total text = some n ↔
      ∃ digits, List.Forall₂ (StandsFor base) text digits ∧
        Nat.ofDigits base (digits.reverse ++ [total]) = n := by
  induction text generalizing total with
  | nil => simp [digitsFrom?, List.forall₂_nil_left_iff]
  | cons c rest ih =>
      -- The digit joins the total, which stays the highest digit of what is still to be read.
      have hstep (digit : Nat) (digits : List Nat) :
          Nat.ofDigits base (digits.reverse ++ [base * total + digit]) =
            Nat.ofDigits base ((digit :: digits).reverse ++ [total]) := by
        simp only [List.reverse_cons, List.append_assoc, Nat.ofDigits_append,
          Nat.ofDigits_cons, Nat.ofDigits_nil, List.singleton_append]
        ring
      unfold digitsFrom?
      constructor
      · intro hread
        split at hread
        next digit hdigit =>
          obtain ⟨digits, hdigits, hvalue⟩ := ih.mp hread
          refine ⟨digit :: digits, .cons ((digitValue?_eq_some_iff hbase).mp hdigit) hdigits, ?_⟩
          rw [← hstep, hvalue]
        next => cases hread
      · rintro ⟨digits, hdigits, hvalue⟩
        obtain ⟨digit, others, hdigit, hothers, rfl⟩ := List.forall₂_cons_left_iff.mp hdigits
        rw [(digitValue?_eq_some_iff hbase).mpr hdigit]
        exact ih.mpr ⟨others, hothers, by rw [hstep, hvalue]⟩

theorem digitsFrom?_zero_eq_some_iff (htext : text ≠ []) :
    digitsFrom? base 0 text = some n ↔ WritesDigits base text n := by
  rw [digitsFrom?_eq_some_iff hbase]
  have hzero (digits : List Nat) :
      Nat.ofDigits base (digits.reverse ++ [0]) = Nat.ofDigits base digits.reverse := by
    simp [Nat.ofDigits_append]
  simp only [hzero]
  exact ⟨fun hdigits => ⟨htext, hdigits⟩, WritesDigits.exists_digits⟩

theorem not_standsFor_plus (digit : Nat) : ¬ StandsFor base '+' digit := by
  rw [← digitValue?_eq_some_iff hbase, digitValue?_eq_filter hbase]
  have hplus : digitValue? 16 '+' = none := rfl
  simp [hplus]

theorem not_writesDigits_plus (rest : List Char) : ¬ WritesDigits base ('+' :: rest) n := by
  rintro ⟨_, digits, hdigits, _⟩
  obtain ⟨digit, others, hdigit, _⟩ := List.forall₂_cons_left_iff.mp hdigits
  exact not_standsFor_plus hbase digit hdigit

theorem isNumeral_plus_iff : IsNumeral base ('+' :: text) n ↔ WritesDigits base text n := by
  constructor
  · intro hnumeral
    cases hnumeral with
    | unsigned hplus => exact absurd hplus (not_writesDigits_plus hbase text)
    | signed hdigits => exact hdigits
  · exact .signed

omit hbase in
theorem isNumeral_iff_of_unsigned (htext : ∀ rest, text ≠ '+' :: rest) :
    IsNumeral base text n ↔ WritesDigits base text n := by
  constructor
  · intro hnumeral
    cases hnumeral with
    | unsigned hdigits => exact hdigits
    | signed _ => exact absurd rfl (htext _)
  · exact .unsigned

omit hbase in
theorem not_writesDigits_nil : ¬ WritesDigits base [] n :=
  fun hdigits => hdigits.ne_nil rfl

/-- A text is read as a number exactly if it is a numeral with this value. -/
theorem numeral?_eq_some_iff : numeral? base text = some n ↔ IsNumeral base text n := by
  unfold numeral?
  split
  next =>
    rw [isNumeral_iff_of_unsigned (by simp)]
    simp [not_writesDigits_nil]
  next =>
    rw [isNumeral_plus_iff hbase]
    simp [not_writesDigits_nil]
  next digits hsome =>
    have hdigits : digits ≠ [] := fun hnil => hsome (by rw [hnil])
    rw [isNumeral_plus_iff hbase, digitsFrom?_zero_eq_some_iff hbase hdigits]
  next hnil _ hplus =>
    rw [isNumeral_iff_of_unsigned hplus, digitsFrom?_zero_eq_some_iff hbase hnil]

/-- A numeral up to 255 is read as the byte of its value. -/
theorem map_numeralUpTo?_eq_some_iff {byte : UInt8} :
    (numeralUpTo? base 255 text).map UInt8.ofNat = some byte ↔
      IsNumeral base text byte.toNat := by
  simp only [numeralUpTo?, Option.map_eq_some_iff, Option.filter_eq_some_iff,
    decide_eq_true_iff, numeral?_eq_some_iff hbase]
  constructor
  · rintro ⟨n, ⟨hnumeral, hlimit⟩, rfl⟩
    rwa [UInt8.toNat_ofNat', Nat.mod_eq_of_lt (Nat.lt_succ_of_le hlimit)]
  · intro hnumeral
    exact ⟨byte.toNat, ⟨hnumeral, Nat.le_of_lt_succ byte.toNat_lt⟩, UInt8.ofNat_toNat⟩

/-- What holds of the plus sign and of all digits holds of all characters of a numeral. -/
theorem IsNumeral.forall_mem {holds : Char → Prop} (hplus : holds '+')
    (hall : ∀ digit < 16, holds (Nat.digitChar digit) ∧ holds (Nat.digitChar digit).toUpper)
    (hnumeral : IsNumeral base text n) : ∀ c ∈ text, holds c := by
  have hdigit {c : Char} {digit : Nat} (hstands : StandsFor base c digit) : holds c := by
    obtain ⟨hless, rfl | rfl⟩ := hstands
    · exact (hall digit (hless.trans_le hbase)).1
    · exact (hall digit (hless.trans_le hbase)).2
  have hdigits {digits : List Char} (hwrites : WritesDigits base digits n) :
      ∀ c ∈ digits, holds c := by
    obtain ⟨values, hvalues, _⟩ := hwrites.exists_digits
    have hboth := hvalues.imp fun c digit hstands => And.intro (hdigit hstands) hstands
    exact ((List.forall₂_and_left _ _).mp hboth).1
  cases hnumeral with
  | unsigned hwrites => exact hdigits hwrites
  | signed hwrites => simpa [hplus] using hdigits hwrites

theorem IsNumeral.not_blank (hnumeral : IsNumeral base text n) :
    ∀ c ∈ text, isBlank c = false :=
  hnumeral.forall_mem hbase rfl (by decide)

end

theorem IsNumeral.ne_nil {base n : Nat} {text : List Char} (hnumeral : IsNumeral base text n) :
    text ≠ [] := by
  cases hnumeral with
  | unsigned hdigits => exact hdigits.ne_nil
  | signed _ => exact List.cons_ne_nil _ _

/-! ## In a byte -/

section

variable {base n : Nat} {text : List Char} (hbase : 0 < base)

/-- The number as a byte, if it fits. -/
def inByte? (n : Nat) : Option UInt8 :=
  if n < UInt8.size then some (UInt8.ofNat n) else none

/-- The digits read on top of a total in a byte, up to the first one that does not fit. -/
def digitsInByte? (base : Nat) (total : UInt8) : List Char → Option UInt8
  | [] => some total
  | c :: rest => do
    let digit ← digitValue? base c
    let raised ← inByte? (base * total.toNat)
    let next ← inByte? (raised.toNat + digit)
    digitsInByte? base next rest

/-- A numeral whose digits are read in a byte. -/
def numeralInByte? (base : Nat) : List Char → Option UInt8
  | [] => none
  | '+' :: [] => none
  | '+' :: digits => digitsInByte? base 0 digits
  | digits => digitsInByte? base 0 digits

theorem exists_inByte? {n : Nat} (hn : n ≤ 255) :
    ∃ byte, inByte? n = some byte ∧ byte.toNat = n := by
  have hfits : n < UInt8.size := Nat.lt_succ_of_le hn
  exact ⟨UInt8.ofNat n, if_pos hfits, UInt8.toNat_ofNat_of_lt hfits⟩

theorem inByte?_eq_none {n : Nat} (hn : 255 < n) : inByte? n = none :=
  if_neg (Nat.not_lt_of_le hn)

include hbase

/-- Digits never make a total smaller. -/
theorem le_of_digitsFrom? {total : Nat} (hread : digitsFrom? base total text = some n) :
    total ≤ n := by
  induction text generalizing total with
  | nil => exact (Option.some.inj hread).le
  | cons c rest ih =>
      unfold digitsFrom? at hread
      split at hread
      next digit _ =>
        calc
          total ≤ base * total := Nat.le_mul_of_pos_left total hbase
          _ ≤ base * total + digit := Nat.le_add_right ..
          _ ≤ n := ih hread
      next => cases hread

/-- A total that does not fit in a byte is never brought back into one. -/
theorem filter_digitsFrom?_eq_none {total : Nat} (htotal : 255 < total) :
    (digitsFrom? base total text).filter (· ≤ 255) = none := by
  rw [Option.filter_eq_none_iff]
  intro n hread
  have hle := le_of_digitsFrom? hbase hread
  simp only [decide_eq_true_eq]
  omega

theorem digitsInByte?_eq (total : UInt8) :
    digitsInByte? base total text =
      ((digitsFrom? base total.toNat text).filter (· ≤ 255)).map UInt8.ofNat := by
  induction text generalizing total with
  | nil =>
      have htotal : total.toNat ≤ 255 := Nat.le_of_lt_succ total.toNat_lt
      simp [digitsInByte?, digitsFrom?, htotal]
  | cons c rest ih =>
      unfold digitsInByte? digitsFrom?
      cases digitValue? base c with
      | none => rfl
      | some digit =>
          simp only [Option.bind_eq_bind, Option.bind_some]
          -- Where the product or the sum is too large, all later totals are.
          rcases Nat.lt_or_ge 255 (base * total.toNat) with hlarge | hfits
          · have hnext : 255 < base * total.toNat + digit := hlarge.trans_le (Nat.le_add_right ..)
            simp [inByte?_eq_none hlarge, filter_digitsFrom?_eq_none hbase hnext]
          obtain ⟨raised, hraised, hproduct⟩ := exists_inByte? hfits
          rw [hraised, Option.bind_some, hproduct]
          rcases Nat.lt_or_ge 255 (base * total.toNat + digit) with hlarge | hfits
          · simp [inByte?_eq_none hlarge, filter_digitsFrom?_eq_none hbase hlarge]
          · obtain ⟨next, hnext, hsum⟩ := exists_inByte? hfits
            rw [hnext, Option.bind_some, ih, hsum]

/-- Reading in a byte gives the numbers that fit in a byte. -/
theorem numeralInByte?_eq (text : List Char) :
    numeralInByte? base text = (numeralUpTo? base 255 text).map UInt8.ofNat := by
  unfold numeralInByte?
  split
  next => rfl
  next => rfl
  next hsome => rw [digitsInByte?_eq hbase, numeralUpTo?, numeral?.eq_3 _ _ hsome, UInt8.toNat_zero]
  next hnil hsign hplus =>
    rw [digitsInByte?_eq hbase, numeralUpTo?, numeral?.eq_4 _ _ hnil hsign hplus, UInt8.toNat_zero]

end

end PowerLink.Text
