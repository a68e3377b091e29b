import PowerLink.Text.Characters
import PowerLink.Text.Numeral
import Mathlib.Tactic

/-!
# Numerals are read as they are written

The decimal digits of a number are a readable numeral with its value, and trimming
leaves a run of digits as it is.
-/

namespace PowerLink.Text

theorem isDigit_of_mem_toDigits {n : Nat} {c : Char} (hc : c ∈ Nat.toDigits 10 n) :
    c.isDigit = true :=
  Nat.isDigit_of_mem_toDigits (by decide) (by decide) hc

theorem toNat_of_isDigit {c : Char} (hc : c.isDigit = true) :
    48 ≤ c.toNat ∧ c.toNat ≤ 57 := by
  simp only [Char.isDigit, Bool.and_eq_true, decide_eq_true_eq, ge_iff_le,
    UInt32.le_iff_toNat_le] at hc
  exact hc

theorem ne_of_isDigit {c d : Char} (hc : c.isDigit = true) (hd : d.isDigit = false) :
    c ≠ d := by
  intro hequal
  rw [hequal, hd] at hc
  cases hc

theorem digitValue?_of_isDigit {c : Char} (hc : c.isDigit = true) :
    digitValue? 10 c = some (c.toNat - '0'.toNat) := by
  have hrange := toNat_of_isDigit hc
  have hbetween : '0' ≤ c ∧ c ≤ '9' := by
    simpa [Char.le_def, UInt32.le_iff_toNat_le] using hrange
  have hzero : '0'.toNat = 48 := rfl
  simp only [digitValue?, if_pos hbetween, Option.filter_some, hzero]
  rw [if_pos (by simp; omega)]

theorem digitsFrom?_of_isDigit {digits : List Char}
    (hdigits : ∀ c ∈ digits, c.isDigit = true) (total : Nat) :
    digitsFrom? 10 total digits = some (Nat.ofDigitChars 10 digits total) := by
  induction digits generalizing total with
  | nil => simp [digitsFrom?]
  | cons c rest ih =>
      have hc := hdigits c (List.mem_cons_self ..)
      have hrest : ∀ d ∈ rest, d.isDigit = true :=
        fun d hd => hdigits d (List.mem_cons_of_mem c hd)
      simp only [digitsFrom?, digitValue?_of_isDigit hc]
      rw [ih hrest, Nat.ofDigitChars_cons]

theorem numeral?_toDigits (n : Nat) : numeral? 10 (Nat.toDigits 10 n) = some n := by
  have hdigits : ∀ c ∈ Nat.toDigits 10 n, c.isDigit = true :=
    fun c hc => isDigit_of_mem_toDigits hc
  have hread : digitsFrom? 10 0 (Nat.toDigits 10 n) = some n := by
    rw [digitsFrom?_of_isDigit hdigits, Nat.ofDigitChars_ten_toDigits]
  unfold numeral?
  split
  next hnil => exact absurd hnil Nat.toDigits_ne_nil
  next hplus =>
    rw [hplus] at hdigits
    exact absurd (hdigits '+' (List.mem_cons_self ..)) (by decide)
  next digits hplus =>
    rw [hplus] at hdigits
    exact absurd (hdigits '+' (List.mem_cons_self ..)) (by decide)
  next => exact hread

theorem numeralUpTo?_toDigits {n limit : Nat} (hlimit : n ≤ limit) :
    numeralUpTo? 10 limit (Nat.toDigits 10 n) = some n := by
  simp [numeralUpTo?, numeral?_toDigits, hlimit]

theorem decimal_one (n : Nat) :
    (decimal 1 n).toList = Nat.toDigits 10 n := by
  have hlength : 1 - (Nat.toDigits 10 n).length = 0 := by
    have := @Nat.length_toDigits_pos 10 n
    omega
  simp [decimal, hlength]

theorem decimal_one_eq (n : Nat) : decimal 1 n = Nat.repr n :=
  String.toList_injective (by rw [decimal_one, Nat.toList_repr])

/-! ## Numerals of a least width -/

theorem toList_decimal (width n : Nat) :
    (decimal width n).toList =
      List.replicate (width - (Nat.toDigits 10 n).length) '0' ++ Nat.toDigits 10 n := by
  simp [decimal]

theorem isDigit_of_mem_decimal {width n : Nat} {c : Char}
    (hc : c ∈ (decimal width n).toList) : c.isDigit = true := by
  rw [toList_decimal] at hc
  rcases List.mem_append.mp hc with hzero | hdigit
  · rw [List.eq_of_mem_replicate hzero]
    rfl
  · exact isDigit_of_mem_toDigits hdigit

theorem length_decimal {width n : Nat} (hwidth : 0 < width) (hn : n < 10 ^ width) :
    (decimal width n).toList.length = width := by
  have hlength : (Nat.toDigits 10 n).length ≤ width :=
    (Nat.length_toDigits_le_iff (by decide) hwidth).mpr hn
  rw [toList_decimal, List.length_append, List.length_replicate]
  omega

theorem decimal_ne_nil (width n : Nat) : (decimal width n).toList ≠ [] := by
  simp [toList_decimal, Nat.toDigits_ne_nil]

theorem exists_decimal_eq_cons (width n : Nat) :
    ∃ c rest, (decimal width n).toList = c :: rest ∧ c.isDigit = true := by
  cases htext : (decimal width n).toList with
  | nil => exact absurd htext (decimal_ne_nil width n)
  | cons c rest =>
      have hmem : c ∈ (decimal width n).toList := by
        rw [htext]
        exact List.mem_cons_self ..
      exact ⟨c, rest, rfl, isDigit_of_mem_decimal hmem⟩

/-! ## Where a numeral ends -/

/-- What follows does not go on with a digit. -/
def EndsDigits (rest : List Char) : Prop :=
  ∀ c ∈ rest.head?, c.isDigit = false

theorem endsDigits_nil : EndsDigits [] := by
  simp [EndsDigits]

theorem endsDigits_cons {c : Char} (hc : c.isDigit = false) (rest : List Char) :
    EndsDigits (c :: rest) := by
  simpa [EndsDigits] using hc

section

variable {digits rest : List Char} (hdigits : ∀ c ∈ digits, c.isDigit = true)
  (hrest : EndsDigits rest)

include hdigits hrest

theorem takeWhile_isDigit_append : (digits ++ rest).takeWhile Char.isDigit = digits := by
  rw [List.takeWhile_append_of_pos hdigits]
  cases rest with
  | nil => simp
  | cons c rest => simp [hrest c (by simp)]

theorem dropWhile_isDigit_append : (digits ++ rest).dropWhile Char.isDigit = rest := by
  rw [List.dropWhile_append_of_pos hdigits]
  cases rest with
  | nil => rfl
  | cons c rest => simp [hrest c (by simp)]

end

theorem EndsDigits.take {rest : List Char} (hrest : EndsDigits rest) (count : Nat) :
    EndsDigits (rest.take count) := by
  intro c hc
  rw [List.head?_take] at hc
  split at hc
  next => cases hc
  next => exact hrest c hc

/-! ## Blanks -/

theorem isBlank_of_isDigit {c : Char} (hc : c.isDigit = true) : isBlank c = false := by
  have hrange := toNat_of_isDigit hc
  simp only [isBlank, Bool.or_eq_false_iff, Bool.and_eq_false_iff,
    decide_eq_false_iff_not, beq_eq_false_iff_ne]
  omega

theorem trim_of_not_blank {text : List Char} (htext : ∀ c ∈ text, isBlank c = false) :
    trim text = text := by
  have hstart : ∀ text : List Char, (∀ c ∈ text, isBlank c = false) →
      text.dropWhile isBlank = text := by
    intro text htext
    cases text with
    | nil => rfl
    | cons c rest => simp [htext c (List.mem_cons_self ..)]
  unfold trim trimStart trimEnd
  rw [hstart text htext, hstart text.reverse (by simpa using htext),
    List.reverse_reverse]

end PowerLink.Text
