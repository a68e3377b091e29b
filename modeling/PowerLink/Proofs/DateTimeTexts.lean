import PowerLink.Proofs.Numerals
import PowerLink.Proofs.ScalarCodecs
import PowerLink.Time.Reading
import Mathlib.Tactic

/-!
# Dates and times are read as they are written

Every date and time is read back from the text in which a `T` stands between date and
time, whatever the number of digits of its year.  Two forms are tried in turn, and the
first one fails on such a text: it allows blanks where the `T` stands, none of which are
needed, and then finds the letter in place of the hour.
-/

namespace PowerLink

namespace Text

/-- The padding does not count. -/
theorem digitsValue_decimal (width n : Nat) :
    DateTime.digitsValue (decimal width n).toList = n := by
  calc
    DateTime.digitsValue (decimal width n).toList
        = Nat.ofDigitChars 10 (decimal width n).toList 0 := rfl
    _ = Nat.ofDigitChars 10 (Nat.toDigits 10 n) 0 := by
      rw [toList_decimal, Nat.ofDigitChars_append, Nat.ofDigitChars_replicate_zero, Nat.mul_zero]
    _ = n := Nat.ofDigitChars_ten_toDigits

theorem trimStart_decimal (width n : Nat) (rest : List Char) :
    trimStart ((decimal width n).toList ++ rest) = (decimal width n).toList ++ rest := by
  rcases exists_decimal_eq_cons width n with ⟨c, tail, htext, hdigit⟩
  rw [htext, List.cons_append]
  simp [trimStart, isBlank_of_isDigit hdigit]

end Text

namespace DateTime

open Text

/-! ## Numbers -/

theorem readDigits_decimal {width n most : Nat} {rest : List Char}
    (hlength : (decimal width n).toList.length ≤ most) (hrest : EndsDigits rest) :
    readDigits most ((decimal width n).toList ++ rest) = some (n, rest) := by
  have hdigits : (((decimal width n).toList ++ rest).take most).takeWhile Char.isDigit =
      (decimal width n).toList := by
    rw [List.take_append, List.take_of_length_le hlength]
    exact takeWhile_isDigit_append (fun c hc => isDigit_of_mem_decimal hc) (hrest.take _)
  have hsome : (decimal width n).toList ≠ [] := decimal_ne_nil width n
  simp [readDigits, hdigits, hsome, digitsValue_decimal]

theorem readPart_decimal {n : Nat} (hn : n < 100) {rest : List Char} (hrest : EndsDigits rest) :
    readPart ((decimal 2 n).toList ++ rest) = some (n, rest) := by
  have hlength : (decimal 2 n).toList.length = 2 := length_decimal (by decide) hn
  rw [readPart, trimStart_decimal, readDigits_decimal hlength.le hrest]

/-! ## Years -/

theorem readYear_of_isDigit {c : Char} (hc : c.isDigit = true) (rest : List Char) :
    readYear (c :: rest) =
      (readDigits 4 (c :: rest)).map fun (n, rest) => ((n : Int), rest) := by
  have hplus : c ≠ '+' := ne_of_isDigit hc rfl
  have hminus : c ≠ '-' := ne_of_isDigit hc rfl
  simp [readYear, trimStart, isBlank_of_isDigit hc, hplus, hminus]

theorem readYear_minus (rest : List Char) :
    readYear ('-' :: rest) =
      (readDigits rest.length rest).map fun (n, rest) => (-(n : Int), rest) :=
  rfl

theorem readYear_plus (rest : List Char) :
    readYear ('+' :: rest) =
      (readDigits rest.length rest).map fun (n, rest) => ((n : Int), rest) :=
  rfl

/-- A year without a sign is read up to its fourth digit, one with a sign to its last. -/
theorem readYear_yearText (year : Int) {rest : List Char} (hrest : EndsDigits rest) :
    readYear ((yearText year).toList ++ rest) = some (year, rest) := by
  have hsigned : readDigits ((decimal 4 year.natAbs).toList ++ rest).length
      ((decimal 4 year.natAbs).toList ++ rest) = some (year.natAbs, rest) :=
    readDigits_decimal (by simp) hrest
  unfold yearText
  split_ifs with hplain hnegative
  · have hlength : (decimal 4 year.toNat).toList.length = 4 :=
      length_decimal (by decide) (by omega)
    have hread := readDigits_decimal hlength.le hrest
    rcases exists_decimal_eq_cons 4 year.toNat with ⟨c, tail, htext, hdigit⟩
    rw [htext, List.cons_append] at hread ⊢
    have hyear : (year.toNat : Int) = year := Int.toNat_of_nonneg hplain.1
    simp [readYear_of_isDigit hdigit, hread, hyear]
  · have hyear : -(year.natAbs : Int) = year := by omega
    have hminus : "-".toList = ['-'] := rfl
    rw [String.toList_append, hminus, List.singleton_append, List.cons_append, readYear_minus,
      hsigned]
    simp only [Option.map_some, hyear]
  · have hyear : (year.natAbs : Int) = year := by omega
    have hplus : "+".toList = ['+'] := rfl
    rw [String.toList_append, hplus, List.singleton_append, List.cons_append, readYear_plus,
      hsigned]
    simp only [Option.map_some, hyear]

/-! ## Whole texts -/

theorem readMark_cons (mark : Char) (rest : List Char) :
    readMark mark (mark :: rest) = some rest := by
  simp [readMark]

/-- What is written behind the date. -/
def clockChars (t : DateTime) : List Char :=
  (decimal 2 t.hour).toList ++
    ':' :: ((decimal 2 t.minute).toList ++ ':' :: (decimal 2 t.second).toList)

theorem toList_toIsoText (t : DateTime) :
    t.toIsoText.toList =
      (yearText t.year).toList ++
        '-' :: ((decimal 2 t.month).toList ++
          '-' :: ((decimal 2 t.day).toList ++ 'T' :: t.clockChars)) := by
  simp [toIsoText, textWith, partsText, clockChars]

theorem ofParts?_parts (t : DateTime) :
    ofParts? t.year t.month t.day t.hour t.minute t.second = some t := by
  unfold ofParts?
  rw [dif_pos t.isDate, dif_pos t.isTime]

/-- What is read of the text up to the gap, by either form. -/
theorem readWith_toIsoText (gap : Gap) (t : DateTime) :
    readWith gap t.toIsoText.toList = (do
      let text ← readGap gap ('T' :: t.clockChars)
      let (hour, text) ← readPart text
      let text ← readMark ':' text
      let (minute, text) ← readPart text
      let text ← readMark ':' text
      let (second, text) ← readPart text
      if text.isEmpty then ofParts? t.year t.month t.day hour minute second else none) := by
  rcases Codec.month_day_lt_of_isDate t.isDate with ⟨hmonth, hday⟩
  rw [toList_toIsoText, readWith, readYear_yearText t.year (endsDigits_cons rfl _)]
  simp only [Option.bind_eq_bind, Option.bind_some, readMark_cons]
  rw [readPart_decimal (by omega) (endsDigits_cons rfl _)]
  simp only [Option.bind_some, readMark_cons]
  rw [readPart_decimal (by omega) (endsDigits_cons rfl _)]
  rfl

/-- The form with blanks finds the letter where it awaits the hour. -/
theorem readWith_blanks_toIsoText (t : DateTime) :
    readWith .blanks t.toIsoText.toList = none := by
  rw [readWith_toIsoText]
  rfl

theorem readWith_letter_toIsoText (t : DateTime) :
    readWith .letter t.toIsoText.toList = some t := by
  rcases t.isTime with ⟨hhour, hminute, hsecond⟩
  have hlast : readPart (decimal 2 t.second).toList = some (t.second, []) := by
    simpa using readPart_decimal (by omega) endsDigits_nil (n := t.second)
  rw [readWith_toIsoText]
  simp only [readGap, readMark_cons, Option.bind_eq_bind, Option.bind_some, clockChars]
  rw [readPart_decimal (by omega) (endsDigits_cons rfl _)]
  simp only [Option.bind_some, readMark_cons]
  rw [readPart_decimal (by omega) (endsDigits_cons rfl _)]
  simp [readMark_cons, hlast, ofParts?_parts]

/-- A date and time is read from its text. -/
theorem ofText?_toIsoText (t : DateTime) : ofText? t.toIsoText = some t := by
  rw [ofText?, readWith_blanks_toIsoText, readWith_letter_toIsoText]
  rfl

end DateTime

end PowerLink
