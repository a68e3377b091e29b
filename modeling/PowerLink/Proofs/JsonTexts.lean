import PowerLink.Json.Decoder
import PowerLink.Proofs.KeyMaps
import PowerLink.Proofs.Numerals
import Mathlib.Tactic

/-!
# JSON texts are read as they are written

The text of a value without doubles is read back as that value, whatever comes behind
it, unless that goes on with a number.  A string keeps every character, since each
escape is undone where it is met and nothing else is changed.  Values in containers are
read one after the other; each uses up its own text and no more, and the fuel of the
reader exceeds the length of what is left to read.
-/

namespace PowerLink.Json

/-! ## Strings -/

theorem hexUnit?_control {code : Nat} (hcode : code < 0x20) :
    hexUnit? '0' '0' (Nat.digitChar (code / 16)) (Nat.digitChar (code % 16)) = some code := by
  decide +revert

theorem StringState.pushUnit_control (s : StringState) {c : Char} (hc : c.toNat < 0x20) :
    s.pushUnit c.toNat = s.push c := by
  have htrail : isTrailSurrogate c.toNat = false := by
    simp only [isTrailSurrogate, Bool.and_eq_false_iff, decide_eq_false_iff_not]
    omega
  have hlead : isLeadSurrogate c.toNat = false := by
    simp only [isLeadSurrogate, Bool.and_eq_false_iff, decide_eq_false_iff_not]
    omega
  simp [pushUnit, htrail, hlead, Char.ofNat_toNat]

/-- An escaped character is taken up as that character. -/
theorem scanString_escapedChar (s : StringState) (c : Char) (rest : List Char) :
    scanString s (escapedChar c ++ rest) = scanString (s.push c) rest := by
  unfold escapedChar
  split_ifs with hquote hslash hback hfeed hline hreturn htab hcontrol
  · subst hquote
    rfl
  · subst hslash
    rfl
  · subst hback
    rfl
  · subst hfeed
    rfl
  · subst hline
    rfl
  · subst hreturn
    rfl
  · subst htab
    rfl
  · have hunit := hexUnit?_control hcontrol
    rw [← s.pushUnit_control hcontrol]
    simp only [List.cons_append, List.nil_append, scanString, hunit]
  · rw [List.singleton_append, scanString.eq_def]
    split
    all_goals simp_all

theorem scanString_flatMap (text acc rest : List Char) :
    scanString ⟨acc, none, false⟩ (text.flatMap escapedChar ++ '"' :: rest) =
      ⟨.ok (String.ofList (acc.reverse ++ text)), .ok rest⟩ := by
  induction text generalizing acc with
  | nil =>
      simp [scanString, StringState.finish]
  | cons c text ih =>
      have hnext := ih (c :: acc)
      rw [List.flatMap_cons, List.append_assoc, scanString_escapedChar]
      simpa [StringState.push] using hnext

/-- What follows the opening quote of a quoted text. -/
theorem scanString_quoted (text : String) (rest : List Char) :
    scanString .initial (text.toList.flatMap escapedChar ++ '"' :: rest) =
      ⟨.ok text, .ok rest⟩ := by
  simpa [StringState.initial] using scanString_flatMap text.toList [] rest

theorem toList_quote (text : String) :
    (quote text).toList = '"' :: (text.toList.flatMap escapedChar ++ ['"']) := by
  simp [quote]

theorem readString_quoted (text : String) (rest : List Char) :
    readString (text.toList.flatMap escapedChar ++ '"' :: rest) =
      (.string (.ok text), some rest) := by
  simp [readString, scanString_quoted]

/-! ## Numbers -/

/-- What follows does not go on with a number. -/
def Delimits (rest : List Char) : Prop :=
  ∀ c ∈ rest.head?, c.isDigit = false ∧ c ≠ '.' ∧ c ≠ 'e' ∧ c ≠ 'E'

theorem delimits_nil : Delimits [] := by
  simp [Delimits]

theorem delimits_cons {c : Char} {rest : List Char}
    (hc : c.isDigit = false ∧ c ≠ '.' ∧ c ≠ 'e' ∧ c ≠ 'E') : Delimits (c :: rest) := by
  simpa [Delimits] using hc

theorem Delimits.endsDigits {rest : List Char} (hrest : Delimits rest) :
    Text.EndsDigits rest :=
  fun c hc => (hrest c hc).1

/-- The digits of a number, the most significant one first. -/
def decimalDigits (n : Nat) : List Nat :=
  (Nat.toDigits 10 n).map fun c => c.toNat - '0'.toNat

theorem someDigits_toDigits (n : Nat) {rest : List Char} (hrest : Delimits rest) :
    someDigits (Nat.toDigits 10 n ++ rest) = .ok (decimalDigits n, rest) := by
  have hdigit : ∀ c ∈ Nat.toDigits 10 n, c.isDigit = true :=
    fun c hc => Text.isDigit_of_mem_toDigits hc
  have hdigits : leadingDigits (Nat.toDigits 10 n ++ rest) = (decimalDigits n, rest) := by
    rw [leadingDigits, Text.takeWhile_isDigit_append hdigit hrest.endsDigits,
      Text.dropWhile_isDigit_append hdigit hrest.endsDigits, decimalDigits]
  have htext : Nat.toDigits 10 n ≠ [] := Nat.toDigits_ne_nil
  unfold someDigits
  split
  next hempty => simp [htext] at hempty
  next _ hnone _ =>
    rw [hdigits] at hnone
    simp [decimalDigits, htext] at hnone
  next => rw [hdigits]

theorem exists_toDigits_eq_cons (n : Nat) :
    ∃ c tail, Nat.toDigits 10 n = c :: tail ∧ c.isDigit = true := by
  simpa [Text.decimal_one] using Text.exists_decimal_eq_cons 1 n

/-- Only zero itself starts with a zero. -/
theorem tail_nil_of_toDigits {n : Nat} {tail : List Char}
    (htext : Nat.toDigits 10 n = '0' :: tail) : tail = [] := by
  induction n using Nat.strong_induction_on generalizing tail with
  | _ n ih =>
      rcases Nat.lt_or_ge n 10 with hlt | hge
      · rw [Nat.toDigits_of_lt_base hlt] at htext
        simpa using (List.cons.inj htext).2.symm
      · rw [Nat.toDigits_of_base_le (by decide) hge] at htext
        cases hfront : Nat.toDigits 10 (n / 10) with
        | nil => exact absurd hfront Nat.toDigits_ne_nil
        | cons c front =>
            have hzero : c = '0' := by
              rw [hfront] at htext
              exact (List.cons.inj htext).1
            rw [hzero] at hfront
            rw [ih (n / 10) (by omega) hfront] at hfront
            have hvalue : Nat.ofDigitChars 10 (Nat.toDigits 10 (n / 10)) 0 = n / 10 :=
              Nat.ofDigitChars_ten_toDigits
            rw [hfront] at hvalue
            have hnone : Nat.ofDigitChars 10 ['0'] 0 = 0 := rfl
            omega

theorem eq_zero_of_isDigit {c : Char} (hc : c.isDigit = true)
    (hzero : c.toNat - '0'.toNat = 0) : c = '0' := by
  have hrange := Text.toNat_of_isDigit hc
  have hbase : '0'.toNat = 48 := rfl
  have hcode : c.toNat = '0'.toNat := by omega
  rw [← Char.ofNat_toNat c, hcode]
  rfl

namespace Literal

theorem readWhole_toDigits (n : Nat) {rest : List Char} (hrest : Delimits rest) :
    readWhole (Nat.toDigits 10 n ++ rest) =
      .ok (decimalDigits n, rest) := by
  simp only [readWhole, someDigits_toDigits n hrest, bind, Except.bind]
  split
  next digit more hdigits =>
    rcases List.map_eq_cons_iff.mp hdigits with ⟨c, tail, htext, hzero, htail⟩
    have hdigit : c.isDigit = true := Text.isDigit_of_mem_toDigits (n := n) (by simp [htext])
    rw [eq_zero_of_isDigit hdigit hzero] at htext
    rw [tail_nil_of_toDigits htext] at htail
    cases htail
  next => rfl

theorem read_toDigits (n : Nat) {rest : List Char} (hrest : Delimits rest) :
    read (Nat.toDigits 10 n ++ rest) =
      .ok (⟨false, decimalDigits n, [], 0, true⟩, rest) := by
  have hfraction : readFraction rest = .ok (none, rest) := by
    cases rest with
    | nil => rfl
    | cons c rest =>
        have hc := hrest c (by simp)
        simp [readFraction, hc.2.1, pure, Except.pure]
  have hexponent : readExponent rest = .ok (none, rest) := by
    cases rest with
    | nil => rfl
    | cons c rest =>
        have hc := hrest c (by simp)
        simp [readExponent, hc.2.2.1, hc.2.2.2, pure, Except.pure]
  have hwhole := readWhole_toDigits n hrest
  rcases exists_toDigits_eq_cons n with ⟨c, tail, htext, hdigit⟩
  have hminus : c ≠ '-' := Text.ne_of_isDigit hdigit rfl
  rw [htext, List.cons_append] at hwhole ⊢
  simp [read, hminus, hwhole, hfraction, hexponent, bind, Except.bind, pure, Except.pure]

theorem le_ofDigitChars (digits : List Char) (total : Nat) :
    total ≤ Nat.ofDigitChars 10 digits total := by
  induction digits generalizing total with
  | nil => simp
  | cons c rest ih =>
      rw [Nat.ofDigitChars_cons]
      have hnext := ih (10 * total + (c.toNat - '0'.toNat))
      omega

/-- Digits that stay within 64 bits are all absorbed. -/
theorem absorb_of_lt {digits : List Char} {total : Nat}
    (hfits : Nat.ofDigitChars 10 digits total < UInt64.size) :
    absorb total (digits.map fun c => c.toNat - '0'.toNat) =
      (Nat.ofDigitChars 10 digits total, []) := by
  induction digits generalizing total with
  | nil => simp [absorb]
  | cons c rest ih =>
      rw [Nat.ofDigitChars_cons] at hfits ⊢
      have hstep := le_ofDigitChars rest (10 * total + (c.toNat - '0'.toNat))
      rw [List.map_cons, absorb, if_pos (hstep.trans_lt hfits)]
      exact ih hfits

end Literal

theorem readNumber_toDigits {n : Nat} (hn : n < UInt64.size) {rest : List Char}
    (hrest : Delimits rest) :
    readNumber (Nat.toDigits 10 n ++ rest) = (.number (.ok (.natural n)), some rest) := by
  have hvalue : Nat.ofDigitChars 10 (Nat.toDigits 10 n) 0 = n :=
    Nat.ofDigitChars_ten_toDigits
  have habsorb : Literal.absorb 0 (decimalDigits n) = (n, []) := by
    rw [decimalDigits, Literal.absorb_of_lt (hvalue.trans_lt hn), hvalue]
  simp [readNumber, Literal.read_toDigits n hrest, Literal.value, habsorb, pure, Except.pure]

/-! ## The outline of a value -/

mutual

/-- What the text of a value is read into. -/
def outline : Json → Outline
  | .null => .null
  | .bool b => .bool b
  | .number n => .number (.ok n)
  | .string s => .string (.ok s)
  | .array items => .array (itemOutlines items)
  | .object members => .object (memberOutlines members)

def itemOutlines : List Json → Items
  | [] => .done .closed
  | item :: rest => .item item.outline (itemOutlines rest)

def memberOutlines : List (String × Json) → Members
  | [] => .done .closed
  | (key, value) :: rest => .member (.ok key) value.outline (memberOutlines rest)

end

/-- The characters of a value's text. -/
def chars (json : Json) : List Char :=
  json.toText.toList

/-- The characters of a member behind its opening quote. -/
def memberChars (member : String × Json) : List Char :=
  member.1.toList.flatMap escapedChar ++ '"' :: ':' :: member.2.chars

theorem length_chars_lt_memberChars (member : String × Json) :
    member.2.chars.length < (memberChars member).length := by
  rw [memberChars, List.length_append, List.length_cons, List.length_cons]
  omega

theorem itemTexts_eq_map (items : List Json) : itemTexts items = items.map toText := by
  induction items with
  | nil => rfl
  | cons item rest ih => rw [itemTexts, ih, List.map_cons]

theorem memberTexts_eq_map (members : List (String × Json)) :
    memberTexts members =
      members.map fun member => quote member.1 ++ ":" ++ member.2.toText := by
  induction members with
  | nil => rfl
  | cons member rest ih => rw [memberTexts, ih, List.map_cons]

theorem toList_memberTexts (members : List (String × Json)) :
    (memberTexts members).map String.toList =
      members.map fun member => '"' :: memberChars member := by
  simp [memberTexts_eq_map, Function.comp_def, memberChars, toList_quote, chars]

theorem intercalate_comma (first : List Char) (others : List (List Char)) :
    [','].intercalate (first :: others) = first ++ others.flatMap (',' :: ·) := by
  induction others generalizing first with
  | nil => simp
  | cons next others ih =>
      rw [List.intercalate_cons_cons, ih next, List.flatMap_cons]
      simp

theorem chars_array_cons (first : Json) (others : List Json) :
    (array (first :: others)).chars =
      '[' :: (first.chars ++ (others.flatMap fun item => ',' :: item.chars) ++ [']']) := by
  simp [chars, toText, itemTexts_eq_map, String.toList_intercalate, intercalate_comma,
    List.flatMap_map]

theorem chars_object_cons (first : String × Json) (others : List (String × Json)) :
    (object (first :: others)).chars =
      '\x7b' :: '"' ::
        (memberChars first ++ (others.flatMap fun member => ',' :: '"' :: memberChars member) ++
          ['\x7d']) := by
  simp [chars, toText, toList_memberTexts, String.toList_intercalate, intercalate_comma,
    List.flatMap_map]

/-! ## Values -/

/-- The value is read from its text, and nothing that follows is used up. -/
structure IsReadBack (json : Json) : Prop where
  starts : ∃ c rest, json.chars = c :: rest ∧ isJsonBlank c = false ∧ c ≠ ']'
  reads : ∀ fuel rest, json.chars.length < fuel → Delimits rest →
    readValue fuel (json.chars ++ rest) = (json.outline, some rest)

theorem isReadBack_of_succ {json : Json}
    (hstarts : ∃ c rest, json.chars = c :: rest ∧ isJsonBlank c = false ∧ c ≠ ']')
    (hreads : ∀ fuel rest, json.chars.length ≤ fuel → Delimits rest →
      readValue (fuel + 1) (json.chars ++ rest) = (json.outline, some rest)) :
    json.IsReadBack where
  starts := hstarts
  reads := by
    intro fuel rest hfuel hrest
    cases fuel with
    | zero => cases hfuel
    | succ fuel => exact hreads fuel rest (Nat.le_of_lt_succ hfuel) hrest

theorem isReadBack_null : IsReadBack null :=
  isReadBack_of_succ ⟨'n', _, rfl, rfl, by decide⟩ fun _ _ _ _ => rfl

theorem isReadBack_bool (b : Bool) : IsReadBack (bool b) := by
  cases b with
  | false => exact isReadBack_of_succ ⟨'f', _, rfl, rfl, by decide⟩ fun _ _ _ _ => rfl
  | true => exact isReadBack_of_succ ⟨'t', _, rfl, rfl, by decide⟩ fun _ _ _ _ => rfl

theorem isReadBack_natural {n : Nat} (hn : n < UInt64.size) :
    IsReadBack (number (.natural n)) := by
  have htext : (number (.natural n)).chars = Nat.toDigits 10 n := Text.decimal_one n
  rcases exists_toDigits_eq_cons n with ⟨c, tail, hdigits, hdigit⟩
  have hother : ∀ d : Char, d.isDigit = false → c ≠ d :=
    fun d hd => Text.ne_of_isDigit hdigit hd
  apply isReadBack_of_succ
  · refine ⟨c, tail, htext.trans hdigits, ?_, hother _ rfl⟩
    simp [isJsonBlank, hother]
  · intro fuel rest _ hrest
    have hread := readNumber_toDigits hn hrest
    rw [htext, hdigits, List.cons_append] at *
    simp [readValue, hother, hdigit, hread, outline]

theorem isReadBack_string (s : String) : IsReadBack (string s) := by
  have htext : (string s).chars = '"' :: (s.toList.flatMap escapedChar ++ ['"']) :=
    toList_quote s
  apply isReadBack_of_succ ⟨'"', _, htext, rfl, by decide⟩
  intro fuel rest _ _
  rw [htext, List.cons_append, List.append_assoc, List.singleton_append]
  simp [readValue, readString_quoted, outline]

/-! ## Containers -/

theorem skipBlanks_cons {c : Char} (hc : isJsonBlank c = false) (rest : List Char) :
    skipBlanks (c :: rest) = c :: rest := by
  simp [skipBlanks, hc]

theorem IsReadBack.skipBlanks_chars {value : Json} (hvalue : value.IsReadBack)
    (rest : List Char) : skipBlanks (value.chars ++ rest) = value.chars ++ rest := by
  rcases hvalue.starts with ⟨c, tail, hchars, hblank, _⟩
  rw [hchars, List.cons_append, skipBlanks_cons hblank]

section

variable {value : Json} (hvalue : value.IsReadBack) {fuel : Nat}
  (hfuel : value.chars.length < fuel)

include hvalue hfuel

theorem readItems_last (rest : List Char) :
    readItems (fuel + 1) (value.chars ++ ']' :: rest) =
      (.item value.outline (.done .closed), some rest) := by
  rw [readItems, hvalue.reads fuel _ hfuel (delimits_cons (by decide))]
  rfl

theorem readItems_comma {c : Char} (hblank : isJsonBlank c = false) (hbracket : c ≠ ']')
    (rest : List Char) :
    readItems (fuel + 1) (value.chars ++ ',' :: c :: rest) =
      (.item value.outline (readItems fuel (c :: rest)).1,
        (readItems fuel (c :: rest)).2) := by
  rw [readItems, hvalue.reads fuel _ hfuel (delimits_cons (by decide))]
  simp [skipBlanks_cons (c := ',') rfl, skipBlanks_cons hblank, hbracket]

theorem readMembers_last (key : String) (rest : List Char) :
    readMembers (fuel + 1) (memberChars (key, value) ++ '\x7d' :: rest) =
      (.member (.ok key) value.outline (.done .closed), some rest) := by
  have hread := hvalue.reads fuel ('\x7d' :: rest) hfuel (delimits_cons (by decide))
  simp [readMembers, memberChars, scanString_quoted, skipBlanks_cons (c := ':') rfl,
    hvalue.skipBlanks_chars, hread, skipBlanks_cons (c := '\x7d') rfl]

theorem readMembers_comma (key : String) (rest : List Char) :
    readMembers (fuel + 1) (memberChars (key, value) ++ ',' :: '"' :: rest) =
      (.member (.ok key) value.outline (readMembers fuel rest).1,
        (readMembers fuel rest).2) := by
  have hread := hvalue.reads fuel (',' :: '"' :: rest) hfuel (delimits_cons (by decide))
  simp [readMembers, memberChars, scanString_quoted, skipBlanks_cons (c := ':') rfl,
    hvalue.skipBlanks_chars, hread, skipBlanks_cons (c := ',') rfl,
    skipBlanks_cons (c := '"') rfl]

end

/-- The items between the brackets are read one after the other. The fuel is more than the
length of their texts, of which each item takes at least one character. -/
theorem readItems_chars {first : Json} {others : List Json}
    (hitems : ∀ item ∈ first :: others, item.IsReadBack) {fuel : Nat}
    (hfuel : (first.chars ++ others.flatMap fun item => ',' :: item.chars).length < fuel)
    (rest : List Char) :
    readItems (fuel + 1)
        (first.chars ++ ((others.flatMap fun item => ',' :: item.chars) ++ ']' :: rest)) =
      (itemOutlines (first :: others), some rest) := by
  have hfirst : first.IsReadBack := hitems first (List.mem_cons_self ..)
  rw [List.length_append] at hfuel
  have hshort : first.chars.length < fuel := by omega
  induction others generalizing first fuel with
  | nil => exact readItems_last hfirst hshort rest
  | cons next others ih =>
      have hlater : ∀ item ∈ next :: others, item.IsReadBack :=
        fun item hitem => hitems item (List.mem_cons_of_mem first hitem)
      have hnext : next.IsReadBack := hlater next (List.mem_cons_self ..)
      rw [List.flatMap_cons, List.length_append, List.length_cons] at hfuel
      rcases Nat.exists_eq_succ_of_ne_zero (Nat.ne_zero_of_lt hfuel) with ⟨less, rfl⟩
      have hleft : next.chars.length + (others.flatMap fun item => ',' :: item.chars).length <
          less := by omega
      have hread := ih hlater hleft hnext (by omega)
      rcases hnext.starts with ⟨c, tail, hchars, hblank, hbracket⟩
      rw [hchars, List.cons_append] at hread
      have hcomma := readItems_comma hfirst hshort hblank hbracket
        (tail ++ ((others.flatMap fun item => ',' :: item.chars) ++ ']' :: rest))
      rw [hread] at hcomma
      simpa [itemOutlines, hchars] using hcomma

theorem isReadBack_array {items : List Json} (hitems : ∀ item ∈ items, item.IsReadBack) :
    IsReadBack (array items) := by
  cases items with
  | nil => exact isReadBack_of_succ ⟨'[', _, rfl, rfl, by decide⟩ fun _ _ _ _ => rfl
  | cons first others =>
      apply isReadBack_of_succ ⟨'[', _, chars_array_cons first others, rfl, by decide⟩
      intro fuel rest hfuel _
      rw [chars_array_cons, List.length_cons, List.length_append, List.length_singleton] at hfuel
      rcases Nat.exists_eq_succ_of_ne_zero (Nat.ne_zero_of_lt hfuel) with ⟨less, rfl⟩
      have hbody : (first.chars ++ others.flatMap fun item => ',' :: item.chars).length < less := by
        omega
      have hread := readItems_chars hitems hbody rest
      rcases (hitems first (List.mem_cons_self ..)).starts with
        ⟨c, tail, hchars, hblank, hbracket⟩
      rw [hchars, List.cons_append] at hread
      rw [chars_array_cons, hchars]
      simp [readValue, skipBlanks_cons hblank, hbracket, hread, outline]

/-- The members are read one after the other, from behind the first quote. -/
theorem readMembers_chars {first : String × Json} {others : List (String × Json)}
    (hmembers : ∀ member ∈ first :: others, member.2.IsReadBack) {fuel : Nat}
    (hfuel : (memberChars first ++
      others.flatMap fun member => ',' :: '"' :: memberChars member).length < fuel)
    (rest : List Char) :
    readMembers (fuel + 1)
        (memberChars first ++
          ((others.flatMap fun member => ',' :: '"' :: memberChars member) ++ '\x7d' :: rest)) =
      (memberOutlines (first :: others), some rest) := by
  have hvalue : first.2.IsReadBack := hmembers first (List.mem_cons_self ..)
  have hlength := length_chars_lt_memberChars first
  rw [List.length_append] at hfuel
  have hshort : first.2.chars.length < fuel := by omega
  induction others generalizing first fuel with
  | nil => exact readMembers_last hvalue hshort first.1 rest
  | cons next others ih =>
      have hlater : ∀ member ∈ next :: others, member.2.IsReadBack :=
        fun member hmember => hmembers member (List.mem_cons_of_mem first hmember)
      have hnext : next.2.IsReadBack := hlater next (List.mem_cons_self ..)
      rw [List.flatMap_cons, List.length_append, List.length_cons, List.length_cons] at hfuel
      have hnextLength := length_chars_lt_memberChars next
      rcases Nat.exists_eq_succ_of_ne_zero (Nat.ne_zero_of_lt hfuel) with ⟨less, rfl⟩
      have hleft : (memberChars next).length +
          (others.flatMap fun member => ',' :: '"' :: memberChars member).length < less := by
        omega
      have hread := ih hlater hleft hnext hnextLength (by omega)
      have hcomma := readMembers_comma hvalue hshort first.1
        (memberChars next ++
          ((others.flatMap fun member => ',' :: '"' :: memberChars member) ++ '\x7d' :: rest))
      rw [hread] at hcomma
      simpa [memberOutlines] using hcomma

theorem isReadBack_object {members : List (String × Json)}
    (hmembers : ∀ member ∈ members, member.2.IsReadBack) : IsReadBack (object members) := by
  cases members with
  | nil => exact isReadBack_of_succ ⟨'\x7b', _, rfl, rfl, by decide⟩ fun _ _ _ _ => rfl
  | cons first others =>
      apply isReadBack_of_succ ⟨'\x7b', _, chars_object_cons first others, rfl, by decide⟩
      intro fuel rest hfuel _
      rw [chars_object_cons, List.length_cons, List.length_cons, List.length_append,
        List.length_singleton] at hfuel
      rcases Nat.exists_eq_succ_of_ne_zero (Nat.ne_zero_of_lt hfuel) with ⟨less, rfl⟩
      have hbody : (memberChars first ++
          others.flatMap fun member => ',' :: '"' :: memberChars member).length < less := by
        omega
      have hread := readMembers_chars hmembers hbody rest
      rw [chars_object_cons]
      simp [readValue, skipBlanks_cons (c := '"') rfl, hread, outline]

/-! ## Values whose texts give them back -/

/-- The value holds no number but natural ones of at most 64 bits, its objects are in key
order, and its containers are nested at most this deep. -/
inductive Lossless : Nat → Json → Prop
  | null (depth : Nat) : Lossless depth .null
  | bool (depth : Nat) (b : Bool) : Lossless depth (.bool b)
  | natural (depth : Nat) {n : Nat} (hn : n < UInt64.size) : Lossless depth (nat n)
  | string (depth : Nat) (s : String) : Lossless depth (.string s)
  | array {depth : Nat} {items : List Json} (hitems : ∀ item ∈ items, Lossless depth item) :
      Lossless (depth + 1) (.array items)
  | object {depth : Nat} {members : List (String × Json)}
      (hordered : KeyMap.Ordered members)
      (hmembers : ∀ member ∈ members, Lossless depth member.2) :
      Lossless (depth + 1) (.object members)

namespace Lossless

variable {depth room : Nat} {json : Json}

theorem isReadBack (hjson : Lossless depth json) : json.IsReadBack := by
  induction hjson with
  | null => exact isReadBack_null
  | bool depth b => exact isReadBack_bool b
  | natural depth hn => exact isReadBack_natural hn
  | string depth s => exact isReadBack_string s
  | array hitems ih => exact isReadBack_array ih
  | object hordered hmembers ih => exact isReadBack_object ih

theorem keep_itemOutlines {items : List Json}
    (hitems : ∀ item ∈ items, item.outline.keep room = .ok item) :
    (itemOutlines items).keep room = .ok items := by
  induction items with
  | nil => rfl
  | cons item rest ih =>
      have hitem := hitems item (List.mem_cons_self ..)
      have hrest := ih fun other hother => hitems other (List.mem_cons_of_mem item hother)
      simp [itemOutlines, Items.keep, hitem, hrest, bind, Except.bind, pure, Except.pure]

theorem keep_memberOutlines {members : List (String × Json)}
    (hmembers : ∀ member ∈ members, member.2.outline.keep room = .ok member.2) :
    (memberOutlines members).keep room = .ok members := by
  induction members with
  | nil => rfl
  | cons member rest ih =>
      have hmember := hmembers member (List.mem_cons_self ..)
      have hrest := ih fun other hother =>
        hmembers other (List.mem_cons_of_mem member hother)
      simp [memberOutlines, Members.keep, hmember, hrest, bind, Except.bind, pure, Except.pure]

/-- The outline of a value holds the value, where there is room for its containers. -/
theorem keep_outline (hjson : Lossless depth json) (hroom : depth < room) :
    json.outline.keep room = .ok json := by
  induction hjson generalizing room with
  | null | bool | natural | string => rfl
  | array hitems ih =>
      have henter : enter room = .ok (room - 1) := if_neg (by omega)
      have hinner := fun item hitem => ih item hitem (Nat.lt_sub_of_add_lt hroom)
      have hkept := keep_itemOutlines hinner
      simp [outline, Outline.keep, henter, hkept, bind, Except.bind, pure, Except.pure]
  | object hordered hmembers ih =>
      have henter : enter room = .ok (room - 1) := if_neg (by omega)
      have hinner := fun member hmember => ih member hmember (Nat.lt_sub_of_add_lt hroom)
      have hkept := keep_memberOutlines hinner
      simp [outline, Outline.keep, henter, hkept, bind, Except.bind, pure, Except.pure,
        ofMembers, KeyMap.ofList_of_ordered hordered]

theorem sketch_toText (hjson : Lossless depth json) :
    sketch json.toText = ⟨json.outline, true⟩ := by
  have hskip : skipBlanks json.chars = json.chars := by
    simpa using hjson.isReadBack.skipBlanks_chars []
  have hread := hjson.isReadBack.reads (2 * json.chars.length + 2) [] (by omega) delimits_nil
  rw [List.append_nil] at hread
  have htext : json.toText.toList = json.chars := rfl
  simp only [sketch, htext, hskip, hread]
  rfl

/-- The text of a value is read as that value. -/
theorem ofText_toText (hjson : Lossless depth json) (hdepth : depth < fullRoom) :
    ofText json.toText = .ok json := by
  simp [ofText, decode, hjson.sketch_toText, Decoder.json, hjson.keep_outline hdepth,
    bind, Except.bind, pure, Except.pure]

/-- Members of any form are kept as they are. -/
theorem members_json (room : Nat) :
    (members : Members) → Decoder.members Decoder.json room members = members.keep room
  | .done _ => rfl
  | .member key value rest => by
      simp only [Decoder.members, Members.keep, Decoder.json, members_json room rest]

/-- The text of an object is read as the map of its members. -/
theorem decode_map_toText {members : List (String × Json)}
    (hmembers : ∀ member ∈ members, Lossless depth member.2)
    (hordered : KeyMap.Ordered members) (hdepth : depth + 1 < fullRoom) :
    decode (Decoder.map Decoder.json) (Json.object members).toText = .ok ⟨members, hordered⟩ := by
  have hsketch := (Lossless.object hordered hmembers).sketch_toText
  have hkept : (memberOutlines members).keep (fullRoom - 1) = .ok members :=
    keep_memberOutlines fun member hmember => (hmembers member hmember).keep_outline (by omega)
  have henter : enter fullRoom = .ok (fullRoom - 1) := rfl
  simp [decode, hsketch, outline, Decoder.map, henter, members_json, hkept,
    KeyMap.ofList_of_ordered hordered, bind, Except.bind, pure, Except.pure]

end Lossless

end PowerLink.Json
