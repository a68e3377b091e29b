import PowerLink.Proofs.FieldLists
import PowerLink.Proofs.NumeralGrammar

/-!
# Which texts are identifiers

The identifier of a command may be given as a text, which is at most one `0x` or `0X` and
behind it a hexadecimal numeral up to 255.  The mark stands in front of the plus sign.  A
command entry becomes a command exactly if both identifiers can be read and its fields
can be laid out, and the first text that is no identifier is the one that is reported.
-/

namespace PowerLink

open Results Text

def IsIdentifier (text : String) (id : UInt8) : Prop :=
  ∃ mark digits, (mark = "" ∨ mark = "0x" ∨ mark = "0X") ∧ text = mark ++ digits ∧
    IsNumeral 16 digits.toList id.toNat

/-- The text without its mark, if it has one. -/
def withoutMark : List Char → List Char
  | '0' :: 'x' :: digits => digits
  | '0' :: 'X' :: digits => digits
  | digits => digits

/-- The entry gives the identifier, as a number or as a text. -/
inductive IdEntry.Gives : IdEntry → UInt8 → Prop
  | number (id : UInt8) : Gives (.number id) id
  | text {text : String} {id : UInt8} (hid : IsIdentifier text id) : Gives (.text text) id

/-- The command is what the entry describes. -/
structure CommandEntry.Describes (entry : CommandEntry) (group : Group) (command : Command) :
    Prop where
  id1_given : entry.id1.Gives command.id1
  id2_given : entry.id2.Gives command.id2
  key_eq : command.key = entry.key
  name_eq : command.name = if entry.name.isEmpty then entry.key else entry.name
  group_eq : command.group = group
  params_laidOut : layOutFields entry.key entry.params = .ok command.params
  values_laidOut : layOutFields entry.key entry.values = .ok command.values

/-- The text is the first of the two identifiers that is none. -/
inductive CommandEntry.Misnames (entry : CommandEntry) (text : String) : Prop
  | first (htext : entry.id1 = .text text) (hno : ∀ id, ¬ IsIdentifier text id)
  | second {id1 : UInt8} (hfirst : entry.id1.Gives id1) (htext : entry.id2 = .text text)
      (hno : ∀ id, ¬ IsIdentifier text id)

/-! ## One identifier -/

section

variable {text command : String} {id : UInt8} {entry : IdEntry}

/-- A numeral has no mark of its own. -/
theorem not_isNumeral_of_marked {digits : List Char} {n : Nat} {letter : Char}
    (hletter : letter = 'x' ∨ letter = 'X') : ¬ IsNumeral 16 ('0' :: letter :: digits) n := by
  intro hnumeral
  have hx : ∀ c ∈ '0' :: letter :: digits, c ≠ 'x' ∧ c ≠ 'X' :=
    hnumeral.forall_mem le_rfl (by decide) (by decide)
  have hne := hx letter (by simp)
  rcases hletter with rfl | rfl
  · exact hne.1 rfl
  · exact hne.2 rfl

theorem isIdentifier_iff_of_marked {digits : List Char} {letter : Char}
    (hletter : letter = 'x' ∨ letter = 'X') (htext : text.toList = '0' :: letter :: digits) :
    IsIdentifier text id ↔ IsNumeral 16 digits id.toNat := by
  constructor
  · rintro ⟨mark, numeral, rfl | rfl | rfl, rfl, hnumeral⟩
    · -- Without a mark the letter would have to be a digit.
      have hmarked : numeral.toList = '0' :: letter :: digits := by simpa using htext
      rw [hmarked] at hnumeral
      exact absurd hnumeral (not_isNumeral_of_marked hletter)
    · have hdigits : 'x' = letter ∧ numeral.toList = digits := by simpa using htext
      rwa [← hdigits.2]
    · have hdigits : 'X' = letter ∧ numeral.toList = digits := by simpa using htext
      rwa [← hdigits.2]
  · intro hnumeral
    have hnumeral : IsNumeral 16 (String.ofList digits).toList id.toNat := by
      rwa [String.toList_ofList]
    rcases hletter with rfl | rfl
    · exact ⟨"0x", _, by simp, String.toList_injective (by simp [htext]), hnumeral⟩
    · exact ⟨"0X", _, by simp, String.toList_injective (by simp [htext]), hnumeral⟩

theorem isIdentifier_iff_of_unmarked (hsmall : ∀ digits, text.toList ≠ '0' :: 'x' :: digits)
    (hlarge : ∀ digits, text.toList ≠ '0' :: 'X' :: digits) :
    IsIdentifier text id ↔ IsNumeral 16 text.toList id.toNat := by
  constructor
  · rintro ⟨mark, numeral, rfl | rfl | rfl, rfl, hnumeral⟩
    · rwa [String.empty_append]
    · exact absurd (by simp) (hsmall numeral.toList)
    · exact absurd (by simp) (hlarge numeral.toList)
  · intro hnumeral
    exact ⟨"", text, .inl rfl, String.empty_append.symm, hnumeral⟩

theorem isIdentifier_iff :
    IsIdentifier text id ↔ IsNumeral 16 (withoutMark text.toList) id.toNat := by
  unfold withoutMark
  split
  next digits htext => exact isIdentifier_iff_of_marked (.inl rfl) htext
  next digits htext => exact isIdentifier_iff_of_marked (.inr rfl) htext
  next hsmall hlarge => exact isIdentifier_iff_of_unmarked hsmall hlarge

theorem idOfText?_eq_map (text : String) :
    idOfText? text = (numeralUpTo? 16 255 (withoutMark text.toList)).map UInt8.ofNat :=
  rfl

theorem idOfText?_eq_some_iff : idOfText? text = some id ↔ IsIdentifier text id := by
  rw [idOfText?_eq_map, map_numeralUpTo?_eq_some_iff le_rfl, isIdentifier_iff]

example : idOfText? "0X+00fF" = some 255 := by
  rfl

theorem idOfText?_eq_none_iff : idOfText? text = none ↔ ∀ id, ¬ IsIdentifier text id := by
  simp only [Option.eq_none_iff_forall_ne_some, ne_eq, idOfText?_eq_some_iff]

theorem IdEntry.check_eq_ok_iff : entry.check command = .ok id ↔ entry.Gives id := by
  cases entry with
  | number n =>
      constructor
      · intro hcheck
        obtain rfl := Except.ok.inj hcheck
        exact .number n
      · rintro ⟨⟩
        rfl
  | text text =>
      simp only [check]
      constructor
      · intro hcheck
        split at hcheck
        next found hfound =>
          obtain rfl := Except.ok.inj hcheck
          exact .text (idOfText?_eq_some_iff.mp hfound)
        next => cases hcheck
      · rintro (_ | hid)
        rw [idOfText?_eq_some_iff.mpr hid]

theorem IdEntry.check_eq_error_iff {e : SchemaError} :
    entry.check command = .error e ↔
      ∃ text, entry = .text text ∧ (∀ id, ¬ IsIdentifier text id) ∧
        e = .invalidId command text := by
  cases entry with
  | number n => simp [check]
  | text text =>
      simp only [check, ← idOfText?_eq_none_iff, IdEntry.text.injEq, exists_eq_left']
      cases idOfText? text with
      | none => simp [eq_comm]
      | some id => simp

end

/-! ## Whole entries -/

section

variable {command key text : String} {group : Group} {entry : CommandEntry}

theorem Placement.quantity_ne_invalidId {placed : Placement} {field : FieldEntry} :
    placed.quantity command field ≠ .error (.invalidId key text) := by
  unfold quantity
  split
  next => simp
  next => simp
  next =>
    split
    next => simp
    next => split <;> simp

theorem Placement.add_ne_invalidId {placed : Placement} {field : FieldEntry} :
    placed.add command field ≠ .error (.invalidId key text) := by
  have hfaulty {α : Type} {step : Except FieldFault α} :
      step.mapError (SchemaError.invalidField command field.key) ≠
        .error (.invalidId key text) := by
    intro hstep
    rcases mapError_eq_error_iff.mp hstep with ⟨fault, _, hfault⟩
    cases hfault
  intro hadd
  unfold add at hadd
  by_cases hused : placed.fields.any (fun other => other.key = field.key) = true
  · simp only [hused, if_true] at hadd
    cases hadd
  · simp only [hused] at hadd
    rcases bind_eq_error_iff.mp hadd with hcodec | ⟨codec, _, hadd⟩
    · exact hfaulty hcodec
    rcases bind_eq_error_iff.mp hadd with hquantity | ⟨quantity, _, hadd⟩
    · exact quantity_ne_invalidId hquantity
    rcases bind_eq_error_iff.mp hadd with hstart | ⟨start, _, hadd⟩
    · exact hfaulty hstart
    rcases bind_eq_error_iff.mp hadd with hoffset | ⟨offset, _, hadd⟩
    · exact hfaulty hoffset
    · cases hadd

/-- No complaint about a field is one about an identifier. -/
theorem layOutFields_ne_invalidId {entries : List FieldEntry} :
    layOutFields command entries ≠ .error (.invalidId key text) := by
  intro hfields
  rcases bind_eq_error_iff.mp hfields with hrun | ⟨placed, _, hlast⟩
  · rcases foldlM_eq_error_iff.mp hrun with ⟨_, _, _, _, _, _, hadd⟩
    exact Placement.add_ne_invalidId hadd
  · cases hlast

theorem CommandEntry.check_eq_ok_iff {result : Command} :
    entry.check group = .ok result ↔ entry.Describes group result := by
  constructor
  · intro hcheck
    rcases bind_eq_ok_iff.mp hcheck with ⟨id1, hid1, hcheck⟩
    rcases bind_eq_ok_iff.mp hcheck with ⟨id2, hid2, hcheck⟩
    rcases bind_eq_ok_iff.mp hcheck with ⟨params, hparams, hcheck⟩
    rcases bind_eq_ok_iff.mp hcheck with ⟨values, hvalues, hcheck⟩
    obtain rfl := Except.ok.inj hcheck
    exact {
      id1_given := IdEntry.check_eq_ok_iff.mp hid1
      id2_given := IdEntry.check_eq_ok_iff.mp hid2
      key_eq := rfl
      name_eq := rfl
      group_eq := rfl
      params_laidOut := hparams
      values_laidOut := hvalues }
  · intro hdescribes
    unfold check
    rw [IdEntry.check_eq_ok_iff.mpr hdescribes.id1_given,
      IdEntry.check_eq_ok_iff.mpr hdescribes.id2_given, hdescribes.params_laidOut,
      hdescribes.values_laidOut, ← hdescribes.name_eq, ← hdescribes.key_eq,
      ← hdescribes.group_eq]
    rfl

theorem CommandEntry.check_eq_invalidId_iff :
    entry.check group = .error (.invalidId key text) ↔ key = entry.key ∧ entry.Misnames text := by
  constructor
  · intro hcheck
    rcases bind_eq_error_iff.mp hcheck with hid1 | ⟨id1, hid1, hcheck⟩
    · rcases IdEntry.check_eq_error_iff.mp hid1 with ⟨written, htext, hno, he⟩
      obtain ⟨rfl, rfl⟩ := SchemaError.invalidId.inj he
      exact ⟨rfl, .first htext hno⟩
    rcases bind_eq_error_iff.mp hcheck with hid2 | ⟨id2, _, hcheck⟩
    · rcases IdEntry.check_eq_error_iff.mp hid2 with ⟨written, htext, hno, he⟩
      obtain ⟨rfl, rfl⟩ := SchemaError.invalidId.inj he
      exact ⟨rfl, .second (IdEntry.check_eq_ok_iff.mp hid1) htext hno⟩
    rcases bind_eq_error_iff.mp hcheck with hparams | ⟨params, _, hcheck⟩
    · exact absurd hparams layOutFields_ne_invalidId
    rcases bind_eq_error_iff.mp hcheck with hvalues | ⟨values, _, hcheck⟩
    · exact absurd hvalues layOutFields_ne_invalidId
    · cases hcheck
  · rintro ⟨rfl, hmisnames⟩
    apply bind_eq_error_iff.mpr
    cases hmisnames with
    | first htext hno =>
        exact .inl (IdEntry.check_eq_error_iff.mpr ⟨text, htext, hno, rfl⟩)
    | second hfirst htext hno =>
        refine .inr ⟨_, IdEntry.check_eq_ok_iff.mpr hfirst, ?_⟩
        apply bind_eq_error_iff.mpr
        exact .inl (IdEntry.check_eq_error_iff.mpr ⟨text, htext, hno, rfl⟩)

/-- An entry is taken over exactly if both identifiers can be read and the fields can be
laid out, and is refused on account of an identifier exactly if one of them is a text that
is none.  Behind the mark an identifier may as well be read in a byte. -/
theorem CommandEntry.check_reads_identifiers (group : Group) (entry : CommandEntry) :
    (∀ command, entry.check group = .ok command ↔ entry.Describes group command) ∧
      (∀ key text, entry.check group = .error (.invalidId key text) ↔
        key = entry.key ∧ entry.Misnames text) ∧
      ∀ text, idOfText? text = numeralInByte? 16 (withoutMark text.toList) := by
  refine ⟨fun command => check_eq_ok_iff, fun key text => check_eq_invalidId_iff, ?_⟩
  intro text
  rw [idOfText?_eq_map, numeralInByte?_eq (by decide)]

example : CommandEntry.check .alarms ⟨.text "0x0X1", .text "", "reset", "", [], []⟩ =
    .error (.invalidId "reset" "0x0X1") := by
  rfl

end

end PowerLink
