import PowerLink.Proofs.FieldEntries

/-!
# Which lists of field entries are laid out

The check of a list of entries succeeds exactly if the list is acceptable, and its
fields are then the ones that the entries are laid out as.  The check goes by the fields
that it has placed so far: `Placement.Covers` says that they tell the same about the
entries before as these entries themselves, and each step keeps it.

`layOutFieldsInWords` does the same check with machine words, and stops where a sum is
too large for one.  It never stops.
-/

namespace PowerLink

open Results

namespace Placement

variable {command : String} {placed next : Placement} {entry : FieldEntry}
  {before : List FieldEntry}

/-! ## One step -/

theorem asksFor_of_quantity {quantity : Quantity}
    (hquantity : placed.quantity command entry = .ok quantity) : entry.AsksFor quantity := by
  unfold Placement.quantity at hquantity
  unfold FieldEntry.AsksFor
  cases hasked : entry.quantity with
  | none =>
      rw [hasked] at hquantity
      exact (Except.ok.inj hquantity).symm
  | some asked =>
      rw [hasked] at hquantity
      cases asked with
      | count n => exact (Except.ok.inj hquantity).symm
      | reference text =>
          cases hkey : referenceKey? text with
          | none => simp [hkey] at hquantity
          | some key =>
              by_cases hcount : placed.hasCount key = true
              · simp only [hkey, hcount, if_true, Except.ok.injEq] at hquantity
                exact ⟨key, FieldEntry.referenceKey?_eq_some_iff.mp hkey, hquantity.symm⟩
              · simp [hkey, hcount] at hquantity

theorem quantity_eq_ok_iff {quantity : Quantity} :
    placed.quantity command entry = .ok quantity ↔
      entry.AsksFor quantity ∧ ∀ key, quantity = .ref key → placed.hasCount key = true := by
  constructor
  · intro hquantity
    refine ⟨asksFor_of_quantity hquantity, ?_⟩
    rintro key rfl
    exact hasCount_of_quantity hquantity
  · rintro ⟨hasks, hcount⟩
    unfold Placement.quantity
    unfold FieldEntry.AsksFor at hasks
    cases hasked : entry.quantity with
    | none =>
        rw [hasked] at hasks
        rw [hasks]
    | some asked =>
        rw [hasked] at hasks
        cases asked with
        | count n => exact congrArg Except.ok hasks.symm
        | reference text =>
            obtain ⟨key, hkey, rfl⟩ := hasks
            simp [FieldEntry.referenceKey?_eq_some_iff.mpr hkey, hcount key rfl]

theorem start_eq_ok_iff {declared : Option Nat} {start : Nat} :
    placed.start declared = .ok start ↔
      (∀ total, placed.offset = some total →
        ∀ given, declared = some given → given = total) ∧
        start = placed.offset.getD (declared.getD 0) := by
  unfold Placement.start
  cases placed.offset with
  | none => simp [eq_comm]
  | some total =>
      cases declared with
      | none => simp [eq_comm]
      | some given =>
          by_cases hgiven : given = total
          · simp [hgiven, eq_comm]
          · simp [hgiven]

theorem advance_some_eq_ok_iff {size : Nat} {offset : Option Nat} :
    placed.advance (some size) = .ok offset ↔
      size ≤ 4095 ∧ (∀ total, placed.offset = some total → total + size ≤ 4095) ∧
        offset = placed.offset.map (· + size) := by
  unfold advance LengthField.maxInfo
  by_cases hsize : 4095 < size
  · simp [hsize, Nat.not_le.mpr hsize]
  · cases placed.offset with
    | none => simp [hsize, Nat.not_lt.mp hsize, eq_comm]
    | some total =>
        by_cases hend : 4095 < total + size
        · simp [hsize, hend, Nat.not_le.mpr hend]
        · simp [hsize, hend, Nat.not_lt.mp hsize, Nat.not_lt.mp hend, eq_comm]

theorem advance_asked_eq_ok_iff {quantity : Quantity} (hasks : entry.AsksFor quantity)
    {offset : Option Nat} :
    placed.advance (quantity.size? entry.itemWidth) = .ok offset ↔
      (entry.hasTextCount = false → entry.size ≤ 4095 ∧
        ∀ total, placed.offset = some total → total + entry.size ≤ 4095) ∧
      offset = if entry.hasTextCount then none else placed.offset.map (· + entry.size) := by
  rw [FieldEntry.size?_of_asksFor hasks]
  cases htext : entry.hasTextCount with
  | true => simp [advance, eq_comm]
  | false =>
      rw [if_neg Bool.false_ne_true, advance_some_eq_ok_iff]
      simp [and_assoc]

/-! ## What the placed fields tell about their entries -/

/-- The fields are the ones that the entries are laid out as, and the offset behind them
is the size of the entries. -/
structure Covers (placed : Placement) (entries : List FieldEntry) : Prop where
  laidOut : FieldEntry.LaidOut entries placed.fields
  offset_eq : placed.offset = FieldEntry.totalSize? entries

theorem covers_empty : Covers empty [] := by
  constructor
  · constructor
    · rfl
    · intro before entry after hsplit
      simp at hsplit
  · rfl

theorem Covers.key_new_iff (hcovers : placed.Covers before) :
    (∀ field ∈ placed.fields, field.key ≠ entry.key) ↔
      ∀ earlier ∈ before, earlier.key ≠ entry.key := by
  constructor
  · intro hfields earlier hearlier
    obtain ⟨field, hfield, _, hlaid⟩ := hcovers.laidOut.exists_field hearlier
    rw [← hlaid.key_eq]
    exact hfields field hfield
  · intro hentries field hfield
    obtain ⟨earlier, hearlier, _, hlaid⟩ := hcovers.laidOut.exists_entry hfield
    rw [hlaid.key_eq]
    exact hentries earlier hearlier

theorem Covers.hasCount_iff (hcovers : placed.Covers before) {key : String} :
    placed.hasCount key = true ↔
      ∃ earlier ∈ before, earlier.key = key ∧ earlier.CanCount := by
  rw [Placement.hasCount_iff]
  constructor
  · rintro ⟨field, hfield, hkey, hcount⟩
    obtain ⟨earlier, hearlier, _, hlaid⟩ := hcovers.laidOut.exists_entry hfield
    exact ⟨earlier, hearlier, hlaid.key_eq ▸ hkey, hlaid.isCount_iff.mp hcount⟩
  · rintro ⟨earlier, hearlier, hkey, hcount⟩
    obtain ⟨field, hfield, _, hlaid⟩ := hcovers.laidOut.exists_field hearlier
    exact ⟨field, hfield, hlaid.key_eq ▸ hkey, hlaid.isCount_iff.mpr hcount⟩

theorem Covers.exists_quantity_iff (hcovers : placed.Covers before) :
    (∃ quantity, placed.quantity command entry = .ok quantity) ↔
      ∀ text, entry.quantity = some (.reference text) →
        ∃ key, FieldEntry.RefersTo text key ∧
          ∃ earlier ∈ before, earlier.key = key ∧ earlier.CanCount := by
  constructor
  · rintro ⟨quantity, hquantity⟩ text htext
    obtain ⟨hasks, hcount⟩ := quantity_eq_ok_iff.mp hquantity
    unfold FieldEntry.AsksFor at hasks
    rw [htext] at hasks
    obtain ⟨key, hrefers, href⟩ := hasks
    exact ⟨key, hrefers, hcovers.hasCount_iff.mp (hcount key href)⟩
  · intro hfound
    cases hasked : entry.quantity with
    | none => exact ⟨.scalar, by simp [Placement.quantity, hasked]⟩
    | some asked =>
        cases asked with
        | count n => exact ⟨_, by simp [Placement.quantity, hasked]; rfl⟩
        | reference text =>
            obtain ⟨key, hrefers, hcount⟩ := hfound text hasked
            refine ⟨.ref key, quantity_eq_ok_iff.mpr ⟨?_, ?_⟩⟩
            · unfold FieldEntry.AsksFor
              rw [hasked]
              exact ⟨key, hrefers, rfl⟩
            · rintro _ ⟨⟩
              exact hcovers.hasCount_iff.mpr hcount

theorem Covers.exists_add_iff (hcovers : placed.Covers before) :
    (∃ next, placed.add command entry = .ok next) ↔ entry.Fits before := by
  constructor
  · rintro ⟨next, hadd⟩
    obtain ⟨hkeys, codec, quantity, start, offset, hcodec, hquantity, hstart, hoffset, _⟩ :=
      add_eq_ok_iff.mp hadd
    obtain ⟨hlength, htype⟩ := FieldEntry.codec_eq_ok_iff.mp hcodec
    obtain ⟨_, hwidth, htable, hstring, _⟩ := FieldEntry.typed_of_codecOfType htype
    obtain ⟨hasks, _⟩ := quantity_eq_ok_iff.mp hquantity
    rw [hwidth] at hoffset
    obtain ⟨hsize, _⟩ := (advance_asked_eq_ok_iff hasks).mp hoffset
    rw [hcovers.offset_eq] at hsize
    exact {
      key_new := hcovers.key_new_iff.mp hkeys
      typed := ⟨hlength, htable, hstring⟩
      count_found := hcovers.exists_quantity_iff.mp ⟨quantity, hquantity⟩
      size_fits := fun htext => (hsize htext).1
      start_follows := hcovers.offset_eq ▸ (start_eq_ok_iff.mp hstart).1
      end_fits := fun total htotal htext => (hsize htext).2 total htotal }
  · intro hfits
    obtain ⟨codec, htype⟩ :=
      FieldEntry.exists_codecOfType hfits.typed.table_given hfits.typed.length_given
    have hcodec := FieldEntry.codec_eq_ok_iff.mpr ⟨hfits.typed.length_agrees, htype⟩
    obtain ⟨_, hwidth, _⟩ := FieldEntry.typed_of_codecOfType htype
    have hcount : ∃ quantity, placed.quantity command entry = .ok quantity :=
      hcovers.exists_quantity_iff.mpr hfits.count_found
    obtain ⟨quantity, hquantity⟩ := hcount
    obtain ⟨hasks, _⟩ := quantity_eq_ok_iff.mp hquantity
    have hstart := start_eq_ok_iff.mpr ⟨hcovers.offset_eq ▸ hfits.start_follows, rfl⟩
    have hsize : entry.hasTextCount = false → entry.size ≤ 4095 ∧
        ∀ total, placed.offset = some total → total + entry.size ≤ 4095 := by
      rw [hcovers.offset_eq]
      intro htext
      exact ⟨hfits.size_fits htext, fun total htotal => hfits.end_fits total htotal htext⟩
    have hoffset := (advance_asked_eq_ok_iff hasks).mpr ⟨hsize, rfl⟩
    rw [← hwidth] at hoffset
    exact ⟨_, add_eq_ok_iff.mpr ⟨hcovers.key_new_iff.mpr hfits.key_new, codec, quantity,
      _, _, hcodec, hquantity, hstart, hoffset, rfl⟩⟩

theorem Covers.add (hcovers : placed.Covers before)
    (hadd : placed.add command entry = .ok next) : next.Covers (before ++ [entry]) := by
  obtain ⟨_, codec, quantity, start, offset, hcodec, hquantity, hstart, hoffset, rfl⟩ :=
    add_eq_ok_iff.mp hadd
  obtain ⟨_, htype⟩ := FieldEntry.codec_eq_ok_iff.mp hcodec
  obtain ⟨hsame, hwidth, _, _, htable⟩ := FieldEntry.typed_of_codecOfType htype
  obtain ⟨hasks, _⟩ := quantity_eq_ok_iff.mp hquantity
  obtain ⟨_, hstart⟩ := start_eq_ok_iff.mp hstart
  rw [hwidth] at hoffset
  obtain ⟨_, hoffset⟩ := (advance_asked_eq_ok_iff hasks).mp hoffset
  constructor
  · apply hcovers.laidOut.concat
    exact {
      key_eq := rfl
      name_eq := rfl
      type_eq := hsame
      width_eq := hwidth
      table_eq := htable
      asksFor := hasks
      start_eq := hcovers.offset_eq ▸ hstart }
  · rw [FieldEntry.totalSize?_concat, ← hcovers.offset_eq]
    exact hoffset

/-! ## All steps -/

theorem covers_of_foldlM {entries : List FieldEntry}
    (hrun : entries.foldlM (add command) empty = .ok placed) : placed.Covers entries := by
  induction entries using List.reverseRecOn generalizing placed with
  | nil =>
      obtain rfl : empty = placed := Except.ok.inj hrun
      exact covers_empty
  | append_singleton init entry ih =>
      obtain ⟨middle, hinit, hadd⟩ := foldlM_concat_eq_ok_iff.mp hrun
      exact (ih hinit).add hadd

theorem exists_foldlM_iff {entries : List FieldEntry} :
    (∃ placed, entries.foldlM (add command) empty = .ok placed) ↔
      FieldEntry.Acceptable entries := by
  induction entries using List.reverseRecOn with
  | nil => exact ⟨fun _ => FieldEntry.acceptable_nil, fun _ => ⟨empty, rfl⟩⟩
  | append_singleton init entry ih =>
      rw [FieldEntry.acceptable_concat_iff, ← ih]
      constructor
      · rintro ⟨placed, hrun⟩
        obtain ⟨middle, hinit, hadd⟩ := foldlM_concat_eq_ok_iff.mp hrun
        exact ⟨⟨middle, hinit⟩, (covers_of_foldlM hinit).exists_add_iff.mp ⟨placed, hadd⟩⟩
      · rintro ⟨⟨middle, hinit⟩, hfits⟩
        obtain ⟨placed, hadd⟩ := (covers_of_foldlM hinit).exists_add_iff.mpr hfits
        exact ⟨placed, foldlM_concat_eq_ok_iff.mpr ⟨middle, hinit, hadd⟩⟩

end Placement

theorem layOutFields_eq_ok_iff {command : String} {entries : List FieldEntry}
    {fields : List Field} :
    layOutFields command entries = .ok fields ↔
      ∃ placed, entries.foldlM (Placement.add command) .empty = .ok placed ∧
        placed.fields = fields := by
  simp [layOutFields, bind_eq_ok_iff, pure, Except.pure]

/-! ## The check in machine words -/

/-- The size of a field that is not given by a text, where a machine word can hold it. -/
def Quantity.wordSize? (width : Nat) : Quantity → Option Nat
  | .scalar => some width
  | .fixed count => if count * width < UInt64.size then some (count * width) else none
  | .ref _ => none

/-- A step in which no machine word is involved. -/
def wordless {ε α : Type} (step : Except ε α) : ExceptT ε Option α :=
  ExceptT.mk (some step)

/-- The check stops where the sum is too large for a machine word. -/
def wordSum (m n : Nat) : ExceptT FieldFault Option Nat :=
  ExceptT.lift (if m + n < UInt64.size then some (m + n) else none)

namespace Placement

def advanceSizeInWords (placed : Placement) (size : Nat) :
    ExceptT FieldFault Option (Option Nat) :=
  if LengthField.maxInfo < size then throw .tooLarge
  else
    match placed.offset with
    | none => return none
    | some offset => do
      let stop ← wordSum offset size
      if LengthField.maxInfo < stop then throw (.endsPast stop)
      else return some stop

def advanceInWords (placed : Placement) (width : Nat) (quantity : Quantity) :
    ExceptT FieldFault Option (Option Nat) :=
  match quantity, quantity.wordSize? width with
  | .ref _, _ => return none
  | _, none => throw .tooLarge
  | _, some size => placed.advanceSizeInWords size

def addInWords (command : String) (placed : Placement) (entry : FieldEntry) :
    ExceptT SchemaError Option Placement := do
  let faulty : FieldFault → SchemaError := .invalidField command entry.key
  if placed.fields.any fun field => field.key = entry.key then
    throw (.duplicateField command entry.key)
  let codec ← wordless (entry.codec.mapError faulty)
  let quantity ← wordless (placed.quantity command entry)
  let start ← wordless ((placed.start entry.start).mapError faulty)
  let offset ← (placed.advanceInWords codec.width quantity).adapt faulty
  return ⟨placed.fields ++ [fieldOf entry codec quantity start], offset⟩

end Placement

def layOutFieldsInWords (command : String) (entries : List FieldEntry) :
    ExceptT SchemaError Option (List Field) := do
  let placed ← entries.foldlM (Placement.addInWords command) .empty
  return placed.fields

theorem wordless_bind {ε α β : Type} {step : Except ε α} {next : α → Except ε β}
    {nextInWords : α → ExceptT ε Option β}
    (hnext : ∀ value, step = .ok value → nextInWords value = wordless (next value)) :
    wordless step >>= nextInWords = wordless (step >>= next) := by
  cases step with
  | error e => rfl
  | ok value => exact hnext value rfl

namespace Placement

variable {command : String} {placed next : Placement} {entry : FieldEntry}

/-- The offset lies in the largest payload, as far as it is known. -/
def InRange (placed : Placement) : Prop :=
  ∀ offset, placed.offset = some offset → offset ≤ LengthField.maxInfo

theorem inRange_of_add (hadd : placed.add command entry = .ok next) : next.InRange := by
  obtain ⟨_, codec, quantity, start, offset, _, _, _, hoffset, rfl⟩ :=
    add_eq_ok_iff.mp hadd
  intro total htotal
  obtain rfl : offset = some total := htotal
  cases hsize : quantity.size? codec.width with
  | none => simp [hsize, advance] at hoffset
  | some size =>
      rw [hsize, advance_some_eq_ok_iff] at hoffset
      obtain ⟨_, hend, hsum⟩ := hoffset
      obtain ⟨before, hbefore, rfl⟩ := Option.map_eq_some_iff.mp hsum.symm
      exact hend before hbefore

theorem advanceSizeInWords_eq (hrange : placed.InRange) (size : Nat) :
    placed.advanceSizeInWords size = wordless (placed.advance (some size)) := by
  unfold advanceSizeInWords advance
  by_cases hlarge : LengthField.maxInfo < size
  · simp only [hlarge, if_true]
    rfl
  · simp only [hlarge, if_false]
    cases hoffset : placed.offset with
    | none => rfl
    | some offset =>
        -- Both summands are at most 4095.
        have hword : offset + size < UInt64.size := by
          have hbound := hrange offset hoffset
          simp only [LengthField.maxInfo, UInt64.size] at *
          omega
        have hsum : wordSum offset size = pure (offset + size) := by
          unfold wordSum
          rw [if_pos hword]
          rfl
        simp only [hsum, pure_bind]
        by_cases hend : LengthField.maxInfo < offset + size
        · simp only [hend, if_true]
          rfl
        · simp only [hend, if_false]
          rfl

theorem advanceInWords_eq (hrange : placed.InRange) (width : Nat) (quantity : Quantity) :
    placed.advanceInWords width quantity =
      wordless (placed.advance (quantity.size? width)) := by
  cases quantity with
  | ref key => rfl
  | scalar => exact advanceSizeInWords_eq hrange width
  | fixed count =>
      unfold advanceInWords
      by_cases hword : count * width < UInt64.size
      · simp only [Quantity.wordSize?, hword, if_true, Quantity.size?]
        exact advanceSizeInWords_eq hrange (count * width)
      · have hlarge : LengthField.maxInfo < count * width := by
          simp only [LengthField.maxInfo, UInt64.size] at *
          omega
        simp only [Quantity.wordSize?, hword, if_false, Quantity.size?, advance, hlarge,
          if_true]
        rfl

theorem addInWords_eq (hrange : placed.InRange) :
    placed.addInWords command entry = wordless (placed.add command entry) := by
  unfold addInWords add
  by_cases hused : placed.fields.any (fun field => field.key = entry.key) = true
  · simp only [hused, if_true]
    rfl
  · simp only [hused]
    apply wordless_bind
    intro codec _
    apply wordless_bind
    intro quantity _
    apply wordless_bind
    intro start _
    rw [advanceInWords_eq hrange]
    apply wordless_bind
    intro offset _
    rfl

theorem foldlM_addInWords_eq {entries : List FieldEntry} (hrange : placed.InRange) :
    entries.foldlM (addInWords command) placed =
      wordless (entries.foldlM (add command) placed) := by
  induction entries generalizing placed with
  | nil => rfl
  | cons entry rest ih =>
      rw [List.foldlM_cons, List.foldlM_cons, addInWords_eq hrange]
      apply wordless_bind
      intro next hadd
      exact ih (inRange_of_add hadd)

end Placement

theorem layOutFieldsInWords_eq (command : String) (entries : List FieldEntry) :
    layOutFieldsInWords command entries = wordless (layOutFields command entries) := by
  have hrange : Placement.empty.InRange := by
    intro offset hoffset
    obtain rfl : 0 = offset := Option.some.inj hoffset
    exact Nat.zero_le _
  unfold layOutFieldsInWords layOutFields
  rw [Placement.foldlM_addInWords_eq hrange]
  apply wordless_bind
  intro placed _
  rfl

/-- Entries are laid out exactly if they are acceptable, as one field each, and no size
that the check works out is too large for a machine word. -/
theorem layOutFields_exact (command : String) (entries : List FieldEntry) :
    ((∃ fields, layOutFields command entries = .ok fields) ↔
        FieldEntry.Acceptable entries) ∧
      (∀ fields, layOutFields command entries = .ok fields →
        FieldEntry.LaidOut entries fields) ∧
      (layOutFieldsInWords command entries).run = some (layOutFields command entries) := by
  refine ⟨?_, ?_, ?_⟩
  · constructor
    · rintro ⟨fields, hfields⟩
      obtain ⟨placed, hrun, _⟩ := layOutFields_eq_ok_iff.mp hfields
      exact Placement.exists_foldlM_iff.mp ⟨placed, hrun⟩
    · intro hentries
      obtain ⟨placed, hrun⟩ := Placement.exists_foldlM_iff.mpr hentries
      exact ⟨placed.fields, layOutFields_eq_ok_iff.mpr ⟨placed, hrun, rfl⟩⟩
  · intro fields hfields
    obtain ⟨placed, hrun, rfl⟩ := layOutFields_eq_ok_iff.mp hfields
    exact (Placement.covers_of_foldlM hrun).laidOut
  · rw [layOutFieldsInWords_eq]
    rfl

/-- As many labels as the first byte says, and behind them a block of the largest size. -/
def dumpEntries : List FieldEntry :=
  [⟨"n", "", .uint8, some 0, none, none, none⟩,
    ⟨"labels", "", .string, some 1, some 3, none, some (.reference "$\x7b n \x7d")⟩,
    ⟨"raw", "block", .string, some 7, some 273, none, some (.count 15)⟩]

def dumpFields : List Field :=
  [⟨"n", "n", 0, .uint8, .scalar⟩,
    ⟨"labels", "labels", 1, .ascii 3, .ref "n"⟩,
    ⟨"raw", "block", 7, .ascii 273, .fixed 15⟩]

theorem layOutFields_exact_dump :
    layOutFields "dump" dumpEntries = .ok dumpFields ∧
      FieldEntry.Acceptable dumpEntries ∧ FieldEntry.LaidOut dumpEntries dumpFields := by
  have hfields : layOutFields "dump" dumpEntries = .ok dumpFields := by
    rfl
  obtain ⟨hiff, hlaid, _⟩ := layOutFields_exact "dump" dumpEntries
  exact ⟨hfields, hiff.mp ⟨dumpFields, hfields⟩, hlaid dumpFields hfields⟩

example : layOutFields "dump" [⟨"raw", "", .string, none, some 4096, none, none⟩] =
    .error (.invalidField "dump" "raw" .tooLarge) := by
  rfl

end PowerLink
