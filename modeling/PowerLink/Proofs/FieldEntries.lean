import PowerLink.Proofs.FieldLists

/-!
# Which field entries fit behind each other

A list of field entries is acceptable if every entry fits behind the entries before it:
its key is new, it says about itself what its type asks for, its count is found, and it
starts and ends where it should.  The entries are laid out as one field each, in their
order.  All of this is said about the entries alone, not about the fields that the check
has placed so far.
-/

namespace PowerLink

open Results

namespace FieldEntry

def hasTextCount (entry : FieldEntry) : Bool :=
  match entry.quantity with
  | some (.reference _) => true
  | _ => false

def itemWidth (entry : FieldEntry) : Nat :=
  entry.dataType.fixedWidth?.getD (entry.length.getD 0)

/-- The number of items, as far as it is not a text. -/
def itemCount (entry : FieldEntry) : Nat :=
  match entry.quantity with
  | some (.count n) => n
  | _ => 1

def size (entry : FieldEntry) : Nat :=
  entry.itemCount * entry.itemWidth

/-- The bytes of all entries together, which are known as long as no count is a text. -/
def totalSize? (entries : List FieldEntry) : Option Nat :=
  if entries.any hasTextCount then none else some (entries.map size).sum

/-- The text is a key between a dollar sign with an opening brace and a closing brace,
with or without blanks around the key. -/
def RefersTo (text key : String) : Prop :=
  ∃ inner, text.toList = '$' :: '\x7b' :: (inner ++ ['\x7d']) ∧
    key.toList = Text.trim inner ∧ key ≠ ""

/-- An unsigned scalar. -/
def CanCount (entry : FieldEntry) : Prop :=
  (entry.dataType = .uint8 ∨ entry.dataType = .uint16) ∧
    (entry.quantity = none ∨ entry.quantity = some (.count 1))

/-- What the entry says about its items agrees with their type. -/
structure IsTyped (entry : FieldEntry) : Prop where
  length_agrees : ∀ width length, entry.dataType.fixedWidth? = some width →
    entry.length = some length → length = width
  table_given : entry.dataType = .enum →
    ∃ table, entry.table = some table ∧ table.entries ≠ []
  length_given : entry.dataType = .string →
    ∃ length, entry.length = some length ∧ 1 ≤ length

/-- The entry can stand behind the entries before it. -/
structure Fits (before : List FieldEntry) (entry : FieldEntry) : Prop where
  key_new : ∀ earlier ∈ before, earlier.key ≠ entry.key
  typed : entry.IsTyped
  count_found : ∀ text, entry.quantity = some (.reference text) →
    ∃ key, RefersTo text key ∧ ∃ earlier ∈ before, earlier.key = key ∧ earlier.CanCount
  size_fits : entry.hasTextCount = false → entry.size ≤ 4095
  start_follows : ∀ total, totalSize? before = some total →
    ∀ start, entry.start = some start → start = total
  end_fits : ∀ total, totalSize? before = some total → entry.hasTextCount = false →
    total + entry.size ≤ 4095

def Acceptable (entries : List FieldEntry) : Prop :=
  ∀ before entry after, entries = before ++ entry :: after → entry.Fits before

/-- The repeat count of the field is the one that the entry asks for. -/
def AsksFor (entry : FieldEntry) (quantity : Quantity) : Prop :=
  match entry.quantity with
  | none => quantity = .scalar
  | some (.count n) => quantity = if n = 1 then .scalar else .fixed n
  | some (.reference text) => ∃ key, RefersTo text key ∧ quantity = .ref key

/-- The field is what the entry is laid out as behind the entries before it. -/
structure LaidAs (before : List FieldEntry) (entry : FieldEntry) (field : Field) :
    Prop where
  key_eq : field.key = entry.key
  name_eq : field.name = if entry.name.isEmpty then entry.key else entry.name
  type_eq : field.dataType = entry.dataType
  width_eq : field.width = entry.itemWidth
  table_eq : ∀ table, field.codec = .enum table → entry.table = some table
  asksFor : entry.AsksFor field.quantity
  start_eq : field.start = (totalSize? before).getD (entry.start.getD 0)

/-- One field for each entry, in their order. -/
def LaidOut (entries : List FieldEntry) (fields : List Field) : Prop :=
  fields.length = entries.length ∧
    ∀ before entry after, entries = before ++ entry :: after →
      ∃ field, fields[before.length]? = some field ∧ entry.LaidAs before field

/-! ## One entry -/

variable {entry : FieldEntry}

/-- The codec of the entry's type, whatever its length says. -/
def codecOfType (entry : FieldEntry) : Except FieldFault Codec :=
  match entry.dataType with
  | .uint8 => .ok .uint8
  | .uint16 => .ok .uint16
  | .float => .ok .float
  | .dateTime => .ok .dateTime
  | .version => .ok .version
  | .enum =>
    match entry.table with
    | some table => if table.isEmpty then .error .noTable else .ok (.enum table)
    | none => .error .noTable
  | .string =>
    match entry.length with
    | some (width + 1) => .ok (.ascii (width + 1))
    | _ => .error .noLength

theorem codec_eq_ok_iff {codec : Codec} :
    entry.codec = .ok codec ↔
      (∀ width length, entry.dataType.fixedWidth? = some width →
        entry.length = some length → length = width) ∧
      entry.codecOfType = .ok codec := by
  cases hwidth : entry.dataType.fixedWidth? with
  | none =>
      have hcodec : entry.codec = entry.codecOfType := by
        unfold FieldEntry.codec codecOfType
        rw [hwidth]
        rfl
      simp [hcodec]
  | some width =>
      cases hlength : entry.length with
      | none =>
          have hcodec : entry.codec = entry.codecOfType := by
            unfold FieldEntry.codec codecOfType
            rw [hwidth, hlength]
            rfl
          simp [hcodec]
      | some length =>
          by_cases hagree : width = length
          · have hcodec : entry.codec = entry.codecOfType := by
              unfold FieldEntry.codec codecOfType
              simp only [hwidth, hlength, hagree, ne_eq, not_true_eq_false, if_false]
              rfl
            simp [hcodec, hagree]
          · have hcodec : entry.codec =
                .error (.widthMismatch entry.dataType width length) := by
              unfold FieldEntry.codec
              simp only [hwidth, hlength, hagree, ne_eq, not_false_eq_true, if_true]
              rfl
            simp [hcodec, Ne.symm hagree]

theorem typed_of_codecOfType {codec : Codec} (hcodec : entry.codecOfType = .ok codec) :
    codec.dataType = entry.dataType ∧ codec.width = entry.itemWidth ∧
      (entry.dataType = .enum → ∃ table, entry.table = some table ∧ table.entries ≠ []) ∧
      (entry.dataType = .string → ∃ length, entry.length = some length ∧ 1 ≤ length) ∧
      ∀ table, codec = .enum table → entry.table = some table := by
  unfold codecOfType at hcodec
  unfold itemWidth
  cases htype : entry.dataType with
  | enum =>
      simp only [htype] at hcodec
      split at hcodec
      next table htable =>
        by_cases hempty : table.isEmpty = true
        · simp [hempty] at hcodec
        · have hentries : table.entries ≠ [] := by
            simpa [KeyMap.isEmpty] using hempty
          simp only [hempty] at hcodec
          obtain rfl := Except.ok.inj hcodec
          simp [Codec.dataType, Codec.width, DataType.fixedWidth?, htable, hentries]
      next => simp at hcodec
  | string =>
      simp only [htype] at hcodec
      split at hcodec
      next width hwidth =>
        obtain rfl := Except.ok.inj hcodec
        simp [Codec.dataType, Codec.width, DataType.fixedWidth?, hwidth]
      next => simp at hcodec
  | _ =>
      simp only [htype] at hcodec
      obtain rfl := Except.ok.inj hcodec
      simp [Codec.dataType, Codec.width, DataType.fixedWidth?]

theorem exists_codecOfType
    (htable : entry.dataType = .enum →
      ∃ table, entry.table = some table ∧ table.entries ≠ [])
    (hlength : entry.dataType = .string →
      ∃ length, entry.length = some length ∧ 1 ≤ length) :
    ∃ codec, entry.codecOfType = .ok codec := by
  unfold codecOfType
  cases htype : entry.dataType with
  | enum =>
      obtain ⟨table, htable, hentries⟩ := htable htype
      have hempty : table.isEmpty = false := by
        simpa [KeyMap.isEmpty] using hentries
      exact ⟨.enum table, by simp [htable, hempty]⟩
  | string =>
      obtain ⟨length, hlength, hpos⟩ := hlength htype
      obtain ⟨width, rfl⟩ : ∃ width, length = width + 1 := ⟨length - 1, by omega⟩
      exact ⟨.ascii (width + 1), by simp [hlength]⟩
  | _ => exact ⟨_, rfl⟩

theorem referenceKey?_eq_some_iff {text key : String} :
    referenceKey? text = some key ↔ RefersTo text key := by
  unfold referenceKey? RefersTo
  split
  next rest htext =>
    rw [htext]
    constructor
    · intro hkey
      split at hkey
      next hlast =>
        rcases List.getLast?_eq_some_iff.mp hlast with ⟨inner, rfl⟩
        rw [List.dropLast_concat] at hkey
        by_cases hempty : (Text.trim inner).isEmpty = true
        · simp [hempty] at hkey
        · simp only [hempty] at hkey
          obtain rfl := Option.some.inj hkey
          refine ⟨inner, rfl, String.toList_ofList, ?_⟩
          simpa using hempty
      next => simp at hkey
    · rintro ⟨inner, hrest, hkey, hne⟩
      obtain rfl : rest = inner ++ ['\x7d'] := by simpa using hrest
      have hempty : ¬ (Text.trim inner).isEmpty = true := by
        simpa [← hkey] using hne
      rw [List.getLast?_concat, if_pos rfl, List.dropLast_concat]
      simp only [hempty]
      simp [← hkey]
  next hnot =>
    constructor
    · intro hkey
      cases hkey
    · rintro ⟨inner, htext, _⟩
      exact absurd htext (hnot _)

theorem size?_of_asksFor {quantity : Quantity} (hasks : entry.AsksFor quantity) :
    quantity.size? entry.itemWidth =
      if entry.hasTextCount then none else some entry.size := by
  unfold AsksFor at hasks
  unfold hasTextCount size itemCount
  split at hasks
  next hquantity =>
    rw [hasks, hquantity]
    simp [Quantity.size?]
  next n hquantity =>
    rw [hasks, hquantity]
    by_cases hone : n = 1
    · simp [hone, Quantity.size?]
    · simp [hone, Quantity.size?]
  next text hquantity =>
    obtain ⟨key, _, rfl⟩ := hasks
    rw [hquantity]
    rfl

theorem LaidAs.isCount_iff {before : List FieldEntry} {field : Field}
    (hlaid : entry.LaidAs before field) : field.IsCount ↔ entry.CanCount := by
  have hasks := hlaid.asksFor
  unfold AsksFor at hasks
  unfold Field.IsCount CanCount
  rw [hlaid.type_eq, DataType.isCount]
  split at hasks
  next hquantity =>
    rw [hasks, hquantity]
    simp
  next n hquantity =>
    rw [hasks, hquantity]
    by_cases hone : n = 1
    · simp [hone]
    · simp [hone]
  next text hquantity =>
    obtain ⟨key, _, hkey⟩ := hasks
    rw [hkey, hquantity]
    simp

/-! ## One entry behind the others -/

theorem totalSize?_concat {entries : List FieldEntry} :
    totalSize? (entries ++ [entry]) =
      if entry.hasTextCount then none else (totalSize? entries).map (· + entry.size) := by
  unfold totalSize?
  cases htext : entry.hasTextCount with
  | true => simp [htext]
  | false => cases hany : entries.any hasTextCount <;> simp [htext, hany]

theorem acceptable_nil : Acceptable [] := by
  intro before entry after hsplit
  simp at hsplit

theorem acceptable_concat_iff {entries : List FieldEntry} :
    Acceptable (entries ++ [entry]) ↔ Acceptable entries ∧ entry.Fits entries :=
  forall_split_concat_iff Fits

theorem LaidOut.concat {entries : List FieldEntry} {fields : List Field} {field : Field}
    (hentries : LaidOut entries fields) (hentry : entry.LaidAs entries field) :
    LaidOut (entries ++ [entry]) (fields ++ [field]) := by
  rcases hentries with ⟨hlength, hlaid⟩
  constructor
  · simp [hlength]
  · apply (forall_split_concat_iff fun before (earlier : FieldEntry) =>
      ∃ found, (fields ++ [field])[before.length]? = some found ∧
        earlier.LaidAs before found).mpr
    constructor
    · intro before earlier after hsplit
      obtain ⟨found, hfound, hearlier⟩ := hlaid before earlier after hsplit
      have hbound : before.length < fields.length := by
        rw [hlength, hsplit]
        simp
      refine ⟨found, ?_, hearlier⟩
      rw [List.getElem?_append_left hbound, hfound]
    · refine ⟨field, ?_, hentry⟩
      rw [← hlength, List.getElem?_concat_length]

theorem LaidOut.exists_field {entries : List FieldEntry} {fields : List Field}
    (hlaid : LaidOut entries fields) (hmem : entry ∈ entries) :
    ∃ field ∈ fields, ∃ before, entry.LaidAs before field := by
  rcases List.append_of_mem hmem with ⟨before, after, hsplit⟩
  obtain ⟨field, hfield, hentry⟩ := hlaid.2 before entry after hsplit
  exact ⟨field, List.mem_of_getElem? hfield, before, hentry⟩

theorem LaidOut.exists_entry {entries : List FieldEntry} {fields : List Field}
    (hlaid : LaidOut entries fields) {field : Field} (hmem : field ∈ fields) :
    ∃ entry ∈ entries, ∃ before, entry.LaidAs before field := by
  rcases List.getElem_of_mem hmem with ⟨index, hindex, rfl⟩
  have hbound : index < entries.length := hlaid.1 ▸ hindex
  have hsplit : entries =
      entries.take index ++ entries[index] :: entries.drop (index + 1) := by
    rw [← List.drop_eq_getElem_cons hbound, List.take_append_drop]
  obtain ⟨found, hfound, hentry⟩ := hlaid.2 _ _ _ hsplit
  rw [List.length_take_of_le hbound.le, List.getElem?_eq_getElem hindex] at hfound
  obtain rfl := Option.some.inj hfound
  exact ⟨entries[index], List.getElem_mem hbound, entries.take index, hentry⟩

end FieldEntry

end PowerLink
