import PowerLink.Proofs.DecodedRecords
import PowerLink.Proofs.FieldLayouts

/-!
# Fields stand where they start

The check of a schema gives every field a start, and neither the decoder nor the encoder
looks at it.  As long as no count is decoded, the start is nevertheless the position that
the decoder has reached when it comes to the field: both are the size of the fields
before.  If no count is decoded at all, every record takes the same number of bytes.
-/

namespace PowerLink

open Results

/-! ## Sizes -/

namespace Field

/-- The number of items is only known from the payload. -/
def IsCounted (field : Field) : Prop :=
  ∃ key, field.quantity = .ref key

/-- The number of items, as far as it is not decoded. -/
def fixedCount (field : Field) : Nat :=
  match field.quantity with
  | .scalar => 1
  | .fixed count => count
  | .ref _ => 0

end Field

namespace Payload

/-- Count times width over all fields. -/
def fixedSize (fields : List Field) : Nat :=
  (fields.map fun field => field.fixedCount * field.width).sum

theorem fixedSize_cons (field : Field) (fields : List Field) :
    fixedSize (field :: fields) = field.fixedCount * field.width + fixedSize fields := by
  simp [fixedSize]

theorem fixedSize_concat (fields : List Field) (field : Field) :
    fixedSize (fields ++ [field]) = fixedSize fields + field.fixedCount * field.width := by
  simp [fixedSize]

end Payload

theorem Field.size?_of_not_isCounted {field : Field} (hfixed : ¬ field.IsCounted) :
    field.quantity.size? field.width = some (field.fixedCount * field.width) := by
  unfold fixedCount
  cases hquantity : field.quantity with
  | scalar => simp [Quantity.size?]
  | fixed count => simp [Quantity.size?]
  | ref key => exact absurd ⟨key, hquantity⟩ hfixed

/-! ## Starts -/

/-- As long as no count is decoded, every field starts where the fields before it end, and
the last one ends within a payload. -/
structure Payload.StartsFollow (fields : List Field) : Prop where
  start_eq : ∀ before field after, fields = before ++ field :: after →
    (∀ earlier ∈ before, ¬ earlier.IsCounted) → field.start = fixedSize before
  size_le : (∀ field ∈ fields, ¬ field.IsCounted) → fixedSize fields ≤ LengthField.maxInfo

/-- The offset behind the fields is their size, as long as no count is decoded. -/
structure Placement.Measures (placed : Placement) : Prop where
  starts : Payload.StartsFollow placed.fields
  offset_eq : (∀ field ∈ placed.fields, ¬ field.IsCounted) →
    placed.offset = some (Payload.fixedSize placed.fields)

namespace Placement

theorem measures_empty : empty.Measures where
  starts := {
    start_eq := by
      intro before field after hsplit
      simp [empty] at hsplit
    size_le := fun _ => Nat.zero_le _ }
  offset_eq := fun _ => rfl

theorem Measures.add {command : String} {placed next : Placement} {entry : FieldEntry}
    (hplaced : placed.Measures) (hadd : placed.add command entry = .ok next) :
    next.Measures := by
  obtain ⟨_, codec, quantity, start, offset, _, _, hstart, hoffset, rfl⟩ :=
    add_eq_ok_iff.mp hadd
  obtain ⟨_, hstart⟩ := start_eq_ok_iff.mp hstart
  let field := fieldOf entry codec quantity start
  -- With no count decoded so far, the offset is known, and the field moves it by its size.
  have hnext (hfixed : ∀ other ∈ placed.fields ++ [field], ¬ other.IsCounted) :
      Payload.fixedSize (placed.fields ++ [field]) ≤ LengthField.maxInfo ∧
        offset = some (Payload.fixedSize (placed.fields ++ [field])) := by
    have hbefore := hplaced.offset_eq fun other hother => hfixed other (by simp [hother])
    have hsize : quantity.size? codec.width = some (field.fixedCount * field.width) :=
      field.size?_of_not_isCounted (hfixed field (by simp))
    rw [hsize, advance_some_eq_ok_iff] at hoffset
    obtain ⟨_, hend, rfl⟩ := hoffset
    rw [Payload.fixedSize_concat, hbefore]
    exact ⟨hend _ hbefore, rfl⟩
  constructor
  · constructor
    · apply (forall_split_concat_iff fun before (other : Field) =>
        (∀ earlier ∈ before, ¬ earlier.IsCounted) →
          other.start = Payload.fixedSize before).mpr
      refine ⟨hplaced.starts.start_eq, fun hfixed => ?_⟩
      rw [hplaced.offset_eq hfixed] at hstart
      exact hstart
    · exact fun hfixed => (hnext hfixed).1
  · exact fun hfixed => (hnext hfixed).2

end Placement

theorem startsFollow_layOutFields {command : String} {entries : List FieldEntry}
    {fields : List Field} (hfields : layOutFields command entries = .ok fields) :
    Payload.StartsFollow fields := by
  obtain ⟨placed, hrun, rfl⟩ := layOutFields_eq_ok_iff.mp hfields
  have hmeasures : placed.Measures :=
    foldlM_keeps Placement.Measures (fun _ _ _ => Placement.Measures.add)
      Placement.measures_empty hrun
  exact hmeasures.starts

/-! ## Decoding from a position -/

namespace Field

/-- The bytes from the position on, as many as an item has, are decoded as the item. -/
def HasItemAt (field : Field) (info : Bytes) (position : Nat) (item : Value) : Prop :=
  ∃ part, Frame.slice? info position (position + field.width) = some part ∧
    field.codec.decode part = .ok item

variable {field : Field} {info rest : Bytes} {cursor : Nat}

theorem hasItemAt_of_takeItem {item : Value} (hcursor : cursor ≤ info.length)
    (htake : field.takeItem (info.drop cursor) = .ok (item, rest)) :
    field.HasItemAt info cursor item ∧ cursor + field.width ≤ info.length ∧
      rest = info.drop (cursor + field.width) := by
  obtain ⟨part, hsplit, hdecode⟩ := takeItem_eq_ok_iff.mp htake
  have hwidth : part.length = field.width := Codec.length_of_decode hdecode
  have hlength := congrArg List.length hsplit
  rw [List.length_drop, List.length_append, hwidth] at hlength
  refine ⟨⟨part, ?_, hdecode⟩, by omega, ?_⟩
  · rw [Frame.slice?, if_pos (by omega), List.drop_take, Nat.add_sub_cancel_left, hsplit,
      List.take_left' hwidth]
  · rw [← List.drop_drop, hsplit, List.drop_left' hwidth]

theorem hasItemAt_of_takeItems {count : Nat} {items : List Value}
    (hcursor : cursor ≤ info.length)
    (htake : field.takeItems count (info.drop cursor) = .ok (items, rest)) :
    (∀ j item, items[j]? = some item → field.HasItemAt info (cursor + j * field.width) item) ∧
      cursor + count * field.width ≤ info.length ∧
      rest = info.drop (cursor + count * field.width) := by
  induction count generalizing cursor items with
  | zero =>
      simp only [takeItems, Except.ok.injEq, Prod.mk.injEq] at htake
      obtain ⟨rfl, rfl⟩ := htake
      simp [hcursor]
  | succ count ih =>
      obtain ⟨⟨first, middle⟩, hitem, htake⟩ := bind_eq_ok_iff.mp htake
      obtain ⟨⟨others, last⟩, hothers, htake⟩ := bind_eq_ok_iff.mp htake
      simp only [pure, Except.pure, Except.ok.injEq, Prod.mk.injEq] at htake
      obtain ⟨rfl, rfl⟩ := htake
      obtain ⟨hfirst, hnext, rfl⟩ := hasItemAt_of_takeItem hcursor hitem
      obtain ⟨hlater, hend, rfl⟩ := ih hnext hothers
      have hstop : cursor + (count + 1) * field.width =
          cursor + field.width + count * field.width := by ring
      rw [hstop]
      refine ⟨?_, hend, rfl⟩
      intro j item hj
      cases j with
      | zero =>
          obtain rfl : first = item := Option.some.inj hj
          simpa using hfirst
      | succ j =>
          have hposition : cursor + (j + 1) * field.width =
              cursor + field.width + j * field.width := by ring
          rw [hposition]
          exact hlater j item hj

theorem hasItemAt_of_take {record : Record} {value : FieldValue}
    (hcursor : cursor ≤ info.length)
    (htake : field.take record (info.drop cursor) = .ok (value, rest)) :
    (∀ j item, value.items[j]? = some item →
      field.HasItemAt info (cursor + j * field.width) item) ∧
      (¬ field.IsCounted → cursor + field.fixedCount * field.width ≤ info.length ∧
        rest = info.drop (cursor + field.fixedCount * field.width)) := by
  obtain ⟨count?, hcount, htake⟩ := bind_eq_ok_iff.mp htake
  cases count? with
  | none =>
      obtain ⟨⟨item, middle⟩, hitem, htake⟩ := bind_eq_ok_iff.mp htake
      simp only [pure, Except.pure, Except.ok.injEq, Prod.mk.injEq] at htake
      obtain ⟨rfl, rfl⟩ := htake
      obtain ⟨hfirst, hend, rfl⟩ := hasItemAt_of_takeItem hcursor hitem
      have hone : field.fixedCount = 1 := by
        rw [fixedCount, count?_eq_none_iff.mp hcount]
      rw [hone, one_mul]
      refine ⟨?_, fun _ => ⟨hend, rfl⟩⟩
      intro j other hj
      cases j with
      | zero =>
          obtain rfl : item = other := Option.some.inj hj
          simpa using hfirst
      | succ j => cases hj
  | some count =>
      obtain ⟨⟨items, middle⟩, hitems, htake⟩ := bind_eq_ok_iff.mp htake
      simp only [pure, Except.pure, Except.ok.injEq, Prod.mk.injEq] at htake
      obtain ⟨rfl, rfl⟩ := htake
      obtain ⟨hall, hend, rfl⟩ := hasItemAt_of_takeItems hcursor hitems
      refine ⟨hall, fun hfixed => ?_⟩
      have hsame : field.fixedCount = count := by
        unfold count? at hcount
        unfold fixedCount
        cases hquantity : field.quantity with
        | scalar => simp [hquantity] at hcount
        | fixed n => simpa [hquantity] using hcount
        | ref key => exact absurd ⟨key, hquantity⟩ hfixed
      rw [hsame]
      exact ⟨hend, rfl⟩

end Field

namespace Payload

/-- The decoder comes to a field at the size of the fields before it. -/
theorem exists_take_at {before after : List Field} {field : Field} {record last : Record}
    {info rest : Bytes} {cursor : Nat} (hcursor : cursor ≤ info.length)
    (hfixed : ∀ earlier ∈ before, ¬ earlier.IsCounted)
    (htake : takeAll record (before ++ field :: after) (info.drop cursor) =
      .ok (last, rest)) :
    ∃ reached value middle,
      cursor + fixedSize before ≤ info.length ∧
      field.take reached (info.drop (cursor + fixedSize before)) = .ok (value, middle) ∧
      takeAll (reached.insert field.key value) after middle = .ok (last, rest) := by
  induction before generalizing record cursor with
  | nil =>
      obtain ⟨value, middle, hfield, hafter⟩ := takeAll_cons_eq_ok_iff.mp htake
      exact ⟨record, value, middle, hcursor, hfield, hafter⟩
  | cons first before ih =>
      obtain ⟨value, middle, hfirst, hlater⟩ := takeAll_cons_eq_ok_iff.mp htake
      obtain ⟨_, hmoved⟩ := Field.hasItemAt_of_take hcursor hfirst
      obtain ⟨hnext, rfl⟩ := hmoved (hfixed first (by simp))
      rw [fixedSize_cons, ← Nat.add_assoc]
      exact ih hnext (fun earlier hearlier => hfixed earlier (by simp [hearlier])) hlater

end Payload

/-! ## The size of a record -/

namespace Field

variable {field : Field} {bytes : Bytes}

theorem length_of_encodeItems {items : List Value}
    (hencode : field.encodeItems items = .ok bytes) :
    bytes.length = items.length * field.width := by
  induction items generalizing bytes with
  | nil =>
      obtain rfl := Except.ok.inj hencode
      simp
  | cons item items ih =>
      obtain ⟨first, hfirst, hencode⟩ := bind_eq_ok_iff.mp hencode
      obtain ⟨others, hothers, hencode⟩ := bind_eq_ok_iff.mp hencode
      obtain rfl := Except.ok.inj hencode
      have hwidth : first.length = field.width := Codec.length_of_encode hfirst
      rw [List.length_append, hwidth, ih hothers, List.length_cons]
      ring

theorem length_of_put {record : Record} {value : FieldValue} (hfixed : ¬ field.IsCounted)
    (hput : field.put record value = .ok bytes) :
    bytes.length = field.fixedCount * field.width := by
  unfold fixedCount
  cases hquantity : field.quantity with
  | scalar =>
      obtain ⟨item, _, hencode⟩ := (put_of_scalar (count?_eq_none_iff.mpr hquantity)).mp hput
      rw [one_mul]
      exact Codec.length_of_encode hencode
  | fixed count =>
      have hcount : field.count? record = .ok (some count) := by
        simp only [count?, hquantity]
      obtain ⟨items, _, rfl, hencode⟩ := (put_of_array hcount).mp hput
      exact length_of_encodeItems hencode
  | ref key => exact absurd ⟨key, hquantity⟩ hfixed

end Field

namespace Payload

theorem length_of_encode {fields : List Field} (hfixed : ∀ field ∈ fields, ¬ field.IsCounted)
    {record : Record} {bytes : Bytes} (hencode : encode .reject record fields = .ok bytes) :
    bytes.length = fixedSize fields := by
  induction fields generalizing bytes with
  | nil =>
      obtain rfl := Except.ok.inj hencode
      rfl
  | cons field fields ih =>
      obtain ⟨value, first, others, _, hput, hothers, rfl⟩ := encode_cons_eq_ok_iff.mp hencode
      have hlater : ∀ other ∈ fields, ¬ other.IsCounted :=
        fun other hother => hfixed other (by simp [hother])
      rw [List.length_append, Field.length_of_put (hfixed field (by simp)) hput,
        ih hlater hothers, fixedSize_cons]

/-- A field from a schema that has no counted field before it is decoded from its start on,
each item from its own bytes, one width further than the item before. If no field is
counted, then all records that can be encoded take the same number of bytes, count times
width over all fields, and these always fit into a frame. -/
theorem starts_are_offsets {command : String} {entries : List FieldEntry}
    {fields : List Field} (hfields : layOutFields command entries = .ok fields) :
    (∀ info record, decode fields info = .ok record →
      ∀ before field after, fields = before ++ field :: after →
        (∀ earlier ∈ before, ¬ earlier.IsCounted) →
        ∃ value, record.get? field.key = some value ∧
          ∀ j item, value.items[j]? = some item →
            ∃ part, Frame.slice? info (field.start + j * field.width)
                (field.start + (j + 1) * field.width) = some part ∧
              field.codec.decode part = .ok item) ∧
      ((∀ field ∈ fields, ¬ field.IsCounted) →
        (fields.map fun field => field.fixedCount * field.width).sum ≤ 4095 ∧
        ∀ record info, encode .reject record fields = .ok info →
          info.length = (fields.map fun field => field.fixedCount * field.width).sum ∧
          ∀ address id1 id2, ∃ bytes, Frame.encode ⟨address, id1, id2, info⟩ = .ok bytes) := by
  have hwellFormed : WellFormed fields := wellFormed_layOutFields hfields
  have hstarts : StartsFollow fields := startsFollow_layOutFields hfields
  constructor
  · intro info record hdecode before field after hsplit hfixed
    obtain ⟨rest, htake⟩ := decode_eq_ok_iff.mp hdecode
    rw [hsplit, ← List.drop_zero (l := info)] at htake
    obtain ⟨reached, value, middle, hbound, hfield, hafter⟩ :=
      exists_take_at (Nat.zero_le _) hfixed htake
    rw [Nat.zero_add, ← hstarts.start_eq before field after hsplit hfixed] at hbound hfield
    have hunused : field.key ∉ after.map Field.key := by
      rw [hsplit, List.append_cons] at hwellFormed
      exact hwellFormed.key_not_mem (by simp)
    refine ⟨value, ?_, ?_⟩
    · rw [get?_of_takeAll_of_not_mem hafter hunused, KeyMap.get?_insert_self]
    · intro j item hitem
      rw [Nat.succ_mul, ← Nat.add_assoc]
      exact (Field.hasItemAt_of_take hbound hfield).1 j item hitem
  · intro hfixed
    have hsize : fixedSize fields ≤ LengthField.maxInfo := hstarts.size_le hfixed
    refine ⟨hsize, fun record info hencode => ?_⟩
    have hlength := length_of_encode hfixed hencode
    refine ⟨hlength, fun address id1 id2 => ?_⟩
    exact ⟨_, Frame.encode_eq_ok_iff.mpr ⟨hlength ▸ hsize, rfl⟩⟩

/-- A number and two words behind it. -/
def pairEntries : List FieldEntry :=
  [⟨"n", "", .uint8, some 0, none, none, none⟩,
    ⟨"pair", "", .uint16, some 1, none, none, some (.count 2)⟩]

def pairFields : List Field :=
  [⟨"n", "n", 0, .uint8, .scalar⟩, ⟨"pair", "pair", 1, .uint16, .fixed 2⟩]

def pairRecord : Record :=
  KeyMap.ofList [("n", .scalar (.uint 7)), ("pair", .array [.uint 256, .uint 2])]

theorem starts_are_offsets_pair :
    layOutFields "pair" pairEntries = .ok pairFields ∧
      decode pairFields [7, 1, 0, 0, 2, 0xEE] = .ok pairRecord ∧
      (∃ part, Frame.slice? [7, 1, 0, 0, 2, 0xEE] 3 5 = some part ∧
        Codec.uint16.decode part = .ok (.uint 2)) ∧
      encode .reject pairRecord pairFields = .ok [7, 1, 0, 0, 2] ∧
      (∀ field ∈ pairFields, ¬ field.IsCounted) ∧
      ∃ bytes, Frame.encode ⟨1, 0x40, 0x81, [7, 1, 0, 0, 2]⟩ = .ok bytes := by
  have hfields : layOutFields "pair" pairEntries = .ok pairFields := by
    rfl
  have hdecode : decode pairFields [7, 1, 0, 0, 2, 0xEE] = .ok pairRecord := by
    rfl
  have hencode : encode .reject pairRecord pairFields = .ok [7, 1, 0, 0, 2] := by
    rfl
  have hfixed : ∀ field ∈ pairFields, ¬ field.IsCounted := by
    simp [pairFields, Field.IsCounted]
  obtain ⟨hoffsets, hsizes⟩ := starts_are_offsets hfields
  obtain ⟨value, hvalue, hitems⟩ := hoffsets _ _ hdecode [⟨"n", "n", 0, .uint8, .scalar⟩] _ []
    rfl (fun earlier hearlier => hfixed earlier (List.mem_append_left [_] hearlier))
  obtain rfl : FieldValue.array [.uint 256, .uint 2] = value := Option.some.inj hvalue
  exact ⟨hfields, hdecode, hitems 1 (.uint 2) rfl, hencode, hfixed,
    ((hsizes hfixed).2 _ _ hencode).2 1 0x40 0x81⟩

end Payload

end PowerLink
