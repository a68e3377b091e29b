import PowerLink.Proofs.Payloads

/-!
# Payloads end by themselves

Decoding uses up a prefix of its input, and which prefix that is does not depend on the
bytes behind it.  Every step of the decoder has this property, a single item as well as
a whole list of fields, because a step that is followed by another one keeps it.  The
prefix is also what the decoded record is encoded as, so nothing of it is lost.
-/

namespace PowerLink

open Results

/-- What the step takes off its input does not depend on the bytes that follow. -/
def SelfDelimiting {α : Type} (step : Bytes → Except CodecError (α × Bytes)) : Prop :=
  ∀ bytes value rest, step bytes = .ok (value, rest) →
    ∃ part, bytes = part ++ rest ∧ ∀ tail, step (part ++ tail) = .ok (value, tail)

namespace SelfDelimiting

variable {α β : Type}

theorem pure (value : α) : SelfDelimiting fun bytes => .ok (value, bytes) := by
  intro bytes found rest hstep
  simp only [Except.ok.injEq, Prod.mk.injEq] at hstep
  rcases hstep with ⟨rfl, rfl⟩
  exact ⟨[], rfl, fun _ => rfl⟩

theorem bind {step : Bytes → Except CodecError (α × Bytes)}
    {next : α × Bytes → Except CodecError (β × Bytes)} (hstep : SelfDelimiting step)
    (hnext : ∀ value, SelfDelimiting fun bytes => next (value, bytes)) :
    SelfDelimiting fun bytes => step bytes >>= next := by
  intro bytes value rest hrun
  rcases bind_eq_ok_iff.mp hrun with ⟨⟨first, middle⟩, hfirst, hsecond⟩
  obtain ⟨part, rfl, hpart⟩ := hstep bytes first middle hfirst
  obtain ⟨others, rfl, hothers⟩ := hnext first middle value rest hsecond
  refine ⟨part ++ others, (List.append_assoc _ _ _).symm, ?_⟩
  intro tail
  have hagain := hpart (others ++ tail)
  rw [← List.append_assoc] at hagain
  simp only [hagain]
  exact hothers tail

end SelfDelimiting

namespace Field

theorem selfDelimiting_takeItem (field : Field) : SelfDelimiting field.takeItem := by
  intro bytes value rest htake
  rcases takeItem_eq_ok_iff.mp htake with ⟨item, rfl, hdecode⟩
  refine ⟨item, rfl, ?_⟩
  intro tail
  exact takeItem_eq_ok_iff.mpr ⟨item, rfl, hdecode⟩

theorem selfDelimiting_takeItems (field : Field) (count : Nat) :
    SelfDelimiting (field.takeItems count) := by
  induction count with
  | zero => exact SelfDelimiting.pure []
  | succ count ih =>
      apply field.selfDelimiting_takeItem.bind
      intro value
      exact ih.bind fun values => SelfDelimiting.pure (value :: values)

theorem selfDelimiting_take (field : Field) (record : Record) :
    SelfDelimiting (field.take record) := by
  unfold take
  cases field.count? record with
  | error e =>
      intro bytes value rest htake
      cases htake
  | ok count? =>
      cases count? with
      | none =>
          exact field.selfDelimiting_takeItem.bind fun value =>
            SelfDelimiting.pure (FieldValue.scalar value)
      | some count =>
          exact (field.selfDelimiting_takeItems count).bind fun values =>
            SelfDelimiting.pure (FieldValue.array values)

end Field

namespace Payload

theorem selfDelimiting_takeAll (fields : List Field) (record : Record) :
    SelfDelimiting (takeAll record fields) := by
  induction fields generalizing record with
  | nil => exact SelfDelimiting.pure record
  | cons field fields ih =>
      apply (field.selfDelimiting_take record).bind
      intro value
      exact ih (record.insert field.key value)

theorem decode_eq_ok_iff {fields : List Field} {info : Bytes} {record : Record} :
    decode fields info = .ok record ↔
      ∃ rest, takeAll .empty fields info = .ok (record, rest) := by
  rw [decode, decodeOnto_eq_takeAll]
  cases takeAll .empty fields info with
  | error e => simp [Except.map]
  | ok taken => simp [Except.map, Prod.ext_iff]

/-- A payload that fields from a schema can decode begins with the bytes that the
record is encoded as, and these bytes are decoded as the same record whatever comes
behind them. -/
theorem decode_self_delimiting {command : String} {entries : List FieldEntry}
    {fields : List Field} (hfields : layOutFields command entries = .ok fields)
    {info : Bytes} {record : Record} (hdecode : decode fields info = .ok record) :
    ∃ part, part <+: info ∧ encode .reject record fields = .ok part ∧
      ∀ tail, decode fields (part ++ tail) = .ok record := by
  have hwellFormed : WellFormed ([] ++ fields) := wellFormed_layOutFields hfields
  rcases decode_eq_ok_iff.mp hdecode with ⟨rest, htake⟩
  obtain ⟨part, hpart, hagain⟩ := selfDelimiting_takeAll fields .empty info record rest htake
  obtain ⟨written, hwritten, hencode⟩ := encode_of_takeAll hwellFormed htake
  have hsame : written = part := List.append_cancel_right (hwritten.symm.trans hpart)
  refine ⟨part, ⟨rest, hpart.symm⟩, hsame ▸ hencode, ?_⟩
  intro tail
  exact decode_eq_ok_iff.mpr ⟨tail, hagain tail⟩

/-- As many labels as the first byte says, a mode with two names for one byte, and a
number. -/
def labelEntries : List FieldEntry :=
  [⟨"n", "", .uint8, none, none, none, none⟩,
    ⟨"labels", "", .string, none, some 3, none, some (.reference "$\x7b n \x7d")⟩,
    ⟨"mode", "", .enum, none, none, some (KeyMap.ofList [("on", 1), ("idle", 1)]), none⟩,
    ⟨"level", "", .float, none, none, none, none⟩]

def labelFields : List Field :=
  [⟨"n", "n", 0, .uint8, .scalar⟩,
    ⟨"labels", "labels", 1, .ascii 3, .ref "n"⟩,
    ⟨"mode", "mode", 0, .enum (KeyMap.ofList [("on", 1), ("idle", 1)]), .scalar⟩,
    ⟨"level", "level", 0, .float, .scalar⟩]

/-- A label with a NUL inside, a number that is none, and a byte too many. -/
def labelInfo : Bytes :=
  [1, 0x41, 0x00, 0x42, 1, 0x7F, 0xC0, 0x00, 0x01, 0xEE]

def labelRecord : Record :=
  KeyMap.ofList
    [("n", .scalar (.uint 1)), ("labels", .array [.text "A\x00B"]),
      ("mode", .scalar (.text "idle")), ("level", .scalar (.float ⟨0x7FC00001⟩))]

theorem decode_self_delimiting_labels :
    layOutFields "labels" labelEntries = .ok labelFields ∧
      decode labelFields labelInfo = .ok labelRecord ∧
      ∃ part, part <+: labelInfo ∧ encode .reject labelRecord labelFields = .ok part ∧
        ∀ tail, decode labelFields (part ++ tail) = .ok labelRecord := by
  have hfields : layOutFields "labels" labelEntries = .ok labelFields := by
    rfl
  have hdecode : decode labelFields labelInfo = .ok labelRecord := by
    rfl
  exact ⟨hfields, hdecode, decode_self_delimiting hfields hdecode⟩

end Payload

end PowerLink
