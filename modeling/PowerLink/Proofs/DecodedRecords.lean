import PowerLink.Proofs.PayloadPositions
import PowerLink.Proofs.PayloadPrefixes

/-!
# What can come of decoding

Fields that have passed the check of a schema leave only the payload to blame if it
cannot be decoded: a count is always found, because the field that gives it has been
decoded as an unsigned number and no later field has its key.  For the same reason a
decoded record holds every field in the form that its repeat count asks for.
-/

namespace PowerLink

open Results

/-- The bytes of the payload are to blame, and not the fields or the record. -/
inductive CodecError.LiesInPayload : CodecError → Prop
  | truncated (key : String) (needed remaining : Nat) :
      LiesInPayload (.truncated key needed remaining)
  | unknownEnumByte (byte : UInt8) : LiesInPayload (.unknownEnumByte byte)
  | notAscii : LiesInPayload .notAscii
  | invalidDateTime (text : String) : LiesInPayload (.invalidDateTime text)

namespace Codec

theorem liesInPayload_of_decodeAscii {bytes : Bytes} {e : CodecError}
    (hdecode : decodeAscii bytes = .error e) : e.LiesInPayload := by
  unfold decodeAscii at hdecode
  simp only at hdecode
  split at hdecode
  next => simp at hdecode
  next =>
    simp only [Except.error.injEq] at hdecode
    rw [← hdecode]
    exact .notAscii

theorem liesInPayload_of_decodeDateTime {year month day hour minute second : Nat}
    {e : CodecError}
    (hdecode : decodeDateTime year month day hour minute second = .error e) :
    e.LiesInPayload := by
  have hinvalid : e = decodeDateTime.invalid year month day hour minute second := by
    unfold decodeDateTime at hdecode
    split at hdecode
    next =>
      split at hdecode
      next => simp at hdecode
      next => exact (Except.error.inj hdecode).symm
    next => exact (Except.error.inj hdecode).symm
  rw [hinvalid]
  exact .invalidDateTime _

theorem liesInPayload_of_decode {codec : Codec} {bytes : Bytes} {e : CodecError}
    (hlength : bytes.length = codec.width) (hdecode : codec.decode bytes = .error e) :
    e.LiesInPayload := by
  unfold decode at hdecode
  rw [if_neg (not_not.mpr hlength)] at hdecode
  cases codec with
  | uint8 =>
      rcases List.length_eq_one_iff.mp hlength with ⟨a, rfl⟩
      simp at hdecode
  | uint16 =>
      rcases List.length_eq_two.mp hlength with ⟨a, b, rfl⟩
      simp at hdecode
  | float =>
      match bytes, hlength with
      | [a, b, c, d], _ => simp at hdecode
  | enum table =>
      rcases List.length_eq_one_iff.mp hlength with ⟨a, rfl⟩
      simp only at hdecode
      split at hdecode
      next => simp at hdecode
      next =>
        simp only [Except.error.injEq] at hdecode
        rw [← hdecode]
        exact .unknownEnumByte a
  | ascii width => exact liesInPayload_of_decodeAscii hdecode
  | dateTime =>
      match bytes, hlength with
      | [year1, year2, month, day, hour, minute, second], _ =>
          exact liesInPayload_of_decodeDateTime hdecode
  | version =>
      rcases List.length_eq_two.mp hlength with ⟨major, minor, rfl⟩
      simp at hdecode

end Codec

/-! ## Failures -/

namespace Field

variable {field : Field} {record : Record} {bytes : Bytes} {e : CodecError}

theorem liesInPayload_of_takeItem (htake : field.takeItem bytes = .error e) :
    e.LiesInPayload := by
  unfold takeItem at htake
  split at htake
  next =>
    simp only [Except.error.injEq] at htake
    rw [← htake]
    exact .truncated _ _ _
  next henough =>
    have hlength : (bytes.take field.width).length = field.codec.width :=
      List.length_take_of_le (Nat.le_of_not_lt henough)
    split at htake
    next => simp at htake
    next e' hdecode =>
      simp only [Except.error.injEq] at htake
      rw [← htake]
      exact Codec.liesInPayload_of_decode hlength hdecode

theorem liesInPayload_of_takeItems {count : Nat}
    (htake : field.takeItems count bytes = .error e) : e.LiesInPayload := by
  induction count generalizing bytes with
  | zero => simp [takeItems] at htake
  | succ count ih =>
      rcases bind_eq_error_iff.mp htake with hitem | ⟨taken, _, hrest⟩
      · exact liesInPayload_of_takeItem hitem
      · rcases bind_eq_error_iff.mp hrest with hitems | ⟨_, _, hdone⟩
        · exact ih hitems
        · cases hdone

theorem liesInPayload_of_take {count? : Option Nat}
    (hcount : field.count? record = .ok count?)
    (htake : field.take record bytes = .error e) : e.LiesInPayload := by
  rcases bind_eq_error_iff.mp htake with hfailed | ⟨found, _, htake⟩
  · rw [hcount] at hfailed
    cases hfailed
  · cases found with
    | none =>
        rcases bind_eq_error_iff.mp htake with hitem | ⟨_, _, hdone⟩
        · exact liesInPayload_of_takeItem hitem
        · cases hdone
    | some count =>
        rcases bind_eq_error_iff.mp htake with hitems | ⟨_, _, hdone⟩
        · exact liesInPayload_of_takeItems hitems
        · cases hdone

end Field

namespace Payload

/-- The record has an unsigned number under every key that can be a count. -/
def HoldsCounts (fields : List Field) (record : Record) : Prop :=
  ∀ count ∈ fields, count.IsCount → ∃ n, record.get? count.key = some (.scalar (.uint n))

theorem HoldsCounts.count?_eq {before fields : List Field} {field : Field}
    (hfields : WellFormed (before ++ field :: fields)) {record : Record}
    (hholds : HoldsCounts before record) : ∃ count?, field.count? record = .ok count? := by
  have hagree : CountsAgree before record record := by
    intro count hmem hcount
    rcases hholds count hmem hcount with ⟨n, hn⟩
    exact ⟨n, hn, hn⟩
  rcases hagree.count?_eq hfields with ⟨count?, hcount, _⟩
  exact ⟨count?, hcount⟩

theorem HoldsCounts.concat {before fields : List Field} {field : Field}
    (hfields : WellFormed (before ++ field :: fields)) {record : Record}
    (hholds : HoldsCounts before record) {bytes rest : Bytes} {value : FieldValue}
    (htake : field.take record bytes = .ok (value, rest)) :
    HoldsCounts (before ++ [field]) (record.insert field.key value) := by
  intro count hmem hcount
  rcases List.mem_append.mp hmem with hold | hnew
  · rcases hholds count hold hcount with ⟨n, hn⟩
    refine ⟨n, ?_⟩
    rw [KeyMap.get?_insert_of_ne record (hfields.key_ne hold), hn]
  · obtain rfl := List.mem_singleton.mp hnew
    rcases Field.put_of_take htake with ⟨part, _, hput⟩
    rcases Field.take_of_put_count hcount hput with ⟨⟨n, rfl⟩, _⟩
    exact ⟨n, KeyMap.get?_insert_self record count.key _⟩

theorem liesInPayload_of_takeAll {before fields : List Field}
    (hfields : WellFormed (before ++ fields)) {record : Record}
    (hholds : HoldsCounts before record) {bytes : Bytes} {e : CodecError}
    (htake : takeAll record fields bytes = .error e) : e.LiesInPayload := by
  induction fields generalizing before record bytes with
  | nil => cases htake
  | cons field fields ih =>
      rcases bind_eq_error_iff.mp htake with hfirst | ⟨⟨value, rest⟩, hfirst, hlater⟩
      · rcases hholds.count?_eq hfields with ⟨count?, hcount⟩
        exact Field.liesInPayload_of_take hcount hfirst
      · have hnext := hholds.concat hfields hfirst
        rw [List.append_cons] at hfields
        exact ih hfields hnext hlater

theorem liesInPayload_of_decode {fields : List Field} (hfields : WellFormed fields)
    {info : Bytes} {e : CodecError} (hdecode : decode fields info = .error e) :
    e.LiesInPayload := by
  have hnone : HoldsCounts [] .empty := by
    intro count hmem
    cases hmem
  have hempty : WellFormed ([] ++ fields) := hfields
  rw [decode, decodeOnto_eq_takeAll] at hdecode
  cases htake : takeAll .empty fields info with
  | error e' =>
      rw [htake] at hdecode
      obtain rfl := Except.error.inj hdecode
      exact liesInPayload_of_takeAll hempty hnone htake
  | ok taken =>
      rw [htake] at hdecode
      cases hdecode

end Payload

/-! ## Shapes -/

/-- The record has a value of the field, and in the form that the repeat count asks
for. -/
def Field.IsHeldBy (field : Field) (record : Record) : Prop :=
  match field.quantity with
  | .scalar => ∃ item, record.get? field.key = some (.scalar item)
  | .fixed count =>
    ∃ items, record.get? field.key = some (.array items) ∧ items.length = count
  | .ref key =>
    ∃ n items, record.get? key = some (.scalar (.uint n)) ∧
      record.get? field.key = some (.array items) ∧ items.length = n.toNat

namespace Payload

theorem exists_put_of_encode {record : Record} {fields : List Field} {info : Bytes}
    (hencode : encode .reject record fields = .ok info) {field : Field}
    (hmem : field ∈ fields) :
    ∃ value part, record.get? field.key = some value ∧
      field.put record value = .ok part := by
  induction fields generalizing info with
  | nil => cases hmem
  | cons first fields ih =>
      obtain ⟨value, part, others, hvalue, hput, hothers, _⟩ :=
        encode_cons_eq_ok_iff.mp hencode
      rcases List.mem_cons.mp hmem with rfl | hlater
      · exact ⟨value, part, hvalue, hput⟩
      · exact ih hothers hlater

theorem holdsCounts_of_encode {record : Record} {fields : List Field} {info : Bytes}
    (hencode : encode .reject record fields = .ok info) : HoldsCounts fields record := by
  intro count hmem hcount
  obtain ⟨value, part, hvalue, hput⟩ := exists_put_of_encode hencode hmem
  rcases Field.take_of_put_count hcount hput with ⟨⟨n, rfl⟩, _⟩
  exact ⟨n, hvalue⟩

/-- A record that can be encoded holds every field in its form. -/
theorem isHeldBy_of_encode {record : Record} {fields : List Field}
    (hfields : WellFormed fields) {info : Bytes}
    (hencode : encode .reject record fields = .ok info) {field : Field}
    (hmem : field ∈ fields) : field.IsHeldBy record := by
  obtain ⟨value, part, hvalue, hput⟩ := exists_put_of_encode hencode hmem
  unfold Field.IsHeldBy
  cases hquantity : field.quantity with
  | scalar =>
      have hcount : field.count? record = .ok none := Field.count?_eq_none_iff.mpr hquantity
      rcases (Field.put_of_scalar hcount).mp hput with ⟨item, rfl, _⟩
      exact ⟨item, hvalue⟩
  | fixed count =>
      have hcount : field.count? record = .ok (some count) := by
        simp only [Field.count?, hquantity]
      rcases (Field.put_of_array hcount).mp hput with ⟨items, rfl, hlength, _⟩
      exact ⟨items, hvalue, hlength⟩
  | ref key =>
      rcases List.append_of_mem hmem with ⟨before, after, hsplit⟩
      obtain ⟨count, hbefore, rfl, hiscount⟩ :=
        hfields.count_before before field after key hsplit hquantity
      have hmember : count ∈ fields := by
        rw [hsplit]
        exact List.mem_append_left _ hbefore
      rcases holdsCounts_of_encode hencode count hmember hiscount with ⟨n, hn⟩
      have hcount : field.count? record = .ok (some n.toNat) := by
        simp only [Field.count?, hquantity, hn]
      rcases (Field.put_of_array hcount).mp hput with ⟨items, rfl, hlength, _⟩
      exact ⟨n, items, hn, hvalue, hlength⟩

theorem encode_of_decode {fields : List Field} (hfields : WellFormed fields)
    {info : Bytes} {record : Record} (hdecode : decode fields info = .ok record) :
    ∃ part, encode .reject record fields = .ok part := by
  have hempty : WellFormed ([] ++ fields) := hfields
  rcases decode_eq_ok_iff.mp hdecode with ⟨rest, htake⟩
  obtain ⟨part, _, hencode⟩ := encode_of_takeAll hempty htake
  exact ⟨part, hencode⟩

theorem mem_keys_of_decode {fields : List Field} {info : Bytes} {record : Record}
    (hdecode : decode fields info = .ok record) {key : String} :
    key ∈ record.keys ↔ key ∈ fields.map Field.key := by
  rcases decode_eq_ok_iff.mp hdecode with ⟨rest, htake⟩
  rw [mem_keys_of_takeAll htake]
  simp [KeyMap.keys, KeyMap.empty]

/-- Fields from a schema either fail to be decoded for a reason that lies in the bytes
of the payload, or give a record that has exactly the keys of the fields: a single item
for a scalar, and else an array with as many items as the repeat count says, be it
fixed or the number under another key of the record.  No position outside of the
payload is looked at. -/
theorem decode_faults_or_fills {command : String} {entries : List FieldEntry}
    {fields : List Field} (hfields : layOutFields command entries = .ok fields)
    (info : Bytes) :
    (decodeAt fields info).run = some (decode fields info) ∧
      ((∃ e, decode fields info = .error e ∧ e.LiesInPayload) ∨
        ∃ record, decode fields info = .ok record ∧
          (∀ key, key ∈ record.keys ↔ key ∈ fields.map Field.key) ∧
          ∀ field ∈ fields, field.IsHeldBy record) := by
  have hwellFormed : WellFormed fields := wellFormed_layOutFields hfields
  refine ⟨decodeAt_eq fields info, ?_⟩
  cases hdecode : decode fields info with
  | error e => exact .inl ⟨e, rfl, liesInPayload_of_decode hwellFormed hdecode⟩
  | ok record =>
      right
      refine ⟨record, rfl, fun key => mem_keys_of_decode hdecode, ?_⟩
      intro field hmem
      rcases encode_of_decode hwellFormed hdecode with ⟨part, hencode⟩
      exact isHeldBy_of_encode hwellFormed hencode hmem

theorem decode_faults_or_fills_labels :
    layOutFields "labels" labelEntries = .ok labelFields ∧
      (decodeAt labelFields labelInfo).run = some (decode labelFields labelInfo) ∧
      ((∃ e, decode labelFields labelInfo = .error e ∧ e.LiesInPayload) ∨
        ∃ record, decode labelFields labelInfo = .ok record ∧
          (∀ key, key ∈ record.keys ↔ key ∈ labelFields.map Field.key) ∧
          ∀ field ∈ labelFields, field.IsHeldBy record) := by
  have hfields : layOutFields "labels" labelEntries = .ok labelFields := by
    rfl
  exact ⟨hfields, decode_faults_or_fills hfields labelInfo⟩

end Payload

end PowerLink
