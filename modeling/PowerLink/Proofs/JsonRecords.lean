import PowerLink.Proofs.Payloads
import PowerLink.Proofs.Registries

/-!
# Records from JSON fit their fields

A value from JSON is made by one case analysis over the types and is encoded by another.
Both agree: what has been made for a field is never refused because of its type or because
it is an array, or none. It may be refused because it is too large, too long or unknown,
which is only looked at when it is encoded.

A record has one value under each key, but nothing keeps a list of fields from having one
key twice. Such fields agree at least on whether the value is an array, since they have
read it from the same member.
-/

namespace PowerLink

open Results

/-! ## Items -/

/-- An item is refused though it has the right type. -/
inductive CodecError.RefusesItem : CodecError → Prop
  | outOfRange (type : DataType) (given : Given) : RefusesItem (.outOfRange type given)
  | unknownEnumName (name : String) : RefusesItem (.unknownEnumName name)
  | notAscii : RefusesItem .notAscii
  | tooLong (size limit : Nat) : RefusesItem (.tooLong size limit)
  | invalidVersion (text : String) : RefusesItem (.invalidVersion text)

namespace Codec

/-- The value has the type of the codec. -/
inductive Suits : Codec → Value → Prop
  | uint8 (n : UInt32) : Suits .uint8 (.uint n)
  | uint16 (n : UInt32) : Suits .uint16 (.uint n)
  | float (x : Single) : Suits .float (.float x)
  | enum (table : EnumTable) (name : String) : Suits (.enum table) (.text name)
  | ascii (width : Nat) (text : String) : Suits (.ascii width) (.text text)
  | dateTime (t : DateTime) : Suits .dateTime (.dateTime t)
  | version (text : String) : Suits .version (.text text)

variable {codec : Codec} {value : Value} {e : CodecError}

theorem suits_of_ofJson {json : Json} (hjson : codec.ofJson json = .ok value) :
    codec.Suits value := by
  unfold ofJson at hjson
  cases codec with
  | uint8 | uint16 =>
      simp only at hjson
      split at hjson
      next n =>
        split at hjson
        next =>
          obtain rfl := Except.ok.inj hjson
          constructor
        next => cases hjson
      next => cases hjson
  | float | enum | ascii | version =>
      simp only at hjson
      split at hjson
      next =>
        obtain rfl := Except.ok.inj hjson
        constructor
      next => cases hjson
  | dateTime =>
      simp only at hjson
      split at hjson
      next =>
        split at hjson
        next t _ =>
          obtain rfl := Except.ok.inj hjson
          exact .dateTime t
        next => cases hjson
      next => cases hjson

theorem ofJson_array_ne_ok {items : List Json} : codec.ofJson (.array items) ≠ .ok value := by
  cases codec <;> simp [ofJson, Json.natural?, Json.double?, Json.string?]

theorem refusesItem_of_encodeAscii {width : Nat} {text : String}
    (hencode : encodeAscii width text = .error e) : e.RefusesItem := by
  unfold encodeAscii at hencode
  simp only at hencode
  split at hencode
  next =>
    obtain rfl := Except.error.inj hencode
    exact .notAscii
  next =>
    split at hencode
    next =>
      obtain rfl := Except.error.inj hencode
      exact .tooLong _ _
    next => cases hencode

theorem refusesItem_of_encodeDateTime {t : DateTime} (hencode : encodeDateTime t = .error e) :
    e.RefusesItem := by
  unfold encodeDateTime at hencode
  split at hencode
  next => cases hencode
  next =>
    obtain rfl := Except.error.inj hencode
    exact .outOfRange _ _

theorem refusesItem_of_encodeVersion {text : String} (hencode : encodeVersion text = .error e) :
    e.RefusesItem := by
  unfold encodeVersion at hencode
  split at hencode
  next => cases hencode
  next =>
    obtain rfl := Except.error.inj hencode
    exact .invalidVersion text

/-- Encoding only fails on a value of the wrong type, or by refusing one of the right type. -/
theorem encode_eq_error (hencode : codec.encode value = .error e) :
    e.RefusesItem ∨ ¬ codec.Suits value ∧ e = .typeMismatch codec.dataType (.value value) := by
  unfold encode at hencode
  split at hencode
  next n =>
    split at hencode
    next => cases hencode
    next =>
      obtain rfl := Except.error.inj hencode
      exact .inl (.outOfRange _ _)
  next n =>
    split at hencode
    next => cases hencode
    next =>
      obtain rfl := Except.error.inj hencode
      exact .inl (.outOfRange _ _)
  next => cases hencode
  next => cases hencode
  next table name =>
    split at hencode
    next => cases hencode
    next =>
      obtain rfl := Except.error.inj hencode
      exact .inl (.unknownEnumName name)
  next => exact .inl (refusesItem_of_encodeAscii hencode)
  next => exact .inl (refusesItem_of_encodeDateTime hencode)
  next => exact .inl (refusesItem_of_encodeVersion hencode)
  next =>
    obtain rfl := Except.error.inj hencode
    refine .inr ⟨?_, rfl⟩
    intro hsuits
    cases hsuits <;> simp at *

theorem encode_ne_shape {key : String} {fault : ShapeFault} :
    codec.encode value ≠ .error (.shape key fault) := by
  intro hencode
  rcases encode_eq_error hencode with hrefuses | ⟨_, hmismatch⟩
  · cases hrefuses
  · cases hmismatch

end Codec

/-! ## Fields -/

namespace Field

variable {field other : Field} {given : Json} {value found : FieldValue} {e : CodecError}

theorem ofJson_eq_ok (hjson : field.ofJson given = .ok value) :
    (field.quantity = .scalar ∧
        ∃ item, value = .scalar item ∧ field.codec.ofJson given = .ok item) ∨
      field.quantity ≠ .scalar ∧
        ∃ givens items, given = .array givens ∧ value = .array items ∧
          givens.mapM field.codec.ofJson = .ok items := by
  unfold ofJson at hjson
  split at hjson
  next hquantity =>
    obtain ⟨item, hitem, hvalue⟩ := map_eq_ok_iff.mp hjson
    exact .inl ⟨hquantity, item, hvalue.symm, hitem⟩
  next givens hquantity =>
    obtain ⟨items, hitems, hvalue⟩ := map_eq_ok_iff.mp hjson
    exact .inr ⟨hquantity, givens, items, rfl, hvalue.symm, hitems⟩
  next => cases hjson

/-- What one field has read from JSON has the form that another field asks for, if that field
can read the same JSON. -/
theorem scalar_iff_of_ofJson (hfield : field.ofJson given = .ok value)
    (hother : other.ofJson given = .ok found) :
    field.quantity = .scalar ↔ ∃ item, found = .scalar item := by
  rcases ofJson_eq_ok hfield with
    ⟨hscalar, item, _, hitem⟩ | ⟨harray, givens, items, rfl, _, _⟩
  · rcases ofJson_eq_ok hother with
      ⟨_, another, rfl, _⟩ | ⟨_, others, _, rfl, _, _⟩
    · exact ⟨fun _ => ⟨another, rfl⟩, fun _ => hscalar⟩
    · exact absurd hitem Codec.ofJson_array_ne_ok
  · rcases ofJson_eq_ok hother with
      ⟨_, another, _, hanother⟩ | ⟨_, _, read, _, rfl, _⟩
    · exact absurd hanother Codec.ofJson_array_ne_ok
    · exact ⟨fun hscalar => absurd hscalar harray, fun ⟨_, hfound⟩ => by cases hfound⟩

theorem suits_of_ofJson (hjson : field.ofJson given = .ok value) {item : Value}
    (hitem : item ∈ value.items) : field.codec.Suits item := by
  rcases ofJson_eq_ok hjson with
    ⟨_, only, rfl, honly⟩ | ⟨_, givens, items, _, rfl, hitems⟩
  · obtain rfl := List.mem_singleton.mp hitem
    exact Codec.suits_of_ofJson honly
  · obtain ⟨one, _, hone⟩ := exists_of_mem_mapM hitems hitem
    exact Codec.suits_of_ofJson hone

theorem encodeItems_eq_error {items : List Value}
    (hencode : field.encodeItems items = .error e) :
    ∃ item ∈ items, field.codec.encode item = .error e := by
  induction items with
  | nil => cases hencode
  | cons item items ih =>
      rcases bind_eq_error_iff.mp hencode with hfirst | ⟨_, _, hencode⟩
      · exact ⟨item, by simp, hfirst⟩
      · rcases bind_eq_error_iff.mp hencode with hlater | ⟨_, _, hdone⟩
        · obtain ⟨failing, hmem, hitem⟩ := ih hlater
          exact ⟨failing, by simp [hmem], hitem⟩
        · cases hdone

/-- A value in the form that the field asks for is only refused for the number of its items
or for one of them. -/
theorem put_eq_error {record : Record}
    (hform : field.quantity = .scalar ↔ ∃ item, value = .scalar item)
    (hput : field.put record value = .error e) :
    (∃ items count, value = .array items ∧ field.count? record = .ok (some count) ∧
        items.length ≠ count ∧ e = .shape field.key (.itemCount count items.length)) ∨
      ∃ item ∈ value.items, field.codec.encode item = .error e := by
  cases value with
  | scalar item =>
      have hscalar : field.quantity = .scalar := hform.mpr ⟨item, rfl⟩
      simp only [put, hscalar] at hput
      exact .inr ⟨item, by simp [FieldValue.items], hput⟩
  | array items =>
      have harray : field.quantity ≠ .scalar := by
        intro hscalar
        obtain ⟨_, hitem⟩ := hform.mp hscalar
        cases hitem
      rw [put_array harray] at hput
      split at hput
      next count hcount =>
        split at hput
        next => exact .inr (encodeItems_eq_error hput)
        next hlength =>
          obtain rfl := Except.error.inj hput
          exact .inl ⟨items, count, rfl, hcount, hlength, rfl⟩
      next => exact .inr (encodeItems_eq_error hput)

end Field

theorem Payload.encode_eq_error {missing : Missing} {record : Record} {fields : List Field}
    {e : CodecError} (hencode : encode missing record fields = .error e) :
    (∃ field ∈ fields, record.get? field.key = none ∧ e = .missingField field.key) ∨
      ∃ field ∈ fields, ∃ value, record.get? field.key = some value ∧
        field.put record value = .error e := by
  induction fields with
  | nil => cases hencode
  | cons field fields ih =>
      have hlater (hothers : encode missing record fields = .error e) :
          (∃ other ∈ field :: fields,
              record.get? other.key = none ∧ e = .missingField other.key) ∨
            ∃ other ∈ field :: fields, ∃ value, record.get? other.key = some value ∧
              other.put record value = .error e := by
        rcases ih hothers with ⟨other, hmem, hfault⟩ | ⟨other, hmem, hfault⟩
        · exact .inl ⟨other, List.mem_cons_of_mem field hmem, hfault⟩
        · exact .inr ⟨other, List.mem_cons_of_mem field hmem, hfault⟩
      unfold encode at hencode
      split at hencode
      next hvalue =>
        obtain rfl := Except.error.inj hencode
        exact .inl ⟨field, by simp, hvalue, rfl⟩
      next => exact hlater hencode
      next value hvalue =>
        rcases bind_eq_error_iff.mp hencode with hput | ⟨_, _, hencode⟩
        · exact .inr ⟨field, by simp, value, hvalue, hput⟩
        · rcases bind_eq_error_iff.mp hencode with hothers | ⟨_, _, hdone⟩
          · exact hlater hothers
          · cases hdone

/-! ## Records -/

namespace Record

/-- The record holds what the fields have read from the members of the JSON value. -/
structure ReadFrom (json : Json) (fields : List Field) (record : Record) : Prop where
  read : ∀ field ∈ fields, ∀ given, json.member? field.key = some given →
    field.key ∈ record.keys ∧ ∃ value, field.ofJson given = .ok value
  source : ∀ key value, record.get? key = some value →
    ∃ field ∈ fields, field.key = key ∧
      ∃ given, json.member? key = some given ∧ field.ofJson given = .ok value

namespace ReadFrom

variable {json : Json} {fields : List Field} {record : Record} {field : Field}

theorem nil (json : Json) : ReadFrom json [] .empty where
  read := by simp
  source := by simp

theorem concat_absent (hread : ReadFrom json fields record)
    (habsent : json.member? field.key = none) : ReadFrom json (fields ++ [field]) record := by
  constructor
  · refine List.forall_mem_append.mpr ⟨hread.read, ?_⟩
    simp [habsent]
  · intro key value hvalue
    obtain ⟨other, hmem, hsource⟩ := hread.source key value hvalue
    exact ⟨other, List.mem_append_left _ hmem, hsource⟩

theorem concat_present (hread : ReadFrom json fields record) {given : Json}
    (hgiven : json.member? field.key = some given) {value : FieldValue}
    (hvalue : field.ofJson given = .ok value) :
    ReadFrom json (fields ++ [field]) (record.insert field.key value) := by
  constructor
  · refine List.forall_mem_append.mpr ⟨?_, List.forall_mem_singleton.mpr ?_⟩
    · intro other hmem another hanother
      obtain ⟨hkey, hread⟩ := hread.read other hmem another hanother
      exact ⟨KeyMap.mem_keys_insert.mpr (.inr hkey), hread⟩
    · intro another hanother
      obtain rfl := Option.some.inj (hgiven.symm.trans hanother)
      exact ⟨KeyMap.mem_keys_insert.mpr (.inl rfl), value, hvalue⟩
  · intro key found hfound
    by_cases hkey : key = field.key
    · subst hkey
      rw [KeyMap.get?_insert_self] at hfound
      obtain rfl := Option.some.inj hfound
      exact ⟨field, by simp, rfl, given, hgiven, hvalue⟩
    · rw [KeyMap.get?_insert_of_ne record hkey] at hfound
      obtain ⟨other, hmem, hsource⟩ := hread.source key found hfound
      exact ⟨other, List.mem_append_left _ hmem, hsource⟩

theorem collect {later : List Field} {last : Record} (hread : ReadFrom json fields record)
    (hcollect : Record.collect json record later = .ok last) :
    ReadFrom json (fields ++ later) last := by
  induction later generalizing fields record with
  | nil =>
      obtain rfl := Except.ok.inj hcollect
      rwa [List.append_nil]
  | cons field later ih =>
      rw [List.append_cons]
      unfold Record.collect at hcollect
      split at hcollect
      next given hgiven =>
        obtain ⟨value, hvalue, hlater⟩ := bind_eq_ok_iff.mp hcollect
        exact ih (hread.concat_present hgiven hvalue) hlater
      next habsent => exact ih (hread.concat_absent habsent) hcollect

theorem ofJson (hjson : Record.ofJson fields json = .ok record) :
    ReadFrom json fields record := by
  unfold Record.ofJson at hjson
  split at hjson
  next => exact (nil _).collect hjson
  next =>
    obtain rfl := Except.ok.inj hjson
    exact {
      read := by simp [Json.member?]
      source := by simp }
  next => cases hjson

theorem mem_keys_iff (hread : ReadFrom json fields record) {key : String} :
    key ∈ record.keys ↔
      key ∈ fields.map Field.key ∧ ∃ given, json.member? key = some given := by
  constructor
  · intro hkey
    obtain ⟨value, hvalue⟩ := KeyMap.mem_keys_iff.mp hkey
    obtain ⟨field, hmem, rfl, given, hgiven, _⟩ := hread.source key value hvalue
    exact ⟨List.mem_map_of_mem hmem, given, hgiven⟩
  · rintro ⟨hkey, given, hgiven⟩
    obtain ⟨field, hmem, rfl⟩ := List.mem_map.mp hkey
    exact (hread.read field hmem given hgiven).1

/-- A value has the form that every field with its key asks for, since each of these fields
could read the member that it was read from. -/
theorem scalar_iff (hread : ReadFrom json fields record) (hmem : field ∈ fields)
    {value : FieldValue} (hvalue : record.get? field.key = some value) :
    field.quantity = .scalar ↔ ∃ item, value = .scalar item := by
  obtain ⟨other, _, _, given, hgiven, hother⟩ := hread.source field.key value hvalue
  obtain ⟨_, own, hown⟩ := hread.read field hmem given hgiven
  exact Field.scalar_iff_of_ofJson hown hother

/-- A codec can only refuse what the field with the key has read. -/
theorem refusesItem (hread : ReadFrom json fields record)
    (hnodup : (fields.map Field.key).Nodup) (hmem : field ∈ fields) {value : FieldValue}
    (hvalue : record.get? field.key = some value) {item : Value} (hitem : item ∈ value.items)
    {e : CodecError} (hencode : field.codec.encode item = .error e) : e.RefusesItem := by
  obtain ⟨other, hother, hkey, given, _, hjson⟩ := hread.source field.key value hvalue
  obtain rfl : other = field := List.inj_on_of_nodup_map hnodup hother hmem hkey
  rcases Codec.encode_eq_error hencode with hrefuses | ⟨hnot, _⟩
  · exact hrefuses
  · exact absurd (Field.suits_of_ofJson hjson hitem) hnot

/-- Only three things can keep the record from being encoded: a field that is missing, a
number of items that is not the count, and an item that its codec does not take. -/
theorem encode_eq_error (hread : ReadFrom json fields record) {missing : Payload.Missing}
    {e : CodecError} (hencode : Payload.encode missing record fields = .error e) :
    (∃ field ∈ fields, json.member? field.key = none ∧ e = .missingField field.key) ∨
      (∃ field ∈ fields, ∃ items count, record.get? field.key = some (.array items) ∧
        field.count? record = .ok (some count) ∧ items.length ≠ count ∧
        e = .shape field.key (.itemCount count items.length)) ∨
      ∃ field ∈ fields, ∃ value, record.get? field.key = some value ∧
        ∃ item ∈ value.items, field.codec.encode item = .error e := by
  rcases Payload.encode_eq_error hencode with
    ⟨field, hmem, hvalue, rfl⟩ | ⟨field, hmem, value, hvalue, hput⟩
  · refine .inl ⟨field, hmem, ?_, rfl⟩
    rw [Option.eq_none_iff_forall_ne_some]
    intro given hgiven
    exact KeyMap.not_mem_keys_iff.mpr hvalue (hread.read field hmem given hgiven).1
  · rcases Field.put_eq_error (hread.scalar_iff hmem hvalue) hput with
      ⟨items, count, rfl, hcount, hlength, rfl⟩ | hitem
    · exact .inr (.inl ⟨field, hmem, items, count, hvalue, hcount, hlength, rfl⟩)
    · exact .inr (.inr ⟨field, hmem, value, hvalue, hitem⟩)

theorem encode_eq_error_of_nodup (hread : ReadFrom json fields record)
    (hnodup : (fields.map Field.key).Nodup) {missing : Payload.Missing} {e : CodecError}
    (hencode : Payload.encode missing record fields = .error e) :
    (∃ field ∈ fields, json.member? field.key = none ∧ e = .missingField field.key) ∨
      (∃ field ∈ fields, ∃ items count, record.get? field.key = some (.array items) ∧
        field.count? record = .ok (some count) ∧ items.length ≠ count ∧
        e = .shape field.key (.itemCount count items.length)) ∨
      e.RefusesItem := by
  rcases hread.encode_eq_error hencode with
    hmissing | hcount | ⟨field, hmem, value, hvalue, item, hitem, hencode⟩
  · exact .inl hmissing
  · exact .inr (.inl hcount)
  · exact .inr (.inr (hread.refusesItem hnodup hmem hvalue hitem hencode))

end ReadFrom

end Record

namespace Command

/-- A record that the params or the values of a command have read from JSON has exactly the
keys that are members of the object, or none if it is read from null. Encoding it never
fails over a list of items in place of one, or the other way round, and never over the type
of an item if no two fields have one key, as in all commands of a schema. If the fields come
from a schema, it only fails over a field that is missing, a wrong number of items, or an
item that is refused though it has the right type. -/
theorem encode_of_json {command : Command} {json : Json} {fields : List Field}
    {record : Record}
    (hread : fields = command.params ∧ command.paramsOfJson json = .ok record ∨
      fields = command.values ∧ command.valuesOfJson json = .ok record) :
    (∀ key, key ∈ record.keys ↔
        key ∈ fields.map Field.key ∧ ∃ given, json.member? key = some given) ∧
      (json = .null → record.keys = []) ∧
      (∀ missing key,
        Payload.encode missing record fields ≠ .error (.shape key .arrayForScalar) ∧
          Payload.encode missing record fields ≠ .error (.shape key .scalarForArray)) ∧
      ((fields.map Field.key).Nodup → ∀ missing type given,
        Payload.encode missing record fields ≠ .error (.typeMismatch type given)) ∧
      (∀ group entry, CommandEntry.check group entry = .ok command →
        (fields.map Field.key).Nodup) ∧
      ∀ name entries, layOutFields name entries = .ok fields → ∀ e,
        Payload.encode .reject record fields = .error e →
          (∃ field ∈ fields, json.member? field.key = none ∧ e = .missingField field.key) ∨
          (∃ field ∈ fields, ∃ items count, record.get? field.key = some (.array items) ∧
            field.count? record = .ok (some count) ∧ items.length ≠ count ∧
            e = .shape field.key (.itemCount count items.length)) ∨
          e.RefusesItem := by
  have hfrom : Record.ReadFrom json fields record := by
    rcases hread with ⟨rfl, hparams⟩ | ⟨rfl, hvalues⟩
    · exact .ofJson hparams
    · exact .ofJson hvalues
  refine ⟨fun key => hfrom.mem_keys_iff, ?_, ?_, ?_, ?_, ?_⟩
  · rintro rfl
    rw [List.eq_nil_iff_forall_not_mem]
    intro key hkey
    obtain ⟨_, given, hgiven⟩ := hfrom.mem_keys_iff.mp hkey
    cases hgiven
  · intro missing key
    constructor
    all_goals
      intro hencode
      rcases hfrom.encode_eq_error hencode with
        ⟨_, _, _, he⟩ | ⟨_, _, _, _, _, _, _, he⟩ | ⟨_, _, _, _, _, _, hitem⟩
      · cases he
      · cases he
      · exact Codec.encode_ne_shape hitem
  · intro hnodup missing type given hencode
    rcases hfrom.encode_eq_error_of_nodup hnodup hencode with
      ⟨_, _, _, he⟩ | ⟨_, _, _, _, _, _, _, he⟩ | hrefuses
    · cases he
    · cases he
    · cases hrefuses
  · intro group entry hcheck
    have hcommand := CommandEntry.wellFormed_check hcheck
    rcases hread with ⟨rfl, _⟩ | ⟨rfl, _⟩
    · exact hcommand.params.keys_nodup
    · exact hcommand.values.keys_nodup
  · intro name entries hfields e hencode
    exact hfrom.encode_eq_error_of_nodup (wellFormed_layOutFields hfields).keys_nodup hencode

/-- Two params that want the same member in different types. No schema has such a command. -/
def twofold : Command where
  id1 := 0x40
  id2 := 0x44
  key := "twofold"
  name := "twofold"
  group := .attributes
  params := [⟨"a", "a", 0, .uint8, .scalar⟩, ⟨"a", "a", 1, .float, .scalar⟩]
  values := []

/-- The member as the later one of the params wants it. -/
def twofoldRecord : Record :=
  KeyMap.ofList [("a", .scalar (.float (.ofDouble (.ofNat 1))))]

theorem encode_twofold_mistyped :
    twofold.paramsOfJson (.object [("a", .nat 1)]) = .ok twofoldRecord ∧
      Payload.encode .reject twofoldRecord twofold.params =
        .error (.typeMismatch .uint8 (.value (.float (.ofDouble (.ofNat 1))))) ∧
      Payload.encode .omit twofoldRecord twofold.params =
        .error (.typeMismatch .uint8 (.value (.float (.ofDouble (.ofNat 1))))) :=
  ⟨rfl, rfl, rfl⟩

/-- Three readings, one of which is no 16-bit number, and a member that no field has. -/
def readingsJson : Json :=
  .object [("n", .nat 3), ("readings", .array [.nat 1, .nat 70000, .nat 2]), ("x", .null)]

def readings : Record :=
  KeyMap.ofList [("n", .scalar (.uint 3)), ("readings", .array [.uint 1, .uint 70000, .uint 2])]

theorem encode_of_json_readings :
    Registry.meterCommand.paramsOfJson readingsJson = .ok readings ∧
      "readings" ∈ readings.keys ∧ "x" ∉ readings.keys ∧
      Payload.encode .reject readings Registry.meterCommand.params =
        .error (.outOfRange .uint16 (.value (.uint 70000))) ∧
      (CodecError.outOfRange .uint16 (.value (.uint 70000))).RefusesItem := by
  have hjson : Registry.meterCommand.paramsOfJson readingsJson = .ok readings := by
    rfl
  have hfields : layOutFields "sum"
      [⟨"n", "", .uint8, none, none, none, none⟩,
        ⟨"readings", "", .uint16, none, none, none, some (.reference "$\x7bn\x7d")⟩] =
      .ok Registry.meterCommand.params := by
    rfl
  have hencode : Payload.encode .reject readings Registry.meterCommand.params =
      .error (.outOfRange .uint16 (.value (.uint 70000))) := by
    rfl
  obtain ⟨hkeys, _, _, _, _, hfaults⟩ := encode_of_json (.inl ⟨rfl, hjson⟩)
  refine ⟨hjson, (hkeys "readings").mpr ⟨by simp [Registry.meterCommand], _, rfl⟩, ?_, hencode, ?_⟩
  · intro hkey
    simpa [Registry.meterCommand] using ((hkeys "x").mp hkey).1
  · rcases hfaults _ _ hfields _ hencode with
      ⟨_, _, _, he⟩ | ⟨_, _, _, _, _, _, _, he⟩ | hrefuses
    · cases he
    · cases he
    · exact hrefuses

end Command

end PowerLink
