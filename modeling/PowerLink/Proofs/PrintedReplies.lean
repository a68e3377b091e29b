import PowerLink.Program.Run
import PowerLink.Proofs.DateTimeTexts
import PowerLink.Proofs.JsonRecords
import PowerLink.Proofs.JsonTexts
import PowerLink.Proofs.PayloadPrefixes
import PowerLink.Proofs.Serving

/-!
# Printed replies as canned values

A record is printed without the types of its values: names, strings, versions and dates
are all texts between quotes.  The fields know the types, so what a field has decoded is
what it reads from the printed value.  A printed reply can therefore be canned, and the
responder then answers with the bytes that the reply was decoded from.  Floats are left
out, since their text is that of the shortest decimal number.

The induction over the fields runs beside the one of the decoder: collecting from the
printed record puts the same values in place in the same order.
-/

namespace PowerLink

open Results

/-! ## What is printed -/

/-- The JSON value that is printed for a value; none is given for a float. -/
def Value.asJson : Value → Json
  | .uint n => .nat n.toNat
  | .float _ => .null
  | .text s => .string s
  | .dateTime t => .string t.toIsoText

def FieldValue.asJson : FieldValue → Json
  | .scalar value => value.asJson
  | .array items => .array (items.map Value.asJson)

def Record.asJson (record : Record) : Json :=
  .object (record.entries.map fun entry => (entry.1, entry.2.asJson))

def FieldValue.HasNoFloat (value : FieldValue) : Prop :=
  ∀ item ∈ value.items, ∀ x, item ≠ .float x

theorem Value.toText_asJson {value : Value} (hfloat : ∀ x, value ≠ .float x) :
    value.asJson.toText = value.toJson := by
  cases value with
  | uint n => rfl
  | float x => exact absurd rfl (hfloat x)
  | text s => rfl
  | dateTime t => rfl

theorem FieldValue.toText_asJson {value : FieldValue} (hfloat : value.HasNoFloat) :
    value.asJson.toText = value.toJson := by
  cases value with
  | scalar item => exact Value.toText_asJson (hfloat item (by simp [items]))
  | array items =>
      have hitems : items.map (fun item => item.asJson.toText) = items.map Value.toJson :=
        List.map_congr_left fun item hitem => Value.toText_asJson (hfloat item hitem)
      simp [asJson, toJson, Json.toText, Json.itemTexts_eq_map, Function.comp_def, hitems]

theorem Record.toText_asJson {record : Record}
    (hfloat : ∀ entry ∈ record.entries, entry.2.HasNoFloat) :
    record.asJson.toText = record.toJson := by
  have hmembers : record.entries.map
        (fun entry => Json.quote entry.1 ++ ":" ++ entry.2.asJson.toText) =
      record.entries.map fun entry => Json.quote entry.1 ++ ":" ++ entry.2.toJson := by
    apply List.map_congr_left
    intro entry hentry
    rw [FieldValue.toText_asJson (hfloat entry hentry)]
  simp [asJson, toJson, Json.toText, Json.memberTexts_eq_map, Function.comp_def, hmembers]

theorem Value.lossless_asJson (depth : Nat) (value : Value) :
    Json.Lossless depth value.asJson := by
  cases value with
  | uint n => exact .natural depth (n.toNat_lt.trans (by decide))
  | float x => exact .null depth
  | text s => exact .string depth s
  | dateTime t => exact .string depth t.toIsoText

theorem FieldValue.lossless_asJson (value : FieldValue) : Json.Lossless 1 value.asJson := by
  cases value with
  | scalar item => exact item.lossless_asJson 1
  | array items =>
      refine .array ?_
      intro json hjson
      rcases List.mem_map.mp hjson with ⟨item, _, rfl⟩
      exact item.lossless_asJson 0

theorem Record.lossless_asJson (record : Record) : Json.Lossless 2 record.asJson := by
  refine .object ?_ ?_
  · exact List.pairwise_map.mpr record.ordered
  · intro member hmember
    rcases List.mem_map.mp hmember with ⟨entry, _, rfl⟩
    exact entry.2.lossless_asJson

theorem Record.member?_asJson (record : Record) (key : String) :
    record.asJson.member? key = (record.get? key).map FieldValue.asJson := by
  simp [asJson, Json.member?, KeyMap.get?, List.find?_map, Function.comp_def]

/-! ## What is read -/

namespace Codec

variable {codec : Codec} {value : Value}

theorem exists_text_of_decodeAscii {bytes : Bytes} (hdecode : decodeAscii bytes = .ok value) :
    ∃ text, value = .text text := by
  unfold decodeAscii at hdecode
  simp only at hdecode
  split at hdecode
  next => exact ⟨_, (Except.ok.inj hdecode).symm⟩
  next => cases hdecode

theorem exists_dateTime_of_decodeDateTime {year month day hour minute second : Nat}
    (hdecode : decodeDateTime year month day hour minute second = .ok value) :
    ∃ t, value = .dateTime t := by
  unfold decodeDateTime at hdecode
  split at hdecode
  next t _ =>
    split at hdecode
    next => exact ⟨t, (Except.ok.inj hdecode).symm⟩
    next => cases hdecode
  next => cases hdecode

theorem suits_of_decode {bytes : Bytes} (hdecode : codec.decode bytes = .ok value) :
    codec.Suits value := by
  unfold decode at hdecode
  split at hdecode
  next => cases hdecode
  next =>
    split at hdecode
    next a =>
      rw [← Except.ok.inj hdecode]
      exact .uint8 _
    next a b =>
      rw [← Except.ok.inj hdecode]
      exact .uint16 _
    next a b c d =>
      rw [← Except.ok.inj hdecode]
      exact .float _
    next =>
      split at hdecode
      next name _ =>
        rw [← Except.ok.inj hdecode]
        exact .enum _ name
      next => cases hdecode
    next width _ =>
      rcases exists_text_of_decodeAscii hdecode with ⟨text, rfl⟩
      exact .ascii width text
    next =>
      rcases exists_dateTime_of_decodeDateTime hdecode with ⟨t, rfl⟩
      exact .dateTime t
    next =>
      rw [← Except.ok.inj hdecode]
      exact .version _
    next => cases hdecode

theorem ne_float_of_suits (hsuits : codec.Suits value) (hcodec : codec ≠ .float) (x : Single) :
    value ≠ .float x := by
  cases hsuits with
  | float => exact absurd rfl hcodec
  | uint8 | uint16 | enum | ascii | dateTime | version => simp

/-- A value of the codec's type is read from what is printed for it. -/
theorem ofJson_asJson (hsuits : codec.Suits value) (hcodec : codec ≠ .float) :
    codec.ofJson value.asJson = .ok value := by
  cases hsuits with
  | uint8 n | uint16 n => simp [ofJson, Value.asJson, Json.nat, Json.natural?, n.toNat_lt]
  | float x => exact absurd rfl hcodec
  | enum table name => rfl
  | ascii width text => rfl
  | dateTime t => simp [ofJson, Value.asJson, Json.string?, DateTime.ofText?_toIsoText]
  | version text => rfl

theorem mapM_ofJson_asJson {items : List Value} (hsuits : ∀ item ∈ items, codec.Suits item)
    (hcodec : codec ≠ .float) : (items.map Value.asJson).mapM codec.ofJson = .ok items := by
  induction items with
  | nil => rfl
  | cons item rest ih =>
      have hitem := ofJson_asJson (hsuits item (List.mem_cons_self ..)) hcodec
      have hrest := ih fun other hother => hsuits other (List.mem_cons_of_mem item hother)
      rw [List.map_cons]
      exact mapM_cons_eq_ok_iff.mpr ⟨item, rest, hitem, hrest, rfl⟩

end Codec

namespace Field

variable {field : Field} {value : FieldValue}

/-- The value has the form and the type that the field asks for. -/
inductive Suits (field : Field) : FieldValue → Prop
  | scalar {item : Value} (hquantity : field.quantity = .scalar)
      (hitem : field.codec.Suits item) : Suits field (.scalar item)
  | array {items : List Value} (hquantity : field.quantity ≠ .scalar)
      (hitems : ∀ item ∈ items, field.codec.Suits item) : Suits field (.array items)

theorem suits_of_takeItem {item : Value} {bytes rest : Bytes}
    (htake : field.takeItem bytes = .ok (item, rest)) : field.codec.Suits item := by
  rcases takeItem_eq_ok_iff.mp htake with ⟨_, _, hdecode⟩
  exact Codec.suits_of_decode hdecode

theorem suits_of_takeItems {count : Nat} {items : List Value} {bytes rest : Bytes}
    (htake : field.takeItems count bytes = .ok (items, rest)) :
    ∀ item ∈ items, field.codec.Suits item := by
  induction count generalizing items bytes with
  | zero =>
      have hnone : items = [] := by
        simpa [eq_comm] using congrArg Prod.fst (Except.ok.inj htake)
      simp [hnone]
  | succ count ih =>
      rcases bind_eq_ok_iff.mp htake with ⟨⟨first, middle⟩, hfirst, htake⟩
      rcases bind_eq_ok_iff.mp htake with ⟨⟨others, last⟩, hothers, htake⟩
      simp only [pure, Except.pure, Except.ok.injEq, Prod.mk.injEq] at htake
      rcases htake with ⟨rfl, rfl⟩
      exact List.forall_mem_cons.mpr ⟨suits_of_takeItem hfirst, ih hothers⟩

theorem suits_of_take {record : Record} {bytes rest : Bytes}
    (htake : field.take record bytes = .ok (value, rest)) : field.Suits value := by
  rcases bind_eq_ok_iff.mp htake with ⟨count?, hcount, htake⟩
  cases count? with
  | none =>
      rcases bind_eq_ok_iff.mp htake with ⟨⟨item, middle⟩, hitem, htake⟩
      have hvalue : value = .scalar item := (congrArg Prod.fst (Except.ok.inj htake)).symm
      rw [hvalue]
      exact .scalar (count?_eq_none_iff.mp hcount) (suits_of_takeItem hitem)
  | some count =>
      rcases bind_eq_ok_iff.mp htake with ⟨⟨items, middle⟩, hitems, htake⟩
      have hvalue : value = .array items := (congrArg Prod.fst (Except.ok.inj htake)).symm
      have harray : field.quantity ≠ .scalar := by
        intro hscalar
        rw [count?_eq_none_iff.mpr hscalar] at hcount
        cases hcount
      rw [hvalue]
      exact .array harray (suits_of_takeItems hitems)

/-- A field reads a value of its own from what is printed for it. -/
theorem ofJson_asJson (hsuits : field.Suits value) (hcodec : field.codec ≠ .float) :
    field.ofJson value.asJson = .ok value := by
  cases hsuits with
  | scalar hquantity hitem =>
      simp [ofJson, hquantity, FieldValue.asJson, Codec.ofJson_asJson hitem hcodec, Except.map]
  | array hquantity hitems =>
      have hread := Codec.mapM_ofJson_asJson hitems hcodec
      cases hcount : field.quantity with
      | scalar => exact absurd hcount hquantity
      | fixed count => simp [ofJson, hcount, FieldValue.asJson, hread, Except.map]
      | ref key => simp [ofJson, hcount, FieldValue.asJson, hread, Except.map]

theorem hasNoFloat_of_suits (hsuits : field.Suits value) (hcodec : field.codec ≠ .float) :
    value.HasNoFloat := by
  cases hsuits with
  | scalar _ hitem =>
      intro item hmem
      rw [List.mem_singleton.mp hmem]
      exact Codec.ne_float_of_suits hitem hcodec
  | array _ hitems =>
      intro item hmem
      exact Codec.ne_float_of_suits (hitems item hmem) hcodec

end Field

/-! ## Records -/

namespace Payload

variable {fields : List Field} {record last : Record} {bytes rest : Bytes}

/-- Every value of a decoded record suits a field that has its key. -/
theorem suits_of_takeAll (htake : takeAll record fields bytes = .ok (last, rest)) {key : String}
    {value : FieldValue} (hvalue : last.get? key = some value) :
    record.get? key = some value ∨ ∃ field ∈ fields, field.Suits value := by
  induction fields generalizing record bytes with
  | nil =>
      rw [(takeAll_nil_eq_ok_iff.mp htake).1]
      exact .inl hvalue
  | cons field fields ih =>
      rcases takeAll_cons_eq_ok_iff.mp htake with ⟨first, middle, hfirst, hlater⟩
      rcases ih hlater with hold | ⟨other, hmem, hsuits⟩
      · by_cases hkey : key = field.key
        · rw [hkey, KeyMap.get?_insert_self] at hold
          rw [← Option.some.inj hold]
          exact .inr ⟨field, List.mem_cons_self .., Field.suits_of_take hfirst⟩
        · rw [KeyMap.get?_insert_of_ne record hkey] at hold
          exact .inl hold
      · exact .inr ⟨other, List.mem_cons_of_mem field hmem, hsuits⟩

theorem hasNoFloat_of_takeAll (hfloats : ∀ field ∈ fields, field.codec ≠ .float)
    (htake : takeAll .empty fields bytes = .ok (last, rest)) :
    ∀ entry ∈ last.entries, entry.2.HasNoFloat := by
  intro entry hentry
  rcases suits_of_takeAll htake (KeyMap.get?_eq_some_iff.mpr hentry) with
    hnone | ⟨field, hmem, hsuits⟩
  · cases hnone
  · exact Field.hasNoFloat_of_suits hsuits (hfloats field hmem)

/-- Collecting goes through the same records as decoding did. -/
theorem collect_of_takeAll (hnodup : (fields.map Field.key).Nodup)
    (hfloats : ∀ field ∈ fields, field.codec ≠ .float)
    (htake : takeAll record fields bytes = .ok (last, rest)) :
    Record.collect last.asJson record fields = .ok last := by
  induction fields generalizing record bytes with
  | nil =>
      rw [(takeAll_nil_eq_ok_iff.mp htake).1]
      rfl
  | cons field fields ih =>
      rcases takeAll_cons_eq_ok_iff.mp htake with ⟨first, middle, hfirst, hlater⟩
      rcases List.nodup_cons.mp hnodup with ⟨hunused, hnodup⟩
      have hvalue : last.get? field.key = some first := by
        rw [get?_of_takeAll_of_not_mem hlater hunused, KeyMap.get?_insert_self]
      have hread : field.ofJson first.asJson = .ok first :=
        Field.ofJson_asJson (Field.suits_of_take hfirst) (hfloats field (List.mem_cons_self ..))
      have hothers := ih hnodup (fun other hmem => hfloats other (List.mem_cons_of_mem field hmem))
        hlater
      simp [Record.collect, Record.member?_asJson, hvalue, hread, hothers, bind, Except.bind]

/-- A decoded record is read back from its text. -/
theorem ofText_toJson_of_takeAll (hfloats : ∀ field ∈ fields, field.codec ≠ .float)
    (htake : takeAll .empty fields bytes = .ok (last, rest)) :
    Json.ofText last.toJson = .ok last.asJson := by
  rw [← Record.toText_asJson (hasNoFloat_of_takeAll hfloats htake)]
  exact last.lossless_asJson.ofText_toText (by decide)

theorem ofJson_asJson_of_takeAll (hfields : WellFormed fields)
    (hfloats : ∀ field ∈ fields, field.codec ≠ .float)
    (htake : takeAll .empty fields bytes = .ok (last, rest)) :
    Record.ofJson fields last.asJson = .ok last :=
  collect_of_takeAll hfields.keys_nodup hfloats htake

end Payload

/-! ## Canned values -/

/-- The text of canned values for one command, taken from a printed record. -/
def cannedText (key : String) (record : Record) : String :=
  "\x7b" ++ Json.quote key ++ ":" ++ record.toJson ++ "\x7d"

theorem cannedValues_cannedText (key : String) {record : Record}
    (hfloats : ∀ entry ∈ record.entries, entry.2.HasNoFloat) :
    ∃ canned, Program.cannedValues (cannedText key record) = .ok canned ∧
      canned.get? key = some record.asJson := by
  have htext : cannedText key record = (Json.object [(key, record.asJson)]).toText := by
    simp [cannedText, Json.toText, Json.memberTexts_eq_map, Record.toText_asJson hfloats,
      String.append_assoc]
  have hordered : KeyMap.Ordered [(key, record.asJson)] := List.pairwise_singleton _ _
  have hmembers : ∀ member ∈ [(key, record.asJson)], Json.Lossless 2 member.2 := by
    intro member hmember
    rw [List.mem_singleton.mp hmember]
    exact record.lossless_asJson
  have hread := Json.Lossless.decode_map_toText hmembers hordered (by decide)
  refine ⟨⟨[(key, record.asJson)], hordered⟩, ?_, by simp [KeyMap.get?]⟩
  rw [Program.cannedValues, htext, hread]
  rfl

/-- Whoever asks for the command is answered with the canned record. -/
theorem Responder.handles_with_values {responder : Responder} {command : Command} {json : Json}
    {record : Record} {info : Bytes} (hcanned : responder.canned.get? command.key = some json)
    (hvalues : command.valuesOfJson json = .ok record)
    (hencode : Payload.encode .omit record command.values = .ok info)
    (hfits : info.length ≤ LengthField.maxInfo) {request : Packet} {params : Record}
    (hasked : responder.AskedFor request command)
    (hparams : Payload.decode command.params request.info = .ok params) :
    responder.Handles request
      (Frame.toBytes ⟨responder.endpoint.address, request.id1, 0x00, info⟩) := by
  have hid1 : command.id1 = request.id1 := congrArg Prod.fst hasked.2.2
  have hfound : responder.values command = .ok record := by
    simp only [values, hcanned, hvalues]
  apply Takes.handles
  apply takes_of_understood hasked hparams
  rw [reply_of_values hfound, ← hid1]
  exact Endpoint.replyFrame_eq_ok_iff.mpr ⟨info, hencode, hfits, rfl⟩

namespace Command

/-- A reply without floats is read back from its printed text, and from there encoded as
the bytes that it was decoded from: those in front of what the decoder has left over.  The
printed text can be put into a file of canned values as it is, and a responder that has it
canned answers with these bytes. -/
theorem values_of_printed {name : String} {entries : List FieldEntry} {command : Command}
    (hlaid : layOutFields name entries = .ok command.values)
    (hfloats : ∀ field ∈ command.values, field.codec ≠ .float) {info : Bytes}
    {record : Record} (hdecode : Payload.decode command.values info = .ok record) :
    ∃ json part rest,
      Json.ofText record.toJson = .ok json ∧
      command.valuesOfJson json = .ok record ∧
      info = part ++ rest ∧
      Payload.takeAll .empty command.values info = .ok (record, rest) ∧
      Payload.encode .reject record command.values = .ok part ∧
      (∃ canned, Program.cannedValues (cannedText command.key record) = .ok canned ∧
        canned.get? command.key = some json) ∧
      ∀ responder : Responder, responder.canned.get? command.key = some json →
        ∀ request params, responder.AskedFor request command →
          Payload.decode command.params request.info = .ok params →
          part.length ≤ LengthField.maxInfo →
            responder.Handles request
              (Frame.toBytes ⟨responder.endpoint.address, request.id1, 0x00, part⟩) := by
  have hfields : Payload.WellFormed ([] ++ command.values) := wellFormed_layOutFields hlaid
  rcases Payload.decode_eq_ok_iff.mp hdecode with ⟨rest, htake⟩
  rcases Payload.encode_of_takeAll hfields htake with ⟨part, hinfo, hencode⟩
  have hvalues : command.valuesOfJson record.asJson = .ok record :=
    Payload.ofJson_asJson_of_takeAll hfields hfloats htake
  have hkeys : ∀ field ∈ command.values, field.key ∈ record.keys := fun field hmem =>
    (Payload.mem_keys_of_takeAll htake).mpr (.inr (List.mem_map_of_mem hmem))
  refine ⟨record.asJson, part, rest, Payload.ofText_toJson_of_takeAll hfloats htake, hvalues,
    hinfo, htake, hencode, ?_, ?_⟩
  · exact cannedValues_cannedText command.key (Payload.hasNoFloat_of_takeAll hfloats htake)
  · intro responder hcanned request params hasked hparams hfits
    rw [← Payload.encode_omit_eq_reject hkeys] at hencode
    exact Responder.handles_with_values hcanned hvalues hencode hfits hasked hparams

/-- As many tags as the first byte says, a mode with two names for one byte, and the time
of the last change. -/
def journalEntries : List FieldEntry :=
  [⟨"n", "", .uint8, none, none, none, none⟩,
    ⟨"tags", "", .string, none, some 3, none, some (.reference "$\x7bn\x7d")⟩,
    ⟨"mode", "", .enum, none, none, some (KeyMap.ofList [("on", 1), ("idle", 1)]), none⟩,
    ⟨"changed", "", .dateTime, none, none, none, none⟩]

def journalCommand : Command where
  id1 := 0x40
  id2 := 0x43
  key := "journal"
  name := "journal"
  group := .attributes
  params := []
  values :=
    [⟨"n", "n", 0, .uint8, .scalar⟩,
      ⟨"tags", "tags", 1, .ascii 3, .ref "n"⟩,
      ⟨"mode", "mode", 0, .enum (KeyMap.ofList [("on", 1), ("idle", 1)]), .scalar⟩,
      ⟨"changed", "changed", 0, .dateTime, .scalar⟩]

/-- A quote and a backslash in one tag, a control in the other, the last year that fits on
the line, and a byte too many. -/
def journalInfo : Bytes :=
  [2, 0x22, 0x5C, 0x00, 0x01, 0x00, 0x41, 1, 0xFF, 0xFF, 2, 28, 23, 59, 59, 0xEE]

def journalRecord : Record :=
  KeyMap.ofList
    [("n", .scalar (.uint 2)), ("tags", .array [.text "\"\\", .text "\x01\x00A"]),
      ("mode", .scalar (.text "idle")),
      ("changed",
        .scalar (.dateTime ⟨65535, 2, 28, 23, 59, 59, by decide, by decide⟩))]

example : journalRecord.toJson =
    "\x7b\"changed\":\"+65535-02-28T23:59:59\",\"mode\":\"idle\",\"n\":2," ++
      "\"tags\":[\"\\\"\\\\\",\"\\u0001\\u0000A\"]\x7d" := by
  decide

/-- A request for the journal. -/
def journalRequest : Packet :=
  Packet.ofFrame ⟨1, 0x40, 0x43, []⟩ (by decide)

theorem values_of_printed_journal :
    layOutFields "journal" journalEntries = .ok journalCommand.values ∧
      (∀ field ∈ journalCommand.values, field.codec ≠ .float) ∧
      Payload.decode journalCommand.values journalInfo = .ok journalRecord ∧
      ∃ json canned, Json.ofText journalRecord.toJson = .ok json ∧
        journalCommand.valuesOfJson json = .ok journalRecord ∧
        Program.cannedValues (cannedText "journal" journalRecord) = .ok canned ∧
        Responder.Handles ⟨⟨⟨[journalCommand], by simp, by simp⟩, 2⟩, canned⟩ journalRequest
          (Frame.toBytes ⟨2, 0x40, 0x00, journalInfo.take 15⟩) := by
  have hlaid : layOutFields "journal" journalEntries = .ok journalCommand.values := by
    rfl
  have hfloats : ∀ field ∈ journalCommand.values, field.codec ≠ .float := by
    decide
  have hdecode : Payload.decode journalCommand.values journalInfo = .ok journalRecord := by
    rfl
  rcases values_of_printed hlaid hfloats hdecode with
    ⟨json, part, _, hread, hvalues, _, _, hencode, ⟨canned, hcanned, hfound⟩, hhandles⟩
  have hpart : journalInfo.take 15 = part := Except.ok.inj hencode
  refine ⟨hlaid, hfloats, hdecode, json, canned, hread, hvalues, hcanned, ?_⟩
  rw [hpart]
  refine hhandles _ hfound journalRequest .empty ⟨?_, ?_, rfl⟩ rfl ?_
  · exact Packet.isSound_ofFrame _ _
  · exact List.mem_singleton_self journalCommand
  · rw [← hpart]
    decide

end Command

end PowerLink
