import PowerLink.Proofs.FieldLists
import PowerLink.Proofs.KeyMaps
import PowerLink.Proofs.ScalarCodecs

/-!
# Payloads carry the values of a record

What a record is encoded as can be decoded, up to the last byte and not further, and
the record that comes out is encoded as the same bytes again. It need not be the same
record: extra values are dropped, and several texts may stand for one byte.

A count is read back before the items that it counts, and it is read back as it was.
This is what the induction over the fields carries along: the record decoded so far
and the record that was encoded agree on every field that can be a count.
-/

namespace PowerLink

open Results

def FieldValue.items : FieldValue → List Value
  | .scalar value => [value]
  | .array items => items

namespace Field

/-! ## Items -/

theorem takeItem_eq_ok_iff {field : Field} {bytes rest : Bytes} {value : Value} :
    field.takeItem bytes = .ok (value, rest) ↔
      ∃ item, bytes = item ++ rest ∧ field.codec.decode item = .ok value := by
  constructor
  · intro htake
    unfold takeItem at htake
    split at htake
    next => simp at htake
    next =>
      cases hdecode : field.codec.decode (bytes.take field.width) with
      | error e => simp [hdecode] at htake
      | ok found =>
          simp only [hdecode, Except.ok.injEq, Prod.mk.injEq] at htake
          rcases htake with ⟨rfl, rfl⟩
          exact ⟨bytes.take field.width, (List.take_append_drop _ _).symm, hdecode⟩
  · rintro ⟨item, rfl, hdecode⟩
    have hlength : item.length = field.width := Codec.length_of_decode hdecode
    unfold takeItem
    rw [if_neg (by simp [hlength]), List.take_left' hlength, hdecode,
      List.drop_left' hlength]

theorem takeItems_eq_ok {field : Field} {count : Nat} {bytes rest : Bytes}
    {values : List Value} (htake : field.takeItems count bytes = .ok (values, rest)) :
    values.length = count ∧
      ∃ part, bytes = part ++ rest ∧ field.encodeItems values = .ok part := by
  induction count generalizing bytes values with
  | zero =>
      simp only [takeItems, Except.ok.injEq, Prod.mk.injEq] at htake
      rcases htake with ⟨rfl, rfl⟩
      exact ⟨rfl, [], rfl, rfl⟩
  | succ count ih =>
      rcases bind_eq_ok_iff.mp htake with ⟨⟨value, middle⟩, hitem, htake⟩
      rcases bind_eq_ok_iff.mp htake with ⟨⟨others, last⟩, hothers, htake⟩
      simp only [pure, Except.pure, Except.ok.injEq, Prod.mk.injEq] at htake
      rcases htake with ⟨rfl, rfl⟩
      rcases takeItem_eq_ok_iff.mp hitem with ⟨item, rfl, hdecode⟩
      rcases ih hothers with ⟨hlength, part, rfl, hencode⟩
      refine ⟨by simp [hlength], item ++ part, by simp, ?_⟩
      simp [encodeItems, Codec.encode_of_decode hdecode, hencode, bind, Except.bind,
        pure, Except.pure]

theorem takeItems_of_encodeItems {field : Field} {values : List Value} {part : Bytes}
    (hencode : field.encodeItems values = .ok part) :
    ∃ read, ∀ rest, field.takeItems values.length (part ++ rest) =
      .ok (read, rest) := by
  induction values generalizing part with
  | nil =>
      simp only [encodeItems, Except.ok.injEq] at hencode
      subst hencode
      exact ⟨[], fun _ => rfl⟩
  | cons value others ih =>
      rcases bind_eq_ok_iff.mp hencode with ⟨item, hitem, hencode⟩
      rcases bind_eq_ok_iff.mp hencode with ⟨items, hitems, hencode⟩
      simp only [pure, Except.pure, Except.ok.injEq] at hencode
      subst hencode
      rcases Codec.decode_of_encode hitem with ⟨first, hfirst⟩
      rcases ih hitems with ⟨read, hread⟩
      refine ⟨first :: read, fun rest => ?_⟩
      have htake : field.takeItem (item ++ (items ++ rest)) =
          .ok (first, items ++ rest) :=
        takeItem_eq_ok_iff.mpr ⟨item, rfl, hfirst⟩
      rw [List.append_assoc, List.length_cons, takeItems, htake]
      simp [hread rest, bind, Except.bind, pure, Except.pure]

/-! ## Whole fields -/

section

variable {field : Field} {record : Record} {value : FieldValue} {bytes : Bytes}

theorem count?_eq_none_iff :
    field.count? record = .ok none ↔ field.quantity = .scalar := by
  unfold count?
  cases field.quantity with
  | scalar => simp
  | fixed count => simp
  | ref key =>
      simp only
      split <;> simp

theorem put_of_scalar (hcount : field.count? record = .ok none) :
    field.put record value = .ok bytes ↔
      ∃ item, value = .scalar item ∧ field.codec.encode item = .ok bytes := by
  have hquantity := count?_eq_none_iff.mp hcount
  cases value with
  | scalar item => simp [put, hquantity]
  | array items => simp [put, hquantity]

theorem put_array {items : List Value} (harray : field.quantity ≠ .scalar) :
    field.put record (.array items) =
      match field.count? record with
      | .ok (some count) =>
        if items.length = count then field.encodeItems items
        else .error (.shape field.key (.itemCount count items.length))
      | _ => field.encodeItems items := by
  unfold put
  cases hquantity : field.quantity with
  | scalar => exact absurd hquantity harray
  | fixed _ => rfl
  | ref _ => rfl

theorem put_of_array {count : Nat}
    (hcount : field.count? record = .ok (some count)) :
    field.put record value = .ok bytes ↔
      ∃ items, value = .array items ∧ items.length = count ∧
        field.encodeItems items = .ok bytes := by
  have hquantity : field.quantity ≠ .scalar := by
    intro hscalar
    rw [count?_eq_none_iff.mpr hscalar] at hcount
    simp at hcount
  cases value with
  | scalar item =>
      cases hkind : field.quantity with
      | scalar => exact absurd hkind hquantity
      | fixed _ => simp [put, hkind]
      | ref _ => simp [put, hkind]
  | array items =>
      rw [put_array hquantity, hcount]
      by_cases hlength : items.length = count
      · simp [hlength]
      · simp [hlength]

/-- A field that was decoded is encoded as the bytes that it was decoded from. -/
theorem put_of_take {rest : Bytes}
    (htake : field.take record bytes = .ok (value, rest)) :
    ∃ part, bytes = part ++ rest ∧ field.put record value = .ok part := by
  rcases bind_eq_ok_iff.mp htake with ⟨count?, hcount, htake⟩
  cases count? with
  | none =>
      rcases bind_eq_ok_iff.mp htake with ⟨⟨item, middle⟩, hitem, htake⟩
      simp only [pure, Except.pure, Except.ok.injEq, Prod.mk.injEq] at htake
      rcases htake with ⟨rfl, rfl⟩
      rcases takeItem_eq_ok_iff.mp hitem with ⟨part, rfl, hdecode⟩
      have hencode := Codec.encode_of_decode hdecode
      exact ⟨part, rfl, (put_of_scalar hcount).mpr ⟨item, rfl, hencode⟩⟩
  | some count =>
      rcases bind_eq_ok_iff.mp htake with ⟨⟨items, middle⟩, hitems, htake⟩
      simp only [pure, Except.pure, Except.ok.injEq, Prod.mk.injEq] at htake
      rcases htake with ⟨rfl, rfl⟩
      rcases takeItems_eq_ok hitems with ⟨hlength, part, rfl, hencode⟩
      exact ⟨part, rfl, (put_of_array hcount).mpr ⟨items, rfl, hlength, hencode⟩⟩

/-- A count is read back as it was. -/
theorem take_of_put_count (hcount : field.IsCount)
    (hput : field.put record value = .ok bytes) :
    (∃ n, value = .scalar (.uint n)) ∧
      ∀ rest, field.take record (bytes ++ rest) = .ok (value, rest) := by
  have hnone : field.count? record = .ok none := count?_eq_none_iff.mpr hcount.1
  rcases (put_of_scalar hnone).mp hput with ⟨item, rfl, hencode⟩
  rcases Codec.decode_of_encode_count hcount.2 hencode with ⟨⟨n, rfl⟩, hread⟩
  constructor
  · exact ⟨n, rfl⟩
  · intro rest
    have hitem : field.takeItem (bytes ++ rest) = .ok (.uint n, rest) :=
      takeItem_eq_ok_iff.mpr ⟨bytes, rfl, hread⟩
    simp [take, hnone, hitem, bind, Except.bind, pure, Except.pure]

theorem take_of_put {count? : Option Nat} (hcount : field.count? record = .ok count?)
    (hput : field.put record value = .ok bytes) :
    ∃ read, (∀ rest, field.take record (bytes ++ rest) = .ok (read, rest)) ∧
      (field.IsCount → read = value ∧ ∃ n, value = .scalar (.uint n)) := by
  by_cases hcounts : field.IsCount
  · rcases take_of_put_count hcounts hput with ⟨hnumber, htake⟩
    exact ⟨value, htake, fun _ => ⟨rfl, hnumber⟩⟩
  · cases count? with
    | none =>
        rcases (put_of_scalar hcount).mp hput with ⟨item, rfl, hencode⟩
        rcases Codec.decode_of_encode hencode with ⟨read, hread⟩
        refine ⟨.scalar read, fun rest => ?_, fun h => absurd h hcounts⟩
        have hitem : field.takeItem (bytes ++ rest) = .ok (read, rest) :=
          takeItem_eq_ok_iff.mpr ⟨bytes, rfl, hread⟩
        simp [take, hcount, hitem, bind, Except.bind, pure, Except.pure]
    | some count =>
        rcases (put_of_array hcount).mp hput with ⟨items, rfl, rfl, hencode⟩
        rcases takeItems_of_encodeItems hencode with ⟨read, hread⟩
        refine ⟨.array read, fun rest => ?_, fun h => absurd h hcounts⟩
        simp [take, hcount, hread rest, bind, Except.bind, pure, Except.pure]

theorem put_congr {other : Record}
    (hcount : field.count? record = field.count? other) :
    field.put record value = field.put other value := by
  unfold put
  rw [hcount]

theorem take_congr {other : Record}
    (hcount : field.count? record = field.count? other) :
    field.take record bytes = field.take other bytes := by
  unfold take
  rw [hcount]

theorem count?_congr {other : Record}
    (hget : ∀ key, field.quantity = .ref key → record.get? key = other.get? key) :
    field.count? record = field.count? other := by
  unfold count?
  cases hquantity : field.quantity with
  | scalar => rfl
  | fixed count => rfl
  | ref key => simp only [hget key hquantity]

end

end Field

namespace Payload

/-- Decodes fields on top of a record, and hands out the bytes behind them too. -/
def takeAll (record : Record) :
    List Field → Bytes → Except CodecError (Record × Bytes)
  | [], bytes => .ok (record, bytes)
  | field :: fields, bytes => do
    let (value, bytes) ← field.take record bytes
    takeAll (record.insert field.key value) fields bytes

theorem takeAll_nil_eq_ok_iff {record last : Record} {bytes rest : Bytes} :
    takeAll record [] bytes = .ok (last, rest) ↔ record = last ∧ bytes = rest := by
  simp [takeAll]

theorem takeAll_cons_eq_ok_iff {record last : Record} {field : Field}
    {fields : List Field} {bytes rest : Bytes} :
    takeAll record (field :: fields) bytes = .ok (last, rest) ↔
      ∃ value middle, field.take record bytes = .ok (value, middle) ∧
        takeAll (record.insert field.key value) fields middle = .ok (last, rest) := by
  rw [takeAll, bind_eq_ok_iff, Prod.exists]

theorem encode_cons_eq_ok_iff {record : Record} {field : Field} {fields : List Field}
    {bytes : Bytes} :
    encode .reject record (field :: fields) = .ok bytes ↔
      ∃ value first others, record.get? field.key = some value ∧
        field.put record value = .ok first ∧
        encode .reject record fields = .ok others ∧ first ++ others = bytes := by
  cases hvalue : record.get? field.key with
  | none => simp [encode, hvalue]
  | some value =>
      simp only [encode, hvalue, bind_eq_ok_iff, pure, Except.pure, Except.ok.injEq,
        Option.some.injEq]
      constructor
      · rintro ⟨first, hput, others, hothers, rfl⟩
        exact ⟨value, first, others, rfl, hput, hothers, rfl⟩
      · rintro ⟨_, first, others, rfl, hput, hothers, rfl⟩
        exact ⟨first, hput, others, hothers, rfl⟩

theorem decodeOnto_eq_takeAll (record : Record) (fields : List Field)
    (bytes : Bytes) :
    decodeOnto record fields bytes = (takeAll record fields bytes).map Prod.fst := by
  induction fields generalizing record bytes with
  | nil => rfl
  | cons field fields ih =>
      unfold decodeOnto takeAll
      cases field.take record bytes with
      | error e => rfl
      | ok taken => exact ih (record.insert field.key taken.1) taken.2

theorem get?_of_takeAll_of_not_mem {record last : Record} {fields : List Field}
    {bytes rest : Bytes} (htake : takeAll record fields bytes = .ok (last, rest))
    {key : String} (hkey : key ∉ fields.map Field.key) :
    last.get? key = record.get? key := by
  induction fields generalizing record bytes with
  | nil => rw [(takeAll_nil_eq_ok_iff.mp htake).1]
  | cons field fields ih =>
      rcases takeAll_cons_eq_ok_iff.mp htake with ⟨value, middle, _, hlater⟩
      simp only [List.map_cons, List.mem_cons, not_or] at hkey
      rw [ih hlater hkey.2, KeyMap.get?_insert_of_ne record hkey.1]

theorem mem_keys_of_takeAll {record last : Record} {fields : List Field}
    {bytes rest : Bytes} (htake : takeAll record fields bytes = .ok (last, rest))
    {key : String} :
    key ∈ last.keys ↔ key ∈ record.keys ∨ key ∈ fields.map Field.key := by
  induction fields generalizing record bytes with
  | nil => simp [(takeAll_nil_eq_ok_iff.mp htake).1]
  | cons field fields ih =>
      rcases takeAll_cons_eq_ok_iff.mp htake with ⟨value, middle, _, hlater⟩
      rw [ih hlater, KeyMap.mem_keys_insert, List.map_cons, List.mem_cons]
      tauto

/-! ## Back to the same bytes -/

theorem encode_of_takeAll {before fields : List Field}
    (hfields : WellFormed (before ++ fields)) {record last : Record}
    {bytes rest : Bytes} (htake : takeAll record fields bytes = .ok (last, rest)) :
    ∃ part, bytes = part ++ rest ∧ encode .reject last fields = .ok part := by
  induction fields generalizing before record bytes with
  | nil => exact ⟨[], (takeAll_nil_eq_ok_iff.mp htake).2, rfl⟩
  | cons field fields ih =>
      rcases takeAll_cons_eq_ok_iff.mp htake with ⟨value, middle, hfirst, hlater⟩
      rcases Field.put_of_take hfirst with ⟨part, rfl, hput⟩
      have hshifted := hfields
      rw [List.append_cons] at hshifted
      rcases ih hshifted hlater with ⟨others, rfl, hothers⟩
      have hvalue : last.get? field.key = some value := by
        have hunused : field.key ∉ fields.map Field.key :=
          hshifted.key_not_mem (by simp)
        rw [get?_of_takeAll_of_not_mem hlater hunused, KeyMap.get?_insert_self]
      have hcount : field.count? record = field.count? last := by
        apply Field.count?_congr
        intro key href
        obtain ⟨count, hmem, rfl, _⟩ :=
          hfields.count_before before field fields key rfl href
        have hunused : count.key ∉ fields.map Field.key :=
          hshifted.key_not_mem (by simp [hmem])
        rw [get?_of_takeAll_of_not_mem hlater hunused,
          KeyMap.get?_insert_of_ne record (hfields.key_ne hmem)]
      rw [Field.put_congr hcount] at hput
      refine ⟨part ++ others, by simp, ?_⟩
      exact encode_cons_eq_ok_iff.mpr ⟨value, part, others, hvalue, hput, hothers, rfl⟩

/-! ## Every encoded record can be decoded -/

/-- Both records have the same number under every key that can be a count. -/
def CountsAgree (fields : List Field) (first second : Record) : Prop :=
  ∀ count ∈ fields, count.IsCount →
    ∃ n, first.get? count.key = some (.scalar (.uint n)) ∧
      second.get? count.key = some (.scalar (.uint n))

theorem CountsAgree.insert {fields : List Field} {record data : Record}
    (hagree : CountsAgree fields record data) {key : String}
    (hfresh : ∀ old ∈ fields, old.key ≠ key) (value : FieldValue) :
    CountsAgree fields (record.insert key value) data := by
  intro count hmem hcount
  rcases hagree count hmem hcount with ⟨n, hfirst, hsecond⟩
  refine ⟨n, ?_, hsecond⟩
  rw [KeyMap.get?_insert_of_ne record (hfresh count hmem), hfirst]

theorem CountsAgree.concat {fields : List Field} {record data : Record}
    (hagree : CountsAgree fields record data) {field : Field}
    (hfresh : ∀ old ∈ fields, old.key ≠ field.key) {read value : FieldValue}
    (hvalue : data.get? field.key = some value)
    (hread : field.IsCount → read = value ∧ ∃ n, value = .scalar (.uint n)) :
    CountsAgree (fields ++ [field]) (record.insert field.key read) data := by
  intro count hmem hcount
  rcases List.mem_append.mp hmem with hold | hnew
  · exact hagree.insert hfresh read count hold hcount
  · rw [List.mem_singleton.mp hnew] at hcount ⊢
    rcases hread hcount with ⟨rfl, n, rfl⟩
    exact ⟨n, KeyMap.get?_insert_self record field.key _, hvalue⟩

theorem CountsAgree.count?_eq {before fields : List Field} {field : Field}
    (hfields : WellFormed (before ++ field :: fields)) {record data : Record}
    (hagree : CountsAgree before record data) :
    ∃ count?, field.count? record = .ok count? ∧ field.count? data = .ok count? := by
  unfold Field.count?
  cases hquantity : field.quantity with
  | scalar => exact ⟨none, rfl, rfl⟩
  | fixed count => exact ⟨some count, rfl, rfl⟩
  | ref key =>
      obtain ⟨count, hmem, rfl, hcount⟩ :=
        hfields.count_before before field fields key rfl hquantity
      rcases hagree count hmem hcount with ⟨n, hfirst, hsecond⟩
      refine ⟨some n.toNat, ?_, ?_⟩
      · simp only [hfirst]
      · simp only [hsecond]

theorem takeAll_of_encode {before fields : List Field}
    (hfields : WellFormed (before ++ fields)) {record data : Record}
    (hagree : CountsAgree before record data) {part : Bytes}
    (hencode : encode .reject data fields = .ok part) :
    ∃ last, CountsAgree (before ++ fields) last data ∧
      ∀ rest, takeAll record fields (part ++ rest) = .ok (last, rest) := by
  induction fields generalizing before record part with
  | nil =>
      simp only [encode, Except.ok.injEq] at hencode
      subst hencode
      rw [List.append_nil]
      exact ⟨record, hagree, fun _ => rfl⟩
  | cons field fields ih =>
      obtain ⟨value, first, others, hvalue, hput, hothers, rfl⟩ :=
        encode_cons_eq_ok_iff.mp hencode
      rcases hagree.count?_eq hfields with ⟨count?, hrecord, hdata⟩
      have hsame : field.count? record = field.count? data :=
        hrecord.trans hdata.symm
      rcases Field.take_of_put hdata hput with ⟨read, htake, hread⟩
      have hnext : CountsAgree (before ++ [field]) (record.insert field.key read)
          data :=
        hagree.concat (fun _ => hfields.key_ne) hvalue hread
      rw [List.append_cons] at hfields ⊢
      rcases ih hfields hnext hothers with ⟨last, hcounts, hlast⟩
      refine ⟨last, hcounts, fun rest => takeAll_cons_eq_ok_iff.mpr ?_⟩
      refine ⟨read, others ++ rest, ?_, hlast rest⟩
      rw [Field.take_congr hsame, List.append_assoc, htake]

theorem decode_of_encode {fields : List Field} (hfields : WellFormed fields)
    {data : Record} {info : Bytes} (hencode : encode .reject data fields = .ok info) :
    ∃ record, decode fields info = .ok record ∧
      encode .reject record fields = .ok info ∧
      ∀ key, key ∈ record.keys ↔ key ∈ fields.map Field.key := by
  have hagree : CountsAgree [] .empty data := by
    intro count hmem
    simp at hmem
  have hempty : WellFormed ([] ++ fields) := hfields
  rcases takeAll_of_encode hempty hagree hencode with ⟨record, _, htake⟩
  have hwhole : takeAll .empty fields info = .ok (record, []) := by
    simpa using htake []
  refine ⟨record, ?_, ?_, ?_⟩
  · rw [decode, decodeOnto_eq_takeAll, hwhole]
    rfl
  · rcases encode_of_takeAll hempty hwhole with ⟨part, hpart, hback⟩
    rw [List.append_nil] at hpart
    rw [hpart, hback]
  · intro key
    rw [mem_keys_of_takeAll hwhole]
    simp [KeyMap.keys, KeyMap.empty]

/-! ## Fields that the record lacks -/

theorem encode_omit_of_absent {record : Record} {fields : List Field}
    (habsent : ∀ field ∈ fields, field.key ∉ record.keys) :
    encode .omit record fields = .ok [] := by
  induction fields with
  | nil => rfl
  | cons field fields ih =>
      have hvalue := KeyMap.not_mem_keys_iff.mp (habsent field (by simp))
      have hothers := ih fun other hmem => habsent other (by simp [hmem])
      simp only [encode, hvalue, hothers]

theorem encode_omit_empty (fields : List Field) :
    encode .omit .empty fields = .ok [] :=
  encode_omit_of_absent fun _ _ => List.not_mem_nil

/-- Fields at the end that the record lacks are left off. -/
theorem encode_omit_append {record : Record} {pre post : List Field}
    (hpresent : ∀ field ∈ pre, field.key ∈ record.keys)
    (habsent : ∀ field ∈ post, field.key ∉ record.keys) :
    encode .omit record (pre ++ post) = encode .reject record pre := by
  induction pre with
  | nil => exact encode_omit_of_absent habsent
  | cons field pre ih =>
      rcases KeyMap.mem_keys_iff.mp (hpresent field (by simp)) with ⟨value, hvalue⟩
      have hothers := ih fun other hmem => hpresent other (by simp [hmem])
      simp only [List.cons_append, encode, hvalue, hothers]

theorem encode_omit_eq_reject {record : Record} {fields : List Field}
    (hfull : ∀ field ∈ fields, field.key ∈ record.keys) :
    encode .omit record fields = encode .reject record fields := by
  have hnone : ∀ field ∈ ([] : List Field), field.key ∉ record.keys := by
    intro field hmem
    cases hmem
  simpa using encode_omit_append hfull hnone

end Payload

end PowerLink
