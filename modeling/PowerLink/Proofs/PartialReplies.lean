import PowerLink.Proofs.DecodedRecords
import PowerLink.Proofs.FieldLayouts
import PowerLink.Proofs.WrittenFrames

/-!
# Replies that leave off their last values

A device leaves out of a reply what its record lacks, while a client decodes every field
of the command. Where the record lacks the last fields and no other, the client comes to
the end of the payload exactly when it comes to the first of them. It then goes past the
fields without items, as these take no bytes, and stops at the first field with an item:
every item takes at least one byte. So nothing is ever read out of place.
-/

namespace PowerLink

open Results LinkT

/-! ## How many items a field has -/

/-- The field has this many items behind the given fields, whose values are those of the
record. Nothing is said where another field gives the count. -/
inductive Field.Repeats (field : Field) (before : List Field) (data : Record) : Nat → Prop
  | scalar (hquantity : field.quantity = .scalar) : Repeats field before data 1
  | fixed {count : Nat} (hquantity : field.quantity = .fixed count) :
      Repeats field before data count
  | ref {counter : Field} {n : UInt32} (hcounter : counter ∈ before)
      (hquantity : field.quantity = .ref counter.key)
      (hvalue : data.get? counter.key = some (.scalar (.uint n))) :
      Repeats field before data n.toNat

namespace Field

variable {field : Field} {before : List Field} {data record : Record}

theorem Repeats.unique {first second : Nat} (hfirst : field.Repeats before data first)
    (hsecond : field.Repeats before data second) : first = second := by
  cases hfirst with
  | scalar hquantity =>
      cases hsecond with
      | scalar => rfl
      | fixed hother => cases hquantity.symm.trans hother
      | ref _ hother => cases hquantity.symm.trans hother
  | fixed hquantity =>
      cases hsecond with
      | scalar hother => cases hquantity.symm.trans hother
      | fixed hother => exact Quantity.fixed.inj (hquantity.symm.trans hother)
      | ref _ hother => cases hquantity.symm.trans hother
  | ref _ hquantity hvalue =>
      cases hsecond with
      | scalar hother => cases hquantity.symm.trans hother
      | fixed hother => cases hquantity.symm.trans hother
      | ref _ hother hsame =>
          have hkey := Quantity.ref.inj (hquantity.symm.trans hother)
          rw [hkey, hsame] at hvalue
          cases hvalue
          rfl

theorem Repeats.quantity_ne_scalar (hrepeats : field.Repeats before data 0) :
    field.quantity ≠ .scalar := by
  intro hscalar
  exact absurd (hrepeats.unique (.scalar hscalar)) (by decide)

section

variable {passed others : List Field}
  (hfields : Payload.WellFormed (before ++ passed ++ field :: others))
  (hpassed : ∀ zero ∈ passed, zero.Repeats before data 0)
  (hagree : Payload.CountsAgree before record data)

include hfields hpassed hagree

/-- The number of items is told by the fields before, unless there is a scalar between. It
is the one that the decoder works out. -/
theorem exists_repeats :
    ∃ count, field.Repeats before data count ∧
      (field.count? record = .ok (some count) ∨
        count = 1 ∧ field.count? record = .ok none) := by
  cases hquantity : field.quantity with
  | scalar => exact ⟨1, .scalar hquantity, .inr ⟨rfl, count?_eq_none_iff.mpr hquantity⟩⟩
  | fixed count => exact ⟨count, .fixed hquantity, .inl (by simp only [count?, hquantity])⟩
  | ref key =>
      obtain ⟨counter, hmem, rfl, hcounts⟩ :=
        hfields.count_before (before ++ passed) field others key rfl hquantity
      have hcounter : counter ∈ before := by
        rcases List.mem_append.mp hmem with hcounter | hzero
        · exact hcounter
        · exact absurd hcounts.1 (hpassed counter hzero).quantity_ne_scalar
      obtain ⟨n, hrecord, hdata⟩ := hagree counter hcounter hcounts
      exact ⟨n.toNat, .ref hcounter hquantity hdata,
        .inl (by simp only [count?, hquantity, hrecord])⟩

/-- Where no bytes are left, a field can be decoded only if it has no items. -/
theorem take_nil_of_repeats (hwidth : 0 < field.width) {count : Nat}
    (hrepeats : field.Repeats before data count) :
    field.take record [] =
      if count = 0 then .ok (.array [], [])
      else .error (.truncated field.key field.width 0) := by
  have hitem : field.takeItem [] = .error (.truncated field.key field.width 0) := by
    rw [takeItem, List.length_nil, if_pos hwidth]
  obtain ⟨other, hother, hcount⟩ := exists_repeats hfields hpassed hagree
  rw [← hrepeats.unique hother] at hcount
  unfold take
  rcases hcount with hcount | ⟨rfl, hcount⟩
  · rw [hcount]
    cases count with
    | zero => rfl
    | succ count => simp [takeItems, hitem, bind, Except.bind]
  · simp [hcount, hitem, bind, Except.bind]

end

end Field

/-! ## The width of an item -/

theorem FieldEntry.width_pos_of_codec {entry : FieldEntry} {codec : Codec}
    (hcodec : entry.codec = .ok codec) : 0 < codec.width := by
  obtain ⟨_, htyped⟩ := codec_eq_ok_iff.mp hcodec
  obtain ⟨_, hwidth, _, hstring, _⟩ := typed_of_codecOfType htyped
  rw [hwidth, itemWidth]
  cases htype : entry.dataType with
  | string =>
      obtain ⟨length, hlength, hpos⟩ := hstring htype
      change 0 < entry.length.getD 0
      rw [hlength]
      exact hpos
  | _ => simp [DataType.fixedWidth?]

theorem width_pos_of_layOutFields {command : String} {entries : List FieldEntry}
    {fields : List Field} (hfields : layOutFields command entries = .ok fields) :
    ∀ field ∈ fields, 0 < field.width := by
  obtain ⟨placed, hrun, rfl⟩ := layOutFields_eq_ok_iff.mp hfields
  refine foldlM_keeps (fun placed : Placement => ∀ field ∈ placed.fields, 0 < field.width)
    ?_ (by simp [Placement.empty]) hrun
  intro placed entry next hplaced hadd field hmem
  obtain ⟨_, codec, quantity, start, offset, hcodec, _, _, _, rfl⟩ :=
    Placement.add_eq_ok_iff.mp hadd
  rcases List.mem_append.mp hmem with hold | hnew
  · exact hplaced field hold
  · obtain rfl := List.mem_singleton.mp hnew
    exact FieldEntry.width_pos_of_codec hcodec

namespace Payload

variable {pre passed post : List Field} {record data : Record}

/-! ## Two lists of fields in a row -/

theorem takeAll_append (record : Record) (first second : List Field) (bytes : Bytes) :
    takeAll record (first ++ second) bytes =
      takeAll record first bytes >>= fun taken => takeAll taken.1 second taken.2 := by
  induction first generalizing record bytes with
  | nil => rfl
  | cons field first ih =>
      simp only [List.cons_append, takeAll, ih, bind_assoc]

theorem encode_congr {missing : Missing} {before fields : List Field} {first second : Record}
    (hfields : WellFormed (before ++ fields))
    (hsame : ∀ field ∈ before ++ fields, first.get? field.key = second.get? field.key) :
    encode missing first fields = encode missing second fields := by
  induction fields generalizing before with
  | nil => rfl
  | cons field fields ih =>
      have hcount : field.count? first = field.count? second := by
        apply Field.count?_congr
        intro key href
        obtain ⟨count, hmem, rfl, _⟩ :=
          hfields.count_before before field fields key rfl href
        exact hsame count (by simp [hmem])
      have hvalue := hsame field (by simp)
      rw [List.append_cons] at hfields hsame
      simp only [encode, hvalue, Field.put_congr hcount, ih hfields hsame]

/-! ## Behind the last byte -/

theorem all_empty_or_first_item (hfields : WellFormed (pre ++ post))
    (hagree : CountsAgree pre record data) :
    (∀ field ∈ post, field.Repeats pre data 0) ∨
      ∃ skipped field others count, post = skipped ++ field :: others ∧
        (∀ zero ∈ skipped, zero.Repeats pre data 0) ∧
        field.Repeats pre data count ∧ 0 < count := by
  induction post using List.reverseRecOn with
  | nil => exact .inl (by simp)
  | append_singleton init field ih =>
      rw [← List.append_assoc] at hfields
      rcases ih hfields.of_append with hall | ⟨skipped, first, others, count, rfl, hfirst⟩
      · obtain ⟨count, hrepeats, _⟩ := Field.exists_repeats hfields hall hagree
        cases count with
        | zero => exact .inl (List.forall_mem_append.mpr ⟨hall, by simpa using hrepeats⟩)
        | succ count =>
            exact .inr ⟨init, field, [], count + 1, rfl, hall, hrepeats, Nat.succ_pos count⟩
      · exact .inr ⟨skipped, first, others ++ [field], count, by simp, hfirst⟩

/-- Fields without items are decoded where no bytes are left, and no count changes. -/
theorem takeAll_nil_of_empty {zeros : List Field}
    (hfields : WellFormed (pre ++ passed ++ zeros))
    (hwidth : ∀ zero ∈ zeros, 0 < zero.width)
    (hpassed : ∀ zero ∈ passed, zero.Repeats pre data 0)
    (hzeros : ∀ zero ∈ zeros, zero.Repeats pre data 0)
    (hagree : CountsAgree pre record data) :
    ∃ last, takeAll record zeros [] = .ok (last, []) ∧ CountsAgree pre last data ∧
      ∀ zero ∈ zeros, last.get? zero.key = some (.array []) := by
  induction zeros generalizing passed record with
  | nil => exact ⟨record, rfl, hagree, by simp⟩
  | cons zero zeros ih =>
      have hempty := hzeros zero (by simp)
      have htake : zero.take record [] = .ok (.array [], []) :=
        Field.take_nil_of_repeats hfields hpassed hagree (hwidth zero (by simp)) hempty
      have hfresh : ∀ old ∈ pre, old.key ≠ zero.key :=
        fun old hold => hfields.key_ne (List.mem_append_left _ hold)
      have hnext := hagree.insert hfresh (.array [])
      rw [List.append_cons, List.append_assoc pre] at hfields
      have hshifted : ∀ other ∈ passed ++ [zero], other.Repeats pre data 0 :=
        List.forall_mem_append.mpr ⟨hpassed, by simpa using hempty⟩
      obtain ⟨last, hlast, hcounts, hvalues⟩ :=
        ih hfields (fun other hmem => hwidth other (by simp [hmem])) hshifted
          (fun other hmem => hzeros other (by simp [hmem])) hnext
      refine ⟨last, takeAll_cons_eq_ok_iff.mpr ⟨_, _, htake, hlast⟩, hcounts, ?_⟩
      intro other hmem
      rcases List.mem_cons.mp hmem with rfl | hlater
      · have hunused : other.key ∉ zeros.map Field.key := hfields.key_not_mem (by simp)
        rw [get?_of_takeAll_of_not_mem hlast hunused, KeyMap.get?_insert_self]
      · exact hvalues other hlater

/-- The payload of a reply that ends with the first fields is decoded as far as it goes, and
then as if each field behind it were empty. -/
theorem decode_of_encode_first (hfields : WellFormed (pre ++ post))
    (hwidth : ∀ field ∈ post, 0 < field.width) {info : Bytes}
    (hencode : encode .reject data pre = .ok info) :
    ((∀ field ∈ post, field.Repeats pre data 0) ∧
        ∃ last, decode (pre ++ post) info = .ok last ∧
          encode .reject last pre = .ok info ∧
          ∀ field ∈ post, last.get? field.key = some (.array [])) ∨
      ∃ skipped field others count, post = skipped ++ field :: others ∧
        (∀ zero ∈ skipped, zero.Repeats pre data 0) ∧
        field.Repeats pre data count ∧ 0 < count ∧
        decode (pre ++ post) info = .error (.truncated field.key field.width 0) := by
  have hnone : CountsAgree [] .empty data := by
    intro count hmem
    cases hmem
  have hpre : WellFormed ([] ++ pre) := hfields.of_append
  obtain ⟨middle, hagree, htake⟩ := takeAll_of_encode hpre hnone hencode
  have hfirst : takeAll .empty pre info = .ok (middle, []) := by
    simpa using htake []
  have hdecode : decode (pre ++ post) info = (takeAll middle post []).map Prod.fst := by
    rw [decode, decodeOnto_eq_takeAll, takeAll_append, hfirst]
    rfl
  rw [hdecode]
  rcases all_empty_or_first_item hfields hagree with
    hall | ⟨skipped, field, others, count, rfl, hskipped, hfield, hpos⟩
  · left
    have hempty : WellFormed (pre ++ [] ++ post) := by
      rwa [List.append_nil]
    obtain ⟨last, hlast, _, hvalues⟩ :=
      takeAll_nil_of_empty hempty hwidth (by simp) hall hagree
    refine ⟨hall, last, by rw [hlast]; rfl, ?_, hvalues⟩
    obtain ⟨part, hpart, hback⟩ := encode_of_takeAll hpre hfirst
    rw [List.append_nil] at hpart
    rw [hpart, ← hback]
    apply encode_congr hpre
    intro field hmem
    exact get?_of_takeAll_of_not_mem hlast (hfields.key_not_mem hmem)
  · right
    refine ⟨skipped, field, others, count, rfl, hskipped, hfield, hpos, ?_⟩
    rw [← List.append_assoc] at hfields
    have hempty : WellFormed (pre ++ [] ++ skipped) := by
      rw [List.append_nil]
      exact hfields.of_append
    obtain ⟨last, hlast, hcounts, _⟩ :=
      takeAll_nil_of_empty hempty (fun zero hmem => hwidth zero (by simp [hmem])) (by simp)
        hskipped hagree
    have htake := Field.take_nil_of_repeats hfields hskipped hcounts
      (hwidth field (by simp)) hfield
    rw [if_neg (Nat.ne_of_gt hpos)] at htake
    rw [takeAll_append, hlast]
    change Except.map _ (takeAll last (field :: others) []) = _
    rw [takeAll, htake]
    rfl

end Payload

namespace Endpoint

variable {σ : Type} [Transport (StateM σ)]

/-- Whenever a device answers with a record that has the first values of a command but none
of the last ones, a client that decodes the frame as all values of the command gets the
first values as they were sent. It gets a record at all only if each of the last values has
no items, and then these are empty; else the first of the last values that has an item is
truncated, with no byte remaining. -/
theorem respond_first_values {endpoint : Endpoint} {command : Command} {name : String}
    {entries : List FieldEntry} (hvalues : layOutFields name entries = .ok command.values)
    {pre post : List Field} (hsplit : command.values = pre ++ post) {data : Record}
    (hpresent : ∀ field ∈ pre, field.key ∈ data.keys)
    (habsent : ∀ field ∈ post, field.key ∉ data.keys) {line : σ} {bytes : Bytes}
    {failure : Option TransportError}
    (hwrite : .called (.write bytes) failure ∈
      ((endpoint.respond command .ok data).on (Transcript.start line)).2.events) :
    ∃ info, Frame.decode bytes = .ok ⟨endpoint.address, command.id1, 0, info⟩ ∧
      Payload.encode .reject data pre = .ok info ∧
      ((∃ record, Payload.decode command.values info = .ok record) ↔
        ∀ field ∈ post, field.Repeats pre data 0) ∧
      (∀ record, Payload.decode command.values info = .ok record →
        Payload.encode .reject record pre = .ok info ∧
          ∀ field ∈ post, record.get? field.key = some (.array [])) ∧
      ∀ e, Payload.decode command.values info = .error e →
        ∃ skipped field others count, post = skipped ++ field :: others ∧
          (∀ zero ∈ skipped, zero.Repeats pre data 0) ∧
          field.Repeats pre data count ∧ 0 < count * field.width ∧
          e = .truncated field.key field.width 0 := by
  obtain ⟨events, result, after, hrun, hevents⟩ :=
    endpoint.writes_respond command .ok data line
  rw [Transcript.start, hrun []] at hwrite
  obtain ⟨frame, hframe, hsends⟩ := hevents.permitted_of_mem hwrite
  cases hsends with
  | @answer _ _ _ info hencode =>
      rw [hsplit, Payload.encode_omit_append hpresent habsent] at hencode
      have hwidths := width_pos_of_layOutFields hvalues
      have hwellFormed := wellFormed_layOutFields hvalues
      rw [hsplit] at hwidths hwellFormed
      have hpost : ∀ field ∈ post, 0 < field.width :=
        fun field hmem => hwidths field (List.mem_append_right _ hmem)
      refine ⟨info, hframe, hencode, ?_⟩
      rw [hsplit]
      rcases Payload.decode_of_encode_first hwellFormed hpost hencode with
        ⟨hall, last, hdecode, hback, hempty⟩ |
          ⟨skipped, field, others, count, hsplitPost, hskipped, hfield, hpos, hdecode⟩
      · rw [hdecode]
        refine ⟨⟨fun _ => hall, fun _ => ⟨last, rfl⟩⟩, ?_, ?_⟩
        · rintro _ ⟨⟩
          exact ⟨hback, hempty⟩
        · rintro _ ⟨⟩
      · have hmem : field ∈ post := by
          rw [hsplitPost]
          simp
        rw [hdecode]
        refine ⟨⟨?_, ?_⟩, ?_, ?_⟩
        · rintro ⟨_, ⟨⟩⟩
        · intro hall
          have hzero : count = 0 := hfield.unique (hall field hmem)
          omega
        · rintro _ ⟨⟩
        · rintro _ ⟨⟩
          exact ⟨skipped, field, others, count, hsplitPost, hskipped, hfield,
            Nat.mul_pos hpos (hpost field hmem), rfl⟩

def labelCommand : Command where
  id1 := 0x40
  id2 := 0x82
  key := "labels"
  name := "labels"
  group := .attributes
  params := []
  values := Payload.labelFields

def noLabels : Record :=
  KeyMap.ofList [("n", .scalar (.uint 0))]

/-- No labels are sent, so that the mode is the first value that is missing. -/
theorem respond_first_values_labels :
    layOutFields "labels" Payload.labelEntries = .ok labelCommand.values ∧
      .called (.write (Frame.toBytes ⟨2, 0x40, 0, [0]⟩)) none ∈
        ((respond ⟨.meter, 2⟩ labelCommand .ok noLabels).on
          (Transcript.start (⟨[], true, false⟩ : Wire))).2.events ∧
      ∃ skipped field others, Payload.labelFields.tail = skipped ++ field :: others ∧
        (∀ zero ∈ skipped, zero.Repeats (Payload.labelFields.take 1) noLabels 0) ∧
        Payload.decode labelCommand.values [0] = .error (.truncated field.key field.width 0) := by
  have hvalues : layOutFields "labels" Payload.labelEntries = .ok labelCommand.values := by
    rfl
  have hpresent : ∀ field ∈ Payload.labelFields.take 1, field.key ∈ noLabels.keys := by
    decide
  have habsent : ∀ field ∈ Payload.labelFields.tail, field.key ∉ noLabels.keys := by
    decide
  have hwrite : .called (.write (Frame.toBytes ⟨2, 0x40, 0, [0]⟩)) none ∈
      ((respond ⟨.meter, 2⟩ labelCommand .ok noLabels).on
        (Transcript.start (⟨[], true, false⟩ : Wire))).2.events :=
    List.Mem.head _
  obtain ⟨info, _, hencode, _, _, hfails⟩ :=
    respond_first_values hvalues rfl hpresent habsent hwrite
  obtain rfl : [0] = info := Except.ok.inj hencode
  obtain ⟨skipped, field, others, _, hsplit, hskipped, _, _, herror⟩ :=
    hfails (.truncated "mode" 1 0) rfl
  exact ⟨hvalues, hwrite, skipped, field, others, hsplit, hskipped, congrArg _ herror⟩

end Endpoint

end PowerLink
