import PowerLink.Proofs.ScalarCodecs
import PowerLink.Proofs.TextOrder

/-!
# What a value comes back as

A value that has been encoded is read back as its canonical form, which is encoded as the
same bytes.  An unsigned number is canonical, and so is every value that has been decoded.
A number of a float field comes back as a float, a name as the first one with the same
byte, a string without the NULs at its end, a version in plain decimal, and a leap second
as the second before it.
-/

namespace PowerLink

/-- The same date and time, but for a leap second, which repeats the second 59. -/
structure DateTime.IsWithoutLeap (t settled : DateTime) : Prop where
  year_eq : settled.year = t.year
  month_eq : settled.month = t.month
  day_eq : settled.day = t.day
  hour_eq : settled.hour = t.hour
  minute_eq : settled.minute = t.minute
  second_eq : settled.second = if t.second = 60 then 59 else t.second

namespace Codec

/-- The value, which is encoded as the bytes, has the last value as its canonical form. -/
inductive Canonical : Codec → Value → Bytes → Value → Prop
  | uint8 (n : UInt32) (bytes : Bytes) : Canonical .uint8 (.uint n) bytes (.uint n)
  | uint16 (n : UInt32) (bytes : Bytes) : Canonical .uint16 (.uint n) bytes (.uint n)
  | float (value : Value) (x : Single) :
      Canonical .float value (Bytes.ofDoubleWord x.bits) (.float x)
  | enum {table : EnumTable} {name first : String} {byte : UInt8}
      (hname : table.byteOf? name = some byte) (hfirst : table.byteOf? first = some byte)
      (hleast : ∀ other, table.byteOf? other = some byte →
        Text.utf8Bytes first ≤ Text.utf8Bytes other) :
      Canonical (.enum table) (.text name) [byte] (.text first)
  | ascii {width padding : Nat} {text stripped : String} (bytes : Bytes)
      (htext : text.toList = stripped.toList ++ List.replicate padding '\x00')
      (hlast : stripped.toList.getLast? ≠ some '\x00') :
      Canonical (.ascii width) (.text text) bytes (.text stripped)
  | dateTime {t settled : DateTime} (bytes : Bytes) (hsettled : t.IsWithoutLeap settled) :
      Canonical .dateTime (.dateTime t) bytes (.dateTime settled)
  | version (text : String) (major minor : UInt8) :
      Canonical .version (.text text) [major, minor]
        (.text (Nat.repr major.toNat ++ "." ++ Nat.repr minor.toNat))

/-! ## Names -/

/-- The name that a byte is read as is the first one with this byte. -/
theorem nameOf?_le {table : EnumTable} {byte : UInt8} {first other : String}
    (hfirst : table.nameOf? byte = some first) (hother : table.byteOf? other = some byte) :
    first ≤ other := by
  have hmem : (other, byte) ∈ table.entries := KeyMap.get?_eq_some_iff.mp hother
  obtain ⟨entry, hfind, rfl⟩ := Option.map_eq_some_iff.mp hfirst
  obtain ⟨_, before, after, hentries, hbefore⟩ := List.find?_eq_some_iff_append.mp hfind
  rw [hentries, List.mem_append, List.mem_cons] at hmem
  rcases hmem with hmem | rfl | hmem
  · simpa using hbefore _ hmem
  · exact String.le_refl _
  · have hordered := table.ordered
    rw [KeyMap.Ordered, hentries, List.pairwise_append, List.pairwise_cons] at hordered
    exact String.not_lt.mp (String.lt_asymm (hordered.2.1.1 _ hmem))

/-! ## Strings -/

theorem unpadded_append_zeros (bytes : Bytes) (count : Nat) :
    unpadded (bytes ++ List.replicate count 0) = unpadded bytes := by
  unfold unpadded
  rw [List.reverse_append, List.reverse_replicate, List.dropWhile_append_of_pos]
  simp

theorem getLast?_unpadded (bytes : Bytes) : (unpadded bytes).getLast? ≠ some 0 := by
  unfold unpadded
  rw [List.getLast?_reverse]
  intro hhead
  have hnonzero := List.head?_dropWhile_not (fun byte : UInt8 => decide (byte = 0)) bytes.reverse
  simp [hhead] at hnonzero

/-- A text of ASCII characters, read from its bytes. -/
theorem map_char_of_ascii {chars : List Char} (hascii : ∀ c ∈ chars, c.toNat < 128) :
    (chars.map fun c => UInt8.ofNat c.toNat).map (fun byte => Char.ofNat byte.toNat) =
      chars := by
  rw [List.map_map]
  refine (List.map_congr_left fun c hc => ?_).trans (List.map_id _)
  have hbyte : (UInt8.ofNat c.toNat).toNat = c.toNat :=
    Text.toNat_ofNat_of_lt ((hascii c hc).trans (by decide))
  simp only [Function.comp_apply, hbyte, Char.ofNat_toNat, id]

theorem eq_append_of_decodeAscii {width : Nat} {text stripped : String} {bytes : Bytes}
    (hencode : encodeAscii width text = .ok bytes)
    (hdecode : decodeAscii bytes = .ok (.text stripped)) :
    ∃ padding, text.toList = stripped.toList ++ List.replicate padding '\x00' ∧
      stripped.toList.getLast? ≠ some '\x00' := by
  obtain ⟨hascii, _, rfl⟩ := encodeAscii_eq_ok_iff.mp hencode
  obtain ⟨hread, hstripped⟩ := decodeAscii_eq_ok_iff.mp hdecode
  obtain rfl := Value.text.inj hstripped
  rw [unpadded_append_zeros] at hread ⊢
  generalize hwritten : text.toList.map (fun c => UInt8.ofNat c.toNat) = written at hread ⊢
  have hchars : text.toList = written.map fun byte => Char.ofNat byte.toNat := by
    rw [← hwritten, map_char_of_ascii hascii]
  refine ⟨written.length - (unpadded written).length, ?_, ?_⟩
  · rw [hchars, String.toList_ofList]
    conv_lhs => rw [← unpadded_append_padding written]
    rw [List.map_append, List.map_replicate]
    rfl
  · rw [String.toList_ofList, List.getLast?_map]
    intro hlast
    obtain ⟨byte, hbyte, hchar⟩ := Option.map_eq_some_iff.mp hlast
    have hzero : byte.toNat = 0 := by
      rw [← toNat_char_of_ascii (hread byte (List.mem_of_getLast? hbyte)), hchar]
      rfl
    obtain rfl : byte = 0 := UInt8.toNat_inj.mp hzero
    exact getLast?_unpadded written hbyte

/-! ## Dates and times -/

theorem parts_of_encodeDateTime {t : DateTime}
    {year1 year2 month day hour minute second : UInt8}
    (hencode : encodeDateTime t = .ok [year1, year2, month, day, hour, minute, second]) :
    t.year = (Bytes.toWord year1 year2).toNat ∧ t.month = month.toNat ∧ t.day = day.toNat ∧
      t.hour = hour.toNat ∧ t.minute = minute.toNat ∧ t.wireSecond = second.toNat := by
  unfold encodeDateTime at hencode
  split at hencode
  next hyear =>
    have hparts := Except.ok.inj hencode
    simp only [Bytes.ofWord, List.cons_append, List.nil_append, List.map_cons, List.map_nil,
      List.cons.injEq, and_true] at hparts
    obtain ⟨rfl, rfl, rfl, rfl, rfl, rfl, rfl⟩ := hparts
    obtain ⟨hmonth, hday⟩ := month_day_lt_of_isDate t.isDate
    obtain ⟨hhour, hminute, _⟩ := t.isTime
    have hsecond : t.wireSecond < 60 := by
      unfold DateTime.wireSecond
      omega
    have hword : ((UInt16.ofNat t.year.toNat).toNat : Int) = t.year := by
      rw [UInt16.toNat_ofNat']
      omega
    rw [Bytes.toWord_ofWord, hword]
    simp (disch := omega) only [Text.toNat_ofNat_of_lt, and_self]
  next => cases hencode

theorem exists_withoutLeap_of_decode {t : DateTime} {bytes : Bytes} {read : Value}
    (hencode : encodeDateTime t = .ok bytes)
    (hdecode : Codec.dateTime.decode bytes = .ok read) :
    ∃ settled, read = .dateTime settled ∧ t.IsWithoutLeap settled := by
  obtain ⟨year1, year2, month, day, hour, minute, second, rfl, _⟩ :=
    decodeDateTime_of_encodeDateTime hencode
  obtain ⟨settled, rfl, hsettled, hagain⟩ := encodeDateTime_of_decodeDateTime hdecode
  obtain ⟨hyear, hmonth, hday, hhour, hminute, hsecond⟩ := parts_of_encodeDateTime hencode
  obtain ⟨hyear', hmonth', hday', hhour', hminute', hsecond'⟩ := parts_of_encodeDateTime hagain
  unfold DateTime.wireSecond at hsecond hsecond'
  have hlimit := t.isTime.2.2
  refine ⟨settled, rfl, ?_⟩
  exact {
    year_eq := hyear'.trans hyear.symm
    month_eq := hmonth'.trans hmonth.symm
    day_eq := hday'.trans hday.symm
    hour_eq := hhour'.trans hhour.symm
    minute_eq := hminute'.trans hminute.symm
    second_eq := by split <;> omega }

/-! ## All codecs -/

theorem canonical_of_encode {codec : Codec} {value read : Value} {bytes : Bytes}
    (hencode : codec.encode value = .ok bytes) (hdecode : codec.decode bytes = .ok read) :
    codec.Canonical value bytes read := by
  have hlength := length_of_decode hdecode
  cases codec with
  | uint8 =>
      obtain ⟨⟨n, rfl⟩, hback⟩ := decode_of_encode_count rfl hencode
      obtain rfl := Except.ok.inj (hdecode.symm.trans hback)
      exact .uint8 n bytes
  | uint16 =>
      obtain ⟨⟨n, rfl⟩, hback⟩ := decode_of_encode_count rfl hencode
      obtain rfl := Except.ok.inj (hdecode.symm.trans hback)
      exact .uint16 n bytes
  | float =>
      match bytes, hlength with
      | [a, b, c, d], _ =>
          obtain rfl := Except.ok.inj hdecode
          rw [← Bytes.ofDoubleWord_toDoubleWord a b c d]
          exact .float value ⟨Bytes.toDoubleWord a b c d⟩
  | enum table =>
      cases value with
      | text name =>
          simp only [encode] at hencode
          split at hencode
          next byte hname =>
            obtain rfl := Except.ok.inj hencode
            obtain ⟨first, hfirst⟩ := exists_nameOf?_of_byteOf? hname
            have hback : (Codec.enum table).decode [byte] = .ok (.text first) := by
              simp [decode, width, dataType, DataType.fixedWidth?, hfirst]
            obtain rfl := Except.ok.inj (hdecode.symm.trans hback)
            apply Canonical.enum hname (byteOf?_of_nameOf? hfirst)
            intro other hother
            exact Text.utf8Bytes_le_iff.mpr (nameOf?_le hfirst hother)
          next => cases hencode
      | _ => simp [encode] at hencode
  | ascii width =>
      cases value with
      | text text =>
          have hread : decodeAscii bytes = .ok read := by
            rw [decode, if_neg (not_not.mpr hlength)] at hdecode
            exact hdecode
          obtain rfl := (decodeAscii_eq_ok_iff.mp hread).2
          obtain ⟨padding, htext, hlast⟩ := eq_append_of_decodeAscii hencode hread
          exact .ascii bytes htext hlast
      | _ => simp [encode] at hencode
  | dateTime =>
      cases value with
      | dateTime t =>
          obtain ⟨settled, rfl, hsettled⟩ := exists_withoutLeap_of_decode hencode hdecode
          exact .dateTime bytes hsettled
      | _ => simp [encode] at hencode
  | version =>
      cases value with
      | text text =>
          obtain ⟨major, minor, rfl⟩ := List.length_eq_two.mp hlength
          have hwritten : versionText major minor =
              Nat.repr major.toNat ++ "." ++ Nat.repr minor.toNat := by
            rw [versionText, Text.decimal_one_eq, Text.decimal_one_eq]
          obtain rfl := Except.ok.inj hdecode
          rw [hwritten]
          exact .version text major minor
      | _ => simp [encode] at hencode

/-- A value that can be encoded gives as many bytes as its codec is wide. They are read back
as its canonical form, and this is encoded as the same bytes. Every value that bytes are
decoded as is encoded as these bytes again. -/
theorem canonical_round_trip (codec : Codec) :
    (∀ value bytes, codec.encode value = .ok bytes →
      bytes.length = codec.width ∧
      ∃ read, codec.decode bytes = .ok read ∧ codec.encode read = .ok bytes ∧
        codec.Canonical value bytes read) ∧
    ∀ bytes value, codec.decode bytes = .ok value → codec.encode value = .ok bytes := by
  constructor
  · intro value bytes hencode
    obtain ⟨read, hread⟩ := decode_of_encode hencode
    exact ⟨length_of_encode hencode, read, hread, encode_of_decode hread,
      canonical_of_encode hencode hread⟩
  · intro bytes value hdecode
    exact encode_of_decode hdecode

/-- A string with a NUL inside and another one at its end. -/
theorem canonical_round_trip_padded :
    (Codec.ascii 5).encode (.text "A\x00B\x00") = .ok [0x41, 0x00, 0x42, 0x00, 0x00] ∧
      ∃ read, (Codec.ascii 5).decode [0x41, 0x00, 0x42, 0x00, 0x00] = .ok read ∧
        (Codec.ascii 5).encode read = .ok [0x41, 0x00, 0x42, 0x00, 0x00] ∧
        (Codec.ascii 5).Canonical (.text "A\x00B\x00") [0x41, 0x00, 0x42, 0x00, 0x00] read := by
  have hencode : (Codec.ascii 5).encode (.text "A\x00B\x00") =
      .ok [0x41, 0x00, 0x42, 0x00, 0x00] := by
    rfl
  exact ⟨hencode, ((canonical_round_trip (.ascii 5)).1 _ _ hencode).2⟩

example : Codec.version.encode (.text " +01 .2\n") = .ok [1, 2] := by
  rfl

end Codec

end PowerLink
