import PowerLink.Codec.Basic
import PowerLink.Proofs.KeyMaps
import PowerLink.Proofs.Numerals
import PowerLink.Proofs.Words
import Mathlib.Data.List.TakeWhile

/-!
# One value on the line

Encoding gives exactly as many bytes as the codec is wide, and these bytes decode.
What is decoded encodes back to the very same bytes, so a codec reads no more out of
them than it can write down again.  The decoded value may differ from the encoded one
(of two names with one byte the first is read), but never for an unsigned number.
-/

namespace PowerLink.Codec

/-! ## Strings -/

theorem eq_replicate_of_all_zero {bytes : Bytes} (hzero : ∀ byte ∈ bytes, byte = 0) :
    bytes = List.replicate bytes.length 0 :=
  List.eq_replicate_iff.mpr ⟨rfl, hzero⟩

/-- The bytes of a string without the padding behind it. -/
def unpadded (bytes : Bytes) : Bytes :=
  (bytes.reverse.dropWhile (· = 0)).reverse

theorem unpadded_append_padding (bytes : Bytes) :
    unpadded bytes ++ List.replicate (bytes.length - (unpadded bytes).length) 0 =
      bytes := by
  have hsplit : unpadded bytes ++ (bytes.reverse.takeWhile (· = 0)).reverse =
      bytes := by
    rw [unpadded, ← List.reverse_append, List.takeWhile_append_dropWhile,
      List.reverse_reverse]
  have hpadding : (bytes.reverse.takeWhile (· = 0)).reverse =
      List.replicate (bytes.length - (unpadded bytes).length) 0 := by
    have hlength := congrArg List.length hsplit
    rw [List.length_append] at hlength
    rw [← hlength, Nat.add_sub_cancel_left]
    apply eq_replicate_of_all_zero
    intro byte hbyte
    simpa using List.mem_takeWhile_imp (List.mem_reverse.mp hbyte)
  rw [← hpadding, hsplit]

theorem mem_of_mem_unpadded {bytes : Bytes} {byte : UInt8}
    (hbyte : byte ∈ unpadded bytes) : byte ∈ bytes := by
  rw [← unpadded_append_padding bytes]
  exact List.mem_append_left _ hbyte

theorem toNat_char_of_ascii {byte : UInt8} (hbyte : byte < 128) :
    (Char.ofNat byte.toNat).toNat = byte.toNat := by
  have hlt : byte.toNat < 128 := UInt8.lt_iff_toNat_lt.mp hbyte
  have hvalid : byte.toNat.isValidChar := Or.inl (by omega)
  rw [Char.ofNat, dif_pos hvalid]
  rfl

theorem decodeAscii_eq_ok_iff {bytes : Bytes} {value : Value} :
    decodeAscii bytes = .ok value ↔
      (∀ byte ∈ unpadded bytes, byte < 128) ∧
        value = .text (String.ofList ((unpadded bytes).map fun byte =>
          Char.ofNat byte.toNat)) := by
  have hall : (unpadded bytes).all (· < 128) = true ↔ ∀ byte ∈ unpadded bytes, byte < 128 := by
    simp
  unfold decodeAscii
  change (if (unpadded bytes).all (· < 128) then _ else _) = _ ↔ _
  simp only [hall]
  split
  next hascii =>
    rw [and_iff_right hascii, Except.ok.injEq]
    exact eq_comm
  next hascii => simp only [hascii, false_and, reduceCtorEq]

theorem encodeAscii_eq_ok_iff {width : Nat} {text : String} {bytes : Bytes} :
    encodeAscii width text = .ok bytes ↔
      (∀ c ∈ text.toList, c.toNat < 128) ∧ text.toList.length ≤ width ∧
        bytes = text.toList.map (fun c => UInt8.ofNat c.toNat) ++
          List.replicate (width - text.toList.length) 0 := by
  have hall : text.toList.all (fun c => c.toNat < 128) = true ↔
      ∀ c ∈ text.toList, c.toNat < 128 := by
    simp
  unfold encodeAscii
  simp only [hall, ite_not]
  split
  next hascii =>
    rw [and_iff_right hascii]
    split
    next hlong => simp [Nat.not_le.mpr hlong]
    next hshort =>
      rw [and_iff_right (Nat.not_lt.mp hshort), Except.ok.injEq]
      exact eq_comm
  next hascii => simp only [hascii, false_and, reduceCtorEq]

theorem encodeAscii_of_decodeAscii {bytes : Bytes} {text : String}
    (hdecode : decodeAscii bytes = .ok (.text text)) :
    encodeAscii bytes.length text = .ok bytes := by
  obtain ⟨hascii, hvalue⟩ := decodeAscii_eq_ok_iff.mp hdecode
  obtain rfl := Value.text.inj hvalue
  have hback : ((unpadded bytes).map fun byte => Char.ofNat byte.toNat).map
      (fun c => UInt8.ofNat c.toNat) = unpadded bytes := by
    rw [List.map_map]
    refine (List.map_congr_left fun byte hbyte => ?_).trans (List.map_id _)
    simp [toNat_char_of_ascii (hascii byte hbyte)]
  have hlength := congrArg List.length (unpadded_append_padding bytes)
  rw [List.length_append] at hlength
  rw [encodeAscii_eq_ok_iff, String.toList_ofList, hback, List.length_map,
    unpadded_append_padding]
  refine ⟨?_, by omega, rfl⟩
  intro c hc
  obtain ⟨byte, hbyte, rfl⟩ := List.mem_map.mp hc
  rw [toNat_char_of_ascii (hascii byte hbyte)]
  exact UInt8.lt_iff_toNat_lt.mp (hascii byte hbyte)

theorem decodeAscii_of_ascii {bytes : Bytes} (hascii : ∀ byte ∈ bytes, byte < 128) :
    ∃ text, decodeAscii bytes = .ok (.text text) :=
  ⟨_, decodeAscii_eq_ok_iff.mpr
    ⟨fun byte hbyte => hascii byte (mem_of_mem_unpadded hbyte), rfl⟩⟩

theorem encodeAscii_eq_ok {width : Nat} {text : String} {bytes : Bytes}
    (hencode : encodeAscii width text = .ok bytes) :
    bytes.length = width ∧ ∀ byte ∈ bytes, byte < 128 := by
  obtain ⟨hascii, hlength, rfl⟩ := encodeAscii_eq_ok_iff.mp hencode
  refine ⟨by simp; omega, ?_⟩
  intro byte hbyte
  rcases List.mem_append.mp hbyte with htext | hpadding
  · rcases List.mem_map.mp htext with ⟨c, hc, rfl⟩
    rw [UInt8.lt_iff_toNat_lt, UInt8.toNat_ofNat']
    exact (Nat.mod_le _ _).trans_lt (hascii c hc)
  · rw [List.eq_of_mem_replicate hpadding]
    decide

/-! ## Enumerations -/

theorem nameOf?_eq_some {table : EnumTable} {byte : UInt8} {name : String}
    (hname : table.nameOf? byte = some name) : (name, byte) ∈ table.entries := by
  unfold EnumTable.nameOf? at hname
  rcases Option.map_eq_some_iff.mp hname with ⟨entry, hfind, rfl⟩
  have hbyte : entry.2 = byte := by simpa using List.find?_some hfind
  rw [← hbyte]
  exact List.mem_of_find?_eq_some hfind

theorem byteOf?_of_nameOf? {table : EnumTable} {byte : UInt8} {name : String}
    (hname : table.nameOf? byte = some name) : table.byteOf? name = some byte :=
  KeyMap.get?_eq_some_iff.mpr (nameOf?_eq_some hname)

theorem exists_nameOf?_of_byteOf? {table : EnumTable} {name : String} {byte : UInt8}
    (hbyte : table.byteOf? name = some byte) :
    ∃ first, table.nameOf? byte = some first := by
  have hmem : (name, byte) ∈ table.entries := KeyMap.get?_eq_some_iff.mp hbyte
  have hfound : (table.entries.find? fun entry => entry.2 = byte).isSome = true :=
    List.find?_isSome.mpr ⟨(name, byte), hmem, by simp⟩
  rcases Option.isSome_iff_exists.mp hfound with ⟨entry, hentry⟩
  exact ⟨entry.1, by simp [EnumTable.nameOf?, hentry]⟩

/-! ## Dates and times -/

theorem daysInMonth_lt (year : Int) (month : Nat) :
    Calendar.daysInMonth year month < 32 := by
  unfold Calendar.daysInMonth
  split
  case h_12 => split <;> omega
  all_goals omega

theorem month_day_lt_of_isDate {year : Int} {month day : Nat}
    (hdate : Calendar.IsDate year month day) : month < 13 ∧ day < 32 := by
  rcases hdate with ⟨_, _, hfirst, hlast⟩
  refine ⟨?_, hlast.trans_lt (daysInMonth_lt year month)⟩
  by_contra hmonth
  obtain ⟨later, rfl⟩ : ∃ later, month = later + 13 := ⟨month - 13, by omega⟩
  have hnone : Calendar.daysInMonth year (later + 13) = 0 := rfl
  omega

theorem ofParts?_eq_some {year : Int} {month day hour minute second : Nat}
    {t : DateTime} (hparts : DateTime.ofParts? year month day hour minute second =
      some t) :
    t.year = year ∧ t.month = month ∧ t.day = day ∧ t.hour = hour ∧
      t.minute = minute ∧ t.second = second := by
  unfold DateTime.ofParts? at hparts
  split at hparts
  next =>
    split at hparts
    next =>
      simp only [Option.some.injEq] at hparts
      subst hparts
      exact ⟨rfl, rfl, rfl, rfl, rfl, rfl⟩
    next => simp at hparts
  next => simp at hparts

theorem ofParts?_wireSecond (t : DateTime) :
    ∃ t', DateTime.ofParts? t.year t.month t.day t.hour t.minute t.wireSecond =
      some t' := by
  have htime : Calendar.IsTime t.hour t.minute t.wireSecond := by
    rcases t.isTime with ⟨hhour, hminute, _⟩
    refine ⟨hhour, hminute, ?_⟩
    unfold DateTime.wireSecond
    omega
  unfold DateTime.ofParts?
  rw [dif_pos t.isDate, dif_pos htime]
  exact ⟨_, rfl⟩

theorem encodeDateTime_of_decodeDateTime
    {year1 year2 month day hour minute second : UInt8} {value : Value}
    (hdecode : decodeDateTime (Bytes.toWord year1 year2).toNat month.toNat day.toNat
      hour.toNat minute.toNat second.toNat = .ok value) :
    ∃ t, value = .dateTime t ∧ t.second < 60 ∧
      encodeDateTime t =
        .ok [year1, year2, month, day, hour, minute, second] := by
  unfold decodeDateTime at hdecode
  split at hdecode
  next t hparts =>
    split at hdecode
    next hsecond =>
      simp only [Except.ok.injEq] at hdecode
      obtain ⟨hyear, hmonth, hday, hhour, hminute, hsecond'⟩ :=
        ofParts?_eq_some hparts
      refine ⟨t, hdecode.symm, by omega, ?_⟩
      have hword := (Bytes.toWord year1 year2).toNat_lt
      have hwire : t.wireSecond = second.toNat := by
        unfold DateTime.wireSecond
        omega
      unfold encodeDateTime
      rw [if_pos (by omega), hyear, hmonth, hday, hhour, hminute, hwire]
      simp [Bytes.ofWord_toWord]
    next => simp at hdecode
  next => simp at hdecode

theorem decodeDateTime_of_encodeDateTime {t : DateTime} {bytes : Bytes}
    (hencode : encodeDateTime t = .ok bytes) :
    ∃ year1 year2 month day hour minute second,
      bytes = [year1, year2, month, day, hour, minute, second] ∧
      ∃ value, decodeDateTime (Bytes.toWord year1 year2).toNat month.toNat
        day.toNat hour.toNat minute.toNat second.toNat = .ok value := by
  unfold encodeDateTime at hencode
  split at hencode
  next hyear =>
    simp only [Except.ok.injEq] at hencode
    rcases month_day_lt_of_isDate t.isDate with ⟨hmonth, hday⟩
    rcases t.isTime with ⟨hhour, hminute, _⟩
    have hsecond : t.wireSecond < 60 := by
      unfold DateTime.wireSecond
      omega
    rcases ofParts?_wireSecond t with ⟨t', hparts⟩
    have hbyte {n : Nat} (hn : n < 60) : (UInt8.ofNat n).toNat = n := by
      rw [UInt8.toNat_ofNat']
      omega
    have hword : ((UInt16.ofNat t.year.toNat).toNat : Int) = t.year := by
      rw [UInt16.toNat_ofNat']
      omega
    refine ⟨_, _, _, _, _, _, _, hencode.symm, .dateTime t', ?_⟩
    rw [Bytes.toWord_ofWord, hbyte (by omega), hbyte (by omega), hbyte (by omega),
      hbyte hminute, hbyte hsecond, decodeDateTime, hword, hparts]
    simp [hsecond]
  next => simp at hencode

/-! ## Versions -/

theorem versionPart?_toDigits (byte : UInt8) :
    versionPart? (Nat.toDigits 10 byte.toNat) = some byte := by
  have hbyte : byte.toNat ≤ 255 := Nat.le_of_lt_succ byte.toNat_lt
  have htrim : Text.trim (Nat.toDigits 10 byte.toNat) = Nat.toDigits 10 byte.toNat :=
    Text.trim_of_not_blank fun c hc =>
      Text.isBlank_of_isDigit (Text.isDigit_of_mem_toDigits hc)
  simp [versionPart?, htrim, Text.numeralUpTo?_toDigits hbyte]

theorem encodeVersion_versionText (major minor : UInt8) :
    encodeVersion (versionText major minor) = .ok [major, minor] := by
  have htext : (versionText major minor).toList =
      Nat.toDigits 10 major.toNat ++ '.' :: Nat.toDigits 10 minor.toNat := by
    simp [versionText, Text.decimal_one]
  have hdigits : ∀ c ∈ Nat.toDigits 10 major.toNat, (decide (c ≠ '.')) = true := by
    intro c hc
    have hdigit := Text.isDigit_of_mem_toDigits hc
    simp only [decide_eq_true_eq]
    rintro rfl
    exact absurd hdigit (by decide)
  have hmajor : (versionText major minor).toList.takeWhile (· ≠ '.') =
      Nat.toDigits 10 major.toNat := by
    rw [htext, List.takeWhile_append_of_pos hdigits]
    simp
  have hminor : (versionText major minor).toList.dropWhile (· ≠ '.') =
      '.' :: Nat.toDigits 10 minor.toNat := by
    rw [htext, List.dropWhile_append_of_pos hdigits]
    simp
  simp only [encodeVersion, versionParts?, hmajor, hminor, versionPart?_toDigits]
  rfl

/-! ## All codecs -/

theorem length_of_decode {codec : Codec} {bytes : Bytes} {value : Value}
    (hdecode : codec.decode bytes = .ok value) : bytes.length = codec.width := by
  unfold decode at hdecode
  split at hdecode
  next => simp at hdecode
  next hlength => exact not_not.mp hlength

/-- Decoding loses nothing: the value can be written down as the bytes that it was
read from. -/
theorem encode_of_decode {codec : Codec} {bytes : Bytes} {value : Value}
    (hdecode : codec.decode bytes = .ok value) : codec.encode value = .ok bytes := by
  have hlength := length_of_decode hdecode
  unfold decode at hdecode
  rw [if_neg (not_not.mpr hlength)] at hdecode
  cases codec with
  | uint8 =>
      rcases List.length_eq_one_iff.mp hlength with ⟨a, rfl⟩
      simp only [Except.ok.injEq] at hdecode
      subst hdecode
      have hsmall : a.toUInt32 < 256 := UInt32.lt_iff_toNat_lt.mpr a.toNat_lt
      simp [encode, hsmall]
  | uint16 =>
      rcases List.length_eq_two.mp hlength with ⟨a, b, rfl⟩
      simp only [Except.ok.injEq] at hdecode
      subst hdecode
      have hsmall : (Bytes.toWord a b).toUInt32 < 65536 :=
        UInt32.lt_iff_toNat_lt.mpr (Bytes.toWord a b).toNat_lt
      simp [encode, hsmall, Bytes.ofWord_toWord]
  | float =>
      obtain ⟨a, b, c, d, rfl⟩ : ∃ a b c d, bytes = [a, b, c, d] := by
        match bytes, hlength with
        | [a, b, c, d], _ => exact ⟨a, b, c, d, rfl⟩
      simp only [Except.ok.injEq] at hdecode
      subst hdecode
      simp [encode, Bytes.ofDoubleWord_toDoubleWord]
  | enum table =>
      rcases List.length_eq_one_iff.mp hlength with ⟨a, rfl⟩
      simp only at hdecode
      split at hdecode
      next name hname =>
        simp only [Except.ok.injEq] at hdecode
        subst hdecode
        simp [encode, byteOf?_of_nameOf? hname]
      next => simp at hdecode
  | ascii width =>
      simp only at hdecode
      obtain rfl := (decodeAscii_eq_ok_iff.mp hdecode).2
      have hwidth : bytes.length = width := hlength
      simp only [encode]
      rw [← hwidth]
      exact encodeAscii_of_decodeAscii hdecode
  | dateTime =>
      obtain ⟨year1, year2, month, day, hour, minute, second, rfl⟩ :
          ∃ year1 year2 month day hour minute second,
            bytes = [year1, year2, month, day, hour, minute, second] := by
        match bytes, hlength with
        | [year1, year2, month, day, hour, minute, second], _ =>
            exact ⟨year1, year2, month, day, hour, minute, second, rfl⟩
      simp only at hdecode
      rcases encodeDateTime_of_decodeDateTime hdecode with ⟨t, rfl, _, hencode⟩
      exact hencode
  | version =>
      rcases List.length_eq_two.mp hlength with ⟨major, minor, rfl⟩
      simp only [Except.ok.injEq] at hdecode
      subst hdecode
      exact encodeVersion_versionText major minor

/-- A value of an unsigned codec is a number, and comes back as it was. -/
theorem decode_of_encode_count {codec : Codec} {value : Value} {bytes : Bytes}
    (hcount : codec.dataType.isCount = true)
    (hencode : codec.encode value = .ok bytes) :
    (∃ n, value = .uint n) ∧ codec.decode bytes = .ok value := by
  cases codec with
  | uint8 =>
      cases value with
      | uint n =>
          simp only [encode] at hencode
          split at hencode
          next hsmall =>
            simp only [Except.ok.injEq] at hencode
            subst hencode
            have hlt : n.toNat < 256 := UInt32.lt_iff_toNat_lt.mp hsmall
            have hback : n.toUInt8.toUInt32 = n := by
              apply UInt32.toNat_inj.mp
              simp only [UInt8.toNat_toUInt32, UInt32.toNat_toUInt8]
              omega
            refine ⟨⟨n, rfl⟩, ?_⟩
            simp [decode, width, dataType, DataType.fixedWidth?, hback]
          next => simp at hencode
      | _ => simp [encode] at hencode
  | uint16 =>
      cases value with
      | uint n =>
          simp only [encode] at hencode
          split at hencode
          next hsmall =>
            simp only [Except.ok.injEq, Bytes.ofWord] at hencode
            subst hencode
            have hlt : n.toNat < 65536 := UInt32.lt_iff_toNat_lt.mp hsmall
            have hback : n.toUInt16.toUInt32 = n := by
              apply UInt32.toNat_inj.mp
              simp only [UInt16.toNat_toUInt32, UInt32.toNat_toUInt16]
              omega
            refine ⟨⟨n, rfl⟩, ?_⟩
            change Except.ok (Value.uint (Bytes.toWord (n.toUInt16 >>> 8).toUInt8
              n.toUInt16.toUInt8).toUInt32) = _
            rw [Bytes.toWord_ofWord, hback]
          next => simp at hencode
      | _ => simp [encode] at hencode
  | _ => simp [dataType, DataType.isCount] at hcount

theorem decode_of_encode {codec : Codec} {value : Value} {bytes : Bytes}
    (hencode : codec.encode value = .ok bytes) :
    ∃ read, codec.decode bytes = .ok read := by
  cases codec with
  | uint8 => exact ⟨value, (decode_of_encode_count rfl hencode).2⟩
  | uint16 => exact ⟨value, (decode_of_encode_count rfl hencode).2⟩
  | float =>
      have hbytes : ∃ word, bytes = Bytes.ofDoubleWord word := by
        cases value with
        | float x => exact ⟨_, (Except.ok.inj hencode).symm⟩
        | uint n => exact ⟨_, (Except.ok.inj hencode).symm⟩
        | _ => simp [encode] at hencode
      rcases hbytes with ⟨word, rfl⟩
      exact ⟨_, rfl⟩
  | enum table =>
      cases value with
      | text name =>
          simp only [encode] at hencode
          split at hencode
          next byte hbyte =>
            simp only [Except.ok.injEq] at hencode
            subst hencode
            rcases exists_nameOf?_of_byteOf? hbyte with ⟨first, hfirst⟩
            exact ⟨.text first, by
              simp [decode, width, dataType, DataType.fixedWidth?, hfirst]⟩
          next => simp at hencode
      | _ => simp [encode] at hencode
  | ascii width =>
      cases value with
      | text text =>
          rcases encodeAscii_eq_ok hencode with ⟨hlength, hascii⟩
          rcases decodeAscii_of_ascii hascii with ⟨read, hread⟩
          refine ⟨.text read, ?_⟩
          unfold decode
          have hwidth : bytes.length = (Codec.ascii width).width := hlength
          rw [if_neg (not_not.mpr hwidth)]
          exact hread
      | _ => simp [encode] at hencode
  | dateTime =>
      cases value with
      | dateTime t =>
          obtain ⟨year1, year2, month, day, hour, minute, second, rfl, hread⟩ :=
            decodeDateTime_of_encodeDateTime hencode
          exact hread
      | _ => simp [encode] at hencode
  | version =>
      cases value with
      | text text =>
          simp only [encode, encodeVersion] at hencode
          split at hencode
          next major minor hparts =>
            simp only [Except.ok.injEq] at hencode
            subst hencode
            exact ⟨_, rfl⟩
          next => simp at hencode
      | _ => simp [encode] at hencode

theorem length_of_encode {codec : Codec} {value : Value} {bytes : Bytes}
    (hencode : codec.encode value = .ok bytes) : bytes.length = codec.width := by
  rcases decode_of_encode hencode with ⟨read, hread⟩
  exact length_of_decode hread

end PowerLink.Codec
