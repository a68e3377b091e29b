import PowerLink.Proofs.Checksums
import PowerLink.Proofs.Frames

/-!
# Frames of which bytes were altered

A frame in which one byte is replaced is always refused, and the class of the error tells
in which part of the frame the byte is.  Several replaced bytes can make up for each
other: if they all lie in the address, the identifiers and the payload, the frame is still
accepted exactly if the sum of its bytes is the old one modulo 65536.
-/

namespace PowerLink.Frame

open Bytes

/-- The bytes are refused for a reason of this class. -/
def RefusedAs (bytes : Bytes) (reason : FrameError.Class) : Prop :=
  ∃ e, decode bytes = .error e ∧ e.classOf = reason

section

variable {start ver address id1 id2 length1 length2 check1 check2 last : UInt8} {info : Bytes}

/-! ## The checks, one by one -/

theorem refused_of_start (hstart : start ≠ startMarker) :
    RefusedAs (spread start ver address id1 id2 length1 length2 info check1 check2 last)
      .format := by
  refine ⟨.badStart start, ?_, rfl⟩
  rw [decode_spread, if_pos hstart]

theorem refused_of_end (hlast : last ≠ endMarker) :
    RefusedAs (spread startMarker ver address id1 id2 length1 length2 info check1 check2 last)
      .format := by
  refine ⟨.badEnd last, ?_, rfl⟩
  rw [decode_spread, if_neg (not_not.mpr rfl), if_pos hlast]

theorem refused_of_version (hver : ver ≠ version) :
    RefusedAs (spread startMarker ver address id1 id2 length1 length2 info check1 check2
      endMarker) .format := by
  refine ⟨.badVersion ver, ?_, rfl⟩
  rw [decode_spread, if_neg (not_not.mpr rfl), if_neg (not_not.mpr rfl), if_pos hver]

theorem refused_of_length (hlength : LengthField.decode length1 length2 ≠ .ok info.length) :
    RefusedAs (spread startMarker version address id1 id2 length1 length2 info check1 check2
      endMarker) .lengthChecksum := by
  unfold RefusedAs
  rw [decode_spread]
  simp only [ne_eq, not_true_eq_false, if_false]
  -- What the check nibble lets through is noticed by the size of the frame.
  cases hread : LengthField.decode length1 length2 with
  | error e =>
      obtain ⟨received, calculated, rfl⟩ := LengthField.decode_eq_error hread
      exact ⟨_, rfl, rfl⟩
  | ok declared =>
      have hdeclared : info.length ≠ declared := by
        rintro rfl
        exact hlength hread
      simp only [hdeclared, not_false_eq_true, if_true]
      exact ⟨_, rfl, rfl⟩

theorem decode_of_announced (hlength : LengthField.decode length1 length2 = .ok info.length) :
    decode (spread startMarker version address id1 id2 length1 length2 info check1 check2
      endMarker) =
      if toWord check1 check2 = checksum (address :: id1 :: id2 :: length1 :: length2 :: info)
      then .ok ⟨address, id1, id2, info⟩
      else .error (.checksum (toWord check1 check2)
        (checksum (address :: id1 :: id2 :: length1 :: length2 :: info))) := by
  rw [decode_spread, hlength]
  simp only [ne_eq, not_true_eq_false, if_false, ite_not]

theorem refused_of_checksum (hlength : LengthField.decode length1 length2 = .ok info.length)
    (hcheck : toWord check1 check2 ≠
      checksum (address :: id1 :: id2 :: length1 :: length2 :: info)) :
    RefusedAs (spread startMarker version address id1 id2 length1 length2 info check1 check2
      endMarker) .checksum := by
  unfold RefusedAs
  rw [decode_of_announced hlength, if_neg hcheck]
  exact ⟨_, rfl, rfl⟩

end

/-! ## One replaced byte -/

/-- The class of error that a wrong byte at the position of a frame with so long a payload
leads to. -/
def faultClass (size position : Nat) : FrameError.Class :=
  if position < 2 ∨ position = size + 9 then .format
  else if position = 5 ∨ position = 6 then .lengthChecksum
  else .checksum

section

variable {address id1 id2 length1 length2 check1 check2 : UInt8} {info : Bytes}
  (hlength : LengthField.decode length1 length2 = .ok info.length)
  (hcheck : toWord check1 check2 =
    checksum (address :: id1 :: id2 :: length1 :: length2 :: info))
  {position : Nat} {byte : UInt8}

include hlength

theorem refused_of_other_length {first second : UInt8}
    (hother : [first, second] ≠ [length1, length2]) :
    RefusedAs (spread startMarker version address id1 id2 first second info check1 check2
      endMarker) .lengthChecksum := by
  apply refused_of_length
  -- There is only one length field for every length.
  intro hread
  have hold := (LengthField.decode_eq_ok_iff.mp hlength).2
  have hnew := (LengthField.decode_eq_ok_iff.mp hread).2
  exact hother (hnew.symm.trans hold)

include hcheck

theorem refused_of_covered {address' id1' id2' : UInt8} {info' : Bytes} (place : Nat)
    (hcovered : address' :: id1' :: id2' :: length1 :: length2 :: info' =
      (address :: id1 :: id2 :: length1 :: length2 :: info).set place byte)
    (hplace : place < (address :: id1 :: id2 :: length1 :: length2 :: info).length)
    (hbyte : byte ≠ (address :: id1 :: id2 :: length1 :: length2 :: info)[place]) :
    RefusedAs (spread startMarker version address' id1' id2' length1 length2 info' check1
      check2 endMarker) .checksum := by
  have hsize : info'.length = info.length := by
    simpa using congrArg List.length hcovered
  apply refused_of_checksum (hlength.trans (congrArg Except.ok hsize.symm))
  rw [hcheck, hcovered]
  exact (checksum_set_ne hplace hbyte).symm

theorem refused_set_opening (hposition : position < 7)
    (hbyte : byte ≠ [startMarker, version, address, id1, id2, length1, length2][position]) :
    RefusedAs ((spread startMarker version address id1 id2 length1 length2 info check1 check2
      endMarker).set position byte) (faultClass info.length position) := by
  match position with
  | 0 => exact refused_of_start hbyte
  | 1 => exact refused_of_version hbyte
  | 2 => exact refused_of_covered hlength hcheck 0 rfl (by simp) hbyte
  | 3 => exact refused_of_covered hlength hcheck 1 rfl (by simp) hbyte
  | 4 => exact refused_of_covered hlength hcheck 2 rfl (by simp) hbyte
  | 5 => exact refused_of_other_length hlength fun hsame => hbyte (List.cons.inj hsame).1
  | 6 =>
      have hsecond : [length1, byte] ≠ [length1, length2] := by simpa using hbyte
      exact refused_of_other_length hlength hsecond

theorem refused_set_info (hposition : position < info.length)
    (hbyte : byte ≠ info[position]) :
    RefusedAs (spread startMarker version address id1 id2 length1 length2
      (info.set position byte) check1 check2 endMarker) .checksum :=
  refused_of_covered hlength hcheck (position + 5) rfl (by simpa using hposition)
    (by simpa using hbyte)

theorem refused_set_trailer (hposition : position < 3)
    (hbyte : byte ≠ [check1, check2, endMarker][position]) :
    RefusedAs (startMarker :: version :: address :: id1 :: id2 :: length1 :: length2 ::
      (info ++ [check1, check2, endMarker].set position byte))
      (faultClass info.length (info.length + 7 + position)) := by
  have hclass {place : Nat} (hplace : place < 2) :
      faultClass info.length (info.length + 7 + place) = .checksum := by
    unfold faultClass
    rw [if_neg (by omega), if_neg (by omega)]
  match position with
  | 0 =>
      rw [hclass (by decide)]
      apply refused_of_checksum hlength
      rw [← hcheck]
      intro hsame
      exact hbyte (toWord_inj hsame).1
  | 1 =>
      rw [hclass (by decide)]
      apply refused_of_checksum hlength
      rw [← hcheck]
      intro hsame
      exact hbyte (toWord_inj hsame).2
  | 2 =>
      have hformat : faultClass info.length (info.length + 7 + 2) = .format :=
        if_pos (.inr rfl)
      rw [hformat]
      exact refused_of_end hbyte

end

variable {frame : Frame} {bytes original : Bytes}

theorem exists_spread_of_encode (hframe : frame.encode = .ok bytes) :
    ∃ length1 length2 check1 check2,
      LengthField.decode length1 length2 = .ok frame.info.length ∧
        toWord check1 check2 = checksum
          (frame.address :: frame.id1 :: frame.id2 :: length1 :: length2 :: frame.info) ∧
        bytes = spread startMarker version frame.address frame.id1 frame.id2 length1 length2
          frame.info check1 check2 endMarker := by
  have hdecode := decode_eq_ok_iff_encode.mpr hframe
  have hsize : minSize ≤ bytes.length := by
    by_contra hshort
    rw [decode_of_short (Nat.lt_of_not_le hshort)] at hdecode
    cases hdecode
  obtain ⟨_, _, _, _, _, length1, length2, _, check1, check2, _, rfl⟩ := exists_eq_spread hsize
  obtain ⟨rfl, rfl, rfl, hlength, hcheck, rfl⟩ := decode_spread_eq_ok_iff.mp hdecode
  exact ⟨length1, length2, check1, check2, hlength, hcheck, rfl⟩

/-- A frame of which any one byte is replaced by another one is refused: for its format if
the byte is the start, the version or the end, for its length check if it belongs to the
length field, and for its checksum otherwise. -/
theorem decode_replaced_byte (hframe : frame.encode = .ok bytes) {position : Nat}
    (hposition : position < bytes.length) {byte : UInt8} (hbyte : byte ≠ bytes[position]) :
    ∃ e, decode (bytes.set position byte) = .error e ∧
      e.classOf = faultClass frame.info.length position := by
  obtain ⟨length1, length2, check1, check2, hlength, hcheck, rfl⟩ :=
    exists_spread_of_encode hframe
  change RefusedAs _ _
  by_cases hopening : position < 7
  · have hold : byte ≠ [startMarker, version, frame.address, frame.id1, frame.id2, length1,
        length2][position] := by
      rwa [← List.getElem_append_left]
    exact refused_set_opening hlength hcheck hopening hold
  · obtain ⟨place, rfl⟩ := Nat.exists_eq_add_of_le' (Nat.le_of_not_lt hopening)
    have hplace : place < (frame.info ++ [check1, check2, endMarker]).length := by
      simpa using hposition
    have hbehind : byte ≠ (frame.info ++ [check1, check2, endMarker])[place] := hbyte
    change RefusedAs (startMarker :: version :: frame.address :: frame.id1 :: frame.id2 ::
      length1 :: length2 :: (frame.info ++ [check1, check2, endMarker]).set place byte) _
    by_cases hinfo : place < frame.info.length
    · have hclass : faultClass frame.info.length (place + 7) = .checksum := by
        unfold faultClass
        rw [if_neg (by omega), if_neg (by omega)]
      rw [List.getElem_append_left hinfo] at hbehind
      rw [hclass, List.set_append_left _ _ hinfo]
      exact refused_set_info hlength hcheck hinfo hbehind
    · obtain ⟨last, rfl⟩ := Nat.exists_eq_add_of_le (Nat.le_of_not_lt hinfo)
      have hlast : last < 3 := by simpa using hplace
      have hold : byte ≠ [check1, check2, endMarker][last] := by
        simpa [List.getElem_append_right] using hbehind
      rw [List.set_append_right _ _ (Nat.le_add_right _ _), Nat.add_sub_cancel_left,
        Nat.add_right_comm]
      exact refused_set_trailer hlength hcheck hlast hold

/-- The low length byte with one of its high bits changed passes the nibble check. -/
theorem decode_replaced_byte_length :
    let frame : Frame := ⟨1, 0x40, 0x81, [1, 0, 7]⟩
    frame.encode = .ok frame.toBytes ∧
      (∃ e, decode (frame.toBytes.set 6 0x0B) = .error e ∧ e.classOf = .lengthChecksum) ∧
      ∃ e, decode (frame.toBytes.set 7 0x02) = .error e ∧ e.classOf = .checksum := by
  intro frame
  have hframe : frame.encode = .ok frame.toBytes := rfl
  exact ⟨hframe, decode_replaced_byte hframe (by decide : 6 < frame.toBytes.length) (by decide),
    decode_replaced_byte hframe (by decide : 7 < frame.toBytes.length) (by decide)⟩

/-! ## Replaced bytes that make up for each other -/

/-- The bytes between the version and the checksum. -/
def covered (bytes : Bytes) : Bytes :=
  (bytes.take (bytes.length - 3)).drop 2

@[simp] theorem covered_spread
    (start ver address id1 id2 length1 length2 : UInt8) (info : Bytes)
    (check1 check2 last : UInt8) :
    covered (spread start ver address id1 id2 length1 length2 info check1 check2 last) =
      address :: id1 :: id2 :: length1 :: length2 :: info := by
  simp [covered, spread]

/-- The byte strings are of one size, and differ at most in the address, the identifiers and
the payload. -/
structure SharesFraming (bytes original : Bytes) : Prop where
  length_eq : bytes.length = original.length
  opening : bytes.take 2 = original.take 2
  lengthField : (bytes.drop 5).take 2 = (original.drop 5).take 2
  trailer : bytes.drop (bytes.length - 3) = original.drop (original.length - 3)

theorem SharesFraming.exists_eq_spread {start ver address id1 id2 length1 length2 : UInt8}
    {info : Bytes} {check1 check2 last : UInt8}
    (hshares : SharesFraming bytes
      (spread start ver address id1 id2 length1 length2 info check1 check2 last)) :
    ∃ address' id1' id2' info', info'.length = info.length ∧
      bytes = spread start ver address' id1' id2' length1 length2 info' check1 check2 last := by
  have hsize : minSize ≤ bytes.length := by
    rw [hshares.length_eq, length_spread]
    exact Nat.le_add_left _ _
  obtain ⟨start', ver', address', id1', id2', first, second, info', high, low, last', rfl⟩ :=
    Frame.exists_eq_spread hsize
  have hlength : info'.length = info.length := by
    simpa using hshares.length_eq
  have hopening : start' = start ∧ ver' = ver := by
    simpa [spread] using hshares.opening
  have hfield : first = length1 ∧ second = length2 := by
    simpa [spread] using hshares.lengthField
  have htrailer : high = check1 ∧ low = check2 ∧ last' = last := by
    simpa [spread] using hshares.trailer
  obtain ⟨rfl, rfl⟩ := hopening
  obtain ⟨rfl, rfl⟩ := hfield
  obtain ⟨rfl, rfl, rfl⟩ := htrailer
  exact ⟨address', id1', id2', info', hlength, rfl⟩

theorem SharesFraming.exists_decode_eq (hshares : SharesFraming bytes original)
    (hframe : frame.encode = .ok original) :
    ∃ other, decode bytes =
      if sum (covered bytes) ≡ sum (covered original) [MOD 65536] then .ok other
      else .error (.checksum (checksum (covered original)) (checksum (covered bytes))) := by
  obtain ⟨length1, length2, check1, check2, hlength, hcheck, rfl⟩ :=
    exists_spread_of_encode hframe
  obtain ⟨address, id1, id2, info, hsize, rfl⟩ := hshares.exists_eq_spread
  refine ⟨⟨address, id1, id2, info⟩, ?_⟩
  rw [decode_of_announced (hlength.trans (congrArg Except.ok hsize.symm)), hcheck]
  simp only [covered_spread, ← checksum_eq_iff, eq_comm]

/-- A frame whose address, identifiers and payload were altered in any way is accepted
exactly if the sum of its bytes is still the same modulo 65536, so the order of these bytes
does not matter.  Otherwise it is refused for its checksum, and the two checksums that are
reported are as far apart as the sums. -/
theorem decode_altered_by_sum (hframe : frame.encode = .ok original)
    (hshares : SharesFraming bytes original) :
    ((∃ other, decode bytes = .ok other) ↔
      sum (covered bytes) ≡ sum (covered original) [MOD 65536]) ∧
    (¬ sum (covered bytes) ≡ sum (covered original) [MOD 65536] →
      ∃ received calculated, decode bytes = .error (.checksum received calculated) ∧
        received = checksumInWords (covered original) ∧
        calculated = checksumInWords (covered bytes) ∧
        (received.toNat : ℤ) - calculated.toNat ≡
          (sum (covered bytes) : ℤ) - sum (covered original) [ZMOD 65536]) ∧
    ((covered bytes).Perm (covered original) → ∃ other, decode bytes = .ok other) := by
  obtain ⟨other, hdecode⟩ := hshares.exists_decode_eq hframe
  have haccepted (hsum : sum (covered bytes) ≡ sum (covered original) [MOD 65536]) :
      ∃ other, decode bytes = .ok other := by
    rw [if_pos hsum] at hdecode
    exact ⟨other, hdecode⟩
  refine ⟨⟨?_, haccepted⟩, ?_, ?_⟩
  · rintro ⟨accepted, hok⟩
    by_contra hsum
    rw [if_neg hsum, hok] at hdecode
    cases hdecode
  · intro hsum
    rw [if_neg hsum] at hdecode
    exact ⟨_, _, hdecode, (checksumInWords_eq _).symm, (checksumInWords_eq _).symm,
      checksum_sub_checksum _ _⟩
  · intro hperm
    apply haccepted
    rw [sum_of_perm hperm]

/-- A payload with a sum of 65536 goes unnoticed in the place of one with a sum of nothing,
and one more does not. -/
theorem decode_altered_by_sum_overflow :
    let frame : Frame := ⟨1, 0x40, 0x81, List.replicate 258 0⟩
    let fill (info : Bytes) := frame.toBytes.take 7 ++ info ++ frame.toBytes.drop 265
    let full := fill (0x01 :: List.replicate 257 0xFF)
    let fuller := fill (0x02 :: List.replicate 257 0xFF)
    frame.encode = .ok frame.toBytes ∧ SharesFraming full frame.toBytes ∧
      (∃ other, decode full = .ok other) ∧ SharesFraming fuller frame.toBytes ∧
      ∃ received calculated, decode fuller = .error (.checksum received calculated) := by
  intro frame fill full fuller
  have hframe : frame.encode = .ok frame.toBytes :=
    encode_eq_ok_iff.mpr ⟨by decide +kernel, rfl⟩
  have hfull : SharesFraming full frame.toBytes := by
    constructor <;> decide +kernel
  have hfuller : SharesFraming fuller frame.toBytes := by
    constructor <;> decide +kernel
  have hsame : sum (covered full) ≡ sum (covered frame.toBytes) [MOD 65536] := by
    decide +kernel
  have hother : ¬ sum (covered fuller) ≡ sum (covered frame.toBytes) [MOD 65536] := by
    decide +kernel
  obtain ⟨haccepted, _⟩ := decode_altered_by_sum hframe hfull
  obtain ⟨_, hrefused, _⟩ := decode_altered_by_sum hframe hfuller
  obtain ⟨received, calculated, hdecode, _⟩ := hrefused hother
  exact ⟨hframe, hfull, haccepted.mpr hsame, hfuller, received, calculated, hdecode⟩

end PowerLink.Frame
