import PowerLink.Frame.Basic
import PowerLink.Proofs.LengthField
import PowerLink.Proofs.Words

/-!
# Frames are read exactly as they are written

A byte string is taken for a frame if and only if it is what the frame is written as.
Both directions go through one normal form: every byte string of at least ten bytes
has seven bytes in front of its payload and three behind it, and on such a string
`decode` is a plain sequence of checks.

`decodeAt?` reads the same bytes by their positions, and shows that no position is
looked at that is not there.
-/

namespace PowerLink.Frame

/-- A byte string with seven bytes in front of its payload and three behind it. -/
def spread (start ver address id1 id2 length1 length2 : UInt8) (info : Bytes)
    (check1 check2 last : UInt8) : Bytes :=
  start :: ver :: address :: id1 :: id2 :: length1 :: length2 ::
    (info ++ [check1, check2, last])

@[simp] theorem length_spread
    (start ver address id1 id2 length1 length2 : UInt8) (info : Bytes)
    (check1 check2 last : UInt8) :
    (spread start ver address id1 id2 length1 length2 info check1 check2
      last).length = info.length + 10 := by
  simp [spread]

theorem exists_eq_spread {bytes : Bytes} (hsize : minSize ≤ bytes.length) :
    ∃ start ver address id1 id2 length1 length2 info check1 check2 last,
      bytes = spread start ver address id1 id2 length1 length2 info check1 check2
        last := by
  unfold minSize at hsize
  obtain ⟨start, ver, address, id1, id2, length1, length2, rest, rfl⟩ :
      ∃ start ver address id1 id2 length1 length2 rest,
        bytes = start :: ver :: address :: id1 :: id2 :: length1 :: length2 ::
          rest := by
    match bytes, hsize with
    | start :: ver :: address :: id1 :: id2 :: length1 :: length2 :: rest, _ =>
        exact ⟨start, ver, address, id1, id2, length1, length2, rest, rfl⟩
  simp only [List.length_cons] at hsize
  have hend : (rest.drop (rest.length - 3)).length = 3 := by
    rw [List.length_drop]
    omega
  rcases List.length_eq_three.mp hend with ⟨check1, check2, last, htail⟩
  refine ⟨start, ver, address, id1, id2, length1, length2,
    rest.take (rest.length - 3), check1, check2, last, ?_⟩
  rw [spread, ← htail, List.take_append_drop]

theorem decode_of_short {bytes : Bytes} (hsize : bytes.length < minSize) :
    decode bytes = .error (.tooShort bytes.length) := by
  unfold minSize at hsize
  unfold decode
  split
  next start ver address id1 id2 length1 length2 rest =>
    simp only [List.length_cons] at hsize
    have hend : (rest.drop (rest.length - 3)).length < 3 := by
      rw [List.length_drop]
      omega
    simp only
    split
    next check1 check2 last htail =>
      rw [htail] at hend
      simp at hend
    next => rfl
  next => rfl

theorem decode_spread
    (start ver address id1 id2 length1 length2 : UInt8) (info : Bytes)
    (check1 check2 last : UInt8) :
    decode (spread start ver address id1 id2 length1 length2 info check1 check2
      last) =
      if start ≠ startMarker then .error (.badStart start)
      else if last ≠ endMarker then .error (.badEnd last)
      else if ver ≠ version then .error (.badVersion ver)
      else
        match LengthField.decode length1 length2 with
        | .error e => .error e
        | .ok declared =>
          if info.length ≠ declared then
            .error (.lengthMismatch declared (minSize + declared) (info.length + 10))
          else if Bytes.toWord check1 check2 ≠
              checksum (address :: id1 :: id2 :: length1 :: length2 :: info) then
            .error (.checksum (Bytes.toWord check1 check2)
              (checksum (address :: id1 :: id2 :: length1 :: length2 :: info)))
          else .ok ⟨address, id1, id2, info⟩ := by
  have hcut : (info ++ [check1, check2, last]).length - 3 = info.length := by simp
  have hsize := length_spread start ver address id1 id2 length1 length2 info check1
    check2 last
  unfold spread at hsize ⊢
  cases hread : LengthField.decode length1 length2 with
  | error e => simp only [decode, hcut, List.drop_left, hread]
  | ok declared =>
      simp only [decode, hcut, hsize, List.take_left, List.drop_left, hread]

/-! ## Reading back -/

theorem toBytes_eq_spread (frame : Frame) {length1 length2 : UInt8}
    (hlength : LengthField.encode frame.info.length = [length1, length2]) :
    frame.toBytes =
      spread startMarker version frame.address frame.id1 frame.id2 length1 length2
        frame.info (checksum frame.payload >>> 8).toUInt8
        (checksum frame.payload).toUInt8 endMarker := by
  simp [toBytes, spread, Bytes.ofWord, payload, hlength]

theorem exists_length_eq (frame : Frame) :
    ∃ length1 length2,
      LengthField.encode frame.info.length = [length1, length2] :=
  List.length_eq_two.mp (LengthField.length_encode _)

theorem decode_toBytes {frame : Frame}
    (hfits : frame.info.length ≤ LengthField.maxInfo) :
    decode frame.toBytes = .ok frame := by
  rcases exists_length_eq frame with ⟨length1, length2, hlength⟩
  have hread : LengthField.decode length1 length2 = .ok frame.info.length :=
    LengthField.decode_eq_ok_iff.mpr ⟨hfits, hlength⟩
  have hpayload : frame.payload =
      frame.address :: frame.id1 :: frame.id2 :: length1 :: length2 ::
        frame.info := by
    simp [payload, hlength]
  rw [toBytes_eq_spread frame hlength, decode_spread, hread, ← hpayload,
    Bytes.toWord_ofWord]
  simp

theorem decode_spread_eq_ok_iff
    {start ver address id1 id2 length1 length2 : UInt8} {info : Bytes}
    {check1 check2 last : UInt8} {frame : Frame} :
    decode (spread start ver address id1 id2 length1 length2 info check1 check2
      last) = .ok frame ↔
      start = startMarker ∧ last = endMarker ∧ ver = version ∧
        LengthField.decode length1 length2 = .ok info.length ∧
        Bytes.toWord check1 check2 =
          checksum (address :: id1 :: id2 :: length1 :: length2 :: info) ∧
        frame = ⟨address, id1, id2, info⟩ := by
  rw [decode_spread]
  by_cases hstart : start = startMarker
  · by_cases hlast : last = endMarker
    · by_cases hver : ver = version
      · cases hread : LengthField.decode length1 length2 with
        | error e => simp [hstart, hlast, hver]
        | ok declared =>
            by_cases hdeclared : info.length = declared
            · by_cases hsum : Bytes.toWord check1 check2 =
                  checksum (address :: id1 :: id2 :: length1 :: length2 :: info)
              · simp [hstart, hlast, hver, hdeclared, hsum, eq_comm]
              · simp [hstart, hlast, hver, hdeclared, hsum]
            · simp [hstart, hlast, hver, hdeclared, Ne.symm hdeclared]
      · simp [hstart, hlast, hver]
    · simp [hstart, hlast]
  · simp [hstart]

theorem toBytes_of_decode {bytes : Bytes} {frame : Frame}
    (hdecode : decode bytes = .ok frame) :
    frame.info.length ≤ LengthField.maxInfo ∧ frame.toBytes = bytes := by
  by_cases hsize : minSize ≤ bytes.length
  · obtain ⟨start, ver, address, id1, id2, length1, length2, info, check1, check2,
      last, rfl⟩ := exists_eq_spread hsize
    rcases decode_spread_eq_ok_iff.mp hdecode with ⟨rfl, rfl, rfl, hread, hsum, rfl⟩
    rcases LengthField.decode_eq_ok_iff.mp hread with ⟨hfits, hlength⟩
    have hpayload : payload ⟨address, id1, id2, info⟩ =
        address :: id1 :: id2 :: length1 :: length2 :: info := by
      simp [payload, hlength]
    have hcheck := Bytes.ofWord_toWord check1 check2
    rw [hsum, ← hpayload, Bytes.ofWord] at hcheck
    simp only [List.cons.injEq, and_true] at hcheck
    refine ⟨hfits, ?_⟩
    rw [toBytes_eq_spread ⟨address, id1, id2, info⟩ hlength, hcheck.1, hcheck.2]
  · rw [decode_of_short (by omega)] at hdecode
    simp at hdecode

theorem decode_eq_ok_iff {bytes : Bytes} {frame : Frame} :
    decode bytes = .ok frame ↔
      frame.info.length ≤ LengthField.maxInfo ∧ frame.toBytes = bytes := by
  constructor
  · exact toBytes_of_decode
  · rintro ⟨hfits, rfl⟩
    exact decode_toBytes hfits

theorem encode_eq_ok_iff {frame : Frame} {bytes : Bytes} :
    frame.encode = .ok bytes ↔
      frame.info.length ≤ LengthField.maxInfo ∧ frame.toBytes = bytes := by
  unfold encode
  split <;> simp_all

example : encode ⟨0x01, 0x40, 0x81, []⟩ =
    .ok [0x7E, 0x21, 0x01, 0x40, 0x81, 0x00, 0x00, 0xFF, 0x3E, 0x0D] := by
  decide

theorem encode_eq_error_iff {frame : Frame} {e : FrameError} :
    frame.encode = .error e ↔
      LengthField.maxInfo < frame.info.length ∧
        e = .oversized frame.info.length := by
  unfold encode
  split
  next hfits => simp [Nat.not_lt.mpr hfits]
  next hlong => simp [Nat.lt_of_not_le hlong, eq_comm]

theorem decode_eq_ok_iff_encode {bytes : Bytes} {frame : Frame} :
    decode bytes = .ok frame ↔ frame.encode = .ok bytes := by
  rw [decode_eq_ok_iff, encode_eq_ok_iff]

theorem decode_eq_error_iff {bytes : Bytes} :
    (∃ e, decode bytes = .error e) ↔ ∀ frame : Frame, frame.encode ≠ .ok bytes := by
  constructor
  · rintro ⟨e, hdecode⟩ frame hencode
    rw [decode_eq_ok_iff_encode.mpr hencode] at hdecode
    simp at hdecode
  · intro hnone
    cases hdecode : decode bytes with
    | error e => exact ⟨e, rfl⟩
    | ok frame => exact absurd (decode_eq_ok_iff_encode.mp hdecode) (hnone frame)

/-! ## Reading by position -/

/-- The bytes from one position up to another, if they are all there. -/
def slice? (bytes : Bytes) (first stop : Nat) : Option Bytes :=
  if first ≤ stop ∧ stop ≤ bytes.length then some ((bytes.take stop).drop first)
  else none

/-- Reads a frame by the positions of its bytes; a position that is not there makes it
fail without an answer. -/
def decodeAt? (bytes : Bytes) : Option (Except FrameError Frame) := do
  if bytes.length < minSize then
    return .error (.tooShort bytes.length)
  let start ← bytes[0]?
  if start ≠ startMarker then
    return .error (.badStart start)
  let last ← bytes[bytes.length - 1]?
  if last ≠ endMarker then
    return .error (.badEnd last)
  let ver ← bytes[1]?
  if ver ≠ version then
    return .error (.badVersion ver)
  match LengthField.decode (← bytes[5]?) (← bytes[6]?) with
  | .error e => return .error e
  | .ok declared =>
    if bytes.length ≠ minSize + declared then
      return .error (.lengthMismatch declared (minSize + declared) bytes.length)
    let checkAt := bytes.length - 3
    let received := Bytes.toWord (← bytes[checkAt]?) (← bytes[checkAt + 1]?)
    let calculated := checksum (← slice? bytes 2 checkAt)
    if received ≠ calculated then
      return .error (.checksum received calculated)
    return .ok ⟨← bytes[2]?, ← bytes[3]?, ← bytes[4]?, ← slice? bytes 7 checkAt⟩

theorem decodeAt?_eq (bytes : Bytes) : decodeAt? bytes = some (decode bytes) := by
  by_cases hsize : bytes.length < minSize
  · rw [decode_of_short hsize]
    simp [decodeAt?, hsize]
  · obtain ⟨start, ver, address, id1, id2, length1, length2, info, check1, check2,
      last, rfl⟩ := exists_eq_spread (Nat.le_of_not_lt hsize)
    have hstop : info.length + 10 - 3 = info.length + 7 := by omega
    have hend : info.length + 10 - 1 = info.length + 9 := by omega
    have hshort : ¬ info.length + 10 < minSize := by
      simpa using hsize
    have hpayload : slice? (spread start ver address id1 id2 length1 length2 info
        check1 check2 last) 2 (info.length + 7) =
        some (address :: id1 :: id2 :: length1 :: length2 :: info) := by
      simp [slice?, spread]
    have hinfo : slice? (spread start ver address id1 id2 length1 length2 info
        check1 check2 last) 7 (info.length + 7) = some info := by
      simp [slice?, spread]
    have hdeclared (declared : Nat) :
        info.length + 10 = minSize + declared ↔ info.length = declared := by
      unfold minSize
      omega
    rw [decode_spread]
    simp only [decodeAt?, length_spread, hstop, hend, if_neg hshort, hpayload,
      hinfo]
    simp only [spread, List.getElem?_cons_zero, List.getElem?_cons_succ,
      List.getElem?_append_right, Nat.le_refl, Nat.le_add_right, Nat.sub_self,
      Nat.add_sub_cancel_left, Option.pure_def, Option.bind_eq_bind,
      Option.bind_some, ne_eq, hdeclared]
    cases LengthField.decode length1 length2 with
    | error e => split_ifs <;> rfl
    | ok declared =>
        by_cases hmatch : info.length = declared
        · simp only [hmatch, not_true_eq_false, if_false]
          split_ifs <;> rfl
        · simp only [hmatch, not_false_eq_true, if_true]
          split_ifs <;> rfl

/-- A frame cannot be written exactly if its payload is longer than 4095 bytes, and is
otherwise read back as it was; a byte string is read as a frame exactly if it is what
the frame is written as, is refused if it is no frame's written form, and no position
outside of it is looked at. -/
theorem decode_exact_inverse (frame : Frame) (bytes : Bytes) :
    ((∃ e, frame.encode = .error e) ↔ 4095 < frame.info.length) ∧
      frame.encode >>= decode =
        (if 4095 < frame.info.length then .error (.oversized frame.info.length)
        else .ok frame) ∧
      (decode bytes = .ok frame ↔ frame.encode = .ok bytes) ∧
      ((∃ e, decode bytes = .error e) ↔
        ∀ other : Frame, other.encode ≠ .ok bytes) ∧
      decodeAt? bytes = some (decode bytes) := by
  refine ⟨?_, ?_, decode_eq_ok_iff_encode, decode_eq_error_iff, decodeAt?_eq bytes⟩
  · constructor
    · rintro ⟨e, hencode⟩
      exact (encode_eq_error_iff.mp hencode).1
    · intro hlong
      exact ⟨_, encode_eq_error_iff.mpr ⟨hlong, rfl⟩⟩
  · split
    next hlong =>
      rw [encode_eq_error_iff.mpr ⟨hlong, rfl⟩]
      rfl
    next hfits =>
      have hencode : frame.encode = .ok frame.toBytes :=
        encode_eq_ok_iff.mpr ⟨Nat.le_of_not_lt hfits, rfl⟩
      rw [hencode]
      exact decode_eq_ok_iff_encode.mpr hencode

end PowerLink.Frame
