import PowerLink.Proofs.Checksums
import PowerLink.Proofs.StreamFraming

/-!
# Frames in which one bit is inverted

A device takes the length of a payload from the line before it can check the checksum.
The check nibble of the length field adds the low byte of the length twice, once as it is
and once as part of the length, so it notices every inverted bit of the field but the five
high bits of the low byte. With any other bit of a frame inverted nothing is received,
whatever follows the frame. With one of these five the line is read on with another length,
and what then stands on it decides.
-/

namespace PowerLink

/-! ## Inverted bits -/

namespace Bytes

theorem xor_one (n : Nat) : n ^^^ 1 = n + 1 ∨ (n ^^^ 1) + 1 = n := by
  have hhalf : (n ^^^ 1) / 2 = n / 2 := by
    rw [Nat.xor_div_two]
    exact Nat.xor_zero (n / 2)
  have hparity : (n ^^^ 1) % 2 = 1 ↔ ¬ (n % 2 = 1 ↔ 1 % 2 = 1) := Nat.xor_mod_two_eq_one
  omega

/-- To invert a bit is to add or to take away its weight. -/
theorem xor_two_pow (n k : Nat) : n ^^^ 2 ^ k = n + 2 ^ k ∨ (n ^^^ 2 ^ k) + 2 ^ k = n := by
  have hhigh : (n ^^^ 2 ^ k) / 2 ^ k = n / 2 ^ k ^^^ 1 := by
    rw [Nat.xor_div_two_pow, Nat.div_self (Nat.two_pow_pos k)]
  have hlow : (n ^^^ 2 ^ k) % 2 ^ k = n % 2 ^ k := by
    rw [Nat.xor_mod_two_pow, Nat.mod_self, Nat.xor_zero]
  have hold := Nat.div_add_mod n (2 ^ k)
  have hnew := Nat.div_add_mod (n ^^^ 2 ^ k) (2 ^ k)
  rw [hhigh, hlow] at hnew
  rcases xor_one (n / 2 ^ k) with hone | hone
  · left
    rw [hone, Nat.mul_succ] at hnew
    omega
  · right
    rw [← hone, Nat.mul_succ] at hold
    omega

def invert (bit : Fin 8) (byte : UInt8) : UInt8 :=
  byte ^^^ UInt8.ofNat (2 ^ bit.val)

theorem toNat_invert (bit : Fin 8) (byte : UInt8) :
    (invert bit byte).toNat = byte.toNat ^^^ 2 ^ bit.val := by
  have hweight : 2 ^ bit.val < 2 ^ 8 := Nat.pow_lt_pow_right (by decide) bit.isLt
  rw [invert, UInt8.toNat_xor, UInt8.toNat_ofNat', Nat.mod_eq_of_lt hweight]

theorem toNat_invert_cases (bit : Fin 8) (byte : UInt8) :
    (invert bit byte).toNat = byte.toNat + 2 ^ bit.val ∨
      (invert bit byte).toNat + 2 ^ bit.val = byte.toNat := by
  rw [toNat_invert]
  exact xor_two_pow byte.toNat bit.val

theorem invert_ne (bit : Fin 8) (byte : UInt8) : invert bit byte ≠ byte := by
  intro hsame
  have hweight := Nat.two_pow_pos bit.val
  have hcases := toNat_invert_cases bit byte
  rw [hsame] at hcases
  omega

/-- The bytes with one bit of the byte at the position inverted. -/
def invertAt (bytes : Bytes) (position : Nat) (bit : Fin 8) : Bytes :=
  bytes.modify position (invert bit)

@[simp] theorem length_invertAt (bytes : Bytes) (position : Nat) (bit : Fin 8) :
    (bytes.invertAt position bit).length = bytes.length :=
  List.length_modify _ _ _

theorem invertAt_append_left {bytes : Bytes} {position : Nat}
    (hposition : position < bytes.length) (bit : Fin 8) (tail : Bytes) :
    invertAt (bytes ++ tail) position bit = bytes.invertAt position bit ++ tail := by
  induction bytes generalizing position with
  | nil => simp at hposition
  | cons byte bytes ih =>
      cases position with
      | zero => rfl
      | succ position =>
          exact congrArg (byte :: ·) (ih (Nat.lt_of_succ_lt_succ hposition))

theorem invertAt_append_right (bytes : Bytes) (position : Nat) (bit : Fin 8)
    (tail : Bytes) :
    invertAt (bytes ++ tail) (bytes.length + position) bit =
      bytes ++ tail.invertAt position bit := by
  induction bytes with
  | nil => simp
  | cons byte bytes ih =>
      rw [List.length_cons, Nat.add_right_comm]
      exact congrArg (byte :: ·) ih

theorem invertAt_eq_set {bytes : Bytes} {position : Nat} (hposition : position < bytes.length)
    (bit : Fin 8) :
    bytes.invertAt position bit = bytes.set position (invert bit bytes[position]) := by
  rw [invertAt, List.modify_eq_set_getElem?, List.getElem?_eq_getElem hposition]
  rfl

end Bytes

open Bytes

theorem Frame.checksum_invertAt_ne {bytes : Bytes} {position : Nat}
    (hposition : position < bytes.length) (bit : Fin 8) :
    checksum (bytes.invertAt position bit) ≠ checksum bytes := by
  rw [invertAt_eq_set hposition]
  exact checksum_set_ne hposition (invert_ne bit _)

/-! ## Length fields -/

namespace LengthField

/-- A field is read if its four digits add up to a multiple of sixteen, where those of the
second byte are counted as one number, twice. -/
theorem decode_eq_ok_iff_digits {first second : UInt8} {length : Nat} :
    decode first second = .ok length ↔
      (first.toNat / 16 + first.toNat % 16 + 2 * second.toNat) % 16 = 0 ∧
        length = first.toNat % 16 * 256 + second.toNat := by
  have hfirst := first.toNat_lt
  have hsecond := second.toNat_lt
  have hcheck : first.toNat / 16 = nibble (first.toNat % 16 * 256 + second.toNat) ↔
      (first.toNat / 16 + first.toNat % 16 + 2 * second.toNat) % 16 = 0 := by
    have hlow : (first.toNat % 16 * 256 + second.toNat) % 256 = second.toNat := by omega
    have hhigh : (first.toNat % 16 * 256 + second.toNat) / 256 % 16 = first.toNat % 16 := by
      omega
    have hreceived : first.toNat / 16 < 16 := by omega
    unfold nibble
    rw [hlow, hhigh]
    -- the two digits of the first byte are independent of each other here
    generalize first.toNat / 16 = received at hreceived ⊢
    generalize first.toNat % 16 = high
    clear hlow hhigh hfirst hsecond
    omega
  unfold decode
  simp only [hcheck]
  split
  next hsum => simp [hsum, eq_comm]
  next hsum => simp [hsum]

/-- The two digits of a byte do not carry into each other when a bit is inverted. -/
theorem digits_xor (n : Nat) {k : Nat} (hk : k < 8) :
    (n ^^^ 2 ^ k) / 16 + (n ^^^ 2 ^ k) % 16 = n / 16 + n % 16 + 2 ^ (k % 4) ∨
      (n ^^^ 2 ^ k) / 16 + (n ^^^ 2 ^ k) % 16 + 2 ^ (k % 4) = n / 16 + n % 16 := by
  have hhigh : (n ^^^ 2 ^ k) / 16 = n / 16 ^^^ 2 ^ k / 16 := Nat.xor_div_two_pow (n := 4)
  have hlow : (n ^^^ 2 ^ k) % 16 = n % 16 ^^^ 2 ^ k % 16 := Nat.xor_mod_two_pow (n := 4)
  rw [hhigh, hlow]
  -- the bit belongs to one of the digits, and the other one is left as it is
  by_cases hsmall : k < 4
  · have hweight : 2 ^ k < 16 := Nat.pow_lt_pow_right (n := 4) (by decide) hsmall
    have hcases := xor_two_pow (n % 16) k
    rw [Nat.div_eq_of_lt hweight, Nat.mod_eq_of_lt hweight, Nat.mod_eq_of_lt hsmall,
      Nat.xor_zero]
    omega
  · obtain ⟨j, rfl⟩ := Nat.exists_eq_add_of_le (Nat.le_of_not_lt hsmall)
    have hweight : 2 ^ (4 + j) = 16 * 2 ^ j := by rw [Nat.pow_add]
    have hj : (4 + j) % 4 = j := by omega
    have hcases := xor_two_pow (n / 16) j
    rw [hweight, Nat.mul_div_cancel_left _ (by decide), Nat.mul_mod_right, Nat.xor_zero, hj]
    omega

variable {first second : UInt8} {length : Nat} {bit : Fin 8}

theorem decode_invert_first (hread : decode first second = .ok length) (bit : Fin 8)
    (other : Nat) : decode (invert bit first) second ≠ .ok other := by
  intro hother
  have hbefore := (decode_eq_ok_iff_digits.mp hread).1
  have hafter := (decode_eq_ok_iff_digits.mp hother).1
  have hpos := Nat.two_pow_pos (bit.val % 4)
  have hweight : 2 ^ (bit.val % 4) < 2 ^ 4 :=
    Nat.pow_lt_pow_right (by decide) (Nat.mod_lt _ (by decide))
  rw [toNat_invert] at hafter
  rcases digits_xor first.toNat bit.isLt with hdigits | hdigits
  · omega
  · omega

theorem decode_invert_second_low (hread : decode first second = .ok length)
    (hbit : bit.val < 3) (other : Nat) : decode first (invert bit second) ≠ .ok other := by
  intro hother
  have hbefore := (decode_eq_ok_iff_digits.mp hread).1
  have hafter := (decode_eq_ok_iff_digits.mp hother).1
  have hpos := Nat.two_pow_pos bit.val
  have hweight : 2 ^ bit.val < 2 ^ 3 := Nat.pow_lt_pow_right (by decide) hbit
  rcases toNat_invert_cases bit second with hsecond | hsecond
  · omega
  · omega

/-- The check nibble says nothing about the five high bits of the second byte. -/
theorem decode_invert_second_high (hread : decode first second = .ok length)
    (hbit : 3 ≤ bit.val) :
    decode first (invert bit second) = .ok (length ^^^ 2 ^ bit.val) := by
  obtain ⟨hsum, rfl⟩ := decode_eq_ok_iff_digits.mp hread
  have hsecond := second.toNat_lt
  have hweight : 2 ^ bit.val < 2 ^ 8 := Nat.pow_lt_pow_right (by decide) bit.isLt
  apply decode_eq_ok_iff_digits.mpr
  constructor
  · have heighth : 2 ^ 3 ∣ 2 ^ bit.val := Nat.pow_dvd_pow 2 hbit
    rcases toNat_invert_cases bit second with hinverted | hinverted
    · omega
    · omega
  · have hhigh : ((first.toNat % 16 * 256 + second.toNat) ^^^ 2 ^ bit.val) / 2 ^ 8 =
        first.toNat % 16 := by
      rw [Nat.xor_div_two_pow, Nat.div_eq_of_lt hweight, Nat.xor_zero]
      omega
    have hkept : (first.toNat % 16 * 256 + second.toNat) % 2 ^ 8 = second.toNat := by
      omega
    have hlow : ((first.toNat % 16 * 256 + second.toNat) ^^^ 2 ^ bit.val) % 2 ^ 8 =
        (invert bit second).toNat := by
      rw [Nat.xor_mod_two_pow, Nat.mod_eq_of_lt hweight, hkept, toNat_invert]
    omega

end LengthField

/-! ## Frames that are not received -/

namespace Opening

theorem eq_of_toBytes_append {first second : Opening} {tail rest : Bytes}
    (hbytes : first.toBytes ++ tail = second.toBytes ++ rest) : first = second := by
  cases first
  cases second
  simp_all [toBytes]

/-- The bytes of the opening that the checksum covers. -/
def covered (opening : Opening) : Bytes :=
  [opening.address, opening.id1, opening.id2, opening.length1, opening.length2]

theorem payload_packet (opening : Opening) {info : Bytes} (check1 check2 : UInt8)
    (hlength : opening.announced = .ok info.length) :
    (opening.packet info check1 check2 hlength).payload = opening.covered ++ info := by
  have hencode : LengthField.encode info.length = [opening.length1, opening.length2] :=
    (LengthField.decode_eq_ok_iff.mp hlength).2
  simp [packet, Packet.payload, covered, hencode]

/-- The opening is the one of the frame. -/
structure Opens (opening : Opening) (frame : Frame) : Prop where
  ver : opening.ver = Frame.version
  address : opening.address = frame.address
  id1 : opening.id1 = frame.id1
  id2 : opening.id2 = frame.id2
  length : opening.announced = .ok frame.info.length

theorem exists_opens {frame : Frame} (hfits : frame.info.length ≤ LengthField.maxInfo) :
    ∃ opening : Opening, opening.Opens frame := by
  obtain ⟨length1, length2, hlength⟩ := Frame.exists_length_eq frame
  have hread : LengthField.decode length1 length2 = .ok frame.info.length :=
    LengthField.decode_eq_ok_iff.mpr ⟨hfits, hlength⟩
  exact ⟨⟨Frame.version, frame.address, frame.id1, frame.id2, length1, length2⟩,
    rfl, rfl, rfl, rfl, hread⟩

theorem Opens.exists_toBytes_eq {opening : Opening} {frame : Frame}
    (hopens : opening.Opens frame) :
    ∃ check1 check2, toWord check1 check2 = Frame.checksum (opening.covered ++ frame.info) ∧
      frame.toBytes =
        opening.toBytes ++ (frame.info ++ [check1, check2, Frame.endMarker]) := by
  obtain ⟨ver, address, id1, id2, length1, length2⟩ := opening
  obtain ⟨rfl, rfl, rfl, rfl, hlength⟩ := hopens
  have hencode : LengthField.encode frame.info.length = [length1, length2] :=
    (LengthField.decode_eq_ok_iff.mp hlength).2
  have hpayload : frame.payload =
      [frame.address, frame.id1, frame.id2, length1, length2] ++ frame.info := by
    simp [Frame.payload, hencode]
  refine ⟨_, _, ?_, frame.toBytes_eq_spread hencode⟩
  rw [covered, ← hpayload]
  exact toWord_ofWord _

end Opening

namespace Inbound

variable {registry : Registry} {info : Bytes}

theorem exists_failsOn_of_length (opening : Opening)
    (hlength : ∀ size, opening.announced ≠ .ok size) (rest : Bytes) :
    ∃ e consumed, FailsOn registry (opening.toBytes ++ rest) e consumed := by
  cases hannounced : opening.announced with
  | ok size => exact absurd hannounced (hlength size)
  | error e =>
      obtain ⟨received, calculated, rfl⟩ := LengthField.decode_eq_error hannounced
      exact ⟨_, _, .lengthNibble rfl hannounced⟩

theorem exists_failsOn_of_version (opening : Opening) (check1 check2 : UInt8)
    (hver : opening.ver ≠ Frame.version) (hlength : opening.announced = .ok info.length)
    (rest : Bytes) :
    ∃ e consumed, FailsOn registry
      (opening.toBytes ++ (info ++ [check1, check2, Frame.endMarker]) ++ rest) e consumed := by
  rw [← opening.toBytes_packet check1 check2 hlength]
  exact ⟨_, _, .badVersion rfl hver⟩

theorem exists_failsOn_of_checksum (opening : Opening) (check1 check2 : UInt8)
    (hver : opening.ver = Frame.version)
    (hlength : opening.announced = .ok info.length)
    (hcheck : toWord check1 check2 ≠ Frame.checksum (opening.covered ++ info))
    (rest : Bytes) :
    ∃ e consumed, FailsOn registry
      (opening.toBytes ++ (info ++ [check1, check2, Frame.endMarker]) ++ rest) e consumed := by
  rw [← opening.payload_packet check1 check2 hlength] at hcheck
  rw [← opening.toBytes_packet check1 check2 hlength]
  exact ⟨_, _, .checksum rfl hver hcheck⟩

section

variable {opening : Opening} {check1 check2 : UInt8} {position : Nat} {bit : Fin 8}
  (hver : opening.ver = Frame.version)
  (hlength : opening.announced = .ok info.length)
  (hcheck : toWord check1 check2 = Frame.checksum (opening.covered ++ info))

include hver hlength hcheck

theorem exists_failsOn_invert_opening (hposition : position < 7)
    (hnoticed : ¬ (position = 6 ∧ 3 ≤ bit.val)) (rest : Bytes) :
    ∃ e consumed, FailsOn registry
      (opening.toBytes.invertAt position bit ++
        (info ++ [check1, check2, Frame.endMarker]) ++ rest) e consumed := by
  have hunsound (other : Opening) (hsame : other.ver = opening.ver)
      (hannounced : other.announced = opening.announced) {place : Nat}
      (hplace : place < 5) (hcovered : other.covered = opening.covered.invertAt place bit) :
      ∃ e consumed, FailsOn registry
        (other.toBytes ++ (info ++ [check1, check2, Frame.endMarker]) ++ rest) e
        consumed := by
    have hinverted : other.covered ++ info = invertAt (opening.covered ++ info) place bit := by
      rw [hcovered, invertAt_append_left hplace]
    have hinside : place < (opening.covered ++ info).length := by
      simp only [List.length_append, Opening.covered, List.length_cons, List.length_nil]
      omega
    apply exists_failsOn_of_checksum other check1 check2 (hsame.trans hver)
      (hannounced.trans hlength)
    rw [hcheck, hinverted]
    exact (Frame.checksum_invertAt_ne hinside bit).symm
  match position with
  | 0 => exact ⟨_, _, .strayStart rfl (invert_ne bit _)⟩
  | 1 =>
      have hbad : invert bit opening.ver ≠ Frame.version := by
        rw [hver]
        exact invert_ne bit _
      exact exists_failsOn_of_version { opening with ver := invert bit opening.ver } check1
        check2 hbad hlength rest
  | 2 =>
      exact hunsound { opening with address := invert bit opening.address } rfl rfl
        (by decide : 0 < 5) rfl
  | 3 =>
      exact hunsound { opening with id1 := invert bit opening.id1 } rfl rfl
        (by decide : 1 < 5) rfl
  | 4 =>
      exact hunsound { opening with id2 := invert bit opening.id2 } rfl rfl
        (by decide : 2 < 5) rfl
  | 5 =>
      rw [List.append_assoc]
      exact exists_failsOn_of_length
        { opening with length1 := invert bit opening.length1 }
        (LengthField.decode_invert_first hlength bit) _
  | 6 =>
      have hlow : bit.val < 3 := by omega
      rw [List.append_assoc]
      exact exists_failsOn_of_length
        { opening with length2 := invert bit opening.length2 }
        (LengthField.decode_invert_second_low hlength hlow) _

theorem exists_failsOn_invert_info (hposition : position < info.length) (bit : Fin 8)
    (rest : Bytes) :
    ∃ e consumed, FailsOn registry
      (opening.toBytes ++ (info.invertAt position bit ++
        [check1, check2, Frame.endMarker]) ++ rest) e consumed := by
  have hinverted : opening.covered ++ info.invertAt position bit =
      invertAt (opening.covered ++ info) (5 + position) bit :=
    (invertAt_append_right opening.covered position bit info).symm
  have hinside : 5 + position < (opening.covered ++ info).length := by
    simp only [List.length_append, Opening.covered, List.length_cons, List.length_nil]
    omega
  have hannounced : opening.announced = .ok (info.invertAt position bit).length := by
    rw [length_invertAt, hlength]
  apply exists_failsOn_of_checksum opening check1 check2 hver hannounced
  rw [hcheck, hinverted]
  exact (Frame.checksum_invertAt_ne hinside bit).symm

theorem exists_failsOn_invert_trailer (hposition : position < 3) (bit : Fin 8)
    (rest : Bytes) :
    ∃ e consumed, FailsOn registry
      (opening.toBytes ++ (info ++
        invertAt [check1, check2, Frame.endMarker] position bit) ++ rest) e consumed := by
  match position with
  | 0 =>
      apply exists_failsOn_of_checksum opening (invert bit check1) check2 hver hlength
      rw [← hcheck]
      intro hsame
      exact invert_ne bit check1 (toWord_inj hsame).1
  | 1 =>
      apply exists_failsOn_of_checksum opening check1 (invert bit check2) hver hlength
      rw [← hcheck]
      intro hsame
      exact invert_ne bit check2 (toWord_inj hsame).2
  | 2 =>
      have hlast : invert bit Frame.endMarker ≠ Frame.endMarker := invert_ne bit _
      have hbytes : opening.toBytes ++ (info ++
          invertAt [check1, check2, Frame.endMarker] 2 bit) ++ rest =
            opening.toBytes ++ (info ++ ([check1, check2, invert bit Frame.endMarker] ++
              rest)) := by
        simp [invertAt]
      exact ⟨_, _, .strayEnd hbytes hlength hlast⟩

end

/-- Every inverted bit of a frame is noticed, but for five bits of the length. -/
theorem exists_failsOn_invert (registry : Registry) {frame : Frame}
    (hfits : frame.info.length ≤ LengthField.maxInfo) {position : Nat}
    (hposition : position < frame.toBytes.length) {bit : Fin 8}
    (hnoticed : ¬ (position = 6 ∧ 3 ≤ bit.val)) (rest : Bytes) :
    ∃ e consumed,
      FailsOn registry (frame.toBytes.invertAt position bit ++ rest) e consumed := by
  obtain ⟨opening, hopens⟩ := Opening.exists_opens hfits
  obtain ⟨check1, check2, hcheck, hbytes⟩ := hopens.exists_toBytes_eq
  rw [hbytes] at hposition ⊢
  simp only [List.length_append, opening.length_toBytes, List.length_cons,
    List.length_nil] at hposition
  by_cases hopening : position < 7
  · rw [invertAt_append_left hopening]
    exact exists_failsOn_invert_opening hopens.ver hopens.length hcheck hopening hnoticed rest
  · obtain ⟨place, rfl⟩ := Nat.exists_eq_add_of_le (Nat.le_of_not_lt hopening)
    have hbehind := invertAt_append_right opening.toBytes place bit
      (frame.info ++ [check1, check2, Frame.endMarker])
    rw [opening.length_toBytes] at hbehind
    rw [hbehind]
    by_cases hinfo : place < frame.info.length
    · rw [invertAt_append_left hinfo]
      exact exists_failsOn_invert_info hopens.ver hopens.length hcheck hinfo bit rest
    · obtain ⟨last, rfl⟩ := Nat.exists_eq_add_of_le (Nat.le_of_not_lt hinfo)
      have hlast : last < 3 := by omega
      rw [invertAt_append_right]
      exact exists_failsOn_invert_trailer hopens.ver hopens.length hcheck hlast bit rest

end Inbound

/-! ## Lines with an inverted bit -/

namespace Endpoint

/-- A frame in which a bit is inverted is not received, unless the bit is one of the five
high ones of the low length byte. The line is then read as if the frame had the length
with this bit inverted: what is received is what an intact frame of this other length
asks for, under the same identifiers, and nothing is received if there is no such frame. -/
theorem receiveFrom_inverted (endpoint : Endpoint) {frame : Frame} {bytes : Bytes}
    (hframe : frame.encode = .ok bytes) {position : Nat} (hposition : position < bytes.length)
    (bit : Fin 8) (rest : Bytes) (drained : Bool) :
    (¬ (position = 6 ∧ 3 ≤ bit.val) →
      ∃ e, (endpoint.receiveFrom (bytes.invertAt position bit ++ rest) drained).1 =
        .error e) ∧
    (position = 6 ∧ 3 ≤ bit.val → ∀ command record,
      (endpoint.receiveFrom (bytes.invertAt position bit ++ rest) drained).1 =
          .ok (command, record) ↔
        ∃ info left, info.length = frame.info.length ^^^ 2 ^ bit.val ∧
          bytes.invertAt position bit ++ rest =
            Frame.toBytes ⟨frame.address, frame.id1, frame.id2, info⟩ ++ left ∧
          command ∈ endpoint.registry.commands ∧
          command.ids = (frame.id1, frame.id2) ∧
          Payload.decode command.params info = .ok record) := by
  obtain ⟨hfits, rfl⟩ := Frame.encode_eq_ok_iff.mp hframe
  constructor
  · intro hnoticed
    obtain ⟨e, consumed, hfails⟩ :=
      Inbound.exists_failsOn_invert endpoint.registry hfits hposition hnoticed rest
    exact ⟨e, receiveFrom_eq_error_iff.mpr ⟨consumed, hfails⟩⟩
  · rintro ⟨rfl, hbit⟩ command record
    obtain ⟨opening, hopens⟩ := Opening.exists_opens hfits
    have hlength := LengthField.decode_invert_second_high hopens.length hbit
    rw [receiveFrom_eq_ok_iff]
    constructor
    · rintro ⟨info, left, hrequests⟩
      obtain ⟨address, encoded, hencode, hbytes⟩ := hrequests.framed
      obtain ⟨hinfo, rfl⟩ := Frame.encode_eq_ok_iff.mp hencode
      obtain ⟨other, hother⟩ := Opening.exists_opens hinfo
      have hsame : { opening with length2 := invert bit opening.length2 } = other := by
        obtain ⟨_, _, _, hold⟩ := hopens.exists_toBytes_eq
        obtain ⟨_, _, _, hnew⟩ := hother.exists_toBytes_eq
        have hinverted : invertAt frame.toBytes 6 bit =
            Opening.toBytes { opening with length2 := invert bit opening.length2 } ++ _ :=
          congrArg (invertAt · 6 bit) hold
        rw [hinverted, hnew, List.append_assoc, List.append_assoc] at hbytes
        exact Opening.eq_of_toBytes_append hbytes
      subst hsame
      obtain rfl : address = frame.address := hother.address.symm.trans hopens.address
      have hid1 : command.id1 = frame.id1 := hother.id1.symm.trans hopens.id1
      have hid2 : command.id2 = frame.id2 := hother.id2.symm.trans hopens.id2
      have hsize : info.length = frame.info.length ^^^ 2 ^ bit.val :=
        Except.ok.inj (hother.length.symm.trans hlength)
      rw [hid1, hid2] at hbytes
      exact ⟨info, left, hsize, hbytes, hrequests.known, Prod.ext hid1 hid2, hrequests.fits⟩
    · rintro ⟨info, left, hinfo, hbytes, hknown, hids, hdecode⟩
      obtain ⟨hid1, hid2⟩ := Prod.mk.inj hids
      have hfits' : info.length ≤ LengthField.maxInfo := by
        rw [hinfo]
        exact (LengthField.decode_eq_ok_iff.mp hlength).1
      refine ⟨info, left, hknown, ?_, hdecode⟩
      rw [hbytes, hid1, hid2]
      exact ⟨_, _, Frame.encode_eq_ok_iff.mpr ⟨hfits', rfl⟩, rfl⟩

/-- A request of nine payload bytes, the first of which begin like the end of a request
with one payload byte. -/
def nestedFrame : Frame :=
  ⟨1, 0x40, 0x81, [0x00, 0xFE, 0x5D, 0x0D, 0, 0, 0, 0, 0]⟩

theorem requests_nested : Inbound.Requests .meter (nestedFrame.toBytes.invertAt 6 3)
    Registry.meterCommand Registry.noReadings [0] (nestedFrame.toBytes.drop 11) where
  known := by simp [Registry.meter]
  framed := ⟨1, Frame.toBytes ⟨1, 0x40, 0x81, [0]⟩, rfl, by decide +kernel⟩
  fits := rfl

theorem receiveFrom_inverted_nested :
    nestedFrame.encode = .ok nestedFrame.toBytes ∧
      (∃ e, (receiveFrom ⟨.meter, 0⟩ (nestedFrame.toBytes.invertAt 6 2 ++ []) false).1 =
        .error e) ∧
      (receiveFrom ⟨.meter, 0⟩ (nestedFrame.toBytes.invertAt 6 3 ++ []) false).1 =
        .ok (Registry.meterCommand, Registry.noReadings) := by
  have hencode : nestedFrame.encode = .ok nestedFrame.toBytes := rfl
  have hposition : 6 < nestedFrame.toBytes.length := by decide
  obtain ⟨hnoticed, _⟩ := receiveFrom_inverted ⟨.meter, 0⟩ hencode hposition 2 [] false
  obtain ⟨_, hreceived⟩ := receiveFrom_inverted ⟨.meter, 0⟩ hencode hposition 3 [] false
  have hshort := hreceived (by decide) Registry.meterCommand Registry.noReadings
  refine ⟨hencode, hnoticed (by decide), hshort.mpr ?_⟩
  exact ⟨[0], nestedFrame.toBytes.drop 11, by decide, by decide +kernel,
    requests_nested.known, rfl, rfl⟩

/-- A frame can be received although one of its bits is inverted. -/
theorem receives_inverted_bit :
    ¬ ∀ (registry : Registry) (address : UInt8) (frame : Frame) (bytes : Bytes),
      frame.encode = .ok bytes →
        ∀ position < bytes.length, ∀ (bit : Fin 8) (rest : Bytes) (drained : Bool)
          (request : Command × Record),
          (receiveFrom ⟨registry, address⟩ (bytes.invertAt position bit ++ rest)
            drained).1 ≠ .ok request := by
  intro hnever
  apply hnever .meter 0 nestedFrame nestedFrame.toBytes rfl 6 (by decide) 3 [] false
    (Registry.meterCommand, Registry.noReadings)
  rw [List.append_nil, receiveFrom_of_requests requests_nested]

end Endpoint

end PowerLink
