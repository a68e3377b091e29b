import PowerLink.Bytes
import PowerLink.Frame.Error

/-!
# Frames

A frame is `SOI VER ADR CID1 CID2 LENGTH INFO CHKSUM EOI`. The checksum is the two's
complement of the sum of all bytes from the address to the end of the payload, so
the version byte is not covered by it.
-/

namespace PowerLink

/-! ## The length field

Two bytes hold a twelve bit payload length and a four bit check on it. The check
adds up the low byte, the high nibble and once more the whole length, and is the
two's complement of that sum modulo sixteen.
-/

namespace LengthField

/-- Largest payload that the field can announce. -/
def maxInfo : Nat := 4095

/-- The check nibble of a twelve bit length. -/
def nibble (length : Nat) : Nat :=
  (16 - (length % 256 + length / 256 % 16 + length) % 16) % 16

/-- Only the low twelve bits of the length are kept. -/
def encode (length : Nat) : Bytes :=
  let kept := length % 4096
  [UInt8.ofNat (nibble kept * 16 + kept / 256), UInt8.ofNat (kept % 256)]

/-- The announced length, provided its check nibble is right. -/
def decode (first second : UInt8) : Except FrameError Nat :=
  let received := first.toNat / 16
  let length := first.toNat % 16 * 256 + second.toNat
  if received = nibble length then .ok length
  else .error (.lengthNibble received (nibble length))

end LengthField

/-! ## Whole frames -/

structure Frame where
  address : UInt8
  id1 : UInt8
  id2 : UInt8
  info : Bytes
  deriving DecidableEq, Repr

namespace Frame

def startMarker : UInt8 := 0x7E
def endMarker : UInt8 := 0x0D
def version : UInt8 := 0x21

/-- Size of a frame without payload. -/
def minSize : Nat := 10

/-- Two's complement of the byte sum modulo 65536. -/
def checksum (bytes : Bytes) : UInt16 :=
  0 - UInt16.ofNat bytes.sum

/-- The bytes that the checksum covers. -/
def payload (frame : Frame) : Bytes :=
  frame.address :: frame.id1 :: frame.id2 ::
    (LengthField.encode frame.info.length ++ frame.info)

/-- The bytes of a frame whose payload fits the length field. -/
def toBytes (frame : Frame) : Bytes :=
  startMarker :: version ::
    (frame.payload ++ Bytes.ofWord (checksum frame.payload) ++ [endMarker])

def encode (frame : Frame) : Except FrameError Bytes :=
  if frame.info.length ≤ LengthField.maxInfo then .ok frame.toBytes
  else .error (.oversized frame.info.length)

/-- Checks, in this order: size, start, end, version, length field, total length
and checksum. -/
def decode (bytes : Bytes) : Except FrameError Frame :=
  match bytes with
  | start :: ver :: address :: id1 :: id2 :: length1 :: length2 :: rest =>
    let info := rest.take (rest.length - 3)
    match rest.drop (rest.length - 3) with
    | [check1, check2, last] =>
      if start ≠ startMarker then .error (.badStart start)
      else if last ≠ endMarker then .error (.badEnd last)
      else if ver ≠ version then .error (.badVersion ver)
      else
        match LengthField.decode length1 length2 with
        | .error e => .error e
        | .ok declared =>
          if info.length ≠ declared then
            .error (.lengthMismatch declared (minSize + declared) bytes.length)
          else
            let received := Bytes.toWord check1 check2
            let calculated :=
              checksum (address :: id1 :: id2 :: length1 :: length2 :: info)
            if received ≠ calculated then .error (.checksum received calculated)
            else .ok ⟨address, id1, id2, info⟩
    | _ => .error (.tooShort bytes.length)
  | _ => .error (.tooShort bytes.length)

end Frame

end PowerLink
