import PowerLink.Text.Numeral

/-!
# Refused frames

Every reason why bytes are not taken for a frame, or why a payload does not fit
into one. A reason belongs to one of three classes, which decides the return code
that a device answers with. Some reasons are also logged when they are found.
-/

namespace PowerLink

inductive FrameError
  /-- The payload is too long for the length field. -/
  | oversized (size : Nat)
  | tooShort (size : Nat)
  | badStart (byte : UInt8)
  | badEnd (byte : UInt8)
  | badVersion (byte : UInt8)
  /-- The check nibble of the length field is wrong. -/
  | lengthNibble (received calculated : Nat)
  /-- The length field disagrees with the size of the frame. -/
  | lengthMismatch (declared expected size : Nat)
  | checksum (received calculated : UInt16)
  /-- A frame was expected on the line, and this byte came instead of its start. -/
  | strayStart (byte : UInt8)
  /-- The last byte of a frame read from the line is not an end marker. -/
  | strayEnd (byte : UInt8)
  deriving DecidableEq, Repr

namespace FrameError

inductive Class
  | format
  | lengthChecksum
  | checksum
  deriving DecidableEq, Repr

def classOf : FrameError → Class
  | .lengthNibble .. | .lengthMismatch .. => .lengthChecksum
  | .checksum .. => .checksum
  | _ => .format

def message : FrameError → String
  | .oversized size => s!"Format error: info of {size} bytes exceeds 4095"
  | .tooShort size => s!"Format error: frame too short: {size} bytes"
  | .badStart byte => "Format error: invalid start byte " ++ Text.hexByte byte
  | .badEnd byte => "Format error: invalid end byte " ++ Text.hexByte byte
  | .badVersion byte => "Format error: version mismatch " ++ Text.hexByte byte
  | .lengthNibble received calculated =>
    "Length checksum error: LCHKSUM received " ++ Text.hex 1 received ++
      ", calculated " ++ Text.hex 1 calculated
  | .lengthMismatch declared _ size =>
    s!"Length checksum error: LENID {declared} does not match frame of {size} bytes"
  | .checksum received calculated =>
    "Checksum error: received " ++ Text.hexWord received ++
      ", calculated " ++ Text.hexWord calculated
  | .strayStart byte => "Format error: invalid SOI " ++ Text.hexByte byte
  | .strayEnd byte => "Format error: invalid EOI " ++ Text.hexByte byte

/-- What is logged when a whole frame is refused. -/
def warning? : FrameError → Option String
  | .tooShort size => some s!"Frame too short: {size} bytes"
  | .badStart byte => some ("Invalid start byte: " ++ Text.hex 2 byte.toNat)
  | .badEnd byte => some ("Invalid end byte: " ++ Text.hex 2 byte.toNat)
  | .badVersion byte =>
    some ("Version mismatch: expected 21, got " ++ Text.hex 2 byte.toNat)
  | .lengthMismatch _ expected size =>
    some s!"Frame length mismatch: expected {expected}, got {size}"
  | .checksum received calculated =>
    some ("Checksum mismatch: expected " ++ Text.hex 4 calculated.toNat ++
      ", got " ++ Text.hex 4 received.toNat)
  | _ => none

end FrameError

end PowerLink
