/-!
# Return codes

A reply carries its status in the place where a request carries its second
identifier. Zero is success, the codes one to six name the standard failures, and
a band of codes is left to the device.
-/

namespace PowerLink

inductive ReturnCode
  | ok
  | versionMismatch
  | checksumError
  | lengthChecksumError
  | invalidId
  | formatError
  | invalidData
  /-- Defined by the device, `0x80` to `0xEF`. -/
  | device (byte : UInt8)
  | unknown (byte : UInt8)
  deriving DecidableEq, Repr

namespace ReturnCode

def ofByte (byte : UInt8) : ReturnCode :=
  if byte = 0x00 then .ok
  else if byte = 0x01 then .versionMismatch
  else if byte = 0x02 then .checksumError
  else if byte = 0x03 then .lengthChecksumError
  else if byte = 0x04 then .invalidId
  else if byte = 0x05 then .formatError
  else if byte = 0x06 then .invalidData
  else if 0x80 ≤ byte ∧ byte ≤ 0xEF then .device byte
  else .unknown byte

def toByte : ReturnCode → UInt8
  | .ok => 0x00
  | .versionMismatch => 0x01
  | .checksumError => 0x02
  | .lengthChecksumError => 0x03
  | .invalidId => 0x04
  | .formatError => 0x05
  | .invalidData => 0x06
  | .device byte => byte
  | .unknown byte => byte

def isOk (code : ReturnCode) : Bool :=
  code = .ok

/-- How a message names the code. -/
def name : ReturnCode → String
  | .ok => "Ok"
  | .versionMismatch => "VersionMismatch"
  | .checksumError => "ChecksumError"
  | .lengthChecksumError => "LengthChecksumError"
  | .invalidId => "InvalidId"
  | .formatError => "FormatError"
  | .invalidData => "InvalidData"
  | .device byte => s!"Device({byte.toNat})"
  | .unknown byte => s!"Unknown({byte.toNat})"

end ReturnCode

end PowerLink
