import PowerLink.Bytes
import PowerLink.Codec.Error
import PowerLink.Time.Reading

/-!
# Scalar codecs

A codec turns a value into bytes of a fixed width and back. Words are sent high byte
first, strings are padded with NUL, an enumeration sends the byte of a name, a date
and time takes seven bytes and a version two.
-/

namespace PowerLink

/-- The bytes of an enumeration's names. Two names may share a byte, which then reads
as the first of them in key order. -/
abbrev EnumTable := KeyMap UInt8

namespace EnumTable

def byteOf? (table : EnumTable) (name : String) : Option UInt8 :=
  table.get? name

def nameOf? (table : EnumTable) (byte : UInt8) : Option String :=
  (table.entries.find? fun entry => entry.2 = byte).map Prod.fst

end EnumTable

inductive Codec
  | uint8
  | uint16
  | float
  | enum (table : EnumTable)
  | ascii (width : Nat)
  | dateTime
  | version
  deriving DecidableEq, Repr

namespace Codec

def dataType : Codec → DataType
  | .uint8 => .uint8
  | .uint16 => .uint16
  | .float => .float
  | .enum _ => .enum
  | .ascii _ => .string
  | .dateTime => .dateTime
  | .version => .version

/-- Number of bytes on the line. -/
def width : Codec → Nat
  | .ascii width => width
  | codec => codec.dataType.fixedWidth?.getD 0

/-! ## Encoding -/

def encodeAscii (width : Nat) (text : String) : Except CodecError Bytes :=
  let chars := text.toList
  if ¬ chars.all fun c => c.toNat < 128 then .error .notAscii
  else if width < chars.length then .error (.tooLong chars.length width)
  else
    .ok (chars.map (fun c => UInt8.ofNat c.toNat) ++
      List.replicate (width - chars.length) 0)

/-- Years 0 to 65535 fit on the line. -/
def encodeDateTime (t : DateTime) : Except CodecError Bytes :=
  if 0 ≤ t.year ∧ t.year < 65536 then
    .ok (Bytes.ofWord (UInt16.ofNat t.year.toNat) ++
      [t.month, t.day, t.hour, t.minute, t.wireSecond].map UInt8.ofNat)
  else .error (.outOfRange .dateTime (.value (.dateTime t)))

/-- One part of a version, between blanks. -/
def versionPart? (part : List Char) : Option UInt8 :=
  (Text.numeralUpTo? 10 255 (Text.trim part)).map UInt8.ofNat

/-- A version's text is split at its first point. -/
def versionParts? (text : List Char) : Option (UInt8 × UInt8) := do
  let major := text.takeWhile (· ≠ '.')
  match text.dropWhile (· ≠ '.') with
  | [] => none
  | _ :: minor => return (← versionPart? major, ← versionPart? minor)

def encodeVersion (text : String) : Except CodecError Bytes :=
  match versionParts? text.toList with
  | some (major, minor) => .ok [major, minor]
  | none => .error (.invalidVersion text)

def encode (codec : Codec) (value : Value) : Except CodecError Bytes :=
  match codec, value with
  | .uint8, .uint n =>
    if n < 256 then .ok [n.toUInt8]
    else .error (.outOfRange .uint8 (.value value))
  | .uint16, .uint n =>
    if n < 65536 then .ok (Bytes.ofWord n.toUInt16)
    else .error (.outOfRange .uint16 (.value value))
  | .float, .float x => .ok (Bytes.ofDoubleWord x.bits)
  | .float, .uint n => .ok (Bytes.ofDoubleWord (Single.ofNat n.toNat).bits)
  | .enum table, .text name =>
    match table.byteOf? name with
    | some byte => .ok [byte]
    | none => .error (.unknownEnumName name)
  | .ascii width, .text text => encodeAscii width text
  | .dateTime, .dateTime t => encodeDateTime t
  | .version, .text text => encodeVersion text
  | _, _ => .error (.typeMismatch codec.dataType (.value value))

/-! ## Decoding -/

def decodeAscii (bytes : Bytes) : Except CodecError Value :=
  let trimmed := (bytes.reverse.dropWhile (· = 0)).reverse
  if trimmed.all (· < 128) then
    .ok (.text (String.ofList (trimmed.map fun byte => Char.ofNat byte.toNat)))
  else .error .notAscii

/-- No second 60 is accepted from the line. -/
def decodeDateTime (year month day hour minute second : Nat) :
    Except CodecError Value :=
  match DateTime.ofParts? year month day hour minute second with
  | some t =>
    if second < 60 then .ok (.dateTime t) else .error invalid
  | none => .error invalid
where
  invalid : CodecError :=
    .invalidDateTime
      (DateTime.partsText " " (Text.decimal 4 year) month day hour minute second)

def versionText (major minor : UInt8) : String :=
  Text.decimal 1 major.toNat ++ "." ++ Text.decimal 1 minor.toNat

def decode (codec : Codec) (bytes : Bytes) : Except CodecError Value :=
  if bytes.length ≠ codec.width then
    .error (.width codec.dataType codec.width bytes.length)
  else
    match codec, bytes with
    | .uint8, [a] => .ok (.uint a.toUInt32)
    | .uint16, [a, b] => .ok (.uint (Bytes.toWord a b).toUInt32)
    | .float, [a, b, c, d] => .ok (.float ⟨Bytes.toDoubleWord a b c d⟩)
    | .enum table, [a] =>
      match table.nameOf? a with
      | some name => .ok (.text name)
      | none => .error (.unknownEnumByte a)
    | .ascii _, bytes => decodeAscii bytes
    | .dateTime, [year1, year2, month, day, hour, minute, second] =>
      decodeDateTime (Bytes.toWord year1 year2).toNat month.toNat day.toNat
        hour.toNat minute.toNat second.toNat
    | .version, [major, minor] => .ok (.text (versionText major minor))
    | codec, bytes => .error (.width codec.dataType codec.width bytes.length)

/-! ## JSON -/

/-- The value that a JSON value stands for. Whether it fits the width of the field is
checked when it is encoded. -/
def ofJson (codec : Codec) (json : Json) : Except CodecError Value :=
  let mismatch : Except CodecError Value :=
    .error (.typeMismatch codec.dataType (.json json))
  match codec with
  | .uint8 | .uint16 =>
    match json.natural? with
    | some n =>
      if n < UInt32.size then .ok (.uint (UInt32.ofNat n))
      else .error (.outOfRange codec.dataType (.json json))
    | none => mismatch
  | .float =>
    match json.double? with
    | some x => .ok (.float (.ofDouble x))
    | none => mismatch
  | .enum _ | .ascii _ | .version =>
    match json.string? with
    | some s => .ok (.text s)
    | none => mismatch
  | .dateTime =>
    match json.string? with
    | some s =>
      match DateTime.ofText? s with
      | some t => .ok (.dateTime t)
      | none => .error (.invalidDateTime s)
    | none => mismatch

end Codec

end PowerLink
