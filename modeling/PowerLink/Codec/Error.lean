import PowerLink.Codec.DataType
import PowerLink.Frame.Error
import PowerLink.Value

/-!
# Values that do not fit

Every reason why a value, a record or the bytes of a payload do not fit the fields of
a command, with the text of each.
-/

namespace PowerLink

/-- A value that was refused, in the form in which it was given. -/
inductive Given
  | value (v : Value)
  | json (j : Json)

namespace Given

def toText : Given → String
  | .value v => v.toText
  | .json j => j.toText

end Given

/-- Why an item, a list of items or a whole record has the wrong form. -/
inductive ShapeFault
  /-- The field that gives the count holds no unsigned number. -/
  | noCount (count : String)
  | itemCount (expected actual : Nat)
  | arrayForScalar
  | scalarForArray
  | notAnObject
  | notAnArray
  /-- The encoded fields do not fit into a frame. -/
  | frame (e : FrameError)
  deriving DecidableEq, Repr

def ShapeFault.message : ShapeFault → String
  | .noCount count => s!"count field '{count}' has no unsigned value"
  | .itemCount expected actual => s!"expected {expected} items, got {actual}"
  | .arrayForScalar => "expected a scalar, got an array"
  | .scalarForArray => "expected an array, got a scalar"
  | .notAnObject => "expected a JSON object"
  | .notAnArray => "expected a JSON array"
  | .frame e => e.message

inductive CodecError
  | width (type : DataType) (expected actual : Nat)
  | typeMismatch (type : DataType) (given : Given)
  | outOfRange (type : DataType) (given : Given)
  | unknownEnumByte (byte : UInt8)
  | unknownEnumName (name : String)
  | notAscii
  | tooLong (size limit : Nat)
  | invalidDateTime (text : String)
  | invalidVersion (text : String)
  | missingField (key : String)
  | shape (key : String) (fault : ShapeFault)
  | truncated (key : String) (needed remaining : Nat)

def CodecError.message : CodecError → String
  | .width type expected actual =>
    s!"{type.name} expects {expected} bytes, got {actual}"
  | .typeMismatch type given => s!"{type.name} cannot hold {given.toText}"
  | .outOfRange type given => s!"{given.toText} is out of range for {type.name}"
  | .unknownEnumByte byte =>
    "byte " ++ Text.hexByte byte ++ " is not in the enum table"
  | .unknownEnumName name => s!"'{name}' is not in the enum table"
  | .notAscii => "string is not ASCII"
  | .tooLong size limit => s!"string of {size} bytes exceeds field width {limit}"
  | .invalidDateTime text => s!"invalid datetime {text}"
  | .invalidVersion text => s!"invalid version string '{text}'"
  | .missingField key => s!"missing field '{key}'"
  | .shape key fault => s!"field '{key}': {fault.message}"
  | .truncated key needed remaining =>
    s!"field '{key}' needs {needed} bytes, {remaining} left"

end PowerLink
