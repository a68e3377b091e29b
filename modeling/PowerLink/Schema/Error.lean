import PowerLink.Codec.DataType
import PowerLink.Text.Numeral

/-!
# Refused schemas

Every reason why a schema document does not describe a set of commands.
-/

namespace PowerLink

/-- Why a field's type, place or size is refused. -/
inductive FieldFault
  | widthMismatch (type : DataType) (width length : Nat)
  | noTable
  | noLength
  /-- A textual count is not a reference. -/
  | badReference (quantity : String)
  | startMismatch (start expected : Nat)
  | tooLarge
  /-- The field ends past the largest payload. -/
  | endsPast (size : Nat)
  deriving DecidableEq, Repr

def FieldFault.message : FieldFault → String
  | .widthMismatch type width length =>
    s!"{type.name} is {width} bytes wide, length says {length}"
  | .noTable => "enum field without an enum table"
  | .noLength => "string field needs a non-zero length"
  | .badReference quantity =>
    "quantity '" ++ quantity ++ "' is not of the form $\x7bkey\x7d"
  | .startMismatch start expected =>
    s!"start {start} does not follow previous fields (expected {expected})"
  | .tooLarge => "field cannot fit in an info of 4095 bytes"
  | .endsPast size => s!"field ends at byte {size}, past the 4095 byte info"

inductive SchemaError
  | invalidId (command text : String)
  | duplicateId (id1 id2 : UInt8) (first second : String)
  | duplicateKey (command : String)
  | duplicateField (command field : String)
  | invalidField (command field : String) (fault : FieldFault)
  /-- The count does not refer to an earlier unsigned scalar. -/
  | unresolvedQuantity (command field quantity : String)
  deriving DecidableEq, Repr

def SchemaError.message : SchemaError → String
  | .invalidId command text => s!"command '{command}': invalid id '{text}'"
  | .duplicateId id1 id2 first second =>
    "duplicate id pair cid1 = " ++ Text.hexByte id1 ++ ", cid2 = " ++ Text.hexByte id2 ++
      s!" ('{first}' and '{second}')"
  | .duplicateKey command => s!"duplicate command key '{command}'"
  | .duplicateField command field => s!"command '{command}': duplicate field '{field}'"
  | .invalidField command field fault =>
    s!"command '{command}', field '{field}': {fault.message}"
  | .unresolvedQuantity command field quantity =>
    s!"command '{command}', field '{field}': quantity '{quantity}' does not name an earlier count field"

end PowerLink
