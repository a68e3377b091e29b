import PowerLink.Codec.Basic

/-!
# Fields and records

A field of a command has a key, a codec and a repeat count. The count is absent for a
scalar, a fixed number, or the value of an earlier field. A record holds the values of
one request or reply by field key.
-/

namespace PowerLink

inductive Quantity
  | scalar
  | fixed (count : Nat)
  /-- As many items as the value of an earlier field says. -/
  | ref (key : String)
  deriving DecidableEq, Repr

structure Field where
  key : String
  name : String
  /-- Offset in the payload, as far as it is known without decoding. -/
  start : Nat
  codec : Codec
  quantity : Quantity
  deriving DecidableEq, Repr

namespace Field

def dataType (field : Field) : DataType :=
  field.codec.dataType

/-- Width of one item. -/
def width (field : Field) : Nat :=
  field.codec.width

end Field

inductive FieldValue
  | scalar (value : Value)
  | array (items : List Value)
  deriving DecidableEq, Repr

def FieldValue.toJson : FieldValue → String
  | .scalar value => value.toJson
  | .array items => "[" ++ ",".intercalate (items.map Value.toJson) ++ "]"

abbrev Record := KeyMap FieldValue

/-- The record as a JSON object with its keys in order. -/
def Record.toJson (record : Record) : String :=
  let members := record.entries.map fun entry =>
    Json.quote entry.1 ++ ":" ++ entry.2.toJson
  "\x7b" ++ ",".intercalate members ++ "\x7d"

end PowerLink
