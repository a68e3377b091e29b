import PowerLink.Field.Basic

/-!
# Payloads

Fields are laid out one after the other. A payload is decoded from left to right, so
that a count is known when its items come, and bytes after the last field are
ignored. A record is encoded in the order of the fields, not of its keys.
-/

namespace PowerLink

namespace Field

/-- The repeat count, read from the values decoded so far; none for a scalar. -/
def count? (field : Field) (record : Record) : Except CodecError (Option Nat) :=
  match field.quantity with
  | .scalar => .ok none
  | .fixed count => .ok (some count)
  | .ref key =>
    match record.get? key with
    | some (.scalar (.uint n)) => .ok (some n.toNat)
    | _ => .error (.shape field.key (.noCount key))

/-- Decodes one item at the start of the bytes. -/
def takeItem (field : Field) (bytes : Bytes) : Except CodecError (Value × Bytes) :=
  if bytes.length < field.width then
    .error (.truncated field.key field.width bytes.length)
  else
    match field.codec.decode (bytes.take field.width) with
    | .ok value => .ok (value, bytes.drop field.width)
    | .error e => .error e

def takeItems (field : Field) : Nat → Bytes → Except CodecError (List Value × Bytes)
  | 0, bytes => .ok ([], bytes)
  | count + 1, bytes => do
    let (value, bytes) ← field.takeItem bytes
    let (values, bytes) ← field.takeItems count bytes
    return (value :: values, bytes)

/-- Decodes a field at the start of the bytes. -/
def take (field : Field) (record : Record) (bytes : Bytes) :
    Except CodecError (FieldValue × Bytes) := do
  match ← field.count? record with
  | none =>
    let (value, bytes) ← field.takeItem bytes
    return (.scalar value, bytes)
  | some count =>
    let (values, bytes) ← field.takeItems count bytes
    return (.array values, bytes)

def encodeItems (field : Field) : List Value → Except CodecError Bytes
  | [] => .ok []
  | value :: rest => do
    let bytes ← field.codec.encode value
    return bytes ++ (← field.encodeItems rest)

/-- Encodes a value of the field. A list has to have the field's count, unless the
record lacks the field that gives it. -/
def put (field : Field) (record : Record) (value : FieldValue) :
    Except CodecError Bytes :=
  match field.quantity, value with
  | .scalar, .scalar item => field.codec.encode item
  | .scalar, .array _ => .error (.shape field.key .arrayForScalar)
  | _, .scalar _ => .error (.shape field.key .scalarForArray)
  | _, .array items =>
    match field.count? record with
    | .ok (some count) =>
      if items.length = count then field.encodeItems items
      else .error (.shape field.key (.itemCount count items.length))
    | _ => field.encodeItems items

end Field

namespace Payload

/-- Decodes fields on top of a record. -/
def decodeOnto (record : Record) : List Field → Bytes → Except CodecError Record
  | [], _ => .ok record
  | field :: fields, bytes => do
    let (value, bytes) ← field.take record bytes
    decodeOnto (record.insert field.key value) fields bytes

def decode (fields : List Field) (info : Bytes) : Except CodecError Record :=
  decodeOnto .empty fields info

/-- What happens to a field that the record lacks. -/
inductive Missing
  | reject
  | omit
  deriving DecidableEq, Repr

def encode (missing : Missing) (record : Record) :
    List Field → Except CodecError Bytes
  | [] => .ok []
  | field :: fields =>
    match record.get? field.key, missing with
    | none, .reject => .error (.missingField field.key)
    | none, .omit => encode missing record fields
    | some value, _ => do
      let bytes ← field.put record value
      return bytes ++ (← encode missing record fields)

end Payload

/-! ## JSON -/

/-- A field's value from JSON: a single value for a scalar, else an array. -/
def Field.ofJson (field : Field) (json : Json) : Except CodecError FieldValue :=
  match field.quantity, json with
  | .scalar, json => (field.codec.ofJson json).map .scalar
  | _, .array items => (items.mapM field.codec.ofJson).map .array
  | _, _ => .error (.shape field.key .notAnArray)

/-- Collects the fields that a JSON object has members for. -/
def Record.collect (json : Json) (record : Record) :
    List Field → Except CodecError Record
  | [] => .ok record
  | field :: fields =>
    match json.member? field.key with
    | some value => do
      collect json (record.insert field.key (← field.ofJson value)) fields
    | none => collect json record fields

/-- A record from a JSON object; other members are ignored, and `null` is empty. -/
def Record.ofJson (fields : List Field) (json : Json) : Except CodecError Record :=
  match json with
  | .object _ => collect json .empty fields
  | .null => .ok .empty
  | _ => .error (.shape "" .notAnObject)

end PowerLink
