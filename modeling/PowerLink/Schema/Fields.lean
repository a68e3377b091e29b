import PowerLink.Field.Basic
import PowerLink.Frame.Basic
import PowerLink.Schema.Document
import PowerLink.Schema.Error

/-!
# Laying out fields

The fields of a command are checked one after the other and placed behind each other.
The offset of the next field is known as long as every field so far has a fixed size;
after a field whose count is decoded, declared starts are taken as they are.
-/

namespace PowerLink

/-- The key in a reference such as `${n}`, without the blanks around it. -/
def referenceKey? (text : String) : Option String :=
  match text.toList with
  | '$' :: '\x7b' :: rest =>
    if rest.getLast? = some '\x7d' then
      let key := Text.trim rest.dropLast
      if key.isEmpty then none else some (String.ofList key)
    else none
  | _ => none

namespace FieldEntry

def codec (entry : FieldEntry) : Except FieldFault Codec := do
  match entry.dataType.fixedWidth?, entry.length with
  | some width, some length =>
    if width ≠ length then throw (.widthMismatch entry.dataType width length)
  | _, _ => pure ()
  match entry.dataType with
  | .uint8 => return .uint8
  | .uint16 => return .uint16
  | .float => return .float
  | .dateTime => return .dateTime
  | .version => return .version
  | .enum =>
    match entry.table with
    | some table => if table.isEmpty then throw .noTable else return .enum table
    | none => throw .noTable
  | .string =>
    match entry.length with
    | some (width + 1) => return .ascii (width + 1)
    | _ => throw .noLength

end FieldEntry

/-- The fields placed so far, and the offset behind them where it is known. -/
structure Placement where
  fields : List Field
  offset : Option Nat
  deriving DecidableEq, Repr

namespace Placement

def empty : Placement := ⟨[], some 0⟩

/-- Whether a field with this key can give a count. -/
def hasCount (placed : Placement) (key : String) : Bool :=
  placed.fields.any fun field =>
    field.key = key && field.quantity = .scalar && field.dataType.isCount

def quantity (placed : Placement) (command : String) (entry : FieldEntry) :
    Except SchemaError Quantity :=
  match entry.quantity with
  | none => .ok .scalar
  | some (.count n) => .ok (if n = 1 then .scalar else .fixed n)
  | some (.reference text) =>
    match referenceKey? text with
    | none => .error (.invalidField command entry.key (.badReference text))
    | some key =>
      if placed.hasCount key then .ok (.ref key)
      else .error (.unresolvedQuantity command entry.key text)

def start (placed : Placement) (declared : Option Nat) : Except FieldFault Nat :=
  match placed.offset, declared with
  | some expected, some start =>
    if start = expected then .ok expected else .error (.startMismatch start expected)
  | some expected, none => .ok expected
  | none, declared => .ok (declared.getD 0)

end Placement

/-- The size of a field, unless its count is decoded. -/
def Quantity.size? (width : Nat) : Quantity → Option Nat
  | .scalar => some width
  | .fixed count => some (count * width)
  | .ref _ => none

namespace Placement

/-- The offset behind a field of the given size. -/
def advance (placed : Placement) (size? : Option Nat) :
    Except FieldFault (Option Nat) :=
  match size? with
  | none => .ok none
  | some size =>
    if LengthField.maxInfo < size then .error .tooLarge
    else
      match placed.offset with
      | none => .ok none
      | some offset =>
        if LengthField.maxInfo < offset + size then .error (.endsPast (offset + size))
        else .ok (some (offset + size))

/-- Checks a field and places it behind the others. -/
def add (command : String) (placed : Placement) (entry : FieldEntry) :
    Except SchemaError Placement := do
  let faulty : FieldFault → SchemaError := .invalidField command entry.key
  if placed.fields.any fun field => field.key = entry.key then
    throw (.duplicateField command entry.key)
  let codec ← entry.codec.mapError faulty
  let quantity ← placed.quantity command entry
  let start ← (placed.start entry.start).mapError faulty
  let offset ← (placed.advance (quantity.size? codec.width)).mapError faulty
  let field : Field :=
    { key := entry.key
      name := if entry.name.isEmpty then entry.key else entry.name
      start, codec, quantity }
  return ⟨placed.fields ++ [field], offset⟩

end Placement

/-- The fields of a command, in the order of their entries. -/
def layOutFields (command : String) (entries : List FieldEntry) :
    Except SchemaError (List Field) := do
  let placed ← entries.foldlM (Placement.add command) .empty
  return placed.fields

end PowerLink
