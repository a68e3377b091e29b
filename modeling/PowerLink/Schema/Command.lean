import PowerLink.Field.Payload
import PowerLink.Schema.Fields

/-!
# Commands

A checked command: its pair of identifiers, and the fields of its request and reply.
A command without value fields is not answered.
-/

namespace PowerLink

structure Command where
  id1 : UInt8
  id2 : UInt8
  key : String
  name : String
  group : Group
  params : List Field
  values : List Field
  deriving DecidableEq, Repr

namespace Command

/-- The pair of identifiers that a request carries. -/
def ids (command : Command) : UInt8 × UInt8 :=
  (command.id1, command.id2)

/-- No reply is awaited for a command without value fields. -/
def isUnidirectional (command : Command) : Bool :=
  command.values.isEmpty

def paramsOfJson (command : Command) (json : Json) : Except CodecError Record :=
  Record.ofJson command.params json

def valuesOfJson (command : Command) (json : Json) : Except CodecError Record :=
  Record.ofJson command.values json

end Command

/-- An identifier as text is hexadecimal, with or without `0x` before it. -/
def idOfText? (text : String) : Option UInt8 :=
  let digits :=
    match text.toList with
    | '0' :: 'x' :: digits => digits
    | '0' :: 'X' :: digits => digits
    | digits => digits
  (Text.numeralUpTo? 16 255 digits).map UInt8.ofNat

def IdEntry.check (command : String) : IdEntry → Except SchemaError UInt8
  | .number n => .ok n
  | .text written =>
    match idOfText? written with
    | some id => .ok id
    | none => .error (.invalidId command written)

def CommandEntry.check (group : Group) (entry : CommandEntry) :
    Except SchemaError Command := do
  let id1 ← entry.id1.check entry.key
  let id2 ← entry.id2.check entry.key
  let params ← layOutFields entry.key entry.params
  let values ← layOutFields entry.key entry.values
  return {
    id1, id2
    key := entry.key
    name := if entry.name.isEmpty then entry.key else entry.name
    group, params, values }

/-- The commands of all sections, in the order of the document's sections. -/
def SchemaDocument.commands (document : SchemaDocument) :
    Except SchemaError (List Command) := do
  let sections ← Group.all.mapM fun group =>
    (document.entries group).mapM (CommandEntry.check group)
  return sections.flatten

end PowerLink
