import PowerLink.Codec.DataType
import PowerLink.Json.Decoder

/-!
# Schema documents

A schema document lists commands in four groups. This is the document as it is
written: identifiers may be numbers or texts, counts may be numbers or references, and
nothing has been checked beyond its form.
-/

namespace PowerLink

/-- The sections of a schema document, in their order. -/
inductive Group
  | attributes
  | timeseries
  | alarms
  | serverSideRpc
  deriving DecidableEq, Repr

namespace Group

def name : Group → String
  | .attributes => "attributes"
  | .timeseries => "timeseries"
  | .alarms => "alarms"
  | .serverSideRpc => "serverSideRpc"

def all : List Group :=
  [.attributes, .timeseries, .alarms, .serverSideRpc]

end Group

inductive IdEntry
  | number (n : UInt8)
  | text (s : String)
  deriving DecidableEq, Repr

inductive QuantityEntry
  | count (n : Nat)
  | reference (s : String)
  deriving DecidableEq, Repr

structure FieldEntry where
  key : String
  name : String
  dataType : DataType
  start : Option Nat
  length : Option Nat
  table : Option (KeyMap UInt8)
  quantity : Option QuantityEntry
  deriving DecidableEq, Repr

structure CommandEntry where
  id1 : IdEntry
  id2 : IdEntry
  key : String
  name : String
  params : List FieldEntry
  values : List FieldEntry
  deriving DecidableEq, Repr

structure SchemaDocument where
  attributes : List CommandEntry
  timeseries : List CommandEntry
  alarms : List CommandEntry
  serverSideRpc : List CommandEntry
  deriving DecidableEq, Repr

def SchemaDocument.empty : SchemaDocument := ⟨[], [], [], []⟩

/-- The commands of one section. -/
def SchemaDocument.entries (document : SchemaDocument) : Group → List CommandEntry
  | .attributes => document.attributes
  | .timeseries => document.timeseries
  | .alarms => document.alarms
  | .serverSideRpc => document.serverSideRpc

/-! ## Reading -/

open Json (Decoder)
open Json.Decoder

/-- Sizes and counts are at most 64 bits wide. -/
def sizeDecoder : Decoder Nat :=
  natBelow UInt64.size

def IdEntry.ofJson? : Json → Option IdEntry
  | .number (.natural n) => if n < 256 then some (.number (UInt8.ofNat n)) else none
  | .string s => some (.text s)
  | _ => none

def QuantityEntry.ofJson? : Json → Option QuantityEntry
  | .number (.natural n) => some (.count n)
  | .string s => some (.reference s)
  | _ => none

/-- A field entry of which members may still be missing. -/
structure FieldDraft where
  key : Option String := none
  name : String := ""
  dataType : Option DataType := none
  start : Option Nat := none
  length : Option Nat := none
  table : Option (KeyMap UInt8) := none
  quantity : Option QuantityEntry := none

def FieldDraft.finish? (draft : FieldDraft) : Option FieldEntry := do
  let key ← draft.key
  let dataType ← draft.dataType
  return {
    key, dataType
    name := draft.name
    start := draft.start
    length := draft.length
    table := draft.table
    quantity := draft.quantity }

def FieldEntry.slots : List (Slot FieldDraft) :=
  [slot "key" string fun draft key => { draft with key := some key },
    slot "name" string fun draft name => { draft with name },
    slot "dataType" (word DataType.named) fun draft dataType =>
      { draft with dataType := some dataType },
    slot "start" (option sizeDecoder) fun draft start => { draft with start },
    slot "length" (option sizeDecoder) fun draft length => { draft with length },
    slot "enum" (option (map byte)) fun draft table => { draft with table },
    slot "quantity" (option (oneOf QuantityEntry.ofJson?)) fun draft quantity =>
      { draft with quantity }]

def FieldEntry.decoder : Decoder FieldEntry :=
  record slots {} FieldDraft.finish?

structure CommandDraft where
  id1 : Option IdEntry := none
  id2 : Option IdEntry := none
  key : Option String := none
  name : String := ""
  params : List FieldEntry := []
  values : List FieldEntry := []

def CommandDraft.finish? (draft : CommandDraft) : Option CommandEntry := do
  let id1 ← draft.id1
  let id2 ← draft.id2
  let key ← draft.key
  return { id1, id2, key, name := draft.name, params := draft.params,
           values := draft.values }

def CommandEntry.slots : List (Slot CommandDraft) :=
  [slot "cid1" (oneOf IdEntry.ofJson?) fun draft id1 => { draft with id1 := some id1 },
    slot "cid2" (oneOf IdEntry.ofJson?) fun draft id2 => { draft with id2 := some id2 },
    slot "key" string fun draft key => { draft with key := some key },
    slot "name" string fun draft name => { draft with name },
    slot "params" (list FieldEntry.decoder) fun draft params => { draft with params },
    slot "values" (list FieldEntry.decoder) fun draft values => { draft with values }]

def CommandEntry.decoder : Decoder CommandEntry :=
  record slots {} CommandDraft.finish?

def SchemaDocument.slots : List (Slot SchemaDocument) :=
  [slot "attributes" (list CommandEntry.decoder) fun document attributes =>
      { document with attributes },
    slot "timeseries" (list CommandEntry.decoder) fun document timeseries =>
      { document with timeseries },
    slot "alarms" (list CommandEntry.decoder) fun document alarms =>
      { document with alarms },
    slot "serverSideRpc" (list CommandEntry.decoder) fun document serverSideRpc =>
      { document with serverSideRpc }]

def SchemaDocument.decoder : Decoder SchemaDocument :=
  record slots .empty some

def SchemaDocument.ofText (text : String) : Except Json.Flaw SchemaDocument :=
  Json.decode decoder text

end PowerLink
