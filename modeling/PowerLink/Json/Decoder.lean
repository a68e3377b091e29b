import PowerLink.Json.Outline

/-!
# Decoders

A decoder takes from an outline what it is asked for, in the order of the text, and
stops at the first flaw. Wanted containers may be nested 127 deep; `room` counts the
levels that are left. A record is an object with known member names, each at most
once, or an array of its fields in order; members with other names are passed over.
-/

namespace PowerLink.Json

/-- Levels of nesting for a value at the top of a text. -/
def fullRoom : Nat := 128

abbrev Decoder (α : Type) := Nat → Outline → Except Flaw α

/-- The room inside a container. -/
def enter (room : Nat) : Except Flaw Nat :=
  if room ≤ 1 then .error .malformed else .ok (room - 1)

def Ending.check : Ending → Except Flaw Unit
  | .closed => .ok ()
  | .cut flaw | .afterComma flaw => .error flaw

/-- The end of a container of which nothing more is wanted. -/
def Ending.checkLast : Ending → Except Flaw Unit
  | .closed => .ok ()
  | .cut flaw => .error flaw
  | .afterComma _ => .error .malformed

/-! ## Values of any form -/

mutual

def Outline.keep (room : Nat) : Outline → Except Flaw Json
  | .null => .ok .null
  | .bool b => .ok (.bool b)
  | .number n => n.map .number
  | .string s => s.map .string
  | .array items => do
    let room ← enter room
    return .array (← items.keep room)
  | .object members => do
    let room ← enter room
    return .ofMembers (← members.keep room)
  | .broken gap => .error gap.wanted

def Items.keep (room : Nat) : Items → Except Flaw (List Json)
  | .done ending => do
    ending.check
    return []
  | .item value rest => do
    let value ← value.keep room
    return value :: (← rest.keep room)

/-- The members in the order of the text. -/
def Members.keep (room : Nat) : Members → Except Flaw (List (String × Json))
  | .done ending => do
    ending.check
    return []
  | .member key value rest => do
    let key ← key
    let value ← value.keep room
    return (key, value) :: (← rest.keep room)

end

mutual

/-- Passes over a value. -/
def Outline.pass : Outline → Except Flaw Unit
  | .array items => items.pass
  | .object members => members.pass
  | .broken gap => .error gap.passed
  | _ => .ok ()

def Items.pass : Items → Except Flaw Unit
  | .done ending => ending.check
  | .item value rest => do
    value.pass
    rest.pass

def Members.pass : Members → Except Flaw Unit
  | .done ending => ending.check
  | .member _ value rest => do
    value.pass
    rest.pass

end

/-! ## Values of one form -/

/-- The flaw of a value of another form than the wanted one. A number or string is
read before it is refused. -/
def Outline.misfit : Outline → Flaw
  | .number (.error flaw) => flaw
  | .string (.error flaw) => flaw
  | .broken gap => gap.wanted
  | _ => .mismatch

namespace Decoder

def json : Decoder Json := fun room outline => outline.keep room

def string : Decoder String := fun _ outline =>
  match outline with
  | .string s => s
  | other => .error other.misfit

/-- A natural number below the bound, written as a whole number. -/
def natBelow (bound : Nat) : Decoder Nat := fun _ outline =>
  match outline with
  | .number (.ok (.natural n)) => if n < bound then .ok n else .error .mismatch
  | other => .error other.misfit

def byte : Decoder UInt8 := fun room outline =>
  (natBelow 256 room outline).map UInt8.ofNat

/-- `null` stands for nothing. -/
def option {α : Type} (decoder : Decoder α) : Decoder (Option α) := fun room outline =>
  match outline with
  | .null => .ok none
  | other => (decoder room other).map some

/-- A value that is read in any form and then tried for the wanted ones. -/
def oneOf {α : Type} (accept : Json → Option α) : Decoder α := fun room outline => do
  match accept (← outline.keep room) with
  | some value => return value
  | none => .error .mismatch

def items {α : Type} (decoder : Decoder α) (room : Nat) : Items → Except Flaw (List α)
  | .done ending => do
    ending.check
    return []
  | .item value rest => do
    let value ← decoder room value
    return value :: (← items decoder room rest)

def list {α : Type} (decoder : Decoder α) : Decoder (List α) := fun room outline =>
  match outline with
  | .array values => do items decoder (← enter room) values
  | other => .error other.misfit

def members {α : Type} (decoder : Decoder α) (room : Nat) :
    Members → Except Flaw (List (String × α))
  | .done ending => do
    ending.check
    return []
  | .member key value rest => do
    let key ← key
    let value ← decoder room value
    return (key, value) :: (← members decoder room rest)

/-- An object with any keys, where a later member wins. -/
def map {α : Type} (decoder : Decoder α) : Decoder (KeyMap α) := fun room outline =>
  match outline with
  | .object values => do
    return .ofList (← members decoder (← enter room) values)
  | other => .error other.misfit

/-- One of several words, given as a string or as `{"word": null}`. -/
def word {α : Type} (words : List (String × α)) : Decoder α := fun room outline =>
  let find (s : String) : Except Flaw α :=
    match words.lookup s with
    | some value => .ok value
    | none => .error .mismatch
  match outline with
  | .string s => s.bind find
  | .object members => do
    let _ ← enter room
    match members with
    | .done .closed => .error .malformed
    | .done (.cut flaw) | .done (.afterComma flaw) => .error flaw
    | .member key value rest =>
      let found ← key.bind find
      match value with
      | .null => .ok ()
      | other => .error other.misfit
      match rest with
      | .done ending => ending.checkLast
      | .member .. => .error .malformed
      return found
  | .broken gap => .error gap.word
  | _ => .error .malformed

/-! ## Records -/

/-- A field of a record under construction. -/
structure Slot (σ : Type) where
  name : String
  fill : σ → Nat → Outline → Except Flaw σ

/-- A slot that stores what its decoder returns. -/
def slot {σ α : Type} (name : String) (decoder : Decoder α) (store : σ → α → σ) :
    Slot σ :=
  ⟨name, fun draft room outline => (decoder room outline).map (store draft)⟩

/-- Fills slots by name. A known name may come only once. -/
def fillByName {σ : Type} (slots : List (Slot σ)) (room : Nat) (draft : σ)
    (seen : List String) : Members → Except Flaw σ
  | .done ending => do
    ending.check
    return draft
  | .member key value rest => do
    let key ← key
    match slots.find? fun slot => slot.name = key with
    | none =>
      value.pass
      fillByName slots room draft seen rest
    | some slot =>
      if key ∈ seen then .error .mismatch
      else
        let draft ← slot.fill draft room value
        fillByName slots room draft (key :: seen) rest

/-- Fills slots in their order; an array that ends early leaves the rest empty. The
result says whether the array has ended. -/
def fillInOrder {σ : Type} (room : Nat) :
    List (Slot σ) → σ → Items → Except Flaw (σ × Option Items)
  | [], draft, items => .ok (draft, some items)
  | _ :: _, draft, .done ending => do
    ending.check
    return (draft, none)
  | slot :: slots, draft, .item value rest => do
    let draft ← slot.fill draft room value
    fillInOrder room slots draft rest

/-- Nothing may follow the last field of a record given as an array. -/
def checkNoMore : Option Items → Except Flaw Unit
  | none => .ok ()
  | some (.done ending) => ending.checkLast
  | some (.item ..) => .error .malformed

/-- A record: its slots, the draft they start from, and how the finished draft becomes
the record. A draft that lacks a needed field is a mismatch. -/
def record {σ α : Type} (slots : List (Slot σ)) (draft : σ) (finish : σ → Option α) :
    Decoder α := fun room outline => do
  let complete (draft : σ) : Except Flaw α :=
    match finish draft with
    | some value => .ok value
    | none => .error .mismatch
  match outline with
  | .object members =>
    complete (← fillByName slots (← enter room) draft [] members)
  | .array items =>
    let (draft, left) ← fillInOrder (← enter room) slots draft items
    let value ← complete draft
    checkNoMore left
    return value
  | other => .error other.misfit

end Decoder

/-- Decodes a whole text. -/
def decode {α : Type} (decoder : Decoder α) (text : String) : Except Flaw α := do
  let sketch := sketch text
  let value ← decoder fullRoom sketch.root
  if sketch.complete then return value else .error .malformed

/-- Reads a text as a value of any form. -/
def ofText (text : String) : Except Flaw Json :=
  decode Decoder.json text

end PowerLink.Json
