import PowerLink.Json.Literal

/-!
# Outlines

A JSON text is read into an outline first: its values in the order of the text, up to
the place where the text stops being JSON. What is asked of the values comes later,
so a value of the wrong form is found before a mistake further on in the text, and
values that are merely passed over are not held to the limits on numbers, nesting and
surrogate escapes.
-/

namespace PowerLink.Json

/-- How the members of an array or object end. -/
inductive Ending
  | closed
  /-- Neither a comma nor the closing bracket follows. -/
  | cut (flaw : Flaw)
  /-- A comma is there, but nothing that could follow it. -/
  | afterComma (flaw : Flaw)
  deriving DecidableEq, Repr

mutual

inductive Outline
  | null
  | bool (b : Bool)
  | number (n : Except Flaw Number)
  | string (s : Except Flaw String)
  | array (items : Items)
  | object (members : Members)
  /-- Here the text stops being JSON, and nothing after it is read. -/
  | broken (gap : Break)

inductive Items
  | done (ending : Ending)
  | item (value : Outline) (rest : Items)

inductive Members
  | done (ending : Ending)
  | member (key : Except Flaw String) (value : Outline) (rest : Members)

end

instance : Inhabited Outline := ⟨.null⟩

/-! ## Strings -/

/-- What is found after an opening quote: the text that the string stands for, and
what follows the closing quote. -/
structure StringScan where
  text : Except Flaw String
  rest : Except Flaw (List Char)

def hexUnit? (a b c d : Char) : Option Nat :=
  Text.digitsFrom? 16 0 [a, b, c, d]

def isLeadSurrogate (unit : Nat) : Bool := 0xD800 ≤ unit && unit ≤ 0xDBFF
def isTrailSurrogate (unit : Nat) : Bool := 0xDC00 ≤ unit && unit ≤ 0xDFFF

/-- The character that a pair of surrogates stands for. -/
def pairedChar (lead trail : Nat) : Char :=
  Char.ofNat ((lead - 0xD800) * 0x400 + (trail - 0xDC00) + 0x10000)

def simpleEscape? : Char → Option Char
  | '"' => some '"'
  | '\\' => some '\\'
  | '/' => some '/'
  | 'b' => some '\x08'
  | 'f' => some '\x0C'
  | 'n' => some '\n'
  | 'r' => some '\r'
  | 't' => some '\t'
  | _ => none

/-- The text read so far, backwards, and whether it already has a surrogate escape
without its partner. -/
structure StringState where
  reversed : List Char
  lead : Option Nat
  unpaired : Bool

namespace StringState

def initial : StringState := ⟨[], none, false⟩

/-- Takes up an item that is not a trailing surrogate. -/
def push (s : StringState) (c : Char) : StringState :=
  ⟨c :: s.reversed, none, s.unpaired || s.lead.isSome⟩

/-- Takes up the unit of a `\u` escape. -/
def pushUnit (s : StringState) (unit : Nat) : StringState :=
  if isTrailSurrogate unit then
    match s.lead with
    | some lead => ⟨pairedChar lead unit :: s.reversed, none, s.unpaired⟩
    | none => { s with unpaired := true }
  else if isLeadSurrogate unit then
    ⟨s.reversed, some unit, s.unpaired || s.lead.isSome⟩
  else s.push (Char.ofNat unit)

/-- The string breaks off. A surrogate without its partner counts first. -/
def fail (s : StringState) (flaw : Flaw) : StringScan :=
  ⟨.error (if s.unpaired then .malformed else flaw), .error flaw⟩

def finish (s : StringState) (rest : List Char) : StringScan :=
  if s.unpaired || s.lead.isSome then ⟨.error .malformed, .ok rest⟩
  else ⟨.ok (String.ofList s.reversed.reverse), .ok rest⟩

end StringState

/-- The flaw of a `\u` that four hex digits do not follow: the text is cut short if
less than four bytes are left of it. -/
def unitFlaw (rest : List Char) : Flaw :=
  if (String.ofList rest).utf8ByteSize < 4 then .cutShort else .malformed

def scanString (s : StringState) : List Char → StringScan
  | [] => s.fail .cutShort
  | '"' :: rest => s.finish rest
  | ['\\'] => s.fail .cutShort
  | '\\' :: 'u' :: a :: b :: c :: d :: rest =>
    match hexUnit? a b c d with
    | some unit => scanString (s.pushUnit unit) rest
    | none => s.fail .malformed
  | '\\' :: 'u' :: rest => s.fail (unitFlaw rest)
  | '\\' :: escape :: rest =>
    match simpleEscape? escape with
    | some c => scanString (s.push c) rest
    | none => s.fail .malformed
  | c :: rest =>
    if c.toNat < 0x20 then s.fail .malformed else scanString (s.push c) rest

/-! ## Values -/

def isJsonBlank (c : Char) : Bool :=
  c = ' ' || c = '\n' || c = '\t' || c = '\r'

def skipBlanks (text : List Char) : List Char :=
  text.dropWhile isJsonBlank

/-- An outline and what follows it; nothing is read after a break. -/
abbrev Reading (α : Type) := α × Option (List Char)

/-- Reads the rest of a word such as `null`. -/
def readWord (outline : Outline) : List Char → List Char → Reading Outline
  | [], text => (outline, some text)
  | _ :: _, [] => (.broken .cutConstant, none)
  | letter :: word, c :: text =>
    if c = letter then readWord outline word text else (.broken .malformed, none)

def readNumber (text : List Char) : Reading Outline :=
  match Literal.read text with
  | .ok (literal, rest) => (.number literal.value, some rest)
  | .error flaw => (.broken flaw, none)

def readString (text : List Char) : Reading Outline :=
  let scan := scanString .initial text
  match scan.text, scan.rest with
  | text, .ok rest => (.string text, some rest)
  | .error wanted, .error passed => (.broken ⟨wanted, passed, wanted⟩, none)
  | .ok _, .error passed => (.broken ⟨passed, passed, passed⟩, none)

mutual

/-- Reads a value at the start of a text without blanks before it. -/
def readValue (fuel : Nat) (text : List Char) : Reading Outline :=
  match fuel, text with
  | 0, _ => (.broken .malformed, none)
  | _ + 1, [] => (.broken .cutShort, none)
  | fuel + 1, c :: rest =>
    if c = 'n' then readWord .null ['u', 'l', 'l'] rest
    else if c = 't' then readWord (.bool true) ['r', 'u', 'e'] rest
    else if c = 'f' then readWord (.bool false) ['a', 'l', 's', 'e'] rest
    else if c = '-' ∨ c.isDigit then readNumber text
    else if c = '"' then readString rest
    else if c = '[' then
      match skipBlanks rest with
      | ']' :: rest => (.array (.done .closed), some rest)
      | [] => (.array (.done (.cut .cutShort)), none)
      | rest =>
        let (items, rest) := readItems fuel rest
        (.array items, rest)
    else if c = '\x7b' then
      match skipBlanks rest with
      | '\x7d' :: rest => (.object (.done .closed), some rest)
      | [] => (.object (.done (.cut .cutShort)), none)
      | '"' :: rest =>
        let (members, rest) := readMembers fuel rest
        (.object members, rest)
      | _ => (.object (.done (.cut .malformed)), none)
    else (.broken .malformed, none)

/-- Reads an item and what follows it up to the closing bracket. -/
def readItems (fuel : Nat) (text : List Char) : Reading Items :=
  match fuel with
  | 0 => (.done (.cut .malformed), none)
  | fuel + 1 =>
    match readValue fuel text with
    | (value, none) => (.item value (.done (.cut .malformed)), none)
    | (value, some rest) =>
      match skipBlanks rest with
      | ']' :: rest => (.item value (.done .closed), some rest)
      | [] => (.item value (.done (.cut .cutShort)), none)
      | ',' :: rest =>
        match skipBlanks rest with
        | [] => (.item value (.done (.afterComma .cutShort)), none)
        | ']' :: _ => (.item value (.done (.afterComma .malformed)), none)
        | rest =>
          let (items, rest) := readItems fuel rest
          (.item value items, rest)
      | _ => (.item value (.done (.cut .malformed)), none)

/-- Reads a key, whose opening quote is passed, its value, and what follows up to the
closing bracket. -/
def readMembers (fuel : Nat) (text : List Char) : Reading Members :=
  match fuel with
  | 0 => (.done (.cut .malformed), none)
  | fuel + 1 =>
    let scan := scanString .initial text
    let stop (value : Outline) : Reading Members :=
      (.member scan.text value (.done (.cut .malformed)), none)
    match scan.rest with
    | .error passed => stop (.broken ⟨passed, passed, passed⟩)
    | .ok rest =>
      match skipBlanks rest with
      | [] => stop (.broken .cutShort)
      | ':' :: rest =>
        match readValue fuel (skipBlanks rest) with
        | (value, none) => stop value
        | (value, some rest) =>
          match skipBlanks rest with
          | '\x7d' :: rest => (.member scan.text value (.done .closed), some rest)
          | [] => (.member scan.text value (.done (.cut .cutShort)), none)
          | ',' :: rest =>
            match skipBlanks rest with
            | [] => (.member scan.text value (.done (.afterComma .cutShort)), none)
            | '"' :: rest =>
              let (members, rest) := readMembers fuel rest
              (.member scan.text value members, rest)
            | _ => (.member scan.text value (.done (.afterComma .malformed)), none)
          | _ => (.member scan.text value (.done (.cut .malformed)), none)
      | _ => stop (.broken .malformed)

end

/-- The outline of a whole text, and whether only blanks follow its value. -/
structure Sketch where
  root : Outline
  complete : Bool

def sketch (text : String) : Sketch :=
  let chars := skipBlanks text.toList
  match readValue (2 * chars.length + 2) chars with
  | (root, none) => ⟨root, true⟩
  | (root, some rest) => ⟨root, (skipBlanks rest).isEmpty⟩

end PowerLink.Json
