import PowerLink.Ieee.Number
import PowerLink.KeyMap
import PowerLink.Text.Numeral

/-!
# JSON values

The values of JSON texts, and their compact text. A number keeps the form in which it
was written: a natural number, a negative whole number, or a double. The members of
an object are kept in key order, each key once.
-/

namespace PowerLink

namespace Json

inductive Number
  | natural (n : Nat)
  /-- The whole number `-n`. -/
  | negative (n : Nat)
  | real (x : Double)
  deriving DecidableEq, Repr

namespace Number

def toText : Number → String
  | .natural n => Text.decimal 1 n
  | .negative n => "-" ++ Text.decimal 1 n
  | .real x => x.toJson

def toDouble : Number → Double
  | .natural n => .ofNat n
  | .negative n => (Double.ofNat n).negate
  | .real x => x

end Number

end Json

inductive Json
  | null
  | bool (b : Bool)
  | number (n : Json.Number)
  | string (s : String)
  | array (items : List Json)
  | object (members : List (String × Json))
  deriving Repr

namespace Json

instance : Inhabited Json := ⟨.null⟩

def nat (n : Nat) : Json :=
  .number (.natural n)

/-- An object from its members in any order, where a later member wins. -/
def ofMembers (members : List (String × Json)) : Json :=
  .object (KeyMap.ofList members).entries

def natural? : Json → Option Nat
  | .number (.natural n) => some n
  | _ => none

def double? : Json → Option Double
  | .number n => some n.toDouble
  | _ => none

def string? : Json → Option String
  | .string s => some s
  | _ => none

/-- The value of a member of an object. -/
def member? (json : Json) (key : String) : Option Json :=
  match json with
  | .object members => (members.find? fun member => member.1 = key).map Prod.snd
  | _ => none

/-! ## Text -/

def escapedChar (c : Char) : List Char :=
  if c = '"' then ['\\', '"']
  else if c = '\\' then ['\\', '\\']
  else if c = '\x08' then ['\\', 'b']
  else if c = '\x0C' then ['\\', 'f']
  else if c = '\n' then ['\\', 'n']
  else if c = '\r' then ['\\', 'r']
  else if c = '\t' then ['\\', 't']
  else if c.toNat < 0x20 then
    ['\\', 'u', '0', '0', Nat.digitChar (c.toNat / 16), Nat.digitChar (c.toNat % 16)]
  else [c]

/-- A text between quotes, with its controls, quotes and backslashes escaped. -/
def quote (text : String) : String :=
  String.ofList ('"' :: (text.toList.flatMap escapedChar ++ ['"']))

mutual

/-- The text of a value without any blanks. -/
def toText : Json → String
  | .null => "null"
  | .bool true => "true"
  | .bool false => "false"
  | .number n => n.toText
  | .string s => quote s
  | .array items => "[" ++ ",".intercalate (itemTexts items) ++ "]"
  | .object members => "\x7b" ++ ",".intercalate (memberTexts members) ++ "\x7d"

def itemTexts : List Json → List String
  | [] => []
  | item :: rest => item.toText :: itemTexts rest

def memberTexts : List (String × Json) → List String
  | [] => []
  | (key, value) :: rest => (quote key ++ ":" ++ value.toText) :: memberTexts rest

end

end Json

end PowerLink
