import PowerLink.Json.Value
import PowerLink.Text.Escapes
import PowerLink.Time.DateTime

/-!
# Values

The value of one field item: an unsigned number, a single precision number, a text or
a date and time. Names of enumerations, strings and versions are all texts.
-/

namespace PowerLink

inductive Value
  | uint (n : UInt32)
  | float (x : Single)
  | text (s : String)
  | dateTime (t : DateTime)
  deriving DecidableEq, Repr

namespace Value

/-- How a message shows the value. -/
def toText : Value → String
  | .uint n => Text.decimal 1 n.toNat
  | .float x => x.toText
  | .text s => Text.quoted s
  | .dateTime t => t.toText

/-- The value in a JSON text. -/
def toJson : Value → String
  | .uint n => Text.decimal 1 n.toNat
  | .float x => x.toJson
  | .text s => Json.quote s
  | .dateTime t => Json.quote t.toIsoText

end Value

end PowerLink
