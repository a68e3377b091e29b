/-!
# Data types

The seven types that a schema can give to a field. All but strings have a fixed width
on the line, and the two unsigned types can serve as counts.
-/

namespace PowerLink

inductive DataType
  | uint8
  | uint16
  | float
  | enum
  | string
  | dateTime
  | version
  deriving DecidableEq, Repr

namespace DataType

def name : DataType → String
  | .uint8 => "uint8"
  | .uint16 => "uint16"
  | .float => "float"
  | .enum => "enum"
  | .string => "string"
  | .dateTime => "datetime"
  | .version => "version"

/-- Every type under the name that a schema gives it. -/
def named : List (String × DataType) :=
  [.uint8, .uint16, .float, .enum, .string, .dateTime, .version].map
    fun type : DataType => (type.name, type)

/-- Width on the line; a string's width comes from its field. -/
def fixedWidth? : DataType → Option Nat
  | .uint8 | .enum => some 1
  | .uint16 | .version => some 2
  | .float => some 4
  | .dateTime => some 7
  | .string => none

def isCount (type : DataType) : Bool :=
  type = .uint8 || type = .uint16

end DataType

end PowerLink
