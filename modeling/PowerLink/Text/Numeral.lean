/-!
# Numerals

Writing natural numbers with a fixed least width, and reading unsigned numerals.
A readable numeral is an optional plus sign followed by one or more digits.
-/

namespace PowerLink.Text

/-- The decimal digits of a number, padded with zeros on the left. -/
def decimal (width : Nat) (n : Nat) : String :=
  let digits := Nat.toDigits 10 n
  String.ofList (List.replicate (width - digits.length) '0' ++ digits)

/-- The digits of a number in base sixteen, in capitals, padded with zeros. -/
def hex (width : Nat) (n : Nat) : String :=
  let digits := (Nat.toDigits 16 n).map Char.toUpper
  String.ofList (List.replicate (width - digits.length) '0' ++ digits)

/-- A byte as it appears in messages, such as `0x7E`. -/
def hexByte (byte : UInt8) : String :=
  "0x" ++ hex 2 byte.toNat

def hexWord (word : UInt16) : String :=
  "0x" ++ hex 4 word.toNat

/-- The value of an ASCII digit in the given base, letters of either case. -/
def digitValue? (base : Nat) (c : Char) : Option Nat :=
  let value? :=
    if '0' ≤ c ∧ c ≤ '9' then some (c.toNat - '0'.toNat)
    else if 'a' ≤ c ∧ c ≤ 'z' then some (c.toNat - 'a'.toNat + 10)
    else if 'A' ≤ c ∧ c ≤ 'Z' then some (c.toNat - 'A'.toNat + 10)
    else none
  value?.filter (· < base)

/-- The value of a string of digits, on top of the digits read before. -/
def digitsFrom? (base : Nat) (total : Nat) : List Char → Option Nat
  | [] => some total
  | c :: rest =>
    match digitValue? base c with
    | some value => digitsFrom? base (base * total + value) rest
    | none => none

/-- Reads an optional plus sign and one or more digits. -/
def numeral? (base : Nat) : List Char → Option Nat
  | [] => none
  | '+' :: [] => none
  | '+' :: digits => digitsFrom? base 0 digits
  | digits => digitsFrom? base 0 digits

/-- A numeral whose value is at most `limit`. -/
def numeralUpTo? (base limit : Nat) (text : List Char) : Option Nat :=
  (numeral? base text).filter (· ≤ limit)

end PowerLink.Text
