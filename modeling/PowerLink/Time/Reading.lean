import PowerLink.Text.Characters
import PowerLink.Time.DateTime

/-!
# Reading dates and times

The text has the form `YYYY-MM-DD HH:MM:SS`, where blanks may stand before every
number, numbers may have fewer digits, a year with a sign may have any number of
digits, and the gap may be any number of blanks or a single `T`.
-/

namespace PowerLink.DateTime

/-- The value of a run of decimal digits. -/
def digitsValue (digits : List Char) : Nat :=
  digits.foldl (fun total digit => 10 * total + (digit.toNat - '0'.toNat)) 0

/-- Reads at least one and at most `most` digits. -/
def readDigits (most : Nat) (text : List Char) : Option (Nat × List Char) :=
  let digits := (text.take most).takeWhile Char.isDigit
  if digits.isEmpty then none else some (digitsValue digits, text.drop digits.length)

/-- A number of at most two digits, after blanks. -/
def readPart (text : List Char) : Option (Nat × List Char) :=
  readDigits 2 (Text.trimStart text)

/-- A year, after blanks: up to four digits, or any number of them after a sign. -/
def readYear (text : List Char) : Option (Int × List Char) :=
  match Text.trimStart text with
  | '-' :: rest => (readDigits rest.length rest).map fun (n, rest) => (-(n : Int), rest)
  | '+' :: rest => (readDigits rest.length rest).map fun (n, rest) => ((n : Int), rest)
  | rest => (readDigits 4 rest).map fun (n, rest) => ((n : Int), rest)

/-- The given character. -/
def readMark (mark : Char) : List Char → Option (List Char)
  | [] => none
  | c :: rest => if c = mark then some rest else none

/-- What stands between date and time. -/
inductive Gap
  | blanks
  | letter
  deriving DecidableEq, Repr

def readGap : Gap → List Char → Option (List Char)
  | .blanks, text => some (Text.trimStart text)
  | .letter, text => readMark 'T' text

def readWith (gap : Gap) (text : List Char) : Option DateTime := do
  let (year, text) ← readYear text
  let text ← readMark '-' text
  let (month, text) ← readPart text
  let text ← readMark '-' text
  let (day, text) ← readPart text
  let text ← readGap gap text
  let (hour, text) ← readPart text
  let text ← readMark ':' text
  let (minute, text) ← readPart text
  let text ← readMark ':' text
  let (second, text) ← readPart text
  if text.isEmpty then ofParts? year month day hour minute second else none

def ofText? (text : String) : Option DateTime :=
  readWith .blanks text.toList <|> readWith .letter text.toList

end PowerLink.DateTime
