import PowerLink.Text.Numeral

/-!
# Date and time

A date with a time of day, to the second. The second 60 is a leap second; it shows as
such, but counts as second 59 on the line. There are no fractions of a second: neither of
the two forms of text that are read has a place for them, and the seven bytes on the line
have none either, so no value that is read or received would carry any.
-/

namespace PowerLink

/-! ## The Gregorian calendar

Years are counted as in astronomy, with a year zero that is a leap year, over the
range of years that dates may have here.
-/

namespace Calendar

def isLeapYear (year : Int) : Bool :=
  year % 4 = 0 && (year % 100 ≠ 0 || year % 400 = 0)

/-- The length of a month, zero for a month that does not exist. -/
def daysInMonth (year : Int) : Nat → Nat
  | 1 | 3 | 5 | 7 | 8 | 10 | 12 => 31
  | 4 | 6 | 9 | 11 => 30
  | 2 => if isLeapYear year then 29 else 28
  | _ => 0

def firstYear : Int := -262143
def lastYear : Int := 262142

/-- The date exists and its year is in range. -/
def IsDate (year : Int) (month day : Nat) : Prop :=
  firstYear ≤ year ∧ year ≤ lastYear ∧ 1 ≤ day ∧ day ≤ daysInMonth year month

instance (year : Int) (month day : Nat) : Decidable (IsDate year month day) := by
  unfold IsDate; infer_instance

/-- The time of day exists; a minute may have a sixty-first second. -/
def IsTime (hour minute second : Nat) : Prop :=
  hour < 24 ∧ minute < 60 ∧ second ≤ 60

instance (hour minute second : Nat) : Decidable (IsTime hour minute second) := by
  unfold IsTime; infer_instance

end Calendar

/-! ## Dates with a time of day -/

structure DateTime where
  year : Int
  month : Nat
  day : Nat
  hour : Nat
  minute : Nat
  second : Nat
  isDate : Calendar.IsDate year month day
  isTime : Calendar.IsTime hour minute second
  deriving DecidableEq, Repr

namespace DateTime

/-- The date and time with these parts, if there is one. -/
def ofParts? (year : Int) (month day hour minute second : Nat) : Option DateTime :=
  if isDate : Calendar.IsDate year month day then
    if isTime : Calendar.IsTime hour minute second then
      some { year, month, day, hour, minute, second, isDate, isTime }
    else none
  else none

/-- Years of up to four digits are padded to four, all others carry a sign. -/
def yearText (year : Int) : String :=
  if 0 ≤ year ∧ year ≤ 9999 then Text.decimal 4 year.toNat
  else (if year < 0 then "-" else "+") ++ Text.decimal 4 year.natAbs

/-- The parts of a date and time as they are written, whether they exist or not. -/
def partsText (separator year : String) (month day hour minute second : Nat) :
    String :=
  year ++ "-" ++ Text.decimal 2 month ++ "-" ++ Text.decimal 2 day ++
    separator ++ Text.decimal 2 hour ++ ":" ++ Text.decimal 2 minute ++ ":" ++
    Text.decimal 2 second

def textWith (separator : String) (t : DateTime) : String :=
  partsText separator (yearText t.year) t.month t.day t.hour t.minute t.second

/-- Date and time with a space between them. -/
def toText (t : DateTime) : String :=
  t.textWith " "

/-- Date and time with a `T` between them. -/
def toIsoText (t : DateTime) : String :=
  t.textWith "T"

/-- The second within its minute, where a leap second repeats the last one. -/
def wireSecond (t : DateTime) : Nat :=
  min t.second 59

end DateTime

end PowerLink
