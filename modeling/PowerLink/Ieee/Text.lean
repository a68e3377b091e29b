import PowerLink.Ieee.Shortest

/-!
# Floating point numbers as text

A number is written with the fewest digits that read back. A `Style` says which
exponents are written out positionally and how the rest is spelled; the two styles
in use here are `Style.plain`, for messages, and `Style.json`, for JSON texts.
-/

namespace PowerLink.Ieee

structure Style where
  tie : Tie
  /-- Whether a first digit worth `10 ^ e` is written positionally. -/
  positional : Int → Bool
  /-- Whether a whole number keeps a fraction part. -/
  keepsPoint : Bool
  nan : String
  infinity : String
  negativeInfinity : String

namespace Style

/-- Always positional, whole numbers without a fraction part. -/
def plain : Style where
  tie := .up
  positional _ := true
  keepsPoint := false
  nan := "NaN"
  infinity := "inf"
  negativeInfinity := "-inf"

/-- Positional where the first digit is worth at least `10 ^ low` and at most
`10 ^ high`, always with a fraction part. What is no number is `null`. -/
def json (low high : Int) : Style where
  tie := .even
  positional e := low ≤ e && e ≤ high
  keepsPoint := true
  nan := "null"
  infinity := "null"
  negativeInfinity := "null"

end Style

/-- The digits with the first one worth `10 ^ e`, written out. -/
def positionalText (keepsPoint : Bool) (digits : List Char) (e : Int) : List Char :=
  if e < 0 then
    '0' :: '.' :: (List.replicate (-e - 1).toNat '0' ++ digits)
  else
    let whole := e.toNat + 1
    if digits.length ≤ whole then
      digits ++ List.replicate (whole - digits.length) '0' ++
        (if keepsPoint then ['.', '0'] else [])
    else
      digits.take whole ++ '.' :: digits.drop whole

/-- One digit before the point, and an exponent with its sign. -/
def scientificText (digits : List Char) (e : Int) : List Char :=
  let sign := if e < 0 then '-' else '+'
  let mantissa :=
    match digits with
    | [] => []
    | [digit] => [digit]
    | digit :: more => digit :: '.' :: more
  mantissa ++ 'e' :: sign :: Nat.toDigits 10 e.natAbs

def magnitudeText (format : Format) (style : Style) (m : Nat) (q : Int) :
    List Char :=
  if m = 0 then '0' :: (if style.keepsPoint then ['.', '0'] else [])
  else
    let decimal := shortest format style.tie m q
    let digits := Nat.toDigits 10 decimal.digits
    let e := decimal.exponent + digits.length - 1
    if style.positional e then positionalText style.keepsPoint digits e
    else scientificText digits e

/-- The text of a bit pattern. -/
def text (format : Format) (style : Style) (bits : Nat) : String :=
  match Datum.ofBits format bits with
  | .nan => style.nan
  | .infinite negative =>
    if negative then style.negativeInfinity else style.infinity
  | .finite negative m q =>
    let sign := if negative then ['-'] else []
    String.ofList (sign ++ magnitudeText format style m q)

end PowerLink.Ieee
