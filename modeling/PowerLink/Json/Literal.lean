import PowerLink.Json.Value

/-!
# Number literals

A literal is read into its digits first. Its value keeps a whole number of at most 64
bits as it is; every other literal becomes a double. For that the leading digits that
fit into 64 bits are kept, further digits of the whole part count as powers of ten,
and further digits of the fraction part are dropped. The kept number is rounded to a
double and then multiplied or divided by a power of ten in double arithmetic.
-/

namespace PowerLink.Json

/-- Why a text does not give the value asked for. -/
inductive Flaw
  /-- The text ends too early. -/
  | cutShort
  /-- The text is not JSON, or holds a number or nesting past the limits. -/
  | malformed
  /-- The value has the wrong form. -/
  | mismatch
  deriving DecidableEq, Repr

/-- A part of a text that cannot be read. What is said of it depends on whether its
value was wanted, only passed over, or wanted to be one of several words. -/
structure Break where
  wanted : Flaw
  passed : Flaw
  word : Flaw
  deriving DecidableEq, Repr

namespace Break

def cutShort : Break := ⟨.cutShort, .cutShort, .cutShort⟩
def malformed : Break := ⟨.malformed, .malformed, .malformed⟩

/-- The text ends within a number. -/
def cutNumber : Break := ⟨.cutShort, .malformed, .malformed⟩

/-- The text ends within `null`, `true` or `false`. -/
def cutConstant : Break := ⟨.cutShort, .cutShort, .malformed⟩

end Break

structure Literal where
  negative : Bool
  whole : List Nat
  fraction : List Nat
  exponent : Int
  /-- Neither a fraction part nor an exponent was written. -/
  integral : Bool
  deriving DecidableEq, Repr

/-- The digits at the start of a text, and the rest. -/
def leadingDigits (text : List Char) : List Nat × List Char :=
  ((text.takeWhile Char.isDigit).map fun c => c.toNat - '0'.toNat,
    text.dropWhile Char.isDigit)

/-- Digits of which there must be at least one. -/
def someDigits (text : List Char) : Except Break (List Nat × List Char) :=
  match text, leadingDigits text with
  | [], _ => .error .cutNumber
  | _, ([], _) => .error .malformed
  | _, found => .ok found

def naturalOfDigits (digits : List Nat) : Nat :=
  digits.foldl (fun total digit => 10 * total + digit) 0

namespace Literal

/-- The whole part: a zero alone, or digits that do not start with one. -/
def readWhole (text : List Char) : Except Break (List Nat × List Char) := do
  let (digits, rest) ← someDigits text
  match digits with
  | 0 :: _ :: _ => .error .malformed
  | _ => return (digits, rest)

def readFraction : List Char → Except Break (Option (List Nat) × List Char)
  | '.' :: rest => do
    let (digits, rest) ← someDigits rest
    return (some digits, rest)
  | text => return (none, text)

def readExponent (text : List Char) : Except Break (Option Int × List Char) :=
  match text with
  | 'e' :: rest | 'E' :: rest => do
    let (negative, rest) :=
      match rest with
      | '+' :: rest => (false, rest)
      | '-' :: rest => (true, rest)
      | rest => (false, rest)
    let (digits, rest) ← someDigits rest
    let size : Int := naturalOfDigits digits
    return (some (if negative then -size else size), rest)
  | text => return (none, text)

/-- Reads a literal that starts with a minus sign or a digit. -/
def read (text : List Char) : Except Break (Literal × List Char) := do
  let (negative, text) :=
    match text with
    | '-' :: text => (true, text)
    | text => (false, text)
  let (whole, text) ← readWhole text
  let (fraction, text) ← readFraction text
  let (exponent, text) ← readExponent text
  let literal : Literal :=
    { negative, whole
      fraction := fraction.getD []
      exponent := exponent.getD 0
      integral := fraction.isNone && exponent.isNone }
  return (literal, text)

/-- Appends digits to a number while it stays below `2 ^ 64`, and returns the digits
that are left. -/
def absorb (total : Nat) : List Nat → Nat × List Nat
  | [] => (total, [])
  | digit :: rest =>
    if 10 * total + digit < UInt64.size then absorb (10 * total + digit) rest
    else (total, digit :: rest)

/-- The double `10 ^ e`. -/
def powerOfTen (e : Nat) : Nat :=
  Ieee.roundRatio .double (Nat.pow 10 e) 1

/-- Scales a double without sign by a power of ten. Powers of more than `10 ^ 308` are
out of range, and past `10 ^ -308` the division is done in steps. -/
def scale (bits : Nat) (exponent : Int) : Except Flaw Nat :=
  if 308 < exponent then
    if bits = 0 then .ok 0 else .error .malformed
  else if 0 ≤ exponent then
    let product := Ieee.multiply .double bits (powerOfTen exponent.toNat)
    if product = Ieee.Format.double.infinity then .error .malformed else .ok product
  else if -308 ≤ exponent then
    .ok (Ieee.divide .double bits (powerOfTen (-exponent).toNat))
  else if bits = 0 then .ok 0
  else scale (Ieee.divide .double bits (powerOfTen 308)) (exponent + 308)
termination_by exponent.natAbs
decreasing_by omega

/-- The value of a literal; one too large for a double is malformed. -/
def value (literal : Literal) : Except Flaw Number := do
  let (kept, left) := absorb 0 literal.whole
  if literal.integral ∧ left = [] ∧ ¬ literal.negative then
    return .natural kept
  else if literal.integral ∧ left = [] ∧ 0 < kept ∧ 2 * kept ≤ UInt64.size then
    return .negative kept
  else
    let (kept, dropped) := absorb kept literal.fraction
    let fractionSize := literal.fraction.length - dropped.length
    let exponent := literal.exponent + left.length - fractionSize
    let bits ← scale (Ieee.roundRatio .double kept 1) exponent
    let magnitude : Double := ⟨UInt64.ofNat bits⟩
    return .real (if literal.negative then magnitude.negate else magnitude)

end Literal

end PowerLink.Json
