/-!
# Binary floating point

A floating point format is given by the widths of its fraction and exponent fields.
Bit patterns are natural numbers, a finite one stands for `m * 2 ^ q` with a sign, and
a ratio of natural numbers is rounded to the nearest pattern, ties to the even one.
All of it is exact arithmetic on natural numbers.
-/

namespace PowerLink.Ieee

structure Format where
  fractionBits : Nat
  exponentBits : Nat
  deriving DecidableEq, Repr

namespace Format

def single : Format := ⟨23, 8⟩
def double : Format := ⟨52, 11⟩

/-- Exponent of the unit in which the smallest numbers are counted. -/
def lowestExponent (format : Format) : Int :=
  2 - Nat.pow 2 (format.exponentBits - 1) - format.fractionBits

/-- The pattern of positive infinity. -/
def infinity (format : Format) : Nat :=
  (Nat.pow 2 format.exponentBits - 1) * Nat.pow 2 format.fractionBits

/-- The weight of the sign bit. -/
def signWeight (format : Format) : Nat :=
  Nat.pow 2 (format.exponentBits + format.fractionBits)

end Format

/-- What a bit pattern stands for. -/
inductive Datum
  | nan
  | infinite (negative : Bool)
  /-- The number `m * 2 ^ q`, negated if so marked; zero has `m = 0`. -/
  | finite (negative : Bool) (m : Nat) (q : Int)
  deriving DecidableEq, Repr

def Datum.ofBits (format : Format) (bits : Nat) : Datum :=
  let negative := bits / format.signWeight % 2 = 1
  let exponent := bits / Nat.pow 2 format.fractionBits % Nat.pow 2 format.exponentBits
  let fraction := bits % Nat.pow 2 format.fractionBits
  if exponent = Nat.pow 2 format.exponentBits - 1 then
    if fraction = 0 then .infinite negative else .nan
  else if exponent = 0 then
    .finite negative fraction format.lowestExponent
  else
    .finite negative (Nat.pow 2 format.fractionBits + fraction)
      (format.lowestExponent + (exponent - 1))

/-- The quotient rounded to the nearest number, a half to the even neighbour. -/
def roundHalfEven (num den : Nat) : Nat :=
  let down := num / den
  let twice := 2 * (num % den)
  if twice < den then down
  else if den < twice then down + 1
  else down + down % 2

/-- The ratio `num / den` in units of `2 ^ q`, as a ratio again. -/
def inUnits (num den : Nat) (q : Int) : Nat × Nat :=
  if 0 ≤ q then (num, den * Nat.pow 2 q.toNat)
  else (num * Nat.pow 2 (-q).toNat, den)

/-- The largest `e` with `2 ^ e ≤ num / den`, for a positive ratio. -/
def floorLog2 (num den : Nat) : Int :=
  let guess : Int := (num.log2 : Int) - den.log2
  let scaled := inUnits num den guess
  if scaled.1 < scaled.2 then guess - 1 else guess

/-- The pattern nearest to the ratio `num / den`, without sign. Numbers past the
largest finite one become infinity. -/
def roundRatio (format : Format) (num den : Nat) : Nat :=
  if num = 0 then 0
  else
    let q := max format.lowestExponent (floorLog2 num den - format.fractionBits)
    let scaled := inUnits num den q
    let m := roundHalfEven scaled.1 scaled.2
    let bits := (q - format.lowestExponent).toNat * Nat.pow 2 format.fractionBits + m
    min bits format.infinity

/-- The pattern nearest to `m * 2 ^ q`, without sign. -/
def roundScaled (format : Format) (m : Nat) (q : Int) : Nat :=
  if 0 ≤ q then roundRatio format (m * Nat.pow 2 q.toNat) 1
  else roundRatio format m (Nat.pow 2 (-q).toNat)

/-- The product of two finite patterns without sign. -/
def multiply (format : Format) (first second : Nat) : Nat :=
  match Datum.ofBits format first, Datum.ofBits format second with
  | .finite _ m q, .finite _ m' q' => roundScaled format (m * m') (q + q')
  | _, _ => format.infinity

/-- The quotient of two finite patterns without sign, the second not zero. -/
def divide (format : Format) (first second : Nat) : Nat :=
  match Datum.ofBits format first, Datum.ofBits format second with
  | .finite _ m q, .finite _ m' q' =>
    if q' ≤ q then roundRatio format (m * Nat.pow 2 (q - q').toNat) m'
    else roundRatio format m (m' * Nat.pow 2 (q' - q).toNat)
  | _, _ => format.infinity

end PowerLink.Ieee
