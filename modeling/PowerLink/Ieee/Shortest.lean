import PowerLink.Ieee.Format

/-!
# Shortest decimal digits

The reals that round to a given floating point number form an interval around it,
whose ends belong to it when the number's significand is even. Among the grids of
multiples of powers of ten, the coarsest one with a point in that interval gives the
fewest digits that read back, and the point nearest to the number is taken.
-/

namespace PowerLink.Ieee

/-- Which of two equally near decimal points is taken. -/
inductive Tie
  | up
  | even
  deriving DecidableEq, Repr

/-- The decimal number `digits * 10 ^ exponent`. -/
structure Decimal where
  digits : Nat
  exponent : Int
  deriving DecidableEq, Repr

/-- A number `value` with the interval that rounds to it, in quarters of its unit. -/
structure Rounding where
  value : Nat
  lower : Nat
  upper : Nat
  closed : Bool
  deriving DecidableEq, Repr

/-- The interval of `m * 2 ^ q`. Below a power of two the neighbour is only half a unit
away, except at the lowest exponent. -/
def Rounding.of (format : Format) (m : Nat) (q : Int) : Rounding where
  value := 4 * m
  lower :=
    if m = Nat.pow 2 format.fractionBits ∧ q ≠ format.lowestExponent then 4 * m - 1
    else 4 * m - 2
  upper := 4 * m + 2
  closed := m % 2 = 0

/-- Whether `point * den / num` lies in the interval. -/
def Rounding.holds (r : Rounding) (num den point : Nat) : Bool :=
  let scaled := point * den
  if r.closed then r.lower * num ≤ scaled && scaled ≤ r.upper * num
  else r.lower * num < scaled && scaled < r.upper * num

/-- The point of the grid nearest to the number that lies in its interval, where a
quarter of the number's unit is `num / den` steps of the grid. -/
def Rounding.pointOnGrid? (r : Rounding) (tie : Tie) (num den : Nat) : Option Nat :=
  let below := r.value * num / den
  let above := below + 1
  match r.holds num den below, r.holds num den above with
  | false, false => none
  | true, false => some below
  | false, true => some above
  | true, true =>
    let twice := 2 * (r.value * num % den)
    if twice < den then some below
    else if den < twice then some above
    else
      match tie with
      | .up => some above
      | .even => some (below + below % 2)

/-- Goes from the grid of `10 ^ exponent` to finer ones, over at most `grids` grids. -/
def Rounding.search (r : Rounding) (tie : Tie) (q : Int) (exponent : Int) :
    Nat → Decimal
  | 0 => ⟨r.value / 4, q⟩
  | grids + 1 =>
    let quarter := q - 2
    let num := Nat.pow 2 quarter.toNat * Nat.pow 10 (-exponent).toNat
    let den := Nat.pow 2 (-quarter).toNat * Nat.pow 10 exponent.toNat
    match r.pointOnGrid? tie num den with
    | some digits => ⟨digits, exponent⟩
    | none => search r tie q (exponent - 1) grids

/-- The fewest digits that read back as `m * 2 ^ q`, for a positive `m`. The search
starts above the number, and a grid finer than the number's unit always has a hit. -/
def shortest (format : Format) (tie : Tie) (m : Nat) (q : Int) : Decimal :=
  let bits : Int := m.log2 + 1 + q
  let start := bits * 30103 / 100000 + 1
  (Rounding.of format m q).search tie q start (format.fractionBits + 4)

end PowerLink.Ieee
