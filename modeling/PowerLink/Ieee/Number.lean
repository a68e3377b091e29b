import PowerLink.Ieee.Text

/-!
# Single and double precision numbers

Both are kept as bit patterns, so that every pattern, the ones of no number included,
passes through unchanged. A number on the line is single, a number in a JSON text is
double until it is stored in a field.
-/

namespace PowerLink

structure Single where
  bits : UInt32
  deriving DecidableEq, Repr

structure Double where
  bits : UInt64
  deriving DecidableEq, Repr

namespace Double

open Ieee

/-- JSON texts write doubles out from `0.00001` to below ten quadrillion. -/
def toJson (x : Double) : String :=
  Ieee.text .double (.json (-5) 15) x.bits.toNat

def ofNat (n : Nat) : Double :=
  ⟨UInt64.ofNat (roundRatio .double n 1)⟩

def negate (x : Double) : Double :=
  ⟨x.bits ^^^ 0x8000000000000000⟩

end Double

namespace Single

open Ieee

/-- The number in a message, never with an exponent. -/
def toText (x : Single) : String :=
  Ieee.text .single .plain x.bits.toNat

/-- JSON texts write singles out from `0.000001` to below ten trillion. -/
def toJson (x : Single) : String :=
  Ieee.text .single (.json (-6) 12) x.bits.toNat

def ofNat (n : Nat) : Single :=
  ⟨UInt32.ofNat (roundRatio .single n 1)⟩

/-- The nearest single; too large numbers become infinite. -/
def ofDouble (x : Double) : Single :=
  match Datum.ofBits .double x.bits.toNat with
  | .nan => ⟨0x7FC00000⟩
  | .infinite negative => ⟨if negative then 0xFF800000 else 0x7F800000⟩
  | .finite negative m q =>
    let magnitude := UInt32.ofNat (roundScaled .single m q)
    ⟨if negative then magnitude ||| 0x80000000 else magnitude⟩

end Single

end PowerLink
