/-!
Numbers of double precision.

A double is a mantissa of at most 53 bits times a power of two. Operations give the double that is nearest to the exact
result, and of two that are equally near the one with an even mantissa.
-/

namespace SqlLens

structure Double where
  mantissa : Nat
  exponent : Int
deriving DecidableEq

namespace Double

def leastExponent : Int := -1074

def greatestExponent : Int := 971

def power (bits : Nat) : Nat := Nat.pow 2 bits

def zero : Double := ⟨0, leastExponent⟩

/-- The integer that is nearest to a fraction; a half goes to the even neighbour. -/
def nearest (numerator denominator : Nat) : Nat :=
  let whole := numerator / denominator
  let rest := 2 * (numerator % denominator)
  if rest < denominator then whole
  else if denominator < rest then whole + 1
  else if whole % 2 = 0 then whole else whole + 1

def fitting (numerator denominator : Nat) : Int :=
  let guess : Int := (numerator.log2 : Int) - denominator.log2 - 52
  let whole := numerator * power (-guess).toNat / (denominator * power guess.toNat)
  if whole < power 52 then guess - 1 else guess

def round? (numerator denominator : Nat) : Option Double :=
  if numerator = 0 then some zero
  else
    let exponent := max (fitting numerator denominator) leastExponent
    let mantissa := nearest (numerator * power (-exponent).toNat) (denominator * power exponent.toNat)
    let (mantissa, exponent) := if mantissa = power 53 then (power 52, exponent + 1) else (mantissa, exponent)
    if greatestExponent < exponent then none else some ⟨mantissa, exponent⟩

def times? (a b : Double) : Option Double :=
  let exponent := a.exponent + b.exponent
  round? (a.mantissa * b.mantissa * power exponent.toNat) (power (-exponent).toNat)

def over? (a b : Double) : Option Double :=
  let exponent := a.exponent - b.exponent
  round? (a.mantissa * power exponent.toNat) (b.mantissa * power (-exponent).toNat)

def ten? (exponent : Nat) : Option Double := round? (Nat.pow 10 exponent) 1

def maxTen : Nat := 308

/-- Divides by powers of ten, the greatest ones first. Fuel bounds their number; no double survives more than three. -/
def scaleDown : Nat → Double → Nat → Option Double
  | 0, _, _ => some zero
  | fuel + 1, value, exponent =>
    if exponent ≤ maxTen then do value.over? (← ten? exponent)
    else do scaleDown fuel (← value.over? (← ten? maxTen)) (exponent - maxTen)

/-- Digits times a power of ten, unless that is too great. Both are rounded before they are put together. -/
def ofScientific? (digits : Nat) (exponent : Int) : Option Double := do
  let value ← round? digits 1
  if value.mantissa = 0 then return zero
  else if exponent < 0 then scaleDown 4 value (-exponent).toNat
  else if exponent.toNat ≤ maxTen then value.times? (← ten? exponent.toNat)
  else none

end Double

end SqlLens
