import SqlLens.Text.Basic

/-!
The size of decimal fractions.
-/

namespace SqlLens.Text

/-- Whether a decimal fraction is too great for a number of double precision: digits times a power of ten. -/
def isTooGreat (digits : List Nat) (exponent : Int) : Bool :=
  let significand := ofDigits 10 digits
  let size : Int := (toString significand).length + exponent
  let limit := Nat.pow 2 1024 - Nat.pow 2 970
  if significand = 0 then false
  else if size > 320 then true
  else if size < 300 then false
  else if exponent ≥ 0 then significand * Nat.pow 10 exponent.toNat ≥ limit
  else significand ≥ limit * Nat.pow 10 (-exponent).toNat

end SqlLens.Text
