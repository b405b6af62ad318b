import SqlLens.Decimal.Shortest
import SqlLens.Json.Basic
import SqlLens.Text.Basic

/-!
Numbers in JSON.

Integers of 64 bits, with a sign or without one, are kept as they are. All other numbers are doubles: of their digits
those count that fit 64 bits. A double is written with the fewest digits that read back.
-/

namespace SqlLens.Json

structure Numeral where
  isNegative : Bool
  whole : List Char
  fraction : List Char
  exponent : Int
  isInteger : Bool

def fraction? : List Char → Option (List Char × List Char)
  | '.' :: rest =>
    let digits := rest.takeWhile Char.isDigit
    if digits.isEmpty then none else some (digits, rest.drop digits.length)
  | rest => some ([], rest)

def exponent? : List Char → Option (Option Int × List Char)
  | [] => some (none, [])
  | mark :: rest =>
    if mark = 'e' || mark = 'E' then
      let (isNegative, rest) := match rest with
        | '-' :: rest => (true, rest)
        | '+' :: rest => (false, rest)
        | rest => (false, rest)
      let digits := rest.takeWhile Char.isDigit
      (Text.decimal? digits).map fun value =>
        (some (if isNegative then -(value : Int) else value), rest.drop digits.length)
    else some (none, mark :: rest)

def numeral? (cs : List Char) : Option (Numeral × List Char) := do
  let (isNegative, rest) := match cs with
    | '-' :: rest => (true, rest)
    | rest => (false, rest)
  let whole := rest.takeWhile Char.isDigit
  if whole.isEmpty || (whole.head? = some '0' && whole.length > 1) then none
  else
    let afterWhole := rest.drop whole.length
    let (fraction, afterFraction) ← fraction? afterWhole
    let (exponent, after) ← exponent? afterFraction
    return (⟨isNegative, whole, fraction, exponent.getD 0, fraction.isEmpty && exponent.isNone⟩, after)

def fill (value : Nat) : List Char → Nat × List Char
  | [] => (value, [])
  | c :: rest =>
    let next := value * 10 + (Text.digitValue c).getD 0
    if next < 18446744073709551616 then fill next rest else (value, c :: rest)

/-- The text of a double that is not negative. Up to sixteen places before the point and four zeros after it are written
out, and there is always a point or an exponent. -/
def doubleText (value : Double) : String :=
  let (number, power) := value.shortest
  let digits := (toString number).toList
  let zeros (count : Nat) : List Char := List.replicate count '0'
  let places : Int := digits.length + power
  if number = 0 then "0.0"
  else if 0 ≤ power && places ≤ 16 then String.ofList (digits ++ zeros power.toNat ++ ['.', '0'])
  else if 0 < places && places ≤ 16 then
    String.ofList (digits.take places.toNat ++ '.' :: digits.drop places.toNat)
  else if -5 < places && places ≤ 0 then String.ofList ('0' :: '.' :: zeros (-places).toNat ++ digits)
  else
    let shown := match digits with
      | first :: second :: rest => first :: '.' :: second :: rest
      | all => all
    let exponent := places - 1
    String.ofList shown ++ "e" ++ (if 0 ≤ exponent then "+" else "-") ++ toString exponent.natAbs

def Numeral.value? (numeral : Numeral) : Option Json := do
  let (significand, dropped) := fill 0 numeral.whole
  let size : Int := significand
  if numeral.isInteger && dropped.isEmpty && !numeral.isNegative then return .integer size
  else if numeral.isInteger && dropped.isEmpty && 0 < size && size ≤ 9223372036854775808 then return .integer (-size)
  else
    let (digits, left) := fill significand numeral.fraction
    let places : Int := (dropped.length : Int) - (numeral.fraction.length - left.length)
    let value ← Double.ofScientific? digits (places + numeral.exponent)
    return .decimal ((if numeral.isNegative then "-" else "") ++ doubleText value)

end SqlLens.Json
