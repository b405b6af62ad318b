import SqlLens.Time.Calendar
import SqlLens.Toml.Text

/-!
Numbers and moments in TOML.
-/

namespace SqlLens.Toml

def moreDigits (test : Char → Bool) : Reader (List Char) :=
  let afterMark : Reader Char := do
    expect "_"
    committed (one test)
  all (either (one test) afterMark)

def digits (test : Char → Bool) : Reader (List Char) := do
  let first ← one test
  return first :: (← moreDigits test)

def sign : Reader Bool := do
  if ← skip "-" then return true
  else
    let _ ← skip "+"
    return false

abbrev Whole := Bool × List Char

def whole : Reader Whole := do
  let negative ← sign
  let several : Reader (List Char) := do
    let first ← one fun c => c.isDigit && c ≠ '0'
    return first :: (← moreDigits Char.isDigit)
  let single : Reader (List Char) := do return [← one Char.isDigit]
  return (negative, ← either several single)

def integerOf? (value : Int) : Option Toml :=
  if Text.isInt64 value then some (.integer value) else none

def basedInteger (mark : String) (base : Nat) (test : Char → Bool) : Reader Toml := committed <| sound do
  expect mark
  return integerOf? (numeral base (← digits test))

def integerValue : Reader Toml := do
  match ← get with
  | '0' :: 'x' :: _ => basedInteger "0x" 16 isHexDigit
  | '0' :: 'o' :: _ => basedInteger "0o" 8 fun c => '0' ≤ c && c ≤ '7'
  | '0' :: 'b' :: _ => basedInteger "0b" 2 fun c => c = '0' || c = '1'
  | _ =>
    let start ← here
    let (negative, read) ← whole
    let value : Int := numeral 10 read
    match integerOf? (if negative then -value else value) with
    | some made => return made
    | none => throw ⟨true, start⟩

def exponent : Reader Int := do
  let _ ← one fun c => c = 'e' || c = 'E'
  let negative ← sign
  let value : Int := numeral 10 (← committed (digits Char.isDigit))
  return if negative then -value else value

def fraction : Reader (List Char × Int) :=
  let scaled : Reader (List Char × Int) := do return ([], ← exponent)
  let pointed : Reader (List Char × Int) := do
    expect "."
    let read ← committed (digits Char.isDigit)
    return (read, (← attempt exponent).getD 0)
  either scaled pointed

def specialFloat : Reader Toml := do
  let _ ← sign
  either (expect "inf") (expect "nan")
  return .float

def floatValue : Reader Toml :=
  let usual : Reader Toml := do
    let start ← here
    let (negative, read) ← whole
    let (places, power) ← fraction
    let shift : Int := power - places.length
    if !negative && Text.isTooGreat ((read ++ places).map digitValue) shift then throw ⟨true, start⟩
    return .float
  either usual specialFloat

def pair (least greatest : Nat) : Reader Nat := sound do
  let value := numeral 10 (← exactly 2 Char.isDigit)
  return if least ≤ value && value ≤ greatest then some value else none

def day : Reader Unit := do
  let year := numeral 10 (← exactly 4 Char.isDigit)
  expect "-"
  committed do
    let month ← pair 1 12
    expect "-"
    let _ ← pair 1 (Calendar.monthLength year month)

def timeOfDay : Reader Unit := do
  let _ ← pair 0 23
  expect ":"
  committed do
    let _ ← pair 0 59
    expect ":"
    let _ ← pair 0 60
    let part : Reader Unit := do
      expect "."
      let _ ← one Char.isDigit
      let _ ← takeWhile Char.isDigit
    let _ ← attempt part

def offset : Reader Unit :=
  let common : Reader Unit := do let _ ← one fun c => c = 'Z' || c = 'z'
  let shifted : Reader Unit := do
    let _ ← one fun c => c = '+' || c = '-'
    committed do
      let _ ← pair 0 23
      expect ":"
      let _ ← pair 0 59
  either common shifted

def momentValue : Reader Toml := do
  let clock : Reader Unit := do
    let _ ← one fun c => c = 'T' || c = 't' || c = ' '
    timeOfDay
    let _ ← attempt offset
  let dated : Reader Unit := do
    day
    let _ ← attempt clock
  either dated timeOfDay
  return .moment

def number : Reader Toml := either momentValue (either floatValue integerValue)

end SqlLens.Toml
