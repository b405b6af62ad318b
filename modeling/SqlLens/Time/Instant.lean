import SqlLens.Text.Basic
import SqlLens.Time.Calendar

/-!
Points in time, and the texts that stand for them.

An instant is read from a date and a time with an offset. Blanks may stand between the parts, a blank or `T` divides
date and time, and digits of the second beyond the ninth are dropped. It is written in universal time with as many
groups of three digits of the second as are needed.
-/

namespace SqlLens

/-- A point in time: whole seconds from the start of 1970, and billionths of a second. During a leap second there are
more than a billion of these. -/
structure Instant where
  seconds : Int
  nanos : Nat
deriving DecidableEq

namespace Instant

def epoch : Instant := ⟨0, 0⟩

def firstYear : Int := -262143
def lastYear : Int := 262142

def inRange (seconds : Int) : Bool :=
  let year := (Calendar.dateOf (seconds / 86400)).year
  firstYear ≤ year && year ≤ lastYear

def ofMillis? (millis : Int) : Option Instant :=
  let seconds := millis / 1000
  if inRange seconds then some ⟨seconds, (millis % 1000).toNat * 1000000⟩ else none

/-! ### Reading -/

def skipBlanks (text : List Char) : List Char := text.dropWhile Text.isBlank

def digits? (most : Option Nat) (text : List Char) : Option (Nat × List Char) :=
  let all := text.takeWhile Char.isDigit
  let taken := match most with
    | some most => all.take most
    | none => all
  match Text.decimal? taken with
  | some n => some (n, text.drop taken.length)
  | none => none

def number? (most : Nat) (text : List Char) : Option (Nat × List Char) := digits? (some most) (skipBlanks text)

def year? (text : List Char) : Option (Int × List Char) :=
  match skipBlanks text with
  | '-' :: rest => (digits? none rest).map fun (n, rest) => (-(n : Int), rest)
  | '+' :: rest => (digits? none rest).map fun (n, rest) => ((n : Int), rest)
  | rest => (digits? (some 4) rest).map fun (n, rest) => ((n : Int), rest)

def mark? (c : Char) (text : List Char) : Option (List Char) :=
  match skipBlanks text with
  | d :: rest => if d = c then some rest else none
  | [] => none

def fraction? : List Char → Option (Nat × List Char)
  | '.' :: rest =>
    (digits? (some 9) rest).map fun (n, after) =>
      (n * Nat.pow 10 (9 - (rest.length - after.length)), after.dropWhile Char.isDigit)
  | rest => some (0, rest)

def offset? (text : List Char) : Option (Int × List Char) := do
  match text with
  | 'Z' :: rest | 'z' :: rest => return (0, rest)
  | sign :: rest =>
    if (text.take 3).map Char.toUpper = ['U', 'T', 'C'] then return (0, text.drop 3)
    let negative ← if sign = '+' then some false else if sign = '-' || sign = '−' then some true else none
    let hours ← Text.decimal? (rest.take 2)
    if (rest.take 2).length < 2 then none
    else
      let rest := (rest.drop 2).dropWhile fun c => c == ':' || Text.isBlank c
      let minutes ← Text.decimal? (rest.take 2)
      if (rest.take 2).length < 2 || minutes > 59 then none
      else
        let seconds : Int := hours * 3600 + minutes * 60
        if seconds ≥ 86400 then none
        else return (if negative then -seconds else seconds, rest.drop 2)
  | [] => none

def parse? (text : String) : Option Instant := do
  let (year, rest) ← year? text.toList
  let (month, rest) ← number? 2 (← mark? '-' rest)
  let (day, rest) ← number? 2 (← mark? '-' rest)
  let date : Calendar.Date := ⟨year, month, day⟩
  let rest ← match rest with
    | 't' :: rest | 'T' :: rest | ' ' :: rest => some rest
    | _ => none
  let (hour, rest) ← number? 2 rest
  let (minute, rest) ← number? 2 (← mark? ':' rest)
  let (second, rest) ← number? 2 (← mark? ':' rest)
  let (nanos, rest) ← fraction? rest
  let (offset, rest) ← offset? (skipBlanks rest)
  if !(skipBlanks rest).isEmpty then none
  else if !date.exist || year < firstYear || year > lastYear || hour > 23 || minute > 59 || second > 60 then none
  else
    let leap := second == 60
    let local_ := Calendar.daysOf date * 86400 + hour * 3600 + minute * 60 + (if leap then 59 else second)
    let seconds := local_ - offset
    if inRange seconds then some ⟨seconds, if leap then nanos + 1000000000 else nanos⟩ else none

/-! ### Writing -/

def two (n : Nat) : String := Text.padLeft '0' 2 (toString n)

def yearText (year : Int) : String :=
  let digits := Text.padLeft '0' 4 (toString year.natAbs)
  if 0 ≤ year && year ≤ 9999 then digits else (if year < 0 then "-" else "+") ++ digits

def fractionText (nanos : Nat) : String :=
  if nanos = 0 then ""
  else if nanos % 1000000 = 0 then "." ++ Text.padLeft '0' 3 (toString (nanos / 1000000))
  else if nanos % 1000 = 0 then "." ++ Text.padLeft '0' 6 (toString (nanos / 1000))
  else "." ++ Text.padLeft '0' 9 (toString nanos)

variable (instant : Instant)

def date : Calendar.Date := Calendar.dateOf (instant.seconds / 86400)

def clock : Nat × Nat × Nat :=
  let second := (instant.seconds % 86400).toNat
  (second / 3600, second / 60 % 60, second % 60 + (if instant.nanos ≥ 1000000000 then 1 else 0))

def dateText : String :=
  let date := instant.date
  yearText date.year ++ "-" ++ two date.month ++ "-" ++ two date.day

def clockText : String :=
  let (hour, minute, second) := instant.clock
  two hour ++ ":" ++ two minute ++ ":" ++ two second

def text : String :=
  instant.dateText ++ "T" ++ instant.clockText ++ fractionText (instant.nanos % 1000000000) ++ "Z"

end Instant

end SqlLens
