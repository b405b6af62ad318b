import SqlLens.Text.Basic

/-!
Addresses of hosts as numbers.

An address of 32 bits is written as up to four numbers with dots between them, the last of which fills all bytes that
are left; a number may be octal or hexadecimal. An address of 128 bits is written as eight hexadecimal numbers with
colons between them; two colons stand for one or more zeros, and the last two numbers may be written as four decimal
ones.
-/

namespace SqlLens.Uri

def numeral? (base : Nat) (digits : List Char) : Option Nat := do
  let values ← digits.mapM Text.digitValue
  if values.all (· < base) then some (Text.ofDigits base values) else none

namespace Address4

def number? : List Char → Option Nat
  | [] => none
  | '0' :: 'x' :: digits | '0' :: 'X' :: digits => numeral? 16 digits
  | '0' :: d :: digits => numeral? 8 (d :: digits)
  | digits => numeral? 10 digits

def parts (text : List Char) : List (List Char) :=
  match (Text.splitOn '.' text).reverse with
  | [] :: part :: rest => (part :: rest).reverse
  | all => all.reverse

def endsInNumber (text : List Char) : Bool :=
  match (parts text).getLast? with
  | some last => (!last.isEmpty && last.all Char.isDigit) || (number? last).isSome
  | none => false

def parse? (text : List Char) : Option Nat := do
  let numbers ← (parts text).mapM number?
  match numbers.reverse with
  | last :: others =>
    if others.length ≤ 3 && last < Nat.pow 256 (4 - others.length) && others.all (· < 256) then
      let front := Text.ofDigits 256 others.reverse
      return front * Nat.pow 256 (4 - others.length) + last
    else none
  | [] => none

def text (value : Nat) : String :=
  Text.join "." ([value / 16777216 % 256, value / 65536 % 256, value / 256 % 256, value % 256].map toString)

end Address4

namespace Address6

def byte? (digits : List Char) : Option Nat := do
  match digits with
  | '0' :: _ :: _ => none
  | _ =>
    let value ← Text.decimal? digits
    if value < 256 then some value else none

def tail? (text : List Char) : Option (List Nat) := do
  match ← (Text.splitOn '.' text).mapM byte? with
  | [a, b, c, d] => return [a * 256 + b, c * 256 + d]
  | _ => none

/-- Reads numbers behind those before them. `gap` is the place where zeros are filled in. Fuel bounds their count. -/
def numbers : Nat → (before : List Nat) → (gap : Option Nat) → List Char → Option (List Nat × Option Nat)
  | _, before, gap, [] => some (before, gap)
  | 0, _, _, _ => none
  | fuel + 1, before, gap, c :: rest =>
    if before.length = 8 then none
    else if c = ':' then
      if gap.isSome then none else numbers fuel (before ++ [0]) (some (before.length + 1)) rest
    else
      let digits := ((c :: rest).take 4).takeWhile fun d => (Text.digitValue d).isSome
      let value := Text.ofDigits 16 (digits.filterMap Text.digitValue)
      match (c :: rest).drop digits.length with
      | [] => some (before ++ [value], gap)
      | '.' :: _ =>
        if digits.isEmpty || 6 < before.length then none
        else (tail? (c :: rest)).map fun last => (before ++ last, gap)
      | [':'] => none
      | ':' :: more => numbers fuel (before ++ [value]) gap more
      | _ => none

def fill : List Nat × Option Nat → Option (List Nat)
  | (all, none) => if all.length = 8 then some all else none
  | (all, some gap) => some (all.take gap ++ List.replicate (8 - all.length) 0 ++ all.drop gap)

def parse? (text : List Char) : Option (List Nat) := do
  match text with
  | ':' :: ':' :: rest => fill (← numbers (rest.length + 1) [0] (some 1) rest)
  | ':' :: _ => none
  | _ => fill (← numbers (text.length + 1) [] none text)

def zeros (pieces : List Nat) : Nat := (pieces.takeWhile (· = 0)).length

def longestRun (pieces : List Nat) : Nat × Nat :=
  (List.range pieces.length).foldl (fun best start =>
    let length := zeros (pieces.drop start)
    if best.2 < length then (start, length) else best) (0, 0)

def text (pieces : List Nat) : String :=
  let shown (part : List Nat) : String := Text.join ":" (part.map Text.hex)
  let (start, length) := longestRun pieces
  if length < 2 then shown pieces
  else shown (pieces.take start) ++ "::" ++ shown (pieces.drop (start + length))

end Address6

end SqlLens.Uri
