import SqlLens.Text.Basic

/-!
Texts of any characters in ASCII letters, digits and hyphens.

The ASCII characters of a text come first, with a hyphen after them. Then each other character is given, in the order of
its code, by the number of steps from the one before: a step goes to the next place in the text, and past its end to the
next code. Numbers are written with 36 digits, the lowest first; a digit below a threshold ends a number, and the
thresholds follow the size of the numbers so far.
-/

namespace SqlLens.Domain.Punycode

def digit (value : Nat) : Char :=
  if value < 26 then Char.ofNat ('a'.toNat + value) else Char.ofNat ('0'.toNat + (value - 26))

def digitValue? (c : Char) : Option Nat :=
  if c.isDigit then some (c.toNat - '0'.toNat + 26)
  else if c.isAlpha then some (c.toLower.toNat - 'a'.toNat)
  else none

def threshold (place bias : Nat) : Nat :=
  if place ≤ bias then 1 else if bias + 26 ≤ place then 26 else place - bias

theorem threshold_pos (place bias : Nat) : 0 < threshold place bias := by
  unfold threshold
  split
  · omega
  · split <;> omega

def settle (delta count : Nat) : Nat × Nat :=
  if 455 < delta then settle (delta / 35) (count + 36) else (delta, count)
termination_by delta
decreasing_by exact Nat.div_lt_self (by omega) (by omega)

def adapt (delta points : Nat) (isFirst : Bool) : Nat :=
  let scaled := if isFirst then delta / 700 else delta / 2
  let (delta, count) := settle (scaled + scaled / points) 0
  count + 36 * delta / (delta + 38)

/-! ### Writing -/

def number (bias place value : Nat) : List Char :=
  let least := threshold place bias
  if value < least then [digit value]
  else digit (least + (value - least) % (36 - least)) :: number bias (place + 36) ((value - least) / (36 - least))
termination_by value
decreasing_by
  have := threshold_pos place bias
  have := Nat.div_le_self (value - threshold place bias) (36 - threshold place bias)
  omega

structure Written where
  output : List Char
  delta : Nat
  bias : Nat
  count : Nat

def pass (basic code : Nat) (state : Written) (c : Char) : Written :=
  if c.toNat < code then { state with delta := state.delta + 1 }
  else if c.toNat = code then
    ⟨state.output ++ number state.bias 36 state.delta, 0, adapt state.delta (state.count + 1) (state.count = basic),
      state.count + 1⟩
  else state

/-- Writes the characters with the given codes, which are in order; `next` is the code after the last one. -/
def writeCodes (text : List Char) (basic : Nat) : (next : Nat) → List Nat → Written → Written
  | _, [], state => state
  | next, code :: codes, state =>
    let reached := { state with delta := state.delta + (code - next) * (state.count + 1) }
    let passed := text.foldl (pass basic code) reached
    writeCodes text basic (code + 1) codes { passed with delta := passed.delta + 1 }

variable (text : List Char)

def codesOf : List Nat :=
  (((text.map Char.toNat).filter (0x80 ≤ ·)).mergeSort).eraseReps

def encode : List Char :=
  let basic := text.filter (·.toNat < 0x80)
  let start := if basic.isEmpty then [] else basic ++ ['-']
  (writeCodes text basic.length 0x80 (codesOf text) ⟨start, 0, 72, basic.length⟩).output

/-! ### Reading -/

def greatest : Nat := 4294967295

def readNumber (bias : Nat) : (place weight sum : Nat) → List Char → Option (Nat × List Char)
  | _, _, _, [] => none
  | place, weight, sum, c :: rest => do
    let value ← digitValue? c
    let sum := sum + value * weight
    let least := threshold place bias
    if greatest < sum then none
    else if value < least then return (sum, rest)
    else if greatest < weight * (36 - least) then none
    else readNumber bias (place + 36) (weight * (36 - least)) sum rest

/-- Reads all numbers and puts their characters into the text. Fuel bounds their count. -/
def readAll : Nat → (bias code place : Nat) → (done : List Char) → List Char → Option (List Char)
  | _, _, _, _, done, [] => some done
  | 0, _, _, _, _, _ => none
  | fuel + 1, bias, code, place, done, digits => do
    let (sum, rest) ← readNumber bias 36 1 place digits
    let length := done.length + 1
    let code := code + sum / length
    let index := sum % length
    if (Char.ofNat code).toNat ≠ code then none
    else
      let bias := adapt (sum - place) length (place = 0)
      readAll fuel bias code (index + 1) (done.take index ++ Char.ofNat code :: done.drop index) rest

def decode? : Option (List Char) :=
  let digits := (text.reverse.takeWhile (· ≠ '-')).reverse
  let basic := text.take (text.length - digits.length - 1)
  let digits := if basic.isEmpty then text else digits
  readAll (digits.length + 1) 72 0x80 0 basic digits

end SqlLens.Domain.Punycode
