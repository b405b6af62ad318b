import SqlLens.Domain.CombiningClass
import SqlLens.Domain.Composite

/-!
One spelling for each text.

A letter with marks can be written as one character or as several. `normalize` takes every composed character apart,
brings the marks into order, and composes again what can be composed.
-/

namespace SqlLens.Domain

/-! ### Syllables of Hangul -/

def firstSyllable : Nat := 0xAC00

def syllableParts? (n : Nat) : Option (Nat × Nat) :=
  if firstSyllable ≤ n && n < firstSyllable + 19 * 21 * 28 then
    let index := n - firstSyllable
    let final := index % 28
    if final = 0 then some (0x1100 + index / (21 * 28), 0x1161 + index / 28 % 21)
    else some (n - final, 0x11A7 + final)
  else none

def syllable? (first second : Nat) : Option Nat :=
  if 0x1100 ≤ first && first < 0x1100 + 19 && 0x1161 ≤ second && second < 0x1161 + 21 then
    some (firstSyllable + ((first - 0x1100) * 21 + (second - 0x1161)) * 28)
  else if firstSyllable ≤ first && first < firstSyllable + 19 * 21 * 28 && (first - firstSyllable) % 28 = 0 &&
      0x11A7 < second && second < 0x11A7 + 28 then
    some (first + (second - 0x11A7))
  else none

/-! ### Taking apart and composing -/

def parts? (n : Nat) : Option (Nat × Nat) := (composites.lookup n).or (syllableParts? n)

def composed? (first second : Nat) : Option Nat :=
  ((composites.find? fun entry => entry.2 == (first, second)).map Prod.fst).or (syllable? first second)

def takeApart : Nat → Nat → List Nat
  | 0, n => [n]
  | fuel + 1, n =>
    match parts? n with
    | some (first, second) => takeApart fuel first ++ [second]
    | none => [n]

/-- Puts a character behind others, which are in reverse, and past the marks of higher classes. -/
def insertMark (c : Char) : List Char → List Char
  | [] => [c]
  | d :: rest =>
    if 0 < combiningClass c && combiningClass c < combiningClass d then d :: insertMark c rest else c :: d :: rest

variable (text : List Char)

def orderMarks : List Char := (text.foldl (fun done c => insertMark c done) []).reverse

/-- Composes what follows a character: `marks` are those after it that did not compose with it, in reverse. -/
def composeFrom (letter : Char) (marks : List Char) : List Char → List Char
  | [] => letter :: marks.reverse
  | c :: rest =>
    let isFree := match marks with
      | [] => true
      | last :: _ => combiningClass last < combiningClass c
    match if isFree then composed? letter.toNat c.toNat else none with
    | some made => composeFrom (Char.ofNat made) marks rest
    | none =>
      if combiningClass c = 0 then letter :: marks.reverse ++ composeFrom c [] rest
      else composeFrom letter (c :: marks) rest

def compose : List Char :=
  let isMarked (c : Char) : Bool := combiningClass c ≠ 0
  match text.dropWhile isMarked with
  | [] => text
  | letter :: rest => text.takeWhile isMarked ++ composeFrom letter [] rest

def normalize : List Char :=
  compose (orderMarks (text.flatMap fun c => (takeApart 8 c.toNat).map Char.ofNat))

end SqlLens.Domain
