import SqlLens.Text.Basic

/-!
Locations, as syntax errors count them.

A `Location` has a line and a column, both counted from one and the column in characters. `Location.advance` moves it
over one character, and a `LineIndex` leads back to bytes.
-/

namespace SqlLens

structure Location where
  line : Nat
  column : Nat
deriving DecidableEq

namespace Location

def first : Location := ⟨1, 1⟩

def advance (location : Location) (c : Char) : Location :=
  if c = '\n' then ⟨location.line + 1, 1⟩ else ⟨location.line, location.column + 1⟩

def advanceAll (location : Location) (cs : List Char) : Location := cs.foldl advance location

end Location

structure LineIndex where
  lines : List (Nat × List Char)
  size : Nat

namespace LineIndex

def number (start : Nat) : List (List Char) → List (Nat × List Char)
  | [] => []
  | line :: rest => (start, line) :: number (start + Text.byteLength line + 1) rest

def of (text : List Char) : LineIndex := ⟨number 0 (Text.lines text), Text.byteLength text⟩

/-- Number of bytes of the first `n` characters of a line, or of the whole line when it has fewer. -/
def columnOffset : List Char → Nat → Nat
  | [], _ => 0
  | _ :: _, 0 => 0
  | c :: rest, n + 1 => c.utf8Size + columnOffset rest n

/-- The byte offset of a location. A column past the end of its line is the end of the line, and a line that does not
exist is the end of the text. -/
def offset (index : LineIndex) (location : Location) : Nat :=
  match location.line with
  | 0 => index.size
  | line + 1 =>
    match index.lines[line]? with
    | some (start, content) => start + columnOffset content (location.column - 1)
    | none => index.size

end LineIndex

end SqlLens
