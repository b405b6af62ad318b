import SqlLens.Text.Span

/-!
Line and character positions, as editors count them.

Lines and characters are numbered from zero. A character is one byte of the line, so `offset?` and `at?` only add and
subtract line lengths.
-/

namespace SqlLens

/-- A place in a text: a line, and a number of bytes from its start. -/
structure Position where
  line : Nat
  character : Nat
deriving DecidableEq

inductive PositionError where
  | lineOutOfRange (line lines : Nat)
deriving DecidableEq

def PositionError.message : PositionError → String
  | .lineOutOfRange line lines =>
    "line " ++ toString line ++ " is out of range (document has " ++ toString lines ++ " lines)"

namespace Position

def lineStart? : List (List Char) → Nat → Option Nat
  | [], _ => none
  | _ :: _, 0 => some 0
  | line :: rest, n + 1 => (lineStart? rest n).map (Text.byteLength line + 1 + ·)

/-- The byte offset of a position. The character is added as it is, so one past the end of its line gives an offset in
a later line, or past the text. -/
def offset? (text : String) (position : Position) : Except PositionError Nat :=
  let lines := Text.lines text.toList
  match lineStart? lines position.line with
  | some start => .ok (start + position.character)
  | none => .error (.lineOutOfRange position.line lines.length)

/-- The position of an offset counted from the start of the first of the given lines. -/
def within? (line : Nat) : List (List Char) → Nat → Option Position
  | [], _ => none
  | content :: rest, offset =>
    if offset < Text.byteLength content + 1 then some ⟨line, offset⟩
    else within? (line + 1) rest (offset - (Text.byteLength content + 1))

/-- The position of a byte offset. An offset right after a line feed is the start of the next line; there is none past
the end of the text. -/
def at? (text : String) (offset : Nat) : Option Position := within? 0 (Text.lines text.toList) offset

end Position

end SqlLens
