import SqlLens.Grammar.Basic

/-!
Reading the location back from a message of the grammar.

A message may quote any part of the source text, so only the last location in it counts.
-/

namespace SqlLens.Script

def splitFirst (mark : List Char) : List Char → Option (List Char × List Char)
  | [] => if mark.isEmpty then some ([], []) else none
  | c :: rest =>
    if Text.startsWith mark (c :: rest) then some ([], (c :: rest).drop mark.length)
    else (splitFirst mark rest).map fun (before, after) => (c :: before, after)

def splitLast (mark : List Char) : List Char → Option (List Char × List Char)
  | [] => if mark.isEmpty then some ([], []) else none
  | c :: rest =>
    match splitLast mark rest with
    | some (before, after) => some (c :: before, after)
    | none => if Text.startsWith mark (c :: rest) then some ([], (c :: rest).drop mark.length) else none

def lineMark : List Char := " at Line: ".toList

def columnMark : List Char := ", Column: ".toList

/-- Cuts the location off a message and gives its offset; a message without a location stays as it is. -/
def splitLocation (index : LineIndex) (message : List Char) : List Char × Option Nat :=
  match splitLast lineMark message with
  | none => (message, none)
  | some (before, after) =>
    match splitFirst columnMark after with
    | none => (message, none)
    | some (line, column) =>
      match Text.nat64? (Text.trim line), Text.nat64? (Text.trim column) with
      | some line, some column => (before, some (index.offset ⟨line, column⟩))
      | _, _ => (message, none)

end SqlLens.Script
