import SqlLens.Text.Basic

/-!
Stretches of a source text.

A `Span` runs from its first byte to the offset just past its last byte. It contains an offset when the offset lies
between the two ends, both included, so a cursor that rests between two neighbouring tokens belongs to both.
-/

namespace SqlLens

structure Span where
  start : Nat
  stop : Nat
  ordered : start ≤ stop
deriving DecidableEq

namespace Span

def of? (start stop : Nat) : Option Span :=
  if ordered : start ≤ stop then some ⟨start, stop, ordered⟩ else none

def upTo (start stop : Nat) : Span := ⟨start, max start stop, Nat.le_max_left start stop⟩

def empty (offset : Nat) : Span := ⟨offset, offset, Nat.le_refl offset⟩

def whole (text : String) : Span := ⟨0, Text.size text, Nat.zero_le _⟩

variable (span : Span)

def contains (offset : Nat) : Bool := span.start ≤ offset && offset ≤ span.stop

def width : Nat := span.stop - span.start

def cover (a b : Span) : Span :=
  ⟨min a.start b.start, max a.stop b.stop,
    Nat.le_trans (Nat.min_le_left _ _) (Nat.le_trans a.ordered (Nat.le_max_left _ _))⟩

def coverAll : List Span → Option Span
  | [] => none
  | span :: rest => some (rest.foldl cover span)

def slice? (text : String) : Option String := do
  let (_, after) ← Text.splitAtByte text.toList span.start
  let (piece, _) ← Text.splitAtByte after (span.stop - span.start)
  return String.ofList piece

def render : String := toString span.start ++ ".." ++ toString span.stop

end Span

end SqlLens
