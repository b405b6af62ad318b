import SqlLens.Proofs.Token.Layout
import SqlLens.Text.Position

/-!
Offsets and positions lead to each other.

Every offset of a text has a position that leads back to it. Of all positions that lead there, it is the one that is not
beyond the end of its line (`offsets_and_positions_correspond`). Lines and characters are never greater than the offset
they stand for, since each line before it takes up a byte at least.
-/

namespace SqlLens

open Text

def Text.linesLength : List (List Char) → Nat
  | [] => 0
  | line :: rest => byteLength line + 1 + linesLength rest

theorem Text.linesLength_lines (text : List Char) : linesLength (lines text) = byteLength text + 1 := by
  induction text with
  | nil => rfl
  | cons c rest ih =>
    obtain ⟨first, others, cut⟩ := List.exists_cons_of_ne_nil (lines_ne_nil rest)
    rw [cut] at ih
    rw [lines, splitOn, ← lines, cut]
    by_cases feed : c = '\n'
    · have one : c.utf8Size = 1 := by rw [feed]; rfl
      rw [if_pos feed, linesLength, ih]
      simp only [byteLength, one]
      omega
    · rw [if_neg feed]
      simp only [linesLength, byteLength] at ih ⊢
      omega

namespace Position

variable {line character offset : Nat} {content : List Char} {rest lines : List (List Char)}

theorem lineStart_isSome_iff : (lineStart? lines line).isSome ↔ line < lines.length := by
  induction lines generalizing line with
  | nil => simp [lineStart?]
  | cons content rest ih =>
    cases line with
    | zero => simp [lineStart?]
    | succ line => simpa [lineStart?] using ih

/-- The position is in one of the lines, at most at its end. -/
def Fits (lines : List (List Char)) (position : Position) : Prop :=
  ∃ content ∈ lines[position.line]?, position.character ≤ byteLength content

/-- The position fits and stands for the offset. -/
def Marks (lines : List (List Char)) (position : Position) (offset : Nat) : Prop :=
  Fits lines position ∧ ∃ start, lineStart? lines position.line = some start ∧ start + position.character = offset

theorem marks_zero : Marks (content :: rest) ⟨0, character⟩ offset ↔
    character = offset ∧ offset < byteLength content + 1 := by
  simp only [Marks, Fits, List.getElem?_cons_zero, lineStart?, Option.mem_def, Option.some.injEq]
  grind

theorem marks_succ : Marks (content :: rest) ⟨line + 1, character⟩ offset ↔
    byteLength content + 1 ≤ offset ∧ Marks rest ⟨line, character⟩ (offset - (byteLength content + 1)) := by
  simp only [Marks, Fits, List.getElem?_cons_succ, lineStart?, Option.mem_def, Option.map_eq_some_iff]
  grind

theorem Marks.bounds (marks : Marks lines ⟨line, character⟩ offset) : line ≤ offset ∧ character ≤ offset := by
  induction lines generalizing line offset with
  | nil => simp [Marks, Fits] at marks
  | cons content rest ih =>
    cases line with
    | zero =>
      have here := marks_zero.mp marks
      omega
    | succ line =>
      obtain ⟨later, inRest⟩ := marks_succ.mp marks
      have bounds := ih inRest
      omega

theorem within_eq_some_iff (first : Nat) : within? first lines offset = some position ↔
    ∃ line, position.line = first + line ∧ Marks lines ⟨line, position.character⟩ offset := by
  induction lines generalizing first offset with
  | nil => simp [within?, Marks, Fits]
  | cons content rest ih =>
    rw [within?]
    split
    · rename_i here
      constructor
      · rintro ⟨⟩
        exact ⟨0, rfl, marks_zero.mpr ⟨rfl, here⟩⟩
      · rintro ⟨line, placed, marks⟩
        cases line with
        | zero =>
          obtain ⟨same, -⟩ := marks_zero.mp marks
          rw [← same, ← show position.line = first from placed]
        | succ line =>
          have later := (marks_succ.mp marks).1
          omega
    · rename_i later
      rw [ih]
      constructor
      · rintro ⟨line, placed, marks⟩
        exact ⟨line + 1, by omega, marks_succ.mpr ⟨by omega, marks⟩⟩
      · rintro ⟨line, placed, marks⟩
        cases line with
        | zero => exact absurd (marks_zero.mp marks).2 later
        | succ line => exact ⟨line, by omega, (marks_succ.mp marks).2⟩

theorem within_eq_none_iff (first : Nat) : within? first lines offset = none ↔ linesLength lines ≤ offset := by
  induction lines generalizing first offset with
  | nil => simp [within?, linesLength]
  | cons content rest ih =>
    rw [within?, linesLength]
    split
    · simp only [reduceCtorEq, false_iff]
      omega
    · rw [ih]
      omega

theorem offset_eq_ok_iff : offset? text position = .ok offset ↔
    ∃ start, lineStart? (Text.lines text.toList) position.line = some start ∧ start + position.character = offset := by
  grind [offset?]

theorem at_eq_some_iff : at? text offset = some position ↔
    Fits (Text.lines text.toList) position ∧ offset? text position = .ok offset := by
  rw [at?, within_eq_some_iff, offset_eq_ok_iff]
  simp [Marks]

theorem at_isSome_iff : (at? text offset).isSome ↔ offset ≤ size text := by
  rw [Option.isSome_iff_ne_none, at?, ne_eq, within_eq_none_iff, linesLength_lines, Nat.not_le]
  exact Nat.lt_succ_iff

theorem le_of_at (found : at? text offset = some position) : position.line ≤ offset ∧ position.character ≤ offset := by
  obtain ⟨fits, leads⟩ := at_eq_some_iff.mp found
  exact Marks.bounds ⟨fits, offset_eq_ok_iff.mp leads⟩

theorem at_spec (inside : offset ≤ size text) :
    ∃ position, at? text offset = some position ∧ offset? text position = .ok offset ∧
      position.line ≤ offset ∧ position.character ≤ offset := by
  obtain ⟨position, found⟩ := Option.isSome_iff_exists.mp (at_isSome_iff.mpr inside)
  exact ⟨position, found, (at_eq_some_iff.mp found).2, le_of_at found⟩

end Position

open Position in
/-- The offsets of a text and the positions that fit its lines lead to each other. What does not lead anywhere is a
position in a line that the text does not have. -/
theorem offsets_and_positions_correspond (text : String) (short : size text < UInt32.size) :
    (∀ offset, (at? text offset).isSome = true ↔ offset ≤ size text) ∧
    (∀ offset position, at? text offset = some position ↔
      Fits (lines text.toList) position ∧ offset? text position = .ok offset) ∧
    (∀ offset position, at? text offset = some position → position.line < UInt32.size ∧
      position.character < UInt32.size) ∧
    (∀ position, Fits (lines text.toList) position → ∃ offset ≤ size text, offset? text position = .ok offset) ∧
    ∀ position error, offset? text position = .error error ↔ (lines text.toList).length ≤ position.line ∧
      error = .lineOutOfRange position.line (lines text.toList).length := by
  have begins (line : Nat) := @lineStart_isSome_iff line (lines text.toList)
  have inside {offset position} (found : at? text offset = some position) : offset ≤ size text :=
    at_isSome_iff.mp (Option.isSome_iff_exists.mpr ⟨position, found⟩)
  refine ⟨fun _ => at_isSome_iff, fun _ _ => at_eq_some_iff, fun offset position found => ?_, fun position fits => ?_,
    fun position error => ?_⟩
  · have bounds := le_of_at found
    have within := inside found
    omega
  · have ⟨content, line, _⟩ := fits
    obtain ⟨start, begins⟩ := Option.isSome_iff_exists.mp ((begins _).mpr (List.getElem?_eq_some_iff.mp line).1)
    have leads := offset_eq_ok_iff.mpr ⟨start, begins, rfl⟩
    exact ⟨_, inside (at_eq_some_iff.mpr ⟨fits, leads⟩), leads⟩
  · grind [offset?]

/-- An empty line after one that ends with a carriage return. -/
theorem carriage_return_positions : size "a\r\n\nb" < UInt32.size ∧ Position.at? "a\r\n\nb" 3 = some ⟨1, 0⟩ ∧
    Position.offset? "a\r\n\nb" ⟨1, 0⟩ = .ok 3 := by
  have short : size "a\r\n\nb" < UInt32.size := by decide
  have found : Position.at? "a\r\n\nb" 3 = some ⟨1, 0⟩ := by decide
  exact ⟨short, found, (((offsets_and_positions_correspond _ short).2.1 3 ⟨1, 0⟩).mp found).2⟩

end SqlLens
