import SqlLens.Proofs.Token.Tiling
import SqlLens.Script.ErrorLocation
import Mathlib.Data.Nat.Digits.Defs

/-!
Locations are read back from messages.

A message may quote anything, marks of a location included. The last mark is still the one that was written last, since
the rest of a written location has no letter `a` in it (`splitLast_append`), and numbers have no comma.
-/

namespace SqlLens

open List hiding after
open Text (nat64? decimal? digitValue ofDigits trim isBlank)

theorem Text.startsWith_iff (part text : List Char) : startsWith part text ↔ part <+: text := by
  induction part generalizing text with
  | nil => simp [startsWith]
  | cons p ps ih =>
    cases text with
    | nil => simp [startsWith]
    | cons t ts => simp [startsWith, ih, cons_prefix_cons]

section

variable {digits : List Char} (all : ∀ c ∈ digits, c.isDigit)
include all

theorem Text.trim_digits : trim digits = digits := by
  have kept (text : List Char) (all : ∀ c ∈ text, c.isDigit) : text.dropWhile isBlank = text := by
    cases text with
    | nil => rfl
    | cons c rest =>
      have digit := all c mem_cons_self
      refine dropWhile_cons_of_neg ?_
      simp only [Char.isDigit, UInt32.le_iff_toNat_le, Bool.and_eq_true, decide_eq_true_eq] at digit
      obtain ⟨low, high⟩ : 48 ≤ c.toNat ∧ c.toNat ≤ 57 := digit
      simp [isBlank]
      omega
  rw [trim, kept digits all, kept _ (by simpa using all), reverse_reverse]

theorem Text.ofDigits_eq : ofDigits 10 (digits.filterMap digitValue) = Nat.ofDigitChars 10 digits 0 := by
  rw [ofDigits, Nat.ofDigitChars_eq_foldl]
  generalize 0 = start
  induction digits generalizing start with
  | nil => rfl
  | cons c rest ih =>
    obtain ⟨digit, others⟩ := forall_mem_cons.mp all
    have value : digitValue c = some (c.toNat - '0'.toNat) :=
      if_pos (by simpa [Char.isDigit, Char.le_def] using digit)
    simp [value, ih others, Nat.mul_comm]

end

theorem Text.isDigit_toDigits (n : Nat) : ∀ c ∈ Nat.toDigits 10 n, c.isDigit :=
  fun _ listed => Nat.isDigit_of_mem_toDigits (by simp) (by simp) listed

theorem Text.nat64?_toDigits (fits : n < 18446744073709551616) : nat64? (trim (Nat.toDigits 10 n)) = some n := by
  have all := isDigit_toDigits n
  have read : decimal? (Nat.toDigits 10 n) = some n := by
    rw [decimal?, if_neg (by simpa [Nat.toDigits_ne_nil] using all), ofDigits_eq all, Nat.ofDigitChars_ten_toDigits]
  rw [trim_digits all, nat64?]
  · simp [read, fits]
  · intro rest same
    rw [same] at all
    exact absurd (all '+' mem_cons_self) (by decide)

namespace Script

theorem splitLast_eq_some (found : splitLast mark text = some (before, after)) : text = before ++ (mark ++ after) := by
  induction text generalizing before with
  | nil =>
    rw [splitLast] at found
    split at found
    · cases found
      simp_all
    · cases found
  | cons c rest ih =>
    rw [splitLast] at found
    split at found
    · rename_i later
      cases found
      rw [ih later]
      rfl
    · split at found
      · rename_i starts
        cases found
        obtain ⟨after, same⟩ := (Text.startsWith_iff _ _).mp starts
        rw [← same, drop_left]
        rfl
      · cases found

theorem splitLast_eq_none (listed : c ∈ mark) (missing : c ∉ text) : splitLast mark text = none := by
  cases found : splitLast mark text with
  | none => rfl
  | some parts =>
    rw [splitLast_eq_some found] at missing
    exact absurd (mem_append_right _ (mem_append_left _ listed)) missing

/-- The last mark counts, whatever stands before it. -/
theorem splitLast_append {mark : List Char} (last : splitLast (c :: mark) (mark ++ after) = none) :
    splitLast (c :: mark) (before ++ (c :: mark ++ after)) = some (before, after) := by
  induction before with
  | nil =>
    have starts : Text.startsWith (c :: mark) (c :: (mark ++ after)) := (Text.startsWith_iff _ _).mpr ⟨after, rfl⟩
    simp [splitLast, last, starts]
  | cons b rest ih => rw [cons_append, splitLast, ih]

theorem splitFirst_append {mark : List Char} (missing : c ∉ before) :
    splitFirst (c :: mark) (before ++ (c :: mark ++ after)) = some (before, after) := by
  induction before with
  | nil =>
    have starts : Text.startsWith (c :: mark) (c :: (mark ++ after)) := (Text.startsWith_iff _ _).mpr ⟨after, rfl⟩
    simp [splitFirst, starts]
  | cons b rest ih =>
    rw [mem_cons, not_or] at missing
    rw [cons_append, splitFirst, if_neg, ih missing.2, Option.map_some]
    simp [Text.startsWith, missing.1]

theorem not_mem_toDigits (other : c.isDigit = false := by decide) : c ∉ Nat.toDigits 10 n := by
  intro listed
  rw [Text.isDigit_toDigits n c listed] at other
  cases other

theorem lineMark_eq : lineMark = [' ', 'a', 't', ' ', 'L', 'i', 'n', 'e', ':', ' '] := rfl

theorem columnMark_eq : columnMark = [',', ' ', 'C', 'o', 'l', 'u', 'm', 'n', ':', ' '] := rfl

theorem splitLocation_atLocation {location : Location} {index : LineIndex} {message : String}
    (line : location.line < 18446744073709551616) (column : location.column < 18446744073709551616) :
    splitLocation index (message ++ Grammar.atLocation location).toList =
      (message.toList, some (index.offset location)) := by
  have written : (message ++ Grammar.atLocation location).toList =
      message.toList ++ (lineMark ++
        (Nat.toDigits 10 location.line ++ (columnMark ++ Nat.toDigits 10 location.column))) := by
    simp only [Grammar.atLocation, String.toList_append, append_assoc, Nat.toString_eq_ofList_toDigits,
      String.toList_ofList]
    rfl
  have cutLast : splitLast lineMark (message.toList ++ (lineMark ++
      (Nat.toDigits 10 location.line ++ (columnMark ++ Nat.toDigits 10 location.column)))) =
      some (message.toList, Nat.toDigits 10 location.line ++ (columnMark ++ Nat.toDigits 10 location.column)) := by
    rw [lineMark_eq]
    refine splitLast_append ?_
    -- The rest of the mark starts with the only letter of its kind that is left.
    rw [cons_append, splitLast, splitLast_eq_none (c := 'a') (by simp)]
    · simp [Text.startsWith]
    · simp [not_mem_toDigits, columnMark_eq]
  have cutFirst : splitFirst columnMark
      (Nat.toDigits 10 location.line ++ (columnMark ++ Nat.toDigits 10 location.column)) =
      some (Nat.toDigits 10 location.line, Nat.toDigits 10 location.column) := by
    rw [columnMark_eq]
    exact splitFirst_append not_mem_toDigits
  simp only [splitLocation, written, cutLast, cutFirst, Text.nat64?_toDigits line, Text.nat64?_toDigits column]

theorem splitLocation_eq (index : LineIndex) (message : List Char) :
    splitLocation index message = (message, none) ∨ ∃ kept location,
      splitLocation index message = (kept, some (index.offset location)) ∧ kept <+: message ∧ kept ≠ message := by
  unfold splitLocation
  split
  · exact .inl rfl
  · rename_i before rest found
    split
    · exact .inl rfl
    · split
      · have parts := splitLast_eq_some found
        refine .inr ⟨before, _, rfl, ⟨_, parts.symm⟩, fun same => ?_⟩
        simp [same, lineMark_eq] at parts
      · exact .inl rfl

theorem offset_le_size (text : String) (location : Location) :
    (LineIndex.of text.toList).offset location ≤ Text.size text := (LineIndex.offset_boundary text.toList location).le

/-- A location that is written behind a message is cut off it again and found in the text, whatever the message says;
its line and column are numbers of 64 bits. Of any message, either all is kept and no offset is given, or a proper
prefix of it is kept and the offset is one of the text. -/
theorem locations_read_back (text message : String) :
    (∀ location : Location, location.line < 18446744073709551616 → location.column < 18446744073709551616 →
      splitLocation (LineIndex.of text.toList) (message ++ Grammar.atLocation location).toList =
        (message.toList, some ((LineIndex.of text.toList).offset location))) ∧
      (splitLocation (LineIndex.of text.toList) message.toList = (message.toList, none) ∨
        ∃ kept offset, splitLocation (LineIndex.of text.toList) message.toList = (kept, some offset) ∧
          kept <+: message.toList ∧ kept ≠ message.toList ∧ offset ≤ Text.size text) := by
  refine ⟨fun location line column => splitLocation_atLocation line column, ?_⟩
  rcases splitLocation_eq (LineIndex.of text.toList) message.toList with same | ⟨kept, location, cut, parts⟩
  · exact .inl same
  · exact .inr ⟨kept, _, cut, parts.1, parts.2, offset_le_size _ _⟩

end Script

end SqlLens
