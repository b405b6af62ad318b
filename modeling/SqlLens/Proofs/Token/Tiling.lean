import SqlLens.Proofs.Token.Layout
import SqlLens.Token.Shape
import Mathlib.Data.List.Forall2

/-!
The tokens of a text cover it without gaps.

An offset is a boundary of a text when it falls between two of its characters, or at one of its ends (`Text.Boundary`).
Whatever location it is asked for, a line index answers with a boundary (`LineIndex.offset_boundary`). The locations of
the tokens chain: each token ends where the next one starts (`Scan.Chained`). So their spans are laid end to end over
the text (`Tiles`), and the text is what stands under them.
-/

namespace SqlLens

open List
open Text

namespace Text

/-- Whether an offset falls between two characters of a text, or at one of its ends. -/
def Boundary (text : List Char) (offset : Nat) : Prop :=
  ∃ before after, text = before ++ after ∧ offset = byteLength before

theorem Boundary.le {offset : Nat} (boundary : Boundary text offset) : offset ≤ byteLength text := by
  obtain ⟨before, after, rfl, rfl⟩ := boundary
  rw [byteLength_append]
  exact Nat.le_add_right _ _

theorem boundary_end (text : List Char) : Boundary text (byteLength text) := ⟨text, [], by simp, rfl⟩

theorem splitAtByte_append (before after : List Char) :
    splitAtByte (before ++ after) (byteLength before) = some (before, after) := by
  induction before with
  | nil => simp [byteLength, splitAtByte]
  | cons c before ih =>
    have wide := Char.utf8Size_pos c
    obtain ⟨more, same⟩ : ∃ more, byteLength (c :: before) = more + 1 :=
      ⟨byteLength (c :: before) - 1, by simp only [byteLength]; omega⟩
    have fits : c.utf8Size ≤ more + 1 := by rw [← same]; exact Nat.le_add_right _ _
    have left : more + 1 - c.utf8Size = byteLength before := by rw [← same, byteLength]; omega
    rw [same, cons_append, splitAtByte, if_pos fits, left, ih]
    rfl

end Text

theorem Span.slice?_between {span : Span} {text : String} {before own after : List Char}
    (parts : text.toList = before ++ (own ++ after)) (starts : span.start = byteLength before)
    (stops : span.stop = byteLength before + byteLength own) :
    span.slice? text = some (String.ofList own) := by
  have width : span.stop - span.start = byteLength own := by omega
  simp only [slice?, parts, starts, splitAtByte_append, Option.bind_eq_bind, Option.bind_some]
  rw [← starts, width, splitAtByte_append]
  rfl

namespace LineIndex

theorem columnOffset_eq_take (line : List Char) (n : Nat) : columnOffset line n = byteLength (line.take n) := by
  induction line generalizing n with
  | nil => simp [columnOffset, byteLength]
  | cons c line ih =>
    cases n with
    | zero => rfl
    | succ n => simp [columnOffset, byteLength, ih]

theorem prefix_of_lines (cut : Text.lines text = first :: others) :
    first <+: text := by
  induction text generalizing first others with
  | nil =>
    cases cut
    exact nil_prefix
  | cons c rest ih =>
    obtain ⟨next, later, cutRest⟩ := exists_cons_of_ne_nil (Text.lines_ne_nil rest)
    rw [Text.lines, Text.splitOn, ← Text.lines, cutRest] at cut
    split at cut
    · cases cut
      exact nil_prefix
    · cases cut
      exact (prefix_cons_inj c).mpr (ih cutRest)

theorem mem_number_lines {text : List Char} {start index begin : Nat}
    (found : (number start (Text.lines text))[index]? = some (begin, content)) :
    ∃ before after, text = before ++ (content ++ after) ∧ begin = start + byteLength before := by
  induction text generalizing start index with
  | nil =>
    cases index with
    | zero =>
      cases found
      exact ⟨[], [], rfl, rfl⟩
    | succ index => cases found
  | cons c rest ih =>
    obtain ⟨first, others, cut⟩ := exists_cons_of_ne_nil (lines_ne_nil (c :: rest))
    cases index with
    | zero =>
      rw [cut] at found
      cases found
      obtain ⟨after, whole⟩ := prefix_of_lines cut
      exact ⟨[], after, whole.symm, rfl⟩
    | succ index =>
      -- The line stands in the rest of the text as well, where one line less may precede it.
      obtain ⟨next, later, cutRest⟩ := exists_cons_of_ne_nil (lines_ne_nil rest)
      rw [Text.lines, Text.splitOn, ← Text.lines, cutRest] at found
      by_cases feed : c = '\n'
      · rw [if_pos feed, ← cutRest] at found
        obtain ⟨before, after, rfl, rfl⟩ := ih found
        have one : c.utf8Size = 1 := by rw [feed]; rfl
        refine ⟨c :: before, after, rfl, ?_⟩
        simp only [byteLength, one]
        omega
      · rw [if_neg feed] at found
        have there : (number (start + c.utf8Size) (Text.lines rest))[index + 1]? = some (begin, content) := by
          rw [cutRest]
          simpa [number, byteLength, Nat.add_assoc] using found
        obtain ⟨before, after, rfl, rfl⟩ := ih there
        exact ⟨c :: before, after, rfl, by simp only [byteLength]; omega⟩

theorem offset_boundary (text : List Char) (location : Location) :
    Boundary text ((LineIndex.of text).offset location) := by
  unfold offset
  split
  · exact boundary_end text
  · split
    · rename_i begin content found
      obtain ⟨before, after, whole, starts⟩ := mem_number_lines found
      refine ⟨before ++ content.take (location.column - 1), content.drop (location.column - 1) ++ after, ?_, ?_⟩
      · rw [append_assoc, ← append_assoc (content.take _), take_append_drop]
        exact whole
      · rw [byteLength_append, columnOffset_eq_take, starts, Nat.zero_add]
    · exact boundary_end text

end LineIndex

/-! ### Tokens end to end -/

/-- Spans laid end to end from one offset to another. -/
inductive Tiles : Nat → Nat → List Span → Prop
  | nil {offset : Nat} : Tiles offset offset []
  | cons {stop : Nat} {span : Span} {rest : List Span} (later : Tiles span.stop stop rest) :
    Tiles span.start stop (span :: rest)

namespace Scan

/-- Tokens after the characters `before` whose locations chain: the first starts where these characters end, each ends
where the next one starts, and each takes the characters in between. -/
inductive Chained : List Char → List Placed → List Char → Prop
  | nil {before : List Char} : Chained before [] []
  | cons {before own rest : List Char} {one : Placed} {others : List Placed}
    (starts : one.start = Location.first.advanceAll before)
    (stops : one.stop = Location.first.advanceAll (before ++ own))
    (later : Chained (before ++ own) others rest) : Chained before (one :: others) (own ++ rest)

/-- The tokens that are cut from the characters after `before`, of which the first `skip` belong to a token that has
been read. -/
theorem chained_place (before cs : List Char) (skip : Nat)
    (read : place (Location.first.advanceAll before) skip cs = .ok placed) :
    Chained (before ++ cs.take skip) placed (cs.drop skip) := by
  induction cs generalizing before skip placed with
  | nil =>
    cases read
    simpa using Chained.nil
  | cons c rest ih =>
    have moved : (Location.first.advanceAll before).advance c = Location.first.advanceAll (before ++ [c]) := by
      simp [Location.advanceAll]
    cases skip with
    | succ skip =>
      rw [place, moved] at read
      simpa using ih (before ++ [c]) skip read
    | zero =>
      rw [place, moved] at read
      split at read
      · rename_i token n stepped
        split at read
        · rename_i others found
          cases read
          have later := ih (before ++ [c]) n found
          have parts : (c :: rest).drop 0 = (c :: rest.take n) ++ rest.drop n := by simp
          rw [parts, take_zero, append_nil]
          refine .cons rfl ?_ (by simpa using later)
          rw [Location.advanceAll, Location.advanceAll, Location.advanceAll, foldl_append]
        · cases read
      · cases read

/-- The spans of chained tokens are laid end to end, and what stands under them is what they were cut from. -/
theorem Chained.tiles (text : String) {before rest : List Char} {placed : List Placed}
    (chained : Chained before placed rest) (whole : text.toList = before ++ rest) :
    Tiles (byteLength before) (size text)
        ((placed.map (lexeme (LineIndex.of text.toList))).map Lexeme.span) ∧
      ∃ slices : List (List Char),
        Forall₂ (fun lexeme slice => lexeme.span.slice? text = some (String.ofList slice))
          (placed.map (lexeme (LineIndex.of text.toList))) slices ∧ slices.flatten = rest := by
  induction chained with
  | @nil before =>
    have ends : size text = byteLength before := by simp [size, whole]
    rw [ends]
    exact ⟨.nil, [], .nil, rfl⟩
  | @cons before own rest one others starts stops later ih =>
    obtain ⟨tiled, slices, sliced, joined⟩ := ih (by simpa using whole)
    have start : (LineIndex.of text.toList).offset one.start = byteLength before := by
      rw [starts, whole, LineIndex.offset_advanceAll]
    have stop : (LineIndex.of text.toList).offset one.stop = byteLength before + byteLength own := by
      rw [stops, whole, ← append_assoc, LineIndex.offset_advanceAll, byteLength_append]
    have spanStart : (lexeme (LineIndex.of text.toList) one).span.start = byteLength before := start
    have spanStop : (lexeme (LineIndex.of text.toList) one).span.stop = byteLength before + byteLength own := by
      simp only [lexeme, Span.upTo, start, stop]
      omega
    refine ⟨?_, own :: slices, .cons (Span.slice?_between whole spanStart spanStop) sliced, by simp [joined]⟩
    rw [← spanStart]
    refine .cons ?_
    rw [spanStop, ← byteLength_append]
    exact tiled

end Scan

/-! ### Tokens without blanks -/

theorem pieces_of_lexemes (lexemes : List Lexeme) :
    Forall₂ (fun lexeme piece => lexeme.token.shape? = some piece.shape ∧ lexeme.span = piece.span)
      (lexemes.filter (!·.isBlank)) (lexemes.filterMap Lexeme.piece?) := by
  induction lexemes with
  | nil => exact .nil
  | cons lexeme rest ih =>
    cases shaped : lexeme.token.shape? with
    | none =>
      have blank : lexeme.isBlank = true := by
        unfold Token.shape? at shaped
        unfold Lexeme.isBlank
        split at shaped
        all_goals cases shaped
        rename_i blank
        rw [blank]
        rfl
      have none : lexeme.piece? = none := by simp [Lexeme.piece?, shaped]
      simpa [blank, none] using ih
    | some shape =>
      have solid : lexeme.isBlank = false := by
        unfold Lexeme.isBlank
        cases token : lexeme.token
        case blank => simp [token, Token.shape?] at shaped
        all_goals rfl
      have found : lexeme.piece? = some ⟨shape, lexeme.span⟩ := by simp [Lexeme.piece?, shaped]
      rw [filter_cons_of_pos (by simp [solid]), filterMap_cons_some found]
      exact .cons ⟨shaped, rfl⟩ ih

/-- The spans of the tokens of a text are laid end to end, and the strings under them joined are the text. -/
theorem tiles_of_scan (scanned : scan text = .ok lexemes) :
    Tiles 0 (size text) (lexemes.map Lexeme.span) ∧
      ∃ slices, Forall₂ (fun lexeme slice => lexeme.span.slice? text = some slice) lexemes slices ∧
        String.join slices = text := by
  unfold scan at scanned
  dsimp only at scanned
  split at scanned
  · rename_i placed found
    cases scanned
    have chained := Scan.chained_place [] text.toList 0 found
    obtain ⟨tiled, slices, sliced, joined⟩ := chained.tiles text (by simp)
    refine ⟨tiled, slices.map String.ofList, forall₂_map_right_iff.mpr sliced, String.toList_inj.mp ?_⟩
    simpa [String.toList_join, flatMap_map] using joined
  · cases scanned

/-- The location after some characters of a text leads back to their bytes, and any other location to a boundary within
the text. The spans of the tokens of a text are laid end to end from its start to its end, each of them cuts a string
out of it, and these strings joined are the text. The tokens without white space and comments are the others, in
order. -/
theorem token_spans_tile_text (text : String) :
    (∀ before after, text.toList = before ++ after →
      (LineIndex.of text.toList).offset (Location.first.advanceAll before) = Text.byteLength before) ∧
    (∀ location, (LineIndex.of text.toList).offset location ≤ Text.size text ∧
      Text.Boundary text.toList ((LineIndex.of text.toList).offset location)) ∧
    (∀ lexemes, scan text = .ok lexemes →
      Tiles 0 (Text.size text) (lexemes.map Lexeme.span) ∧
      (∃ slices, List.Forall₂ (fun lexeme slice => lexeme.span.slice? text = some slice) lexemes slices ∧
        String.join slices = text) ∧
      ∃ pieces, tokenize text = .ok pieces ∧
        List.Forall₂ (fun lexeme piece => lexeme.token.shape? = some piece.shape ∧ lexeme.span = piece.span)
          (lexemes.filter (!·.isBlank)) pieces) ∧
    ∀ error, scan text = .error error → tokenize text = .error error := by
  refine ⟨fun before after whole => ?_, fun location => ?_, fun lexemes scanned => ?_, fun error failed => ?_⟩
  · rw [whole]
    exact LineIndex.offset_advanceAll before after
  · have boundary := LineIndex.offset_boundary text.toList location
    exact ⟨boundary.le, boundary⟩
  · obtain ⟨tiled, sliced⟩ := tiles_of_scan scanned
    exact ⟨tiled, sliced, lexemes.filterMap Lexeme.piece?, by rw [tokenize, scanned], pieces_of_lexemes lexemes⟩
  · rw [tokenize, failed]

/-- Characters of two bytes and a second line: the location 2:8 lies 13 bytes into the text. A text that cannot be cut
into tokens has none without blanks either. -/
theorem two_lines_tile :
    (LineIndex.of "-- é\nSELECT 'ü'".toList).offset ⟨2, 8⟩ = 13 ∧
    (∃ lexemes, scan "-- é\nSELECT 'ü'" = .ok lexemes ∧ lexemes.length = 4 ∧ Tiles 0 17 (lexemes.map Lexeme.span) ∧
      ∃ slices, List.Forall₂ (fun lexeme slice => lexeme.span.slice? "-- é\nSELECT 'ü'" = some slice) lexemes slices ∧
        String.join slices = "-- é\nSELECT 'ü'") ∧
    ∃ error, scan "SELECT 'ü" = .error error ∧ tokenize "SELECT 'ü" = .error error := by
  obtain ⟨inverts, -, tiles, -⟩ := token_spans_tile_text "-- é\nSELECT 'ü'"
  obtain ⟨-, -, -, fails⟩ := token_spans_tile_text "SELECT 'ü"
  refine ⟨inverts "-- é\nSELECT ".toList "'ü'".toList (by decide), ?_, ?_⟩
  · have four : ((scan "-- é\nSELECT 'ü'").toOption.map List.length) = some 4 := by decide +kernel
    cases scanned : scan "-- é\nSELECT 'ü'" with
    | error error =>
      rw [scanned] at four
      cases four
    | ok lexemes =>
      rw [scanned] at four
      obtain ⟨tiled, sliced, -⟩ := tiles lexemes scanned
      exact ⟨lexemes, rfl, Option.some.inj four, tiled, sliced⟩
  · have none : (scan "SELECT 'ü").toOption.isNone = true := by decide +kernel
    cases scanned : scan "SELECT 'ü" with
    | error error => exact ⟨error, rfl, fails error scanned⟩
    | ok lexemes =>
      rw [scanned] at none
      cases none

end SqlLens
