import SqlLens.Proofs.Analysis.Blame
import SqlLens.Proofs.Script.ErrorLocation
import SqlLens.Proofs.Text.Position
import SqlLens.Proofs.Workspace.Unavailable

/-!
Diagnostics are shown where they are.

A problem with reading is placed at a token, at a location of the text or at the end of a statement
(`Script.problem_stop_le`), a failure to resolve at something that was read, and a warning at the name of a table. None
goes past the end of the text. So both ends of every span have positions that lead back to them
(`file_diagnostics_placed`).
-/

namespace SqlLens

open Text (size byteLength)
open List
open SqlLens.Analysis (EndsBy TreeEndsBy Lookup)

/-! ### Problems with reading -/

namespace Script

variable {text : String} {chunk : List Lexeme} {first : Piece} {others : List Piece} {problem : Problem}

theorem tokenSpan_stop_le (tokens : ∀ piece ∈ pieces, piece.span.stop ≤ limit) (inside : offset ≤ limit) :
    (tokenSpan pieces offset).stop ≤ limit := by
  unfold tokenSpan
  split
  · rename_i piece found
    exact tokens piece (mem_of_find?_eq_some found)
  · exact inside

theorem splitLocation_le (split : splitLocation (LineIndex.of text.toList) message = (rest, some offset)) :
    offset ≤ size text := by
  rcases splitLocation_eq (LineIndex.of text.toList) message with same | ⟨kept, location, cut, -⟩
  · cases split ▸ same
  · cases split ▸ cut
    exact offset_le_size _ _

theorem malformedAt_stop_le {pieces : List Piece} {span : Span} {failure : Grammar.Failure}
    (tokens : ∀ piece ∈ pieces, piece.span.stop ≤ size text) (covers : span.stop ≤ size text) :
    (malformedAt (LineIndex.of text.toList) pieces span failure).span.stop ≤ size text := by
  unfold malformedAt
  extract_lets message
  rcases split : splitLocation (LineIndex.of text.toList) message.toList with ⟨rest, _ | offset⟩
  · exact covers
  · exact tokenSpan_stop_le tokens (splitLocation_le split)

/-- A chunk that is not a query has its problem at one of its tokens, or at a location or the end of the chunk. -/
theorem query_problem_stop_le (tokens : ∀ piece ∈ first :: others, piece.span.stop ≤ size text)
    (covers : (extent first others).stop ≤ size text)
    (failed : query (LineIndex.of text.toList) chunk first others = .error problem) :
    problem.span.stop ≤ size text := by
  unfold query at failed
  split at failed
  · cases failed
    exact malformedAt_stop_le tokens covers
  · split at failed
    · cases failed
      exact tokenSpan_stop_le tokens (offset_le_size _ _)
    · split at failed
      · cases failed
      · cases failed
        exact tokens first mem_cons_self

theorem outcome_problem_stop_le (laid : Laid 0 (size text) chunk)
    (failed : outcome (LineIndex.of text.toList) chunk = some (.error problem)) :
    problem.span.stop ≤ size text := by
  unfold outcome at failed
  split at failed
  · cases failed
  · rename_i first others cut
    obtain ⟨-, -, covers⟩ := @laid_solid _ _ _ laid _ _ cut (extent first others) rfl
    have tokens : ∀ piece ∈ first :: others, piece.span.stop ≤ size text := fun piece listed =>
      Nat.le_trans ((site laid cut []).token piece listed).2 covers
    have tree := Option.some.inj failed
    unfold statementTree at tree
    cases read : query (LineIndex.of text.toList) chunk first others with
    | error own =>
      rw [read] at tree
      cases tree
      exact query_problem_stop_le tokens covers read
    | ok source =>
      rw [read] at tree
      change (Surface.Node.ofQuery source (first :: others) (extent first others)).mapError
        (unsupportedAt first) = _ at tree
      cases built : Surface.Node.ofQuery source (first :: others) (extent first others) with
      | ok node =>
        rw [built] at tree
        cases tree
      | error construct =>
        rw [built] at tree
        cases tree
        have lies := (ofQuery_sound read laid cut).2 construct built
        change (construct.span.getD first.span).stop ≤ _
        cases own : construct.span with
        | none => exact tokens first mem_cons_self
        | some span => exact Nat.le_trans (lies span own).2 covers

theorem mem_problemsOf {α : Type} {results : List (Except Problem α)} (listed : problem ∈ problemsOf results) :
    .error problem ∈ results := by
  induction results with
  | nil => cases listed
  | cons result rest ih =>
    cases result with
    | ok one => exact mem_cons_of_mem _ (ih listed)
    | error own =>
      rcases mem_cons.mp listed with rfl | later
      · exact mem_cons_self
      · exact mem_cons_of_mem _ (ih later)

theorem problem_stop_le (listed : problem ∈ (read text).problems) : problem.span.stop ≤ size text := by
  cases scanned : scan text with
  | error error =>
    rw [read, scanned] at listed
    rw [mem_singleton.mp listed]
    unfold scan at scanned
    dsimp only at scanned
    split at scanned
    · cases scanned
    · cases scanned
      exact offset_le_size _ _
  | ok lexemes =>
    rw [(read_of_scan scanned).2.2] at listed
    obtain ⟨chunk, split, failed⟩ := mem_filterMap.mp (mem_problemsOf listed)
    exact outcome_problem_stop_le ((laid_of_scan scanned).sublist (sublist_of_mem_chunks split)) failed

theorem tree_endsBy (text : String) : TreeEndsBy (size text) (read text).tree := fun below reached span own =>
  ((tree_sound text).nests below reached span own).1.2

end Script

/-! ### Diagnostics -/

theorem Artifact.analyze_endsBy {text : String} {diagnostic : Diagnostic}
    (given : diagnostic ∈ (Artifact.analyze text tables).diagnostics) : EndsBy (size text) diagnostic.span := by
  unfold analyze build at given
  simp only [append_nil] at given
  rcases mem_append.mp given with read | resolved
  · obtain ⟨problem, listed, rfl⟩ := mem_map.mp read
    intro span own
    have same : problem.span = span := by
      cases problem <;> exact Option.some.inj own
    exact same ▸ Script.problem_stop_le listed
  · obtain ⟨result, listed, made⟩ := mem_filterMap.mp resolved
    cases result with
    | ok statement => cases made
    | error failure =>
      cases made
      exact Analysis.statements_blame (fun _ inside => (Script.tree_endsBy text).child inside) listed

namespace Desk

theorem warnings_endBy {desk : Desk} (given : diagnostic ∈ desk.warnings) :
    EndsBy (size desk.text) diagnostic.span := by
  obtain ⟨path, listed, made⟩ := mem_filterMap.mp given
  obtain ⟨error, -, rfl⟩ := Option.map_eq_some_iff.mp made
  obtain ⟨reference, found, own⟩ := Option.bind_eq_some_iff.mp (Surface.Node.tablePaths_first listed)
  obtain ⟨below, inside, named⟩ := mem_filterMap.mp (mem_of_find?_eq_some found)
  rw [Surface.Node.descendants_eq] at inside
  obtain ⟨node, listed, reached⟩ := Surface.Node.mem_preorderAll.mp inside
  have ends : TreeEndsBy (size desk.text) below := fun deeper further =>
    ((Script.tree_endsBy desk.text).child listed) deeper (Surface.Node.preorder_trans node reached further)
  have source := Surface.Node.sourcePath_of_tableReference named
  unfold Surface.Node.sourcePath? at source
  split at source
  · exact own ▸ (ends.child (mem_of_find?_eq_some source)).span
  · cases source

theorem report_endsBy {desk : Desk} {diagnostic : Diagnostic} (given : diagnostic ∈ desk.report.diagnostics) :
    EndsBy (size desk.text) diagnostic.span := by
  rw [report_diagnostics] at given
  rcases mem_append.mp given with plain | warning
  · exact Artifact.analyze_endsBy (mem_filter.mp plain).1
  · exact warnings_endBy warning

end Desk

namespace Editor

/-- An editor counts lines and characters up to here. -/
def countLimit : Nat := 2 ^ 32

/-- The position is that of an offset, not the start of the document in its place: it leads back to the offset, and
an editor can count to it. -/
structure Leads (text : String) (position : Position) (offset : Nat) : Prop where
  found : Position.at? text offset = some position
  back : Position.offset? text position = .ok offset
  line : position.line < countLimit
  character : position.character < countLimit

theorem leads_positionOf (inside : offset ≤ size text) (short : size text < countLimit) :
    Leads text (positionOf text offset) offset := by
  obtain ⟨position, found, back, line, character⟩ := Position.at_spec inside
  rw [positionOf, found]
  exact ⟨found, back, by simp only [Option.getD_some]; omega, by simp only [Option.getD_some]; omega⟩

/-- A diagnostic that has a span has it within the text, and is shown there. -/
structure Placed (text : String) (diagnostic : Diagnostic) : Prop where
  inside : ∀ span ∈ diagnostic.span, span.start ≤ span.stop ∧ span.stop ≤ size text
  starts : ∀ span ∈ diagnostic.span, Leads text (Marker.of text diagnostic).range.start span.start
  stops : ∀ span ∈ diagnostic.span, Leads text (Marker.of text diagnostic).range.stop span.stop

theorem placed_of_endsBy (short : size text < countLimit) (ends : EndsBy (size text) diagnostic.span) :
    Placed text diagnostic := by
  have range (span : Span) (own : span ∈ diagnostic.span) :
      (Marker.of text diagnostic).range = ⟨positionOf text span.start, positionOf text span.stop⟩ := by
    rw [Marker.of, Option.mem_def.mp own]
    rfl
  refine ⟨fun span own => ⟨span.ordered, ends span own⟩, fun span own => ?_, fun span own => ?_⟩
  · rw [range span own]
    exact leads_positionOf (Nat.le_trans span.ordered (ends span own)) short
  · rw [range span own]
    exact leads_positionOf (ends span own) short

end Editor

/-- Whatever is wrong with a text, and whatever becomes of its tables, each diagnostic of its file that has a span has
it within the text, and the positions at which an editor shows it lead back to the ends of the span. -/
theorem file_diagnostics_placed (desk : Desk) (sound : desk.Sound) (short : Text.size desk.text < Editor.countLimit) :
    (∀ tables, ∀ diagnostic ∈ (Artifact.analyze desk.text tables).diagnostics, Editor.Placed desk.text diagnostic) ∧
      ∀ uri ticket, ∃ artifact after, (parseFile uri ticket).atDesk desk = (.ok artifact, after) ∧
        artifact.text = desk.text ∧ ∀ diagnostic ∈ artifact.diagnostics, Editor.Placed desk.text diagnostic := by
  refine ⟨fun tables diagnostic given => Editor.placed_of_endsBy short (Artifact.analyze_endsBy given),
    fun uri ticket => ?_⟩
  cases current : desk.isCurrent with
  | false =>
    exact ⟨_, _, desk.parseFile_made current uri ticket, rfl, fun diagnostic given =>
      Editor.placed_of_endsBy short (Desk.report_endsBy given)⟩
  | true =>
    obtain ⟨kept, given, own⟩ : ∃ kept, desk.kept = some kept ∧ kept.isCurrent desk.text = true := by
      simpa [Desk.isCurrent, Option.any_eq_true] using current
    obtain ⟨outcomes, -, rfl⟩ := sound kept given own
    refine ⟨_, _, Desk.parseFile_kept given own uri ticket, rfl, fun diagnostic listed => ?_⟩
    exact Editor.placed_of_endsBy short (@Desk.report_endsBy (desk.later outcomes) diagnostic listed)

def missingColumn : Desk := .onUsers "-- é\nSELECT x"

/-- The missing column is shown in the second line. -/
theorem missingColumn_placed :
    missingColumn.Sound ∧ Text.size missingColumn.text < Editor.countLimit ∧
      ∃ artifact after, (parseFile ⟨"file:///work/query.sql"⟩ none).atDesk missingColumn = (.ok artifact, after) ∧
        ∃ diagnostic ∈ artifact.diagnostics, ∃ span ∈ diagnostic.span,
          Editor.Leads missingColumn.text ⟨1, 7⟩ span.start := by
  have sound : missingColumn.Sound := by
    rintro kept ⟨⟩
  have short : Text.size missingColumn.text < Editor.countLimit := by decide +kernel
  obtain ⟨artifact, after, parsed, -, placed⟩ :=
    (file_diagnostics_placed missingColumn sound short).2 ⟨"file:///work/query.sql"⟩ none
  have made := missingColumn.parseFile_made rfl ⟨"file:///work/query.sql"⟩ none
  rw [parsed] at made
  cases made
  have shown : missingColumn.report.diagnostics.map (fun diagnostic =>
      (diagnostic.span.isSome, (Editor.Marker.of missingColumn.text diagnostic).range.start)) = [(true, ⟨1, 7⟩)] := by
    decide +kernel
  obtain ⟨diagnostic, listed, same⟩ := List.mem_map.mp (shown ▸ List.mem_singleton_self _)
  obtain ⟨own, start⟩ := Prod.mk.inj same
  obtain ⟨span, own⟩ := Option.isSome_iff_exists.mp own
  exact ⟨sound, short, _, _, parsed, diagnostic, listed, span, own, start ▸ (placed diagnostic listed).starts span own⟩

end SqlLens
