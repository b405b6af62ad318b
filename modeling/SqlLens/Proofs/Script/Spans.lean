import SqlLens.Analysis.Path
import SqlLens.Proofs.Script.Trees

/-!
The spans of a script.

Whatever the text, every span of its tree lies within the text and within the span of its parent, and the names of its
tables are cut at their dots (`Script.tree_sound`): the names of a query are those that its statement spells, and the
statement's tokens lie one behind the other, so that the tree of each statement is sound within its tokens.
-/

namespace SqlLens.Script

open List
open SqlLens.Surface (Node)

theorem tree_sound (text : String) : (read text).tree.Sound (.whole text) := by
  have each : ∀ node ∈ (read text).tree.children, node.Sound (.whole text) := by
    intro node listed
    obtain ⟨lexemes, chunk, first, others, source, scanned, split, cut, read, built⟩ := query_of_mem_children listed
    have laid := (laid_of_scan scanned).sublist (sublist_of_mem_chunks split)
    obtain ⟨-, above, below⟩ := @laid_solid _ _ _ laid _ _ cut (extent first others) rfl
    exact ((ofQuery_sound read laid cut).1 node built).mono ⟨above, below⟩
  rw [tree_eq] at each ⊢
  refine ⟨.mk (fun node listed => (each node listed).nests) fun own same => ?_, .mk (by simp) fun node listed =>
    (each node listed).proper⟩
  cases same
  exact ⟨.refl _, fun child listed => (each child listed).nests.inside⟩

/-- Every span of a script's tree runs forward, ends within the text and covers the spans of the children. So does the
place of every token that is cut from the text, and the stretch from the start of a path to the end of one of its
names. -/
theorem spans_run_forward (text : String) :
    (∀ node ∈ (read text).tree.preorder, ∀ span ∈ node.span,
      span.start ≤ span.stop ∧ span.stop ≤ Text.size text ∧
        ∀ child ∈ node.children, ∀ inner ∈ child.span, span.start ≤ inner.start ∧ inner.stop ≤ span.stop) ∧
    (∀ placed, Scan.place .first 0 text.toList = .ok placed → ∀ one ∈ placed,
      (LineIndex.of text.toList).offset one.start ≤ (LineIndex.of text.toList).offset one.stop) ∧
    ∀ node ∈ (read text).tree.preorder, ∀ part ∈ Analysis.pathParts node, ∀ place ∈ part.2,
      (node.span.map Span.start).getD 0 ≤ place.stop := by
  refine ⟨fun node reached span own => ?_, fun placed cut one listed => ?_, fun node reached part named place at_ => ?_⟩
  · obtain ⟨inside, children⟩ := (tree_sound text).nests node reached span own
    exact ⟨span.ordered, inside.2, children⟩
  · exact Nat.le_of_lt (Scan.offset_start_lt_stop cut listed)
  · cases own : node.span with
    | none => exact Nat.zero_le _
    | some span =>
      -- The names of a path are among its children.
      obtain ⟨child, listed, given⟩ := List.mem_filterMap.mp named
      have same : child.span = part.2 := by
        split at given
        · cases given
          rfl
        · cases given
      have inside := ((tree_sound text).nests node reached span own).2 child listed place (same ▸ at_)
      exact Nat.le_trans inside.1 place.ordered

/-- A query with a qualified name has all of these spans. -/
theorem qualified_name_runs_forward :
    (∃ node ∈ (read "SELECT t.x FROM t").tree.preorder, ∃ span ∈ node.span, ∃ child ∈ node.children,
      ∃ inner ∈ child.span, span.start ≤ inner.start ∧ inner.stop ≤ span.stop ∧ span.stop ≤ 17) ∧
    (∃ placed, Scan.place .first 0 "SELECT t.x FROM t".toList = .ok placed ∧ ∃ one ∈ placed,
      (LineIndex.of "SELECT t.x FROM t".toList).offset one.start ≤
        (LineIndex.of "SELECT t.x FROM t".toList).offset one.stop) ∧
    ∃ node ∈ (read "SELECT t.x FROM t").tree.preorder, ∃ part ∈ Analysis.pathParts node, ∃ place ∈ part.2,
      (node.span.map Span.start).getD 0 ≤ place.stop := by
  obtain ⟨nests, scans, reaches⟩ := spans_run_forward "SELECT t.x FROM t"
  refine ⟨?_, ?_, ?_⟩
  · have found : (read "SELECT t.x FROM t").tree.preorder.any (fun node =>
        node.span.isSome && node.children.any (·.span.isSome)) = true := by decide +kernel
    obtain ⟨node, reached, both⟩ := List.any_eq_true.mp found
    obtain ⟨own, below⟩ := Bool.and_eq_true_iff.mp both
    obtain ⟨span, own⟩ := Option.isSome_iff_exists.mp own
    obtain ⟨child, listed, given⟩ := List.any_eq_true.mp below
    obtain ⟨inner, given⟩ := Option.isSome_iff_exists.mp given
    obtain ⟨_, bounded, children⟩ := nests node reached span own
    obtain ⟨low, high⟩ := children child listed inner given
    exact ⟨node, reached, span, own, child, listed, inner, given, low, high, bounded⟩
  · have some_ : ((Scan.place .first 0 "SELECT t.x FROM t".toList).toOption.bind List.head?).isSome = true := by
      decide +kernel
    cases cut : Scan.place .first 0 "SELECT t.x FROM t".toList with
    | error fault =>
      rw [cut] at some_
      cases some_
    | ok placed =>
      rw [cut] at some_
      obtain ⟨one, first⟩ := Option.isSome_iff_exists.mp some_
      have listed : one ∈ placed := List.mem_of_head? first
      exact ⟨placed, rfl, one, listed, scans placed cut one listed⟩
  · have found : (read "SELECT t.x FROM t").tree.preorder.any (fun node =>
        (Analysis.pathParts node).any (·.2.isSome)) = true := by decide +kernel
    obtain ⟨node, reached, parts⟩ := List.any_eq_true.mp found
    obtain ⟨part, named, placed⟩ := List.any_eq_true.mp parts
    obtain ⟨place, placed⟩ := Option.isSome_iff_exists.mp placed
    exact ⟨node, reached, part, named, place, placed, reaches node reached part named place placed⟩

end SqlLens.Script
