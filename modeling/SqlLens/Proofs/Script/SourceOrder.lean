import SqlLens.Proofs.Script.Spans
import SqlLens.Proofs.Surface.Order

/-!
The nodes of a script in the order of its text.

The statements of a script come from stretches of lexemes that follow one another, and so do their trees. Within a
statement the children of a node stand in order where no token lies before the cursor when it is looked for
(`isForward`). A name without a place, as that of a table in plain quotes, is searched for by its letters; it may be
found where another name stands, and move the cursor past it (`quoted_table_out_of_order`).
-/

namespace SqlLens.Script

open List
open SqlLens.Surface (Node Tokens runsForward)

variable {lo hi : Nat} {lexemes chunk : List Lexeme}

/-! ### Chunks one behind the other -/

theorem laid_pairwise (laid : Laid lo hi lexemes) :
    lexemes.Pairwise fun before after => before.span.stop ≤ after.span.start := by
  induction laid with
  | nil => exact .nil
  | cons behind wide later ih =>
    exact pairwise_cons.mpr ⟨fun after inside => (later.within inside).1, ih⟩

theorem chunks_tail (laid : Laid lo hi lexemes) :
    ∀ chunk ∈ (chunks lexemes).tail, ∀ after ∈ chunk, lo < after.span.start := by
  induction laid with
  | nil => rintro _ ⟨⟩
  | @cons _ _ lexeme rest behind wide later ih =>
    have least := lexeme.token.breadth_pos
    intro chunk listed after inside
    unfold chunks at listed
    split at listed
    · have := (later.within ((sublist_of_mem_chunks listed).subset inside)).1
      omega
    · split at listed
      · cases listed
      · rename_i found
        have := ih chunk (found ▸ listed) after inside
        omega

/-- Of two chunks each lexeme of the first ends before each of the second starts, with a semicolon between them. -/
theorem chunks_pairwise (laid : Laid lo hi lexemes) :
    (chunks lexemes).Pairwise fun first second =>
      ∀ before ∈ first, ∀ after ∈ second, before.span.stop < after.span.start := by
  induction laid with
  | nil => exact pairwise_singleton _ _
  | cons _ _ later ih =>
    unfold chunks
    split
    · exact ih.cons (by simp)
    · split
      · exact pairwise_singleton _ _
      · rename_i chunk others found
        have behind := chunks_tail later
        rw [found] at ih behind
        obtain ⟨here, apart⟩ := pairwise_cons.mp ih
        refine apart.cons fun second listed => forall_mem_cons.mpr ⟨?_, here second listed⟩
        exact behind second listed

theorem rising_of_laid (laid : Laid lo hi chunk) :
    (Tokens.of (chunk.filterMap Lexeme.piece?)).Rising where
  apart := by
    refine pairwise_filterMap.mpr ((laid_pairwise laid).imp ?_)
    intro before after apart first here second there
    rw [(Lexeme.piece_eq here).1, (Lexeme.piece_eq there).1]
    exact apart
  wide := by
    intro piece listed
    obtain ⟨lexeme, inside, same⟩ := mem_filterMap.mp listed
    rw [(Lexeme.piece_eq same).1]
    have wide := (laid.within inside).2.1
    have least := lexeme.token.breadth_pos
    omega
  paired := rfl

/-! ### Statements -/

theorem extent_ends (cut : chunk.filterMap Lexeme.piece? = first :: others) :
    (∃ lexeme ∈ chunk, (extent first others).start = lexeme.span.start) ∧
      ∃ lexeme ∈ chunk, (extent first others).stop = lexeme.span.stop := by
  have place {piece} (listed : piece ∈ first :: others) : ∃ lexeme ∈ chunk, piece.span = lexeme.span := by
    rw [← cut] at listed
    obtain ⟨lexeme, inside, same⟩ := mem_filterMap.mp listed
    exact ⟨lexeme, inside, (Lexeme.piece_eq same).1⟩
  obtain ⟨head, headIn, headSpan⟩ := place mem_cons_self
  obtain ⟨tail, tailIn, tailSpan⟩ := place (getLast_mem (cons_ne_nil first others))
  rw [extent, getLast?_eq_some_getLast (cons_ne_nil _ _)]
  simp only [Option.map_some, Option.getD_some, Span.cover]
  constructor
  · rcases Nat.le_total first.span.start ((first :: others).getLast (cons_ne_nil _ _)).span.start with le | le
    · exact ⟨head, headIn, by rw [Nat.min_eq_left le, headSpan]⟩
    · exact ⟨tail, tailIn, by rw [Nat.min_eq_right le, tailSpan]⟩
  · rcases Nat.le_total first.span.stop ((first :: others).getLast (cons_ne_nil _ _)).span.stop with le | le
    · exact ⟨tail, tailIn, by rw [Nat.max_eq_right le, tailSpan]⟩
    · exact ⟨head, headIn, by rw [Nat.max_eq_left le, headSpan]⟩

theorem tree_span (made : outcome index chunk = some (.ok node)) :
    ∃ first others, chunk.filterMap Lexeme.piece? = first :: others ∧ node.span = some (extent first others) := by
  obtain ⟨first, others, _, cut, -, built⟩ := query_of_outcome made
  obtain ⟨_, _, -, rfl⟩ := Node.ofQuery_eq built
  exact ⟨first, others, cut, rfl⟩

/-! ### The whole script -/

/-- Whether no token of a chunk lies before the cursor when it is looked for. -/
def isForwardChunk (chunk : List Lexeme) : Bool :=
  match Grammar.readStatement chunk with
  | .ok (.query query, _) => runsForward query (chunk.filterMap Lexeme.piece?)
  | _ => true

def isForward (text : String) : Bool :=
  match scan text with
  | .ok lexemes => (chunks lexemes).all isForwardChunk
  | .error _ => true

theorem made_pairwise {R : Node → Node → Prop}
    (apart : results.Pairwise fun first second => ∀ left right, first = .ok left → second = .ok right → R left right) :
    (made results).Pairwise R := by
  induction results with
  | nil => exact .nil
  | cons result rest ih =>
    obtain ⟨here, later⟩ := pairwise_cons.mp apart
    cases result with
    | error problem => exact ih later
    | ok tree =>
      refine pairwise_cons.mpr ⟨fun other listed => ?_, ih later⟩
      exact here _ (mem_made listed) tree other rfl rfl

theorem statements_in_order (text : String) : (statementTrees text).Pairwise Node.Before := by
  unfold statementTrees
  split
  · rename_i lexemes scanned
    apply made_pairwise
    refine pairwise_filterMap.mpr ((chunks_pairwise (laid_of_scan scanned)).imp ?_)
    intro earlier later apart first firstMade second secondMade left right leftTree rightTree leftSpan hasLeft
      rightSpan hasRight
    subst leftTree rightTree
    obtain ⟨_, _, firstCut, firstSpan⟩ := tree_span firstMade
    obtain ⟨_, _, secondCut, secondSpan⟩ := tree_span secondMade
    cases firstSpan.symm.trans hasLeft
    cases secondSpan.symm.trans hasRight
    obtain ⟨-, before, beforeIn, stops⟩ := extent_ends firstCut
    obtain ⟨⟨after, afterIn, starts⟩, -⟩ := extent_ends secondCut
    rw [stops, starts]
    exact Nat.le_of_lt (apart before beforeIn after afterIn)
  · exact .nil

/-- In the tree of a text whose tokens are found in order, the children of every node that is not a cast cover stretches
of the text that follow one another. -/
theorem children_in_source_order (text : String) (forward : isForward text = true) :
    ∀ node ∈ (read text).tree.preorder, node.kind.isCast = false →
      node.children.Pairwise fun first second =>
        ∀ left ∈ first.span, ∀ right ∈ second.span, left.stop ≤ right.start := by
  suffices ordered : (read text).tree.Ordered from ordered
  have each : ∀ node ∈ (read text).tree.children, node.Ordered := by
    intro node listed
    obtain ⟨lexemes, chunk, first, others, source, scanned, split, cut, read, built⟩ := query_of_mem_children listed
    obtain ⟨rest, found⟩ := readStatement_of_query read
    have laid := (laid_of_scan scanned).sublist (sublist_of_mem_chunks split)
    rw [isForward, scanned] at forward
    have runs := List.all_eq_true.mp forward chunk split
    rw [isForwardChunk, found] at runs
    have rising := rising_of_laid laid
    rw [cut] at runs rising
    exact Node.ofQuery_ordered built rising runs
  rw [tree_eq] at each ⊢
  exact .mk each fun _ => statements_in_order text

/-- A query with a join, a call and a subquery has nodes with several children. -/
theorem joined_query_in_source_order :
    isForward "SELECT t.a, MAX(b) FROM t JOIN u ON t.a IN (SELECT 1); SELECT 2" = true ∧
    ∃ node ∈ (read "SELECT t.a, MAX(b) FROM t JOIN u ON t.a IN (SELECT 1); SELECT 2").tree.preorder,
      node.kind.isCast = false ∧ 2 < node.children.length ∧
        node.children.Pairwise fun first second =>
          ∀ left ∈ first.span, ∀ right ∈ second.span, left.stop ≤ right.start := by
  have forward : isForward "SELECT t.a, MAX(b) FROM t JOIN u ON t.a IN (SELECT 1); SELECT 2" = true := by decide +kernel
  have found : (read "SELECT t.a, MAX(b) FROM t JOIN u ON t.a IN (SELECT 1); SELECT 2").tree.preorder.any (fun node =>
      !node.kind.isCast && decide (2 < node.children.length)) = true := by decide +kernel
  obtain ⟨node, reached, both⟩ := List.any_eq_true.mp found
  obtain ⟨plain, several⟩ := Bool.and_eq_true_iff.mp both
  have plain : node.kind.isCast = false := by simpa using plain
  exact ⟨forward, node, reached, plain, of_decide_eq_true several,
    children_in_source_order _ forward node reached plain⟩

private def overlap : List Node → Bool
  | [.mk _ (some left) _, .mk _ (some right) _] => right.start < left.stop
  | _ => false

/-- The name of a table in plain quotes has no place, and is found where the next table stands. -/
theorem quoted_table_out_of_order :
    ¬ ∀ node ∈ (read "SELECT a FROM 'b', b").tree.preorder, node.kind.isCast = false →
      node.children.Pairwise fun first second =>
        ∀ left ∈ first.span, ∀ right ∈ second.span, left.stop ≤ right.start := by
  intro ordered
  have found : (read "SELECT a FROM 'b', b").tree.preorder.any (fun node =>
      !node.kind.isCast && overlap node.children) = true := by decide +kernel
  obtain ⟨node, reached, both⟩ := List.any_eq_true.mp found
  obtain ⟨plain, overlaps⟩ := Bool.and_eq_true_iff.mp both
  have apart := ordered node reached (by simpa using plain)
  unfold overlap at overlaps
  split at overlaps
  · rename_i children
    rw [children] at apart
    have := List.rel_of_pairwise_cons apart List.mem_cons_self _ rfl _ rfl
    have := of_decide_eq_true overlaps
    omega
  · cases overlaps

end SqlLens.Script
