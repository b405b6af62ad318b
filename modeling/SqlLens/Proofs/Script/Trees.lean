import SqlLens.Proofs.Grammar.Queries
import SqlLens.Proofs.Surface.Lowering
import SqlLens.Script.Basic

/-!
The arena of a script and its tree.

Each statement has a tree by itself, or a problem (`Script.outcome`). The arena of a script holds the trees of the
statements without a problem and the root on top of them (`Script.tree_eq`), whatever the others put there before they
failed. So its nodes are just those of the arena (`Script.arena_is_statement_tree`).
-/

namespace SqlLens.Script

open List
open SqlLens.Surface (Arena Build.Site Entry Node SyntaxTree)

def statementTree (index : LineIndex) (chunk : List Lexeme) (first : Piece) (others : List Piece) :
    Except Problem Node := do
  let query ← query index chunk first others
  (Node.ofQuery query (first :: others) (extent first others)).mapError (unsupportedAt first)

def outcome (index : LineIndex) (chunk : List Lexeme) : Option (Except Problem Node) :=
  match chunk.filterMap Lexeme.piece? with
  | [] => none
  | first :: others => some (statementTree index chunk first others)

def outcomes (text : String) (lexemes : List Lexeme) : List (Except Problem Node) :=
  (chunks lexemes).filterMap (outcome (LineIndex.of text.toList))

/-! ### Chunks and their tokens -/

theorem sublist_of_mem_chunks (cut : chunk ∈ chunks lexemes) : chunk.Sublist lexemes := by
  induction lexemes generalizing chunk with
  | nil =>
    rw [mem_singleton.mp cut]
  | cons lexeme rest ih =>
    have later {chunk} (cut : chunk ∈ chunks rest) : chunk.Sublist (lexeme :: rest) := (ih cut).cons _
    unfold chunks at cut
    split at cut
    · rcases mem_cons.mp cut with rfl | cut
      · exact nil_sublist _
      · exact later cut
    · split at cut
      · rw [mem_singleton.mp cut]
        exact singleton_sublist.mpr mem_cons_self
      · rename_i first others found
        rcases mem_cons.mp cut with rfl | cut
        · exact (ih (by simp [found])).cons_cons _
        · exact later (by simp [found, cut])

variable {index : LineIndex} {chunk : List Lexeme} {first : Piece} {others : List Piece} {arena : Arena}
  {nodes : List Node} {lo hi : Nat} {source : Query}

/-- The site of a statement: the names of its query are those that its lexemes spell. -/
def site (laid : Laid lo hi chunk) (cut : chunk.filterMap Lexeme.piece? = first :: others) (before : List Entry) :
    Build.Site where
  tokens := .of (first :: others)
  bound := extent first others
  Named := Grammar.Named chunk
  before := before
  token piece listed := by
    obtain ⟨solid, -⟩ := @laid_solid _ _ _ laid _ _ cut (extent first others) rfl
    have listed : piece ∈ first :: others := listed
    rw [← cut] at listed
    obtain ⟨lexeme, inside, same⟩ := mem_filterMap.mp listed
    have kept := solid.within (mem_filter.mpr ⟨inside, by simp [Lexeme.isSolid, same]⟩)
    rw [(Lexeme.piece_eq same).1]
    exact ⟨kept.1, kept.2.2⟩
  name parts named := by
    rw [← cut]
    exact named.fits laid (laid_solid laid cut rfl).1

theorem readStatement_of_query (read : query index chunk first others = .ok source) :
    ∃ rest, Grammar.readStatement chunk = .ok (.query source, rest) := by
  unfold query at read
  split at read
  · cases read
  · rename_i statement rest found
    split at read
    · cases read
    · split at read
      · cases read
        exact ⟨rest, found⟩
      · cases read

theorem ofQuery_sound (read : query index chunk first others = .ok source) (laid : Laid lo hi chunk)
    (cut : chunk.filterMap Lexeme.piece? = first :: others) :
    (∀ node, Node.ofQuery source (first :: others) (extent first others) = .ok node →
      node.Sound (extent first others)) ∧
      ∀ construct, Node.ofQuery source (first :: others) (extent first others) = .error construct →
        Surface.Lies (extent first others) construct.span := by
  obtain ⟨rest, found⟩ := readStatement_of_query read
  have named := Grammar.readStatement_named found
  have empty : (site laid cut []).Keeps .empty [] := ⟨Arena.holds_empty, by simp⟩
  rcases empty.lower rfl named with ⟨node, _, _, tree, -, -, kept⟩ | ⟨construct, _, _, place, tree, -, span, -⟩
  · refine ⟨fun made built => ?_, fun failed built => ?_⟩
    · cases tree.symm.trans built
      exact kept.sound node (by simp)
    · cases tree.symm.trans built
  · refine ⟨fun made built => ?_, fun failed built => ?_⟩
    · cases tree.symm.trans built
    · cases tree.symm.trans built
      rw [span]
      exact (site laid cut []).span? place

/-! ### Statements in the arena -/

theorem statement_run (laid : Laid lo hi chunk) (cut : chunk.filterMap Lexeme.piece? = first :: others)
    (holds : arena.Holds [] nodes) :
    (∃ node grown, statementTree index chunk first others = .ok node ∧
      (statement index chunk first others).run arena = (.ok (node.root (Node.sizeAll nodes)), grown) ∧
      grown.Holds [] (nodes ++ [node])) ∨
    (∃ problem grown, statementTree index chunk first others = .error problem ∧
      (statement index chunk first others).run arena = (.error problem, grown) ∧
      (grown.rollback arena.size).Holds [] nodes) := by
  let before := Node.entriesAll 0 none nodes
  have size : arena.size = before.length := by simp [holds.size, before]
  have behind (later : Arena) (more : List Node) : later.Holds [] (nodes ++ more) ↔ later.Holds before more :=
    Arena.holds_append
  have whole : arena.Holds before [] := (behind arena []).mp (by simpa using holds)
  unfold statementTree statement
  cases read : query index chunk first others with
  | error problem =>
    refine .inr ⟨problem, arena, rfl, rfl, ?_⟩
    simpa [size] using (behind _ []).mpr whole.rollback
  | ok query =>
    have made : (Except.ok query >>= fun query =>
        (Node.ofQuery query (first :: others) (extent first others)).mapError (unsupportedAt first)) =
      (Node.ofQuery query (first :: others) (extent first others)).mapError (unsupportedAt first) := rfl
    have ran : (do return (← Arena.lower query (first :: others) (extent first others)).mapError (unsupportedAt first) :
        StateM Arena (Except Problem Nat)).run arena =
      match (Arena.lower query (first :: others) (extent first others)).run arena with
      | (outcome, grown) => (outcome.mapError (unsupportedAt first), grown) := rfl
    rw [made, ran]
    obtain ⟨rest, found⟩ := readStatement_of_query read
    have kept : (site laid cut before).Keeps arena [] := ⟨whole, by simp⟩
    rcases kept.lower rfl (Grammar.readStatement_named found) with
      ⟨node, number, grown, tree, put, numbered, lies⟩ | ⟨construct, grown, after, _, tree, put, -, lies⟩
    · change Node.ofQuery query (first :: others) (extent first others) = _ at tree
      change (Arena.lower query (first :: others) (extent first others)).run arena = _ at put
      rw [tree, put]
      have place : number = node.root (Node.sizeAll nodes) := by
        simpa [site, before, Node.sizeAll] using numbered
      exact .inl ⟨node, grown, rfl, by rw [place]; rfl, (behind grown [node]).mpr lies.holds⟩
    · change Node.ofQuery query (first :: others) (extent first others) = _ at tree
      change (Arena.lower query (first :: others) (extent first others)).run arena = _ at put
      rw [tree, put]
      refine .inr ⟨unsupportedAt first construct, grown, rfl, rfl, ?_⟩
      simpa [size, site] using (behind _ []).mpr lies.rollback

/-- The statement of a chunk comes before the others; a problem takes out what the statement has put there. -/
theorem statements_cons (cut : chunk.filterMap Lexeme.piece? = first :: others) (rest : List (List Lexeme)) :
    (statements index (chunk :: rest)).run arena =
      match (statement index chunk first others).run arena with
      | (outcome, grown) =>
        match (statements index rest).run (if outcome.toOption.isNone then grown.rollback arena.size else grown) with
        | (results, last) => (outcome :: results, last) := by
  rw [statements, cut]
  simp only [StateT.run_bind, StateT.run_get, pure_bind]
  generalize (statement index chunk first others).run arena = ran
  obtain ⟨outcome | outcome, grown⟩ := ran <;> rfl

theorem statements_run (laid : ∀ chunk ∈ rest, Laid lo hi chunk) (holds : arena.Holds [] nodes) :
    ∃ results grown, (statements index rest).run arena = (results, grown) ∧
      grown.Holds [] (nodes ++ made (rest.filterMap (outcome index))) ∧
      made results = Node.roots (Node.sizeAll nodes) (made (rest.filterMap (outcome index))) ∧
      problemsOf results = problemsOf (rest.filterMap (outcome index)) := by
  induction rest generalizing arena nodes with
  | nil => exact ⟨[], arena, rfl, by simpa [made] using holds, rfl, rfl⟩
  | cons chunk rest ih =>
    obtain ⟨own, later⟩ := forall_mem_cons.mp laid
    cases cut : chunk.filterMap Lexeme.piece? with
    | nil =>
      have none : outcome index chunk = none := by rw [outcome, cut]
      rw [filterMap_cons_none none, statements, cut]
      exact ih later holds
    | cons first others =>
      have here : outcome index chunk = some (statementTree index chunk first others) := by rw [outcome, cut]
      rw [filterMap_cons_some here, statements_cons cut]
      rcases statement_run own cut holds with ⟨node, grown, tree, put, lies⟩ | ⟨problem, grown, tree, put, lies⟩
      · obtain ⟨results, last, ran, all, numbers, problems⟩ := ih later lies
        rw [put, tree]
        refine ⟨.ok (node.root (Node.sizeAll nodes)) :: results, last, ?_, ?_, ?_, problems⟩
        · simp only [Except.toOption, Option.isNone_some, Bool.false_eq_true, if_false, ran]
        · simpa [made] using all
        · rw [made, numbers, Node.sizeAll_append, made, Node.roots, Node.sizeAll, Node.sizeAll, Nat.add_zero]
      · obtain ⟨results, last, ran, all, numbers, problems⟩ := ih later lies
        rw [put, tree]
        refine ⟨.error problem :: results, last, ?_, all, numbers, ?_⟩
        · simp only [Except.toOption, Option.isNone_none, if_true, ran]
        · rw [problemsOf, problemsOf, problems]

theorem read_of_scan (scanned : scan text = .ok lexemes) :
    (read text).syntaxTree.arena.Holds [] [.mk .script (some (.whole text)) (made (outcomes text lexemes))] ∧
      (read text).syntaxTree.root = (Node.mk .script (some (.whole text)) (made (outcomes text lexemes))).root 0 ∧
      (read text).problems = problemsOf (outcomes text lexemes) := by
  obtain ⟨results, grown, ran, lies, numbers, problems⟩ :=
    @statements_run (LineIndex.of text.toList) .empty [] _ _ (chunks lexemes)
      (fun _ split => (laid_of_scan scanned).sublist (sublist_of_mem_chunks split)) Arena.holds_empty
  have same : read text =
      ⟨grown.finish .script (some (.whole text)) (Node.roots 0 (made (outcomes text lexemes))),
        problemsOf (outcomes text lexemes)⟩ := by
    rw [read, scanned]
    simp only [ofLexemes, ran, numbers, problems]
    rfl
  obtain ⟨whole, top⟩ := Arena.Holds.finish lies .script (some (.whole text))
  rw [same]
  exact ⟨whole, top, rfl⟩

def statementTrees (text : String) : List Node :=
  match scan text with
  | .ok lexemes => made (outcomes text lexemes)
  | .error _ => []

theorem arena_holds (text : String) :
    (read text).syntaxTree.arena.Holds [] [.mk .script (some (.whole text)) (statementTrees text)] ∧
      (read text).syntaxTree.root = (Node.mk .script (some (.whole text)) (statementTrees text)).root 0 := by
  unfold statementTrees
  cases scanned : scan text with
  | ok lexemes =>
    obtain ⟨whole, top, -⟩ := read_of_scan scanned
    exact ⟨whole, top⟩
  | error error =>
    rw [read, scanned]
    exact Arena.Holds.finish Arena.holds_empty .script (some (.whole text))

theorem tree_eq (text : String) : (read text).tree = .mk .script (some (.whole text)) (statementTrees text) :=
  SyntaxTree.node_eq (arena_holds text).1 (arena_holds text).2

theorem mem_made (listed : one ∈ made results) :
    .ok one ∈ results := by
  induction results with
  | nil => cases listed
  | cons result rest ih =>
    cases result with
    | error problem => exact mem_cons_of_mem _ (ih listed)
    | ok first =>
      rcases mem_cons.mp listed with rfl | later
      · exact mem_cons_self
      · exact mem_cons_of_mem _ (ih later)

theorem query_of_outcome (made : outcome index chunk = some (.ok node)) :
    ∃ first others source, chunk.filterMap Lexeme.piece? = first :: others ∧
      query index chunk first others = .ok source ∧
      Node.ofQuery source (first :: others) (extent first others) = .ok node := by
  unfold outcome at made
  split at made
  · cases made
  · rename_i first others cut
    have tree := Option.some.inj made
    unfold statementTree at tree
    cases read : query index chunk first others with
    | error problem =>
      rw [read] at tree
      cases tree
    | ok source =>
      rw [read] at tree
      change (Node.ofQuery source (first :: others) (extent first others)).mapError (unsupportedAt first) = _ at tree
      cases built : Node.ofQuery source (first :: others) (extent first others) with
      | error construct =>
        rw [built] at tree
        cases tree
      | ok inner =>
        rw [built] at tree
        cases tree
        exact ⟨first, others, source, cut, read, built⟩

theorem query_of_mem_children (listed : node ∈ (read text).tree.children) :
    ∃ lexemes chunk first others source, scan text = .ok lexemes ∧ chunk ∈ chunks lexemes ∧
      chunk.filterMap Lexeme.piece? = first :: others ∧
      query (LineIndex.of text.toList) chunk first others = .ok source ∧
      Node.ofQuery source (first :: others) (extent first others) = .ok node := by
  rw [tree_eq] at listed
  change node ∈ statementTrees text at listed
  unfold statementTrees at listed
  split at listed
  · rename_i lexemes scanned
    obtain ⟨chunk, split, made⟩ := mem_filterMap.mp (mem_made listed)
    obtain ⟨first, others, source, cut, read, built⟩ := query_of_outcome made
    exact ⟨lexemes, chunk, first, others, source, scanned, split, cut, read, built⟩
  · cases listed

/-! ### Statements by themselves -/

theorem made_eq_filterMap (results : List (Except Problem α)) :
    made results = results.filterMap Except.toOption := by
  induction results with
  | nil => rfl
  | cons result rest ih =>
    cases result with
    | error problem => exact ih
    | ok one => exact congrArg (one :: ·) ih

def aloneInArena (index : LineIndex) (chunk : List Lexeme) : Option Node :=
  match chunk.filterMap Lexeme.piece? with
  | [] => none
  | first :: others =>
    match (statement index chunk first others).run .empty with
    | (.ok number, arena) => arena.nodes[number]?
    | (.error _, _) => none

theorem aloneInArena_eq (index : LineIndex) (laid : Laid lo hi chunk) :
    aloneInArena index chunk = (outcome index chunk).bind Except.toOption := by
  unfold aloneInArena outcome
  cases cut : chunk.filterMap Lexeme.piece? with
  | nil => rfl
  | cons first others =>
    dsimp only
    rcases statement_run laid cut Arena.holds_empty with
      ⟨node, grown, tree, put, lies⟩ | ⟨problem, grown, tree, put, -⟩
    · rw [put, tree]
      exact lies.getElem?_nodes
    · rw [put, tree]
      rfl

/-- The arena of a script is one tree, and the statements below its root are those that its chunks have by themselves.
-/
theorem arena_is_statement_tree (text : String) :
    (read text).syntaxTree.arena.IsTree (read text).syntaxTree.root ∧
    (read text).syntaxTree.arena.size = 1 + (read text).syntaxTree.node.descendants.length ∧
    (read text).syntaxTree.node.children =
      match scan text with
      | .ok lexemes => (chunks lexemes).filterMap (aloneInArena (LineIndex.of text.toList))
      | .error _ => [] := by
  obtain ⟨whole, top⟩ := arena_holds text
  have tree : (read text).syntaxTree.node = _ := tree_eq text
  refine ⟨top ▸ whole.isTree, ?_, ?_⟩
  · rw [whole.size_eq, tree, Node.descendants_eq, Node.length_preorderAll, Node.root]
    omega
  · rw [tree]
    change statementTrees text = _
    unfold statementTrees
    split
    · rename_i lexemes scanned
      rw [made_eq_filterMap, outcomes, List.filterMap_filterMap]
      refine List.filterMap_congr fun chunk split => ?_
      exact (aloneInArena_eq _ ((laid_of_scan scanned).sublist (sublist_of_mem_chunks split))).symm
    · rfl

/-- A statement that fails halfway leaves the arena to the statements around it. -/
theorem failed_statement_leaves_arena :
    (read "SELECT a; SELECT b FROM t JOIN u USING (c); SELECT 1").problems.length = 1 ∧
    (read "SELECT a; SELECT b FROM t JOIN u USING (c); SELECT 1").syntaxTree.root = 13 ∧
    12 ∈ (read "SELECT a; SELECT b FROM t JOIN u USING (c); SELECT 1").syntaxTree.arena.children 13 ∧
    (read "SELECT a; SELECT b FROM t JOIN u USING (c); SELECT 1").syntaxTree.arena.parent? 12 = some 13 ∧
    (read "SELECT a; SELECT b FROM t JOIN u USING (c); SELECT 1").syntaxTree.node.children.length = 2 := by
  obtain ⟨arena, -, -⟩ := arena_is_statement_tree "SELECT a; SELECT b FROM t JOIN u USING (c); SELECT 1"
  have listed :
      12 ∈ (read "SELECT a; SELECT b FROM t JOIN u USING (c); SELECT 1").syntaxTree.arena.children 13 := by
    decide +kernel
  exact ⟨by decide +kernel, by decide +kernel, listed, (arena.linked 12 13).mp listed, by decide +kernel⟩

end SqlLens.Script
