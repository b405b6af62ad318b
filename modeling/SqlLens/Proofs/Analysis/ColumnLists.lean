import SqlLens.Proofs.Analysis.Scoping

/-!
Column lists and what they are lists of.

The columns of a query are kept twice, as those it announces and as those of its scan, and so are the columns of what
stands after `FROM`, as those its scope shows and as those of its scan. Both lists are the same, in the same order
(`Resolvers.Scoped`). So a star, which lists what the scope shows, selects the columns of the scan.
-/

namespace SqlLens.Analysis

open SqlLens.Resolved (NamedColumn Scan)
open SqlLens.Surface (Node)

variable {r : Resolvers} {tables : Lookup} {before after : State} {scope : Scope} {node star : Node} {scan : Scan}

theorem Scope.shown_eq_map (scope : Scope) : scope.shown = (scope.flatMap Relation.columns).map NamedColumn.column :=
  List.map_flatMap.symm

theorem star_lists_scope (found : item.children[0]? = some star) (kind : star.kind = .star) (plain : star.children = [])
    (ran : Succeeds tables (selectItem r scope (item, index)) before selected after) :
    scope ≠ [] ∧ selected.outputs = scope.flatMap Relation.columns := by
  obtain ⟨first, same, ran⟩ := succeeds_child_bind.mp ran
  obtain rfl : star = first := Option.some.inj (found.symm.trans same)
  simp only [kind, fail_bind] at ran
  split at ran
  · exact (succeeds_fail.mp ran).elim
  · rename_i some_
    obtain ⟨columns, _, ranStar, ran⟩ := ran.bind
    obtain ⟨rfl, rfl⟩ := succeeds_pure.mp ran
    obtain ⟨excluded, _, ranExcluded, ranStar⟩ := succeeds_bind.mp ranStar
    rw [plain] at ranExcluded
    obtain ⟨rfl, rfl⟩ := succeeds_each_nil.mp ranExcluded
    obtain ⟨rfl, rfl⟩ := succeeds_pure.mp ranStar
    exact ⟨fun none => some_ (by simp [none]), by simp⟩

theorem select_star (within : r.Scoped) (split : SelectParts.of? node.children = some parts)
    (listed : parts.list = some list) (alone : list.children = [item]) (found : item.children[0]? = some star)
    (kind : star.kind = .star) (plain : star.children = [])
    (ran : Succeeds tables (select r node) before (scan, outputs, seen) after) :
    ∃ clause ∈ parts.tables, ∃ tableNode rows sourced, clause.children[0]? = some tableNode ∧
      Succeeds tables (r.source tableNode) { before with analytic := none, windows := [] } (rows, seen) sourced ∧
        outputs.map NamedColumn.column = rows.columns := by
  cases succeeds_select ran with
  | mk split' ranTables _ _ listed' ranItems =>
    cases split.symm.trans split'
    cases listed.symm.trans listed'
    rw [alone] at ranItems
    obtain ⟨selected, last, _, ranItem, ranRest, rfl⟩ := succeeds_each_cons.mp ranItems
    obtain ⟨rfl, rfl⟩ := succeeds_each_nil.mp ranRest
    obtain ⟨someTable, lists⟩ := star_lists_scope found kind plain ranItem
    cases tablesPart : parts.tables with
    | none =>
      rw [tablesPart] at ranTables
      obtain ⟨same, -⟩ := succeeds_pure.mp ranTables
      cases same
      exact absurd rfl someTable
    | some clause =>
      rw [tablesPart] at ranTables
      obtain ⟨tableNode, inside, ranSource⟩ := succeeds_child_bind.mp ranTables
      refine ⟨clause, rfl, tableNode, _, _, inside, ranSource, ?_⟩
      rw [← (within.source ranSource).2, Scope.shown_eq_map, ← lists]
      simp

/-- The columns that are announced are those of the scan, in order: of a query, of a selection, set operation or query
in parentheses, of what stands after `FROM`, and of a statement. A star that leaves nothing out selects the columns of
the scan of the tables. -/
theorem column_lists_agree (tables : Lookup) (height : Nat) (before : State) (node : Node) :
    (∀ scan outputs after, Succeeds tables ((resolvers height).query node) before (scan, outputs) after →
      outputs.map NamedColumn.column = scan.columns) ∧
    (∀ scan outputs seen after, Succeeds tables ((resolvers height).body node) before (scan, outputs, seen) after →
      outputs.map NamedColumn.column = scan.columns) ∧
    (∀ scan seen after, Succeeds tables ((resolvers height).source node) before (scan, seen) after →
      (seen.flatMap Relation.columns).map NamedColumn.column = scan.columns) ∧
    (∀ resolved after, Succeeds tables (statement node) before resolved after →
      resolved.outputs.map NamedColumn.column = resolved.query.columns) ∧
    ∀ parts list item star scan outputs seen after, SelectParts.of? node.children = some parts →
      parts.list = some list → list.children = [item] → item.children[0]? = some star → star.kind = .star →
      star.children = [] → Succeeds tables (select (resolvers height) node) before (scan, outputs, seen) after →
        ∃ clause ∈ parts.tables, ∃ tableNode rows sourced, clause.children[0]? = some tableNode ∧
          Succeeds tables ((resolvers height).source tableNode) { before with analytic := none, windows := [] }
            (rows, seen) sourced ∧ outputs.map NamedColumn.column = rows.columns := by
  have within := resolvers_scoped height
  refine ⟨fun _ _ _ ran => (within.query ran).2, fun _ _ _ _ ran => (within.body ran).2, fun _ seen _ ran => ?_,
    fun resolved _ ran => ?_, fun _ _ _ _ _ _ _ _ split listed alone found kind plain ran =>
      select_star within split listed alone found kind plain ran⟩
  · rw [← Scope.shown_eq_map]
    exact (within.source ran).2
  · obtain ⟨queryNode, -, ranQuery⟩ := succeeds_statement ran
    exact ((resolvers_scoped _).query ranQuery).2

private def onesTable (name : String) : Node :=
  .mk .unnest none [.mk .arrayLiteral none [.leaf (.literal (.int "1")) none], .leaf (.aliasName name) none]

def starSelection : Node :=
  .mk (.select false) none [.mk .selectList none [.mk .selectColumn none [.leaf .star none]],
    .mk .fromClause none [.mk (.join .comma) none [onesTable "x", onesTable "y"]]]

/-- Both columns of two joined arrays are selected, and the lists of the statement agree. -/
theorem starSelection_lists_agree :
    (∃ scan outputs seen after, Succeeds (fun _ => none) (select (resolvers 5) starSelection) .initial
      (scan, outputs, seen) after ∧ ∃ clause tableNode : Node, ∃ rows sourced, clause.children[0]? = some tableNode ∧
        Succeeds (fun _ => none) ((resolvers 5).source tableNode) .initial (rows, seen) sourced ∧
          outputs.map NamedColumn.column = rows.columns) ∧
    ∃ resolved after,
      Succeeds (fun _ => none) (statement (.mk .statement none [.mk .query none [starSelection]])) .initial
      resolved after ∧ resolved.outputs.map NamedColumn.column = resolved.query.columns := by
  constructor
  · obtain ⟨⟨scan, outputs, seen⟩, after, ran⟩ := succeeds_of_toBool (show ((select (resolvers 5) starSelection).outcome
      (fun _ => none) .initial).1.toBool = true by decide +kernel)
    obtain ⟨clause, -, tableNode, rows, sourced, inside, ranSource, same⟩ :=
      (column_lists_agree (fun _ => none) 5 .initial starSelection).2.2.2.2 _ _ _ _ _ _ _ _ rfl rfl rfl rfl rfl rfl ran
    exact ⟨scan, outputs, seen, after, ran, clause, tableNode, rows, sourced, inside, ranSource, same⟩
  · obtain ⟨resolved, after, ran⟩ := succeeds_of_toBool (show ((statement (.mk .statement none
      [.mk .query none [starSelection]])).outcome (fun _ => none) .initial).1.toBool = true by decide +kernel)
    exact ⟨resolved, after, ran, (column_lists_agree _ 0 .initial _).2.2.2.1 resolved after ran⟩

end SqlLens.Analysis
