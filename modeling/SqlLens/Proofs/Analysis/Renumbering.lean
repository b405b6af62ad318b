import SqlLens.Proofs.Analysis.Lockstep
import SqlLens.Proofs.Analysis.WindowCalls

/-!
Queries that are resolved with other column numbers.

The analysis never looks at the number of a column. So a body that is resolved once more, from a state that differs in
such numbers only, comes to columns of the same types (`renumbering.body_again`). The two analyses run in lockstep: what
is compared are the types, spans and columns of expressions, and the columns of scans, but for their numbers.
-/

namespace SqlLens

open List
open Resolved (Column NamedColumn Scan TypedExpr)
open Surface (Node)

namespace Resolved

def Scan.types (scan : Scan) : List SqlType := scan.columns.map Column.type

def Column.unnumbered (column : Column) : Column := { column with id := 0 }

def TypedExpr.source? : TypedExpr → Option Column
  | .column source _ => some source
  | _ => none

/-- Expressions about which the analysis finds out the same, numbers of columns apart. -/
structure TypedExpr.Renumbered (left right : TypedExpr) : Prop where
  type : right.type = left.type
  span : right.span = left.span
  hasAggregate : right.hasAggregate = left.hasAggregate
  source : right.source?.map Column.unnumbered = left.source?.map Column.unnumbered

end Resolved

namespace Analysis

def renumbering : Comparison where
  Names a b := b = a
  Numbers _ _ := True
  Trees node node' := node' = node
  Low _ := True
  Spot _ := True
  Known _ := True
  Typed := False
  Exprs := TypedExpr.Renumbered
  Scans scan scan' := scan'.columns.map Column.unnumbered = scan.columns.map Column.unnumbered

namespace renumbering

theorem columns_iff : renumbering.Columns column column' ↔ column'.unnumbered = column.unnumbered := by
  constructor
  · rintro ⟨-, table, name, type⟩
    exact (Column.mk.injEq ..).mpr ⟨rfl, table, name, type⟩
  · intro same
    obtain ⟨-, table, name, type⟩ := (Column.mk.injEq ..).mp same
    exact ⟨trivial, table, name, type⟩

theorem all_columns_iff : Forall₂ renumbering.Columns columns columns' ↔
    columns'.map Column.unnumbered = columns.map Column.unnumbered := by
  have same : renumbering.Columns = fun column column' => column.unnumbered = column'.unnumbered := by
    funext column column'
    exact propext (columns_iff.trans eq_comm)
  rw [same, eq_comm, ← forall₂_eq_eq_eq, forall₂_map_left_iff, forall₂_map_right_iff]

theorem anyAggregate (alike : Forall₂ renumbering.Exprs exprs exprs') :
    TypedExpr.anyAggregate exprs' = TypedExpr.anyAggregate exprs := by
  induction alike with
  | nil => rfl
  | cons first _ ih => rw [TypedExpr.anyAggregate, TypedExpr.anyAggregate, ih, first.hasAggregate]

theorem congruent : renumbering.Congruent where
  refl _ := rfl
  folded same := by rw [show _ = _ from same, Text.sameName_refl]
  analytic same := by rw [show _ = _ from same]
  next _ := trivial
  kind trees := by rw [show _ = _ from trees]; exact .same _
  span trees := by rw [show _ = _ from trees]
  spot _ := trivial
  nowhere := trivial
  reaches _ _ _ := ⟨trivial, trivial⟩
  children trees := by rw [show _ = _ from trees]; exact forall₂_same.mpr fun _ _ => ⟨rfl, trivial⟩
  tablePath trees _ := by rw [show _ = _ from trees]
  known _ _ _ _ _ _ := trivial
  type := TypedExpr.Renumbered.type
  exprSpan exprs := ⟨exprs.span, trivial⟩
  hasAggregate := TypedExpr.Renumbered.hasAggregate
  form {expr expr'} exprs := by
    have spans := exprs.span
    have sources := exprs.source
    cases expr <;> cases expr' <;> simp_all [TypedExpr.source?, TypedExpr.span, columns_iff]
  columns := all_columns_iff.mpr
  literal _ := ⟨rfl, rfl, rfl, rfl⟩
  column columns _ := ⟨columns.type, rfl, rfl, congrArg some (columns_iff.mp columns)⟩
  field exprs _ _ _ := ⟨rfl, rfl, exprs.hasAggregate, rfl⟩
  cast exprs _ _ := ⟨rfl, rfl, exprs.hasAggregate, rfl⟩
  call exprs _ _ := ⟨rfl, rfl, by rw [TypedExpr.hasAggregate, TypedExpr.hasAggregate, anyAggregate exprs], rfl⟩
  analyticCall _ _ _ _ := ⟨rfl, rfl, rfl, rfl⟩
  subquery _ exprs _ _ := ⟨rfl, rfl, by cases exprs with | none => rfl | some tested => exact tested.hasAggregate, rfl⟩
  singleRow := rfl
  table _ columns := all_columns_iff.mp columns
  reference columns _ _ := all_columns_iff.mp columns
  array columns _ _ _ _ _ _ _ := all_columns_iff.mp columns
  join columns _ _ _ := all_columns_iff.mp columns
  project columns _ _ := all_columns_iff.mp columns
  filter columns _ _ := all_columns_iff.mp columns
  aggregate columns _ _ := all_columns_iff.mp columns
  window columns _ _ := all_columns_iff.mp columns
  orderBy columns _ _ := all_columns_iff.mp columns
  limit columns _ _ _ := all_columns_iff.mp columns
  common columns _ _ := all_columns_iff.mp columns
  setOperation columns _ _ _ := all_columns_iff.mp columns

theorem column_refl (column : Column) : renumbering.Columns column column := columns_iff.mpr rfl

theorem outputs_refl (outputs : List NamedColumn) : Forall₂ renumbering.Outputs outputs outputs :=
  forall₂_same.mpr fun output _ => ⟨rfl, column_refl output.column⟩

theorem expr_refl (expr : TypedExpr) : renumbering.Exprs expr expr := ⟨rfl, rfl, rfl, rfl⟩

theorem states_refl (state : State) (number number' : Nat) :
    renumbering.States { state with nextId := number } { state with nextId := number' } where
  number := trivial
  common := forall₂_same.mpr fun entry _ => ⟨trivial, rfl, outputs_refl entry.columns⟩
  outer := forall₂_same.mpr fun _ _ => forall₂_same.mpr fun relation _ =>
    ⟨option_refl fun _ => rfl, outputs_refl relation.columns⟩
  analytic := option_refl fun _ => forall₂_same.mpr fun call _ =>
    ⟨column_refl call.column, expr_refl call.expr, False.elim⟩
  windows := forall₂_same.mpr fun _ _ => ⟨rfl, forall₂_same.mpr fun expr _ => expr_refl expr,
    forall₂_same.mpr fun key _ => ⟨expr_refl key.expr, rfl⟩⟩

variable {tables : Lookup} {height : Nat} {node : Node} {before before' after : State}
  {found : Scan × List NamedColumn × Scope}

/-- A body changes nothing but the number of the next column, unless it adds calls over windows to those around it. -/
theorem after_body (quiet : before.analytic = none ∨ (Place.mk .body node).calls = [])
    (ran : Succeeds tables ((resolvers height).body node) before found after) :
    { before with nextId := after.nextId } = after := by
  have kept : Kept before after := Keeps.succeeds ((resolvers_keep height).body same_tree) ran
  obtain ⟨⟨entries, added, computed⟩, -⟩ := (resolvers_collect height).body ran
  have same : after.analytic = before.analytic := by
    rcases quiet with none | noCalls
    · rw [added, none, Option.map_none]
    · rw [noCalls, forall₂_nil_left_iff] at computed
      simp [added, computed]
  rw [← kept.common, ← kept.outer, ← kept.windows, ← same]

theorem body_again (ran : Succeeds tables ((resolvers height).body node) before found after)
    (states : renumbering.States before before') : ∃ found' after',
    Succeeds tables ((resolvers height).body node) before' found' after' ∧ found'.1.types = found.1.types := by
  have governed : (@lockstep renumbering tables tables congruent fun _ _ _ => rfl).Governs (resolvers height)
      (resolvers height) := governs height
  have alike : renumbering.Lockstep tables tables renumbering.Bodies ((resolvers height).body node)
      ((resolvers height).body node) := governed.body ⟨rfl, trivial⟩
  obtain ⟨results, -⟩ := alike _ _ states
  rw [show _ = _ from ran] at results
  rcases again : ((resolvers height).body node).outcome tables before' with ⟨result, after'⟩
  rw [again] at results
  cases results with
  | ok bodies =>
    have types := congrArg (map Column.type) (show _ = _ from bodies.query.scan)
    rw [map_map, map_map] at types
    exact ⟨_, after', again, types⟩

end renumbering

end Analysis

end SqlLens
