import SqlLens.Proofs.Analysis.Likeness
import SqlLens.Proofs.Resolved.Shift

/-!
Analyses that start from different column numbers.

Two analyses of the same trees are compared, of which the second starts with all column numbers greater by a constant.
What they resolve is alike if it differs in that only, and if it meets certain demands on trees, places, names of common
tables and types (`Demand.shifted`). With nothing added, alike things are the same.
-/

namespace SqlLens.Analysis

open List
open SqlLens.Resolved (Column NamedColumn Scan TypedExpr Computed SortKey Entry)
open SqlLens.Surface (Node)

variable {α β : Type} {scope : Scope} {state : State}

/-! ### Scopes and states with other column numbers -/

def Relation.shift (k : Nat) (relation : Relation) : Relation :=
  { relation with columns := relation.columns.map (NamedColumn.shift k) }

def Scope.shift (k : Nat) (scope : Scope) : Scope := scope.map (Relation.shift k)

def CommonTable.shift (k : Nat) (entry : CommonTable) : CommonTable :=
  { entry with columns := entry.columns.map (NamedColumn.shift k) }

def Window.shift (k : Nat) (window : Window) : Window :=
  ⟨window.partition.map (TypedExpr.shift k), window.order.map (SortKey.shift k)⟩

/-- The state with all column numbers greater by `k`, the next one included. -/
def State.shift (k : Nat) (state : State) : State where
  nextId := state.nextId + k
  common := state.common.map (CommonTable.shift k)
  outer := state.outer.map (Scope.shift k)
  analytic := state.analytic.map (map (Computed.shift k))
  windows := state.windows.map (Prod.map id (Window.shift k))

@[simp] theorem Scope.shift_zero (scope : Scope) : scope.shift 0 = scope := by
  simp [Scope.shift, show Relation.shift 0 = id from funext fun relation => by simp [Relation.shift]]

@[simp] theorem State.shift_zero (state : State) : state.shift 0 = state := by
  have entries : CommonTable.shift 0 = id := funext fun entry => by simp [CommonTable.shift]
  have scopes : Scope.shift 0 = id := funext Scope.shift_zero
  have windows : Window.shift 0 = id := funext fun window => by simp [Window.shift]
  simp [State.shift, entries, scopes, windows]

/-! ### Demands -/

/-- What is asked of trees, of places, of the names of common tables and of types in an analysis. -/
structure Demand where
  Tree : Node → Prop := fun _ => True
  Low : Node → Prop := fun _ => True
  Spot : Option Span → Prop := fun _ => True
  Known : String → Prop := fun _ => True
  Typed : Prop := False
  child : ∀ {node part}, Tree node → part ∈ node.children → Tree part := by intros; trivial
  low : ∀ {node part}, Tree node → part ∈ node.children → Low part := by intros; trivial
  spot : ∀ {node}, Tree node → Spot node.span := by intros; trivial
  nowhere : Spot none := by trivial
  reaches : ∀ {node}, Tree node → ∀ part ∈ pathParts node,
    Spot part.2 ∧ Spot (reach ((node.span.map Span.start).getD 0) part.2) := by intros; trivial
  known : ∀ {node}, Tree node → node.kind = .withClause → ∀ entry ∈ node.children, ∀ name ∈ entry.name?,
      Known name := by
    intros; trivial

namespace Demand

variable (demand : Demand) (k : Nat)

/-- Things are alike if the second is the first with all column numbers greater by `k`, and if they meet the demands. -/
def shifted : Comparison where
  Names a b := b = a
  Numbers i j := j = i + k
  Trees node node' := node' = node ∧ demand.Tree node
  Low := demand.Low
  Spot := demand.Spot
  Known := demand.Known
  Typed := demand.Typed
  Exprs expr expr' := expr' = expr.shift k ∧ demand.Spot expr.span ∧ (demand.Typed → expr.WellTyped)
  Scans scan scan' := scan' = scan.shift k ∧ (demand.Typed → scan.WellTyped)

variable {demand : Demand} {k : Nat}

theorem eq_map (alike : Forall₂ R items others) (same : ∀ {a b}, R a b → b = f a) : others = items.map f := by
  induction alike with
  | nil => rfl
  | cons first _ ih => rw [map_cons, same first, ih]

theorem option_eq_map (alike : Option.Rel R a b) (same : ∀ {a b}, R a b → b = f a) : b = a.map f := by
  cases alike with
  | none => rfl
  | some first => rw [same first, Option.map_some]

theorem holds_left {R : α → β → Prop} {P : α → Prop} (alike : Forall₂ R items others) (has : ∀ {a b}, R a b → P a) :
    ∀ item ∈ items, P item := by
  induction alike with
  | nil => simp
  | cons first _ ih => simpa using ⟨has first, ih⟩

theorem option_holds_left {R : α → β → Prop} {P : α → Prop} (alike : Option.Rel R a b) (has : ∀ {a b}, R a b → P a) :
    ∀ item ∈ a, P item := by
  cases alike with
  | none => simp
  | some first => simpa using has first

theorem column_eq (alike : (demand.shifted k).Columns column column') : column' = column.shift k := by
  cases column'
  exact (Column.mk.injEq ..).mpr ⟨alike.number, alike.table, alike.name, alike.type⟩

theorem column_shift (column : Column) : (demand.shifted k).Columns column (column.shift k) := ⟨rfl, rfl, rfl, rfl⟩

theorem columns_eq (alike : Forall₂ (demand.shifted k).Columns columns columns') :
    columns' = columns.map (Column.shift k) := eq_map alike column_eq

theorem output_eq (alike : (demand.shifted k).Outputs output output') : output' = output.shift k := by
  cases output'
  exact (NamedColumn.mk.injEq ..).mpr ⟨alike.name, column_eq alike.column⟩

theorem key_eq (alike : (demand.shifted k).Keys key key') : key' = key.shift k := by
  cases key
  cases key'
  exact (SortKey.mk.injEq ..).mpr ⟨alike.expr.1, alike.descending⟩

theorem window_eq {window : Window} (alike : (demand.shifted k).Windows window window') : window' = window.shift k := by
  cases window'
  exact (Window.mk.injEq ..).mpr ⟨eq_map alike.partition And.left, eq_map alike.order key_eq⟩

theorem computed_eq (alike : (demand.shifted k).Computeds entry entry') : entry' = entry.shift k := by
  cases entry
  cases entry'
  exact (Computed.mk.injEq ..).mpr ⟨column_eq alike.column, alike.expr.1⟩

theorem computed_wellTyped (alike : (demand.shifted k).Computeds entry entry') (typed : demand.Typed) :
    entry.WellTyped := ⟨alike.type typed, alike.expr.2.2 typed⟩

theorem entry_eq (alike : (demand.shifted k).Entries entry entry') : entry' = entry.shift k := by
  cases entry
  cases entry'
  exact (Entry.mk.injEq ..).mpr ⟨alike.name, alike.query.1⟩

theorem scope_eq (alike : (demand.shifted k).Scopes scope scope') : scope' = scope.shift k := by
  refine eq_map alike fun {relation relation'} same => ?_
  have named := option_eq_map (f := id) same.name id
  rw [Option.map_id] at named
  cases relation'
  exact (Relation.mk.injEq ..).mpr ⟨named, eq_map same.columns output_eq⟩

theorem state_eq (alike : (demand.shifted k).States state state') : state' = state.shift k := by
  cases state'
  refine (State.mk.injEq ..).mpr ⟨alike.number, eq_map alike.common fun {entry entry'} same => ?_,
    eq_map alike.outer scope_eq, option_eq_map alike.analytic fun calls => eq_map calls computed_eq,
    eq_map alike.windows fun same => Prod.ext same.1 (window_eq same.2)⟩
  cases entry'
  exact (CommonTable.mk.injEq ..).mpr ⟨same.name, eq_map same.columns output_eq⟩

theorem statement_eq {statement : Resolved.Statement} (alike : (demand.shifted k).Statements statement statement') :
    statement' = statement.shift k := by
  cases statement'
  exact (Resolved.Statement.mk.injEq ..).mpr ⟨eq_map alike.query.outputs output_eq, alike.query.scan.1, alike.span⟩

theorem congruent (demand : Demand) (k : Nat) : (demand.shifted k).Congruent where
  refl _ := rfl
  folded same := by rw [show _ = _ from same, Text.sameName_refl]
  analytic same := by rw [show _ = _ from same]
  next same := by rw [show _ = _ from same]; exact Nat.add_right_comm _ _ _
  kind trees := by rw [trees.1]; exact .same _
  span trees := by rw [trees.1]
  spot trees := demand.spot trees.2
  nowhere := demand.nowhere
  reaches trees := demand.reaches trees.2
  children trees := by
    rw [trees.1]
    exact forall₂_same.mpr fun part inside => ⟨⟨rfl, demand.child trees.2 inside⟩, demand.low trees.2 inside⟩
  tablePath trees _ := by rw [trees.1]
  known trees := demand.known trees.2
  type exprs := by rw [exprs.1, TypedExpr.type_shift]
  exprSpan exprs := by rw [exprs.1, TypedExpr.span_shift]; exact ⟨rfl, exprs.2.1⟩
  hasAggregate exprs := by rw [exprs.1, TypedExpr.hasAggregate_shift]
  form {expr expr'} exprs := by
    rw [exprs.1]
    cases expr with
    | column column span => exact .inl ⟨column, _, span, rfl, rfl, column_shift column⟩
    | _ => right; constructor <;> rintro _ _ ⟨⟩
  columns scans := by
    rw [scans.1, Scan.columns_shift, forall₂_map_right_iff]
    exact forall₂_same.mpr fun column _ => column_shift column
  literal spot := ⟨rfl, spot, fun _ => trivial⟩
  column columns spot := ⟨by rw [column_eq columns]; rfl, spot, fun _ => trivial⟩
  field exprs named field spot :=
    ⟨by rw [exprs.1, show _ = _ from named]; rfl, spot, fun typed => ⟨field, exprs.2.2 typed⟩⟩
  cast exprs known spot := ⟨by rw [exprs.1]; rfl, spot, fun typed => ⟨known, exprs.2.2 typed⟩⟩
  call exprs gives spot := ⟨by rw [eq_map exprs And.left]; simp [TypedExpr.shift], spot, fun typed =>
    ⟨gives, Resolved.allWellTyped_iff.mpr (holds_left exprs (·.2.2 typed))⟩⟩
  analyticCall exprs windows gives spot := ⟨by
      rw [eq_map exprs And.left, window_eq windows]
      simp [TypedExpr.shift, Window.shift], spot, fun typed =>
    ⟨gives, Resolved.allWellTyped_iff.mpr (holds_left exprs (·.2.2 typed)),
      Resolved.allWellTyped_iff.mpr (holds_left windows.partition (·.2.2 typed)),
      Resolved.keysWellTyped_iff.mpr (holds_left windows.order (·.expr.2.2 typed))⟩⟩
  subquery scans exprs gives spot :=
    ⟨by rw [scans.1, option_eq_map exprs And.left]; simp [TypedExpr.shift], spot, fun typed =>
    ⟨gives, scans.2 typed, Resolved.perhapsWellTyped_iff.mpr (option_holds_left exprs (·.2.2 typed))⟩⟩
  singleRow := ⟨rfl, fun _ => trivial⟩
  table named columns :=
    ⟨by rw [columns_eq columns, option_eq_map (f := id) named id]; simp [Scan.shift], fun _ => trivial⟩
  reference columns named called :=
    ⟨by rw [columns_eq columns, show _ = _ from named, show _ = _ from called]; rfl, fun _ => trivial⟩
  array columns scans exprs element index tests elements numbers := ⟨by
      rw [columns_eq columns, option_eq_map scans And.left, exprs.1, column_eq element, option_eq_map index column_eq,
        option_eq_map tests (·.expr.1)]
      simp [Scan.shift], fun typed =>
    ⟨elements, numbers, option_holds_left tests (·.type), exprs.2.2 typed,
      Resolved.perhapsWellTyped_iff.mpr (option_holds_left tests (·.expr.2.2 typed)),
      Resolved.inputWellTyped_iff.mpr (option_holds_left scans (·.2 typed))⟩⟩
  join columns left right tests := ⟨by
      rw [columns_eq columns, left.1, right.1, option_eq_map tests (·.expr.1)]
      simp [Scan.shift], fun typed =>
    ⟨option_holds_left tests (·.type), Resolved.perhapsWellTyped_iff.mpr (option_holds_left tests (·.expr.2.2 typed)),
      left.2 typed, right.2 typed⟩⟩
  project columns computed scans := ⟨by
      rw [columns_eq columns, eq_map computed computed_eq, scans.1]
      simp [Scan.shift], fun typed =>
    ⟨Resolved.computedWellTyped_iff.mpr (holds_left computed (computed_wellTyped · typed)), scans.2 typed⟩⟩
  filter columns scans tests := ⟨by rw [columns_eq columns, scans.1, tests.expr.1]; rfl, fun typed =>
    ⟨tests.type, tests.expr.2.2 typed, scans.2 typed⟩⟩
  aggregate columns scans computed := ⟨by
      rw [columns_eq columns, eq_map computed computed_eq, scans.1]
      simp [Scan.shift], fun typed =>
    ⟨Resolved.computedWellTyped_iff.mpr (holds_left computed (computed_wellTyped · typed)), scans.2 typed⟩⟩
  window columns scans computed := ⟨by
      rw [columns_eq columns, eq_map computed computed_eq, scans.1]
      simp [Scan.shift], fun typed =>
    ⟨Resolved.computedWellTyped_iff.mpr (holds_left computed (computed_wellTyped · typed)), scans.2 typed⟩⟩
  orderBy columns scans keys :=
    ⟨by rw [columns_eq columns, scans.1, eq_map keys key_eq]; simp [Scan.shift], fun typed =>
    ⟨Resolved.keysWellTyped_iff.mpr (holds_left keys (·.expr.2.2 typed)), scans.2 typed⟩⟩
  limit columns scans count offset := ⟨by
      rw [columns_eq columns, scans.1, count.1, option_eq_map offset And.left]
      simp [Scan.shift], fun typed =>
    ⟨count.2.2 typed, Resolved.perhapsWellTyped_iff.mpr (option_holds_left offset (·.2.2 typed)), scans.2 typed⟩⟩
  common columns entries scans := ⟨by
      rw [columns_eq columns, scans.1, eq_map entries entry_eq]
      simp [Scan.shift], fun typed =>
    ⟨Resolved.entriesWellTyped_iff.mpr (holds_left entries (·.query.2 typed)), scans.2 typed⟩⟩
  setOperation columns left right unites := ⟨by rw [columns_eq columns, left.1, right.1]; rfl, fun typed =>
    ⟨unites, left.2 typed, right.2 typed⟩⟩

/-! ### What is alike to itself -/

theorem output_shift (output : NamedColumn) : (demand.shifted k).Outputs output (output.shift k) :=
  ⟨rfl, column_shift output.column⟩

theorem outputs_shift (outputs : List NamedColumn) :
    Forall₂ (demand.shifted k).Outputs outputs (outputs.map (NamedColumn.shift k)) :=
  forall₂_map_right_iff.mpr (forall₂_same.mpr fun output _ => output_shift output)

theorem scope_shift (scope : Scope) : (demand.shifted k).Scopes scope (scope.shift k) := by
  exact forall₂_map_right_iff.mpr (forall₂_same.mpr fun relation _ =>
    ⟨option_refl fun _ => rfl, outputs_shift relation.columns⟩)

theorem state_shift (everywhere : ∀ span, demand.Spot span) (untyped : ¬demand.Typed)
    (known : ∀ entry ∈ state.common, demand.Known entry.name) : (demand.shifted k).States state (state.shift k) := by
  have exprs (expr : TypedExpr) : (demand.shifted k).Exprs expr (expr.shift k) :=
    ⟨rfl, everywhere _, fun typed => (untyped typed).elim⟩
  have calls (call : Computed) : (demand.shifted k).Computeds call (call.shift k) := by
    cases call
    exact ⟨column_shift _, exprs _, fun typed => (untyped typed).elim⟩
  have keys (key : SortKey) : (demand.shifted k).Keys key (key.shift k) := by
    cases key
    exact ⟨exprs _, rfl⟩
  refine ⟨rfl, ?_, ?_, ?_, ?_⟩
  · exact forall₂_map_right_iff.mpr (forall₂_same.mpr fun entry listed =>
      ⟨known entry listed, rfl, outputs_shift entry.columns⟩)
  · exact forall₂_map_right_iff.mpr (forall₂_same.mpr fun scope _ => scope_shift scope)
  · show Option.Rel _ state.analytic (state.analytic.map _)
    cases state.analytic with
    | none => exact .none
    | some list => exact .some (forall₂_map_right_iff.mpr (forall₂_same.mpr fun call _ => calls call))
  · refine forall₂_map_right_iff.mpr (forall₂_same.mpr fun entry _ => ⟨rfl, ?_, ?_⟩)
    · exact forall₂_map_right_iff.mpr (forall₂_same.mpr fun expr _ => exprs expr)
    · exact forall₂_map_right_iff.mpr (forall₂_same.mpr fun key _ => keys key)

theorem initial_shift : (demand.shifted k).States .initial (State.initial.shift k) := ⟨rfl, .nil, .nil, .none, .nil⟩

end Demand

abbrev sameness : Comparison := Demand.shifted {} 0

theorem same_congruent : sameness.Congruent := Demand.congruent _ _

theorem same_tree : sameness.Parts node node := ⟨⟨rfl, trivial⟩, trivial⟩

theorem same_output (output : NamedColumn) : sameness.Outputs output output := Demand.output_shift output

theorem same_outputs (outputs : List NamedColumn) : Forall₂ sameness.Outputs outputs outputs :=
  forall₂_same.mpr fun output _ => same_output output

theorem same_scope (scope : Scope) : sameness.Scopes scope scope := by
  have alike : sameness.Scopes scope (scope.shift 0) := Demand.scope_shift scope
  rwa [Scope.shift_zero] at alike

theorem same_state (state : State) : sameness.States state state := by
  have alike : sameness.States state (state.shift 0) := Demand.state_shift (fun _ => trivial) id fun _ _ => trivial
  rwa [State.shift_zero] at alike

theorem scope_of_same (alike : sameness.Scopes scope scope') : scope' = scope := by
  rw [Demand.scope_eq alike, Scope.shift_zero]

theorem state_of_same (alike : sameness.States state state') : state' = state := by
  rw [Demand.state_eq alike, State.shift_zero]

end SqlLens.Analysis
