import SqlLens.Proofs.Members
import SqlLens.Resolved.Basic

/-!
Resolved queries with other column numbers.

`Scan.shift k` adds `k` to the number of every column, wherever in the query the column stands. Names, types, places and
the shape of the query stay.
-/

namespace SqlLens.Resolved

variable (k : Nat)

def Column.shift (column : Column) : Column := { column with id := column.id + k }

def NamedColumn.shift (entry : NamedColumn) : NamedColumn := { entry with column := entry.column.shift k }

mutual
def Scan.shift (k : Nat) : Scan → Scan
  | .table name aliasName columns span => .table name aliasName (columns.map (Column.shift k)) span
  | .project columns computed input span =>
    .project (columns.map (Column.shift k)) (shiftComputed k computed) (input.shift k) span
  | .filter columns input condition span =>
    .filter (columns.map (Column.shift k)) (input.shift k) (condition.shift k) span
  | .join columns type left right condition span =>
    .join (columns.map (Column.shift k)) type (left.shift k) (right.shift k) (shiftPerhaps k condition) span
  | .aggregate columns input groups span =>
    .aggregate (columns.map (Column.shift k)) (input.shift k) (shiftComputed k groups) span
  | .orderBy columns input items span =>
    .orderBy (columns.map (Column.shift k)) (input.shift k) (shiftKeys k items) span
  | .limit columns input count offset span =>
    .limit (columns.map (Column.shift k)) (input.shift k) (count.shift k) (shiftPerhaps k offset) span
  | .common columns entries query span =>
    .common (columns.map (Column.shift k)) (shiftEntries k entries) (query.shift k) span
  | .reference columns entry aliasName span => .reference (columns.map (Column.shift k)) entry aliasName span
  | .singleRow => .singleRow
  | .setOperation columns op distinct left right span =>
    .setOperation (columns.map (Column.shift k)) op distinct (left.shift k) (right.shift k) span
  | .array columns input array element offset condition outer span =>
    .array (columns.map (Column.shift k)) (shiftInput k input) (array.shift k) (element.shift k)
      (offset.map (Column.shift k)) (shiftPerhaps k condition) outer span
  | .analytic columns input calls span =>
    .analytic (columns.map (Column.shift k)) (input.shift k) (shiftComputed k calls) span

def TypedExpr.shift (k : Nat) : TypedExpr → TypedExpr
  | .literal text type span => .literal text type span
  | .column column span => .column (column.shift k) span
  | .call function arguments type span => .call function (shiftAll k arguments) type span
  | .analyticCall function arguments partition order type span =>
    .analyticCall function (shiftAll k arguments) (shiftAll k partition) (shiftKeys k order) type span
  | .field base name type span => .field (base.shift k) name type span
  | .cast base type safe span => .cast (base.shift k) type safe span
  | .subquery kind query tested type span => .subquery kind (query.shift k) (shiftPerhaps k tested) type span

def shiftAll (k : Nat) : List TypedExpr → List TypedExpr
  | [] => []
  | expr :: rest => expr.shift k :: shiftAll k rest

def shiftPerhaps (k : Nat) : Option TypedExpr → Option TypedExpr
  | none => none
  | some expr => some (expr.shift k)

def shiftKeys (k : Nat) : List SortKey → List SortKey
  | [] => []
  | .mk expr descending :: rest => .mk (expr.shift k) descending :: shiftKeys k rest

def shiftComputed (k : Nat) : List Computed → List Computed
  | [] => []
  | .mk column expr :: rest => .mk (column.shift k) (expr.shift k) :: shiftComputed k rest

def shiftEntries (k : Nat) : List Entry → List Entry
  | [] => []
  | .mk name query :: rest => .mk name (query.shift k) :: shiftEntries k rest

def shiftInput (k : Nat) : Option Scan → Option Scan
  | none => none
  | some input => some (input.shift k)
end

def SortKey.shift : SortKey → SortKey
  | .mk expr descending => .mk (expr.shift k) descending

def Computed.shift : Computed → Computed
  | .mk column expr => .mk (column.shift k) (expr.shift k)

def Entry.shift : Entry → Entry
  | .mk name query => .mk name (query.shift k)

def Statement.shift (statement : Statement) : Statement :=
  { statement with outputs := statement.outputs.map (NamedColumn.shift k), query := statement.query.shift k }

variable {k : Nat}

@[simp] theorem shiftAll_eq (exprs : List TypedExpr) : shiftAll k exprs = exprs.map (TypedExpr.shift k) :=
  eq_map_of_cons rfl fun _ _ => rfl

@[simp] theorem shiftPerhaps_eq (expr : Option TypedExpr) : shiftPerhaps k expr = expr.map (TypedExpr.shift k) := by
  cases expr <;> rfl

@[simp] theorem shiftKeys_eq (keys : List SortKey) : shiftKeys k keys = keys.map (SortKey.shift k) :=
  eq_map_of_cons rfl fun ⟨_, _⟩ _ => rfl

@[simp] theorem shiftComputed_eq (entries : List Computed) :
    shiftComputed k entries = entries.map (Computed.shift k) := eq_map_of_cons rfl fun ⟨_, _⟩ _ => rfl

@[simp] theorem shiftEntries_eq (entries : List Entry) : shiftEntries k entries = entries.map (Entry.shift k) :=
  eq_map_of_cons rfl fun ⟨_, _⟩ _ => rfl

@[simp] theorem shiftInput_eq (input : Option Scan) : shiftInput k input = input.map (Scan.shift k) := by
  cases input <;> rfl

/-! ### What stays -/

@[simp] theorem Scan.columns_shift (scan : Scan) : (scan.shift k).columns = scan.columns.map (Column.shift k) := by
  cases scan <;> rfl

@[simp] theorem TypedExpr.type_shift (expr : TypedExpr) : (expr.shift k).type = expr.type := by
  cases expr <;> rfl

@[simp] theorem TypedExpr.span_shift (expr : TypedExpr) : (expr.shift k).span = expr.span := by
  cases expr <;> rfl

mutual
@[simp] theorem TypedExpr.hasAggregate_shift : (expr : TypedExpr) → (expr.shift k).hasAggregate = expr.hasAggregate
  | .call function arguments _ _ => by
    simp only [TypedExpr.shift, TypedExpr.hasAggregate, anyAggregate_shift arguments]
  | .field base _ _ _ => by simp only [TypedExpr.shift, TypedExpr.hasAggregate, base.hasAggregate_shift]
  | .cast base _ _ _ => by simp only [TypedExpr.shift, TypedExpr.hasAggregate, base.hasAggregate_shift]
  | .subquery _ _ (some tested) _ _ => by
    simp only [TypedExpr.shift, shiftPerhaps, TypedExpr.hasAggregate, tested.hasAggregate_shift]
  | .subquery _ _ none _ _ | .literal .. | .column .. | .analyticCall .. => rfl

theorem anyAggregate_shift : (exprs : List TypedExpr) →
    TypedExpr.anyAggregate (shiftAll k exprs) = TypedExpr.anyAggregate exprs
  | [] => rfl
  | expr :: rest => by
    simp only [shiftAll, TypedExpr.anyAggregate, TypedExpr.hasAggregate_shift expr, anyAggregate_shift rest]
end

/-! ### Nothing added -/

@[simp] theorem column_shift_zero : Column.shift 0 = id := rfl

@[simp] theorem NamedColumn.shift_zero : NamedColumn.shift 0 = id := rfl

theorem shift_zero :
    (∀ scan : Scan, scan.shift 0 = scan) ∧ (∀ input, shiftInput 0 input = input) ∧
      (∀ entries, shiftEntries 0 entries = entries) ∧ (∀ keys, shiftKeys 0 keys = keys) ∧
      (∀ expr : TypedExpr, expr.shift 0 = expr) ∧ (∀ expr, shiftPerhaps 0 expr = expr) ∧
      (∀ exprs, shiftAll 0 exprs = exprs) ∧ ∀ entries, shiftComputed 0 entries = entries := by
  apply Scan.shift.mutual_induct
  all_goals simp +contextual [Scan.shift, TypedExpr.shift, shiftInput, shiftEntries, shiftPerhaps, shiftKeys, shiftAll,
    shiftComputed, -shiftInput_eq, -shiftEntries_eq, -shiftPerhaps_eq, -shiftKeys_eq, -shiftAll_eq, -shiftComputed_eq]

@[simp] theorem TypedExpr.shift_zero_eq : TypedExpr.shift 0 = id := funext shift_zero.2.2.2.2.1

@[simp] theorem Scan.shift_zero_eq : Scan.shift 0 = id := funext shift_zero.1

@[simp] theorem SortKey.shift_zero : SortKey.shift 0 = id := funext fun key => by cases key; simp [SortKey.shift]

@[simp] theorem Computed.shift_zero : Computed.shift 0 = id := funext fun entry => by cases entry; simp [Computed.shift]

@[simp] theorem Statement.shift_zero : Statement.shift 0 = id := funext fun statement => by simp [Statement.shift]

end SqlLens.Resolved
