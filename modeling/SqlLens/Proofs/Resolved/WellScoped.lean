import SqlLens.Proofs.Members
import SqlLens.Resolved.Basic

/-!
Resolved queries that read only columns they can see.

`Scan.WellScoped env above` follows a query with the numbers of the columns that enclosing queries make visible.
Selected expressions and filters read columns of the scan below them, conditions of joins those of their scan, an
unnested array those of the scan it is joined to, and bounds on the number of rows only those of enclosing queries. A
filter directly below a projection also sees what that computes (`above`). What rows are grouped and sorted by, and
calls over windows, are not looked at: they may read columns that the scan below no longer has.
-/

namespace SqlLens.Resolved

variable {visible env : List Nat}

def Scan.ids (scan : Scan) : List Nat := scan.columns.map Column.id

mutual
/-- Every column that is read is visible where it is read. -/
def Scan.WellScoped (env above : List Nat) : Scan → Prop
  | .table .. | .reference .. | .singleRow => True
  | .project _ computed input _ =>
    computedWellScoped (env ++ input.ids) computed ∧
      input.WellScoped env (computed.map fun entry => entry.column.id)
  | .filter _ input condition _ => condition.WellScoped (env ++ input.ids ++ above) ∧ input.WellScoped env []
  | .join columns _ left right condition _ =>
    perhapsWellScoped (env ++ columns.map Column.id) condition ∧ left.WellScoped env [] ∧ right.WellScoped env []
  | .aggregate _ input _ _ | .orderBy _ input _ _ | .analytic _ input _ _ => input.WellScoped env []
  | .limit _ input count offset _ => count.WellScoped env ∧ perhapsWellScoped env offset ∧ input.WellScoped env []
  | .common _ entries query _ => entriesWellScoped env entries ∧ query.WellScoped env []
  | .setOperation _ _ _ left right _ => left.WellScoped env [] ∧ right.WellScoped env []
  | .array columns input array _ _ condition _ _ =>
    array.WellScoped (env ++ ((input.map Scan.columns).getD []).map Column.id) ∧
      perhapsWellScoped (env ++ columns.map Column.id) condition ∧ inputWellScoped env input

/-- Every column that an expression reads is visible, and so is every column that its subqueries read. -/
def TypedExpr.WellScoped (visible : List Nat) : TypedExpr → Prop
  | .literal .. => True
  | .column column _ => column.id ∈ visible
  | .call _ arguments _ _ => allWellScoped visible arguments
  | .analyticCall _ arguments partition order _ _ =>
    allWellScoped visible arguments ∧ allWellScoped visible partition ∧ keysWellScoped visible order
  | .field base _ _ _ => base.WellScoped visible
  | .cast base _ _ _ => base.WellScoped visible
  | .subquery _ query tested _ _ => query.WellScoped visible [] ∧ perhapsWellScoped visible tested

def allWellScoped (visible : List Nat) : List TypedExpr → Prop
  | [] => True
  | expr :: rest => expr.WellScoped visible ∧ allWellScoped visible rest

def perhapsWellScoped (visible : List Nat) : Option TypedExpr → Prop
  | none => True
  | some expr => expr.WellScoped visible

def keysWellScoped (visible : List Nat) : List SortKey → Prop
  | [] => True
  | .mk expr _ :: rest => expr.WellScoped visible ∧ keysWellScoped visible rest

def computedWellScoped (visible : List Nat) : List Computed → Prop
  | [] => True
  | .mk _ expr :: rest => expr.WellScoped visible ∧ computedWellScoped visible rest

def entriesWellScoped (env : List Nat) : List Entry → Prop
  | [] => True
  | .mk _ query :: rest => query.WellScoped env [] ∧ entriesWellScoped env rest

def inputWellScoped (env : List Nat) : Option Scan → Prop
  | none => True
  | some input => input.WellScoped env []
end

theorem allWellScoped_iff : allWellScoped visible exprs ↔ ∀ expr ∈ exprs, expr.WellScoped visible :=
  iff_forall_mem trivial fun _ _ => .rfl

theorem perhapsWellScoped_iff : perhapsWellScoped visible expr ↔ ∀ value ∈ expr, value.WellScoped visible := by
  cases expr <;> simp [perhapsWellScoped]

theorem computedWellScoped_iff :
    computedWellScoped visible entries ↔ ∀ entry ∈ entries, entry.expr.WellScoped visible :=
  iff_forall_mem trivial fun ⟨_, _⟩ _ => .rfl

theorem entriesWellScoped_iff : entriesWellScoped env entries ↔ ∀ entry ∈ entries, entry.query.WellScoped env [] :=
  iff_forall_mem trivial fun ⟨_, _⟩ _ => .rfl

theorem inputWellScoped_iff : inputWellScoped env input ↔ ∀ scan ∈ input, scan.WellScoped env [] := by
  cases input <;> simp [inputWellScoped]

/-! ### More may be visible -/

theorem wellScoped_mono :
    (∀ env above, ∀ scan : Scan, ∀ {env' above'}, env ⊆ env' → above ⊆ above' → scan.WellScoped env above →
      scan.WellScoped env' above') ∧
    (∀ env input, ∀ {env'}, env ⊆ env' → inputWellScoped env input → inputWellScoped env' input) ∧
    (∀ env entries, ∀ {env'}, env ⊆ env' → entriesWellScoped env entries → entriesWellScoped env' entries) ∧
    (∀ env expr, ∀ {env'}, env ⊆ env' → perhapsWellScoped env expr → perhapsWellScoped env' expr) ∧
    (∀ env, ∀ expr : TypedExpr, ∀ {env'}, env ⊆ env' → expr.WellScoped env → expr.WellScoped env') ∧
    (∀ env keys, ∀ {env'}, env ⊆ env' → keysWellScoped env keys → keysWellScoped env' keys) ∧
    (∀ env exprs, ∀ {env'}, env ⊆ env' → allWellScoped env exprs → allWellScoped env' exprs) ∧
    ∀ env entries, ∀ {env'}, env ⊆ env' → computedWellScoped env entries → computedWellScoped env' entries := by
  apply Scan.WellScoped.mutual_induct
  all_goals simp only [Scan.WellScoped, TypedExpr.WellScoped, inputWellScoped, entriesWellScoped, perhapsWellScoped,
    keysWellScoped, allWellScoped, computedWellScoped]
  all_goals grind

theorem Scan.WellScoped.mono (scan : Scan) {env env' above above' : List Nat} (more : env ⊆ env')
    (moreAbove : above ⊆ above') (holds : scan.WellScoped env above) : scan.WellScoped env' above' :=
  wellScoped_mono.1 env above scan more moreAbove holds

theorem TypedExpr.WellScoped.mono (expr : TypedExpr) {visible visible' : List Nat} (more : visible ⊆ visible')
    (holds : expr.WellScoped visible) : expr.WellScoped visible' := wellScoped_mono.2.2.2.2.1 visible expr more holds

theorem perhapsWellScoped_mono (expr : Option TypedExpr) {visible visible' : List Nat} (more : visible ⊆ visible')
    (holds : perhapsWellScoped visible expr) : perhapsWellScoped visible' expr :=
  wellScoped_mono.2.2.2.1 visible expr more holds

end SqlLens.Resolved
