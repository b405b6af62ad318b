import SqlLens.Function.Builtin
import SqlLens.Proofs.Function.Coercion
import SqlLens.Proofs.Members
import SqlLens.Resolved.Basic

/-!
Resolved queries whose types fit together.

`Scan.WellTyped` looks at every expression of a query, in subqueries, common tables and windows too: conditions can be
true or false, a computed column has the type of its expression, and every call, field, cast, subquery, unnested array
and set operation has a type that follows from the types of its parts. Only a `CASE` and an array that is written out
have types of their own making.
-/

namespace SqlLens

namespace SqlType

def IsCondition (type : SqlType) : Prop := type = bool ∨ type = unknown

/-- Values of the first type have a field with the name, in any case, and of the last type. -/
inductive HasField : SqlType → String → SqlType → Prop where
  | struct {fields : List (String × SqlType)} {name own : String} {type : SqlType}
      (found : fields.find? (fun field => Text.sameName field.1 name) = some (own, type)) :
      HasField (struct fields) name type
  | unknown {name : String} : HasField unknown name unknown

inductive HasElement : SqlType → SqlType → Prop where
  | array {element : SqlType} : HasElement (array element) element
  | unknown : HasElement unknown unknown

end SqlType

namespace Resolved

inductive SubqueryType.Gives : SubqueryType → List Column → SqlType → Prop where
  | scalar {column : Column} : Gives .scalar [column] column.type
  | array {column : Column} : Gives .array [column] (.array column.type)
  | exist {columns : List Column} : Gives .exist columns .bool
  | within {column : Column} : Gives .within [column] .bool

/-- Each column has a type that both columns at its place coerce to. -/
inductive Unites : List Column → List Column → List Column → Prop where
  | nil : Unites [] [] []
  | cons {column left right : Column} {columns lefts rights : List Column}
      (first : left.type.coercesTo column.type = true) (second : right.type.coercesTo column.type = true)
      (rest : Unites columns lefts rights) : Unites (column :: columns) (left :: lefts) (right :: rights)

mutual
/-- Every type in a query follows from the types it is made of. -/
def Scan.WellTyped : Scan → Prop
  | .table .. | .reference .. | .singleRow => True
  | .project _ computed input _ => computedWellTyped computed ∧ input.WellTyped
  | .filter _ input condition _ => condition.type.IsCondition ∧ condition.WellTyped ∧ input.WellTyped
  | .join _ _ left right condition _ =>
    (∀ test ∈ condition, test.type.IsCondition) ∧ perhapsWellTyped condition ∧ left.WellTyped ∧ right.WellTyped
  | .aggregate _ input groups _ => computedWellTyped groups ∧ input.WellTyped
  | .orderBy _ input items _ => keysWellTyped items ∧ input.WellTyped
  | .limit _ input count offset _ => count.WellTyped ∧ perhapsWellTyped offset ∧ input.WellTyped
  | .common _ entries query _ => entriesWellTyped entries ∧ query.WellTyped
  | .setOperation columns _ _ left right _ =>
    Unites columns left.columns right.columns ∧ left.WellTyped ∧ right.WellTyped
  | .array _ input array element offset condition _ _ =>
    array.type.HasElement element.type ∧ (∀ column ∈ offset, column.type = .int64) ∧
      (∀ test ∈ condition, test.type.IsCondition) ∧ array.WellTyped ∧ perhapsWellTyped condition ∧ inputWellTyped input
  | .analytic _ input calls _ => computedWellTyped calls ∧ input.WellTyped

def TypedExpr.WellTyped : TypedExpr → Prop
  | .literal .. | .column .. => True
  | .call function arguments type _ =>
    (function ≠ Function.case → function ≠ Function.makeArray → function.Gives (arguments.map TypedExpr.type) type) ∧
      allWellTyped arguments
  | .analyticCall function arguments partition order type _ =>
    function.Gives (arguments.map TypedExpr.type) type ∧
      allWellTyped arguments ∧ allWellTyped partition ∧ keysWellTyped order
  | .field base name type _ => base.type.HasField name type ∧ base.WellTyped
  | .cast base type _ _ => type ≠ .unknown ∧ base.WellTyped
  | .subquery kind query tested type _ =>
    kind.Gives query.columns type ∧ query.WellTyped ∧ perhapsWellTyped tested

def allWellTyped : List TypedExpr → Prop
  | [] => True
  | expr :: rest => expr.WellTyped ∧ allWellTyped rest

def perhapsWellTyped : Option TypedExpr → Prop
  | none => True
  | some expr => expr.WellTyped

def keysWellTyped : List SortKey → Prop
  | [] => True
  | .mk expr _ :: rest => expr.WellTyped ∧ keysWellTyped rest

def computedWellTyped : List Computed → Prop
  | [] => True
  | .mk column expr :: rest => (column.type = expr.type ∧ expr.WellTyped) ∧ computedWellTyped rest

def entriesWellTyped : List Entry → Prop
  | [] => True
  | .mk _ query :: rest => query.WellTyped ∧ entriesWellTyped rest

def inputWellTyped : Option Scan → Prop
  | none => True
  | some input => input.WellTyped
end

def Computed.WellTyped (entry : Computed) : Prop := entry.column.type = entry.expr.type ∧ entry.expr.WellTyped

@[simp] theorem allWellTyped_iff : allWellTyped exprs ↔ ∀ expr ∈ exprs, expr.WellTyped :=
  iff_forall_mem trivial fun _ _ => .rfl

@[simp] theorem perhapsWellTyped_iff : perhapsWellTyped expr ↔ ∀ value ∈ expr, value.WellTyped := by
  cases expr <;> simp [perhapsWellTyped]

@[simp] theorem keysWellTyped_iff : keysWellTyped keys ↔ ∀ key ∈ keys, key.expr.WellTyped :=
  iff_forall_mem trivial fun ⟨_, _⟩ _ => .rfl

@[simp] theorem computedWellTyped_iff : computedWellTyped entries ↔ ∀ entry ∈ entries, entry.WellTyped :=
  iff_forall_mem trivial fun ⟨_, _⟩ _ => .rfl

@[simp] theorem entriesWellTyped_iff : entriesWellTyped entries ↔ ∀ entry ∈ entries, entry.query.WellTyped :=
  iff_forall_mem trivial fun ⟨_, _⟩ _ => .rfl

@[simp] theorem inputWellTyped_iff : inputWellTyped input ↔ ∀ scan ∈ input, scan.WellTyped := by
  cases input <;> simp [inputWellTyped]

end Resolved

end SqlLens
