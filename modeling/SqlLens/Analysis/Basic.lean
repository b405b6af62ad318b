import SqlLens.Analysis.Fault
import SqlLens.Resolved.Basic
import SqlLens.Schema.Basic
import SqlLens.Surface.Basic

/-!
The setting in which statements are resolved.

A `Scope` lists what the tables of a query make visible. `Analyze` is a computation that looks up tables, may fail, and
keeps a `State`: the number of the next column, and what is visible at the place being resolved. What was counted stays
counted when a computation fails. `restoring` mends the state at the end, whether a computation fails or not.
-/

namespace SqlLens.Analysis

open SqlLens.Resolved (Column NamedColumn Scan TypedExpr Computed SortKey Entry)
open SqlLens.Surface (Node)

/-- A table, common table, query or array after `FROM`: its name, if it has one, and its columns. -/
structure Relation where
  name : Option String
  columns : List NamedColumn
deriving DecidableEq

def Relation.column? (relation : Relation) (name : String) : Option NamedColumn :=
  relation.columns.find? fun column => Text.sameName column.name name

abbrev Scope := List Relation

namespace Scope

def relation? (scope : Scope) (name : String) : Option Relation :=
  scope.find? fun relation => relation.name.any (Text.sameName · name)

def columnsNamed (scope : Scope) (name : String) : List NamedColumn := scope.filterMap (·.column? name)

def knows (scope : Scope) (name : String) : Bool :=
  (scope.relation? name).isSome || !(scope.columnsNamed name).isEmpty

end Scope

structure CommonTable where
  name : String
  columns : List NamedColumn
deriving DecidableEq

structure Window where
  partition : List TypedExpr
  order : List SortKey

structure State where
  nextId : Nat
  /-- The common tables that are visible, the latest first. -/
  common : List CommonTable
  /-- What the enclosing queries make visible, the innermost first. -/
  outer : List Scope
  /-- The calls over windows of the current selection, where such calls are allowed. -/
  analytic : Option (List Computed)
  windows : List (String × Window)

def State.initial : State := ⟨1, [], [], none, []⟩

abbrev Lookup := String → Option Table

abbrev Analyze := ReaderT Lookup (ExceptT Failure (StateM State))

def Analyze.outcome (m : Analyze α) (tables : Lookup) (state : State) : Except Failure α × State :=
  (m tables).run.run state

def fail (fault : Fault) (span : Option Span) : Analyze α := throw ⟨fault, span⟩

def malformed (node : Node) : Analyze α := fail (.malformed node.kind) node.span

def need (node : Node) : Option α → Analyze α
  | some value => return value
  | none => malformed node

def child (node : Node) (index : Nat) : Analyze Node := need node node.children[index]?

def each (f : α → Analyze β) : List α → Analyze (List β)
  | [] => return []
  | item :: rest => do
    let value ← f item
    let values ← each f rest
    return value :: values

def perhaps (f : α → Analyze β) : Option α → Analyze (Option β)
  | none => return none
  | some item => do return some (← f item)

/-- Runs a computation and then mends the state, given the state before and the state after it. -/
def restoring (mend : State → State → State) (m : Analyze α) : Analyze α := fun tables =>
  ExceptT.mk fun before =>
    let (result, after) := m.outcome tables before
    (result, mend before after)

/-- Leaves out what was put on top of a list since it had the given length. -/
def truncate (mark : Nat) (list : List α) : List α := list.drop (list.length - mark)

/-- Runs a computation with one more scope around it, which is taken off at the end. -/
def enclosing (scope : Scope) (m : Analyze α) : Analyze α :=
  restoring (fun _ after => { after with outer := after.outer.tail }) do
    modify fun state => { state with outer := scope :: state.outer }
    m

def fresh (table name : String) (type : SqlType) : Analyze Column := do
  let state ← get
  set { state with nextId := state.nextId + 1 }
  return ⟨state.nextId, table, name, type⟩

structure Resolvers where
  expr : Scope → Node → Analyze TypedExpr
  query : Node → Analyze (Scan × List NamedColumn)
  /-- Resolves a selection, set operation or query in parentheses; also gives what its tables make visible. -/
  body : Node → Analyze (Scan × List NamedColumn × Scope)
  source : Node → Analyze (Scan × Scope)

end SqlLens.Analysis
