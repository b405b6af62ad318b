import SqlLens.Analysis.Source

/-!
Selections.

The clauses are resolved in the order in which they take effect: tables, `WHERE`, named windows, the selected
expressions, `GROUP BY`, `HAVING` and `QUALIFY`. Calls over windows and named windows belong to one selection and not
to those within it or around it.
-/

namespace SqlLens.Analysis

open SqlLens.Resolved (Column NamedColumn Scan TypedExpr Computed)
open SqlLens.Surface (Node)

structure SelectParts where
  list : Option Node
  tables : Option Node
  filter : Option Node
  groups : Option Node
  having : Option Node
  qualify : Option Node
  windows : Option Node

/-- Sorts out the clauses of a selection; each node must be one of them. -/
def SelectParts.add? (parts : SelectParts) (node : Node) : Option SelectParts :=
  match node.kind with
  | .selectList => some { parts with list := some node }
  | .fromClause => some { parts with tables := some node }
  | .whereClause => some { parts with filter := some node }
  | .groupBy => some { parts with groups := some node }
  | .having => some { parts with having := some node }
  | .qualify => some { parts with qualify := some node }
  | .windowClause => some { parts with windows := some node }
  | _ => none

def SelectParts.of? (nodes : List Node) : Option SelectParts :=
  nodes.foldlM SelectParts.add? ⟨none, none, none, none, none, none, none⟩

/-- Columns of the result, what has to be computed for them, and whether a function of groups is called. -/
structure Selected where
  outputs : List NamedColumn
  computed : List Computed
  aggregate : Bool

def Selected.join (items : List Selected) : Selected :=
  ⟨items.flatMap outputs, items.flatMap computed, items.any aggregate⟩

/-- The name of a selected expression that has none, by its place counted from one. -/
def placeName (index : Nat) : String := "$col" ++ toString (index + 1)

variable (r : Resolvers)

/-- Selects an expression. A reference to a column stays that column; anything else becomes a computed column. -/
def selectExpr (scope : Scope) (index : Nat) (aliasName : Option String) (node : Node) :
    Analyze Selected := do
  let value ← r.expr scope node
  match value with
  | .column column _ =>
    let own := if column.table = "$analytic" then placeName index else column.name
    return ⟨[⟨aliasName.getD own, column⟩], [], value.hasAggregate⟩
  | _ =>
    let name := (aliasName.or (ownName? node)).getD (placeName index)
    let column ← fresh "$query" name value.type
    return ⟨[⟨name, column⟩], [.mk column value], value.hasAggregate⟩

def selectItem (scope : Scope) (entry : Node × Nat) : Analyze Selected := do
  let (item, index) := entry
  let first ← child item 0
  match first.kind with
  | .star =>
    if scope.isEmpty then fail .starWithoutTables first.span
    return ⟨← expandStar (scope.flatMap Relation.columns) first, [], false⟩
  | .dotStar =>
    let path ← child first 0
    if path.kind ≠ .path then malformed first
    match scope.relation? path.dotted with
    | some relation => return ⟨← expandStar relation.columns (← child first 1), [], false⟩
    | none => fail (.unknownName path.dotted) path.span
  | _ => selectExpr r scope index item.alias? first

def nameWindow (scope : Scope) (node : Node) : Analyze Unit := do
  let name ← need node node.name?
  if (namedWindow? (← get).windows name).isSome then fail (.duplicateWindow name) node.span
  let resolved ← window r scope (← child node 0)
  modify fun state => { state with windows := state.windows ++ [(name, resolved)] }

/-- Resolves an expression to group by. A name that cannot be resolved may still be one of the result. -/
def groupExpr (scope : Scope) (outputs : List NamedColumn) (item : Node) : Analyze TypedExpr :=
  try
    r.expr scope item
  catch failure =>
    match (singleName? item).bind fun name => outputs.find? fun output => Text.sameName output.name name with
    | some output => return .column output.column item.span
    | none => throw failure

def groupItem (scope : Scope) (outputs : List NamedColumn) (entry : Node × Nat) :
    Analyze Computed := do
  let value ← groupExpr r scope outputs entry.1
  match value with
  | .column column _ => return .mk column value
  | _ => return .mk (← fresh "$groupby" ("$groupbycol" ++ toString (entry.2 + 1)) value.type) value

def filtered (span : Option Span) (scan : Scan) : Option TypedExpr → Scan
  | some test => .filter scan.columns scan test span
  | none => scan

def grouped (span : Option Span) (scan : Scan) (groups : List Computed) : Scan :=
  .aggregate (groups.map Computed.column ++ scan.columns) scan groups span

def windowed (span : Option Span) (scan : Scan) (calls : List Computed) : Scan :=
  if calls.isEmpty then scan else .analytic (scan.columns ++ calls.map Computed.column) scan calls span

/-- What is visible to `QUALIFY`: the tables, and those columns of the result that no column of a table hides. -/
def qualifyScope (scope : Scope) (outputs : List NamedColumn) : Scope :=
  scope ++ [⟨none, outputs.filter fun output => (scope.columnsNamed output.name).isEmpty⟩]

/-- Allows calls over windows, starting from the given ones, and gives the calls that there are in the end. -/
def collecting (calls : List Computed) (m : Analyze α) : Analyze (α × List Computed) := do
  modify fun state => { state with analytic := some calls }
  let value ← m
  let collected := (← get).analytic.getD []
  modify fun state => { state with analytic := none }
  return (value, collected)

def clauseCondition (clause : Clause) (scope : Scope) (node : Node) : Analyze TypedExpr := do
  condition r clause scope (← child node 0)

def selectTables : Option Node → Analyze (Scan × Scope)
  | some clause => do r.source (← child clause 0)
  | none => return (.singleRow, [])

def selectClauses (node : Node) (parts : SelectParts) :
    Analyze (Scan × List NamedColumn × Scope) := do
  let (tables, scope) ← selectTables r parts.tables
  let test ← perhaps (clauseCondition r .filter scope) parts.filter
  let base := filtered node.span tables test
  let _ ← each (nameWindow r scope) ((parts.windows.map Node.children).getD [])
  let list ← need node parts.list
  let (items, calls) ← collecting [] (each (selectItem r scope) list.children.zipIdx)
  let selected := Selected.join items
  let groupNodes := (parts.groups.map Node.children).getD []
  let groups ← each (groupItem r scope selected.outputs) groupNodes.zipIdx
  let needsGroups := parts.groups.isSome || parts.having.isSome || selected.aggregate
  let rows := if needsGroups then grouped node.span base groups else base
  let having ← perhaps (clauseCondition r .having scope) parts.having
  let rows := filtered node.span rows having
  let (qualify, calls) ← collecting calls
    (perhaps (clauseCondition r .qualify (qualifyScope scope selected.outputs)) parts.qualify)
  let rows := filtered node.span (windowed node.span rows calls) qualify
  return (.project (selected.outputs.map NamedColumn.column) selected.computed rows node.span, selected.outputs, scope)

def select (node : Node) : Analyze (Scan × List NamedColumn × Scope) :=
  restoring (fun before after => { after with analytic := before.analytic, windows := before.windows }) do
    modify fun state => { state with analytic := none, windows := [] }
    let parts ← need node (SelectParts.of? node.children)
    selectClauses r node parts

end SqlLens.Analysis
