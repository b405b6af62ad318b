import SqlLens.Analysis.Expr

/-!
What stands after `FROM`: tables, common tables, queries, arrays and joins.
-/

namespace SqlLens.Analysis

open SqlLens.Resolved (Column NamedColumn Scan TypedExpr)
open SqlLens.Surface (Node)

def freshColumns (table : String) (columns : List (String × SqlType)) : Analyze (List NamedColumn) :=
  each (fun (column : String × SqlType) => do return ⟨column.1, ← fresh table column.1 column.2⟩) columns

/-- The common table a path of names stands for: the latest with its only name. -/
def commonTable? (common : List CommonTable) : List String → Option CommonTable
  | [name] => common.find? fun entry => Text.sameName entry.name name
  | _ => none

def commonReference (entry : CommonTable) (aliasName : String) (span : Option Span) : Analyze (Scan × Scope) := do
  let columns ← freshColumns entry.name (entry.columns.map fun output => (output.name, output.column.type))
  return (.reference (columns.map NamedColumn.column) entry.name aliasName span, [⟨some aliasName, columns⟩])

def tableSource (node : Node) : Analyze (Scan × Scope) := do
  let path ← need node node.tablePath?
  let aliasName := node.alias?.or path.names.getLast?
  match commonTable? (← get).common path.names with
  | some entry => commonReference entry (aliasName.getD entry.name) node.span
  | none =>
    let name := path.dotted
    match (← read) name with
    | none => fail (.unknownTable name) path.span
    | some table =>
      let columns ← freshColumns name (table.schema.map fun field => (field.name, field.type))
      return (.table name aliasName (columns.map NamedColumn.column) node.span, [⟨aliasName, columns⟩])

def unnestedType (array : TypedExpr) (span : Option Span) : Analyze SqlType :=
  match array.type with
  | .array element => return element
  | .unknown => return .unknown
  | type => fail (.notArray type) (array.span.or span)

def isOuter (join : Node) : Surface.JoinKind → Analyze Bool
  | .inner | .cross | .comma => return false
  | .left => return true
  | .right | .full => fail .arrayJoin join.span

variable (r : Resolvers)

def joinCondition (scope : Scope) (join : Node) : Analyze (Option TypedExpr) :=
  perhaps (fun on => do condition r .join scope (← child on 0)) (join.childOf? (· = .onClause))

/-- Resolves the array itself: the expression, the name of its elements, and the node that asks for their offsets. -/
def arrayValue (scope : Scope) (node : Node) :
    Analyze (TypedExpr × Option String × Option Node) := do
  if node.kind = .tablePath then
    let names ← need node node.tablePath?
    return (← path scope names, node.alias?.or names.names.getLast?, none)
  else
    let array ← child node 0
    return (← r.expr scope array, node.alias?.or (ownName? array), node.childOf? (· = .withOffset))

/-- Resolves an array after `FROM`. If it is joined to a scan, it may refer to what that scan makes visible. -/
def arraySource (node : Node) (input : Option Scan) (scope : Scope)
    (joined : Option (Node × Surface.JoinKind)) : Analyze (Scan × Scope) := do
  let (array, name, offsetNode) ← arrayValue r scope node
  let elementType ← unnestedType array node.span
  let element ← fresh "$array" (name.getD "$unnest") elementType
  let offset ← perhaps (fun (node : Node) => fresh "$array" (node.alias?.getD "offset") .int64) offsetNode
  let made := element :: offset.toList
  let scope := scope ++ [⟨none, made.map fun column => ⟨column.name, column⟩⟩]
  let columns := (input.map Scan.columns).getD [] ++ made
  match joined with
  | none => return (.array columns input array element offset none false node.span, scope)
  | some (join, kind) =>
    let outer ← isOuter join kind
    let on ← joinCondition r scope join
    return (.array columns input array element offset on outer join.span, scope)

def joinType : Surface.JoinKind → Resolved.JoinType
  | .inner => .inner
  | .left => .left
  | .right => .right
  | .full => .full
  | .cross | .comma => .cross

def joinSource (node : Node) (kind : Surface.JoinKind) : Analyze (Scan × Scope) := do
  let (left, scope) ← r.source (← child node 0)
  let rightNode ← child node 1
  if rightNode.kind = .unnest || isCorrelated scope rightNode then
    arraySource r rightNode (some left) scope (some (node, kind))
  else
    let (right, rightScope) ← r.source rightNode
    let scope := scope ++ rightScope
    let on ← joinCondition r scope node
    if joinType kind ≠ .cross && on.isNone then fail .joinWithoutCondition node.span
    return (.join (left.columns ++ right.columns) (joinType kind) left right on node.span, scope)

def source (node : Node) : Analyze (Scan × Scope) := do
  match node.kind with
  | .tablePath => tableSource node
  | .tableSubquery =>
    let (scan, outputs) ← r.query (← child node 0)
    return (scan, [⟨node.alias?, outputs⟩])
  | .unnest => arraySource r node none [] none
  | .join kind => joinSource r node kind
  | _ => malformed node

end SqlLens.Analysis
