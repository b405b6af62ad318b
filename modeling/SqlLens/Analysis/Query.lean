import SqlLens.Analysis.Select

/-!
Queries: common tables, a body, and what sorts and limits its rows.

`resolvers` ties the resolvers of all levels of the tree together. Every level of nesting uses up one unit, so the
height of a tree is enough.
-/

namespace SqlLens.Analysis

open SqlLens.Resolved (NamedColumn Scan TypedExpr Entry)
open SqlLens.Surface (Node)

structure QueryParts where
  entries : List Node
  body : Option Node
  order : Option Node
  limit : Option Node

def QueryParts.add? (parts : QueryParts) (node : Node) : Option QueryParts :=
  match node.kind with
  | .withClause => some { parts with entries := parts.entries ++ node.children }
  | .select _ | .query | .setOperation _ _ => some { parts with body := some node }
  | .orderBy => some { parts with order := some node }
  | .limit => some { parts with limit := some node }
  | _ => none

def QueryParts.of? (nodes : List Node) : Option QueryParts :=
  nodes.foldlM QueryParts.add? ⟨[], none, none, none⟩

variable (r : Resolvers)

def nameQuery (node : Node) : Analyze Entry := do
  let name ← need node node.name?
  let (scan, columns) ← r.query (← child node 0)
  modify fun state => { state with common := ⟨name, columns⟩ :: state.common }
  return .mk name scan

def orderExpr (outputs : List NamedColumn) (scope : Scope) (node : Node) : Analyze TypedExpr :=
  match (singleName? node).bind fun name => outputs.find? fun output => Text.sameName output.name name with
  | some output => return .column output.column node.span
  | none => r.expr scope node

def ordered (node : Node) (outputs : List NamedColumn) (scope : Scope) (scan : Scan) :
    Option Node → Analyze Scan
  | none => return scan
  | some clause => do
    return .orderBy scan.columns scan (← sortKeys (orderExpr r outputs scope) clause.children) node.span

def limited (node : Node) (scan : Scan) : Option Node → Analyze Scan
  | none => return scan
  | some clause => do
    let count ← r.expr [] (← child clause 0)
    let offset ← perhaps (r.expr []) clause.children[1]?
    return .limit scan.columns scan count offset node.span

/-- Resolves a query. Its common tables are taken off at the end. -/
def query (node : Node) : Analyze (Scan × List NamedColumn) :=
  restoring (fun before after => { after with common := truncate before.common.length after.common }) do
    let parts ← need node (QueryParts.of? node.children)
    let entries ← each (nameQuery r) parts.entries
    let (scan, outputs, scope) ← r.body (← need node parts.body)
    let scan ← ordered r node outputs scope scan parts.order
    let scan ← limited r node scan parts.limit
    return (if entries.isEmpty then scan else .common scan.columns entries scan node.span, outputs)

def setTable (op : SetOp) (distinct : Bool) : String :=
  match op, distinct with
  | .union, false => "$union_all"
  | .union, true => "$union_distinct"
  | .intersect, false => "$intersect_all"
  | .intersect, true => "$intersect_distinct"
  | .except, false => "$except_all"
  | .except, true => "$except_distinct"

def setColumn (op : SetOp) (distinct : Bool) (span : Option Span) (entry : (NamedColumn × NamedColumn) × Nat) :
    Analyze NamedColumn := do
  let ((left, right), index) := entry
  match left.column.type.supertype? right.column.type with
  | some type => return ⟨left.name, ← fresh (setTable op distinct) left.name type⟩
  | none => fail (.columnTypes (index + 1) op distinct left.column.type right.column.type) span

def setOperation (node : Node) (op : SetOp) (distinct : Bool) :
    Analyze (Scan × List NamedColumn × Scope) := do
  let (left, leftOutputs, _) ← r.body (← child node 0)
  let (right, rightOutputs, _) ← r.body (← child node 1)
  if leftOutputs.length ≠ rightOutputs.length then
    fail (.columnCounts op distinct leftOutputs.length rightOutputs.length) node.span
  let outputs ← each (setColumn op distinct node.span) (leftOutputs.zip rightOutputs).zipIdx
  return (.setOperation (outputs.map NamedColumn.column) op distinct left right node.span, outputs, [])

def body (node : Node) : Analyze (Scan × List NamedColumn × Scope) := do
  match node.kind with
  | .select _ => select r node
  | .setOperation op distinct => setOperation r node op distinct
  | .query =>
    let (scan, outputs) ← query r node
    return (scan, outputs, [])
  | _ => malformed node

def resolvers : Nat → Resolvers
  | 0 => ⟨fun _ node => malformed node, malformed, malformed, malformed⟩
  | height + 1 =>
    let below := resolvers height
    ⟨expr below, query below, body below, source below⟩

def statement (node : Node) : Analyze Resolved.Statement := do
  if node.kind ≠ .statement then fail (.unsupportedStatement node.kind) node.span
  modify fun state => { state with common := [], outer := [] }
  let queryNode ← child node 0
  let (scan, outputs) ← (resolvers queryNode.height).query queryNode
  return ⟨outputs, scan, node.span⟩

/-- Resolves statements one after another. A failure does not keep the others from being resolved. -/
def statements (tables : Lookup) : State → List Node → List (Except Failure Resolved.Statement) × State
  | state, [] => ([], state)
  | state, node :: rest =>
    let (result, state) := (statement node).outcome tables state
    let (results, state) := statements tables state rest
    (result :: results, state)

def script (tables : Lookup) (root : Node) : List (Except Failure Resolved.Statement) :=
  (statements tables .initial root.children).1

end SqlLens.Analysis
