import SqlLens.Analysis.Call

/-!
Expressions.
-/

namespace SqlLens.Analysis

open SqlLens.Resolved (NamedColumn Scan TypedExpr)
open SqlLens.Surface (Node)

/-- A literal with its type. A null and a parameter have no type of their own. -/
def literal (value : Surface.Constant) (span : Option Span) : TypedExpr :=
  match value with
  | .int digits => .literal digits .int64 span
  | .float digits => .literal digits .float64 span
  | .string text => .literal ("\x27" ++ text ++ "\x27") .string span
  | .bytes text => .literal ("b\x27" ++ text ++ "\x27") .bytes span
  | .bool value => .literal (if value then "TRUE" else "FALSE") .bool span
  | .null => .literal "NULL" .unknown span
  | .parameter name => .literal name .unknown span

variable (r : Resolvers)

def condition (clause : Clause) (scope : Scope) (node : Node) : Analyze TypedExpr := do
  let expr ← r.expr scope node
  match expr.type with
  | .bool | .unknown => return expr
  | type => fail (.notBoolean clause type) node.span

def elementType (span : Option Span) : SqlType → List SqlType → Analyze SqlType
  | type, [] => return type
  | type, next :: rest =>
    match type.supertype? next with
    | some common => elementType span common rest
    | none => fail (.elementTypes type next) span

def casePart (scope : Scope) (part : Node) : Analyze (List TypedExpr × List SqlType) := do
  match part.kind with
  | .whenClause =>
    let test ← r.expr scope (← child part 0)
    let result ← r.expr scope (← child part 1)
    return ([test, result], [result.type])
  | .elseClause =>
    let result ← r.expr scope (← child part 0)
    return ([result], [result.type])
  | _ => return ([← r.expr scope part], [])

/-- Resolves a `CASE`. It has the type of its first result whose type can be told. -/
def caseExpr (scope : Scope) (node : Node) : Analyze TypedExpr := do
  let parts ← each (casePart r scope) node.children
  let results := parts.flatMap Prod.snd
  let type := (results.find? (· ≠ .unknown)).getD .unknown
  return .call .case (parts.flatMap Prod.fst) type none

def soleType (fault : Fault) (span : Option Span) : List NamedColumn → Analyze SqlType
  | [output] => return output.column.type
  | _ => fail fault span

def innerQuery (scope : Scope) (node : Node) : Analyze (Scan × List NamedColumn) := enclosing scope (r.query node)

def subquery (scope : Scope) (node : Node) (kind : Surface.SubqueryKind) : Analyze TypedExpr := do
  match kind with
  | .scalar =>
    let (query, outputs) ← innerQuery r scope (← child node 0)
    let type ← soleType .scalarColumns node.span outputs
    return .subquery .scalar query none type node.span
  | .array =>
    let (query, outputs) ← innerQuery r scope (← child node 0)
    let type ← soleType .arrayColumns node.span outputs
    return .subquery .array query none (.array type) node.span
  | .exist negated =>
    let (query, _) ← innerQuery r scope (← child node 0)
    negateIf negated (.subquery .exist query none .bool node.span) node.span
  | .within negated =>
    let tested ← r.expr scope (← child node 0)
    let (query, outputs) ← innerQuery r scope (← child node 1)
    let type ← soleType .withinColumns node.span outputs
    if (tested.type.supertype? type).isNone then fail (.withinTypes tested.type type) node.span
    negateIf negated (.subquery .within query (some tested) .bool node.span) node.span

def castExpr (scope : Scope) (node : Node) (safe : Bool) : Analyze TypedExpr := do
  let base ← r.expr scope (← child node 0)
  let typeNode ← child node 1
  match typeNode.kind with
  | .typeName name =>
    let type := SqlType.ofName name
    if type = .unknown then fail (.unknownType name) typeNode.span
    return .cast base type safe node.span
  | _ => malformed node

def expr (scope : Scope) (node : Node) : Analyze TypedExpr := do
  match node.kind with
  | .path => path scope node
  | .literal value => return literal value node.span
  | .binary op =>
    let left ← r.expr scope (← child node 0)
    let right ← r.expr scope (← child node 1)
    operation (operatorFunction op) op.symbol [left, right] node.span
  | .unary .not => operation .not "NOT" [← r.expr scope (← child node 0)] node.span
  | .unary .minus => operation .unaryMinus "-" [← r.expr scope (← child node 0)] node.span
  | .isNull negated =>
    let call ← operation .isNull "IS NULL" [← r.expr scope (← child node 0)] node.span
    negateIf negated call node.span
  | .inList negated =>
    let call ← operation .isIn "IN" (← each (r.expr scope) node.children) node.span
    negateIf negated call node.span
  | .between negated =>
    let call ← operation .between "BETWEEN" (← each (r.expr scope) node.children) node.span
    negateIf negated call node.span
  | .functionCall _ => functionCall r scope node
  | .dotIdentifier =>
    let base ← r.expr scope (← child node 0)
    let field ← child node 1
    let name ← need node field.name?
    fieldOf base name node.span field.span
  | .cast safe => castExpr r scope node safe
  | .case _ => caseExpr r scope node
  | .subquery kind => subquery r scope node kind
  | .arrayLiteral =>
    let elements ← each (r.expr scope) node.children
    let type ← elementType node.span .unknown (elements.map TypedExpr.type)
    return .call .makeArray elements (.array type) none
  | .arrayElement position =>
    let arguments ← each (r.expr scope) node.children
    let (function, symbol) := elementFunction position
    operation function symbol arguments node.span
  | .inUnnest negated =>
    let call ← operation .inArray "IN UNNEST" (← each (r.expr scope) node.children) node.span
    negateIf negated call node.span
  | .interval unit =>
    if !Function.isDatePart unit then fail (.intervalPart unit) node.span
    operation .interval "INTERVAL" [← r.expr scope (← child node 0)] node.span
  | .star => fail .starMisplaced node.span
  | kind => fail (.unsupportedExpression kind) node.span

end SqlLens.Analysis
