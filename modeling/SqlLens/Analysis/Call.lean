import SqlLens.Analysis.Path
import SqlLens.Function.Builtin

/-!
Calls of operators and functions.

A call over a window is not computed where it stands: it is added to the calls of the current selection, and a reference
to its column stands in its place.
-/

namespace SqlLens.Analysis

open SqlLens.Resolved (TypedExpr SortKey)
open SqlLens.Surface (Node)

def operation (function : Function) (symbol : String) (arguments : List TypedExpr) (span : Option Span) :
    Analyze TypedExpr :=
  match function.resolve? (arguments.map TypedExpr.type) with
  | some (_, type) => return .call function arguments type none
  | none => fail (.operatorArguments symbol (arguments.map TypedExpr.type)) span

def negateIf (negated : Bool) (expr : TypedExpr) (span : Option Span) : Analyze TypedExpr :=
  if negated then operation .not "NOT" [expr] span else return expr

def operatorFunction : Surface.Operator → Function
  | .or => .or
  | .and => .and
  | .equal => .equal
  | .notEqual => .notEqual
  | .less => .less
  | .greater => .greater
  | .lessEqual => .lessOrEqual
  | .greaterEqual => .greaterOrEqual
  | .like => .like
  | .notLike => .notLike
  | .add => .add
  | .subtract => .subtract
  | .multiply => .multiply
  | .divide => .divide
  | .concat => .concat

/-- The function that picks an element of an array, with the text that stands for it. -/
def elementFunction : Surface.ArrayPosition → Function × String
  | .offset => (.arrayAtOffset, "[OFFSET]")
  | .safeOffset => (.safeArrayAtOffset, "[SAFE_OFFSET]")
  | .ordinal => (.arrayAtOrdinal, "[ORDINAL]")
  | .safeOrdinal => (.safeArrayAtOrdinal, "[SAFE_ORDINAL]")

def isDescending (item : Node) : Bool := item.kind = .orderingItem true

def sortKeys (expr : Node → Analyze TypedExpr) (items : List Node) : Analyze (List SortKey) :=
  each (fun item => do return .mk (← expr (← child item 0)) (isDescending item)) items

def windowParts (r : Resolvers) (scope : Scope) (spec : Node) : List Node → Window → Analyze Window
  | [], window => return window
  | part :: rest, window =>
    match part.kind with
    | .partitionBy => do
      let partition ← each (r.expr scope) part.children
      windowParts r scope spec rest { window with partition := partition }
    | .orderBy => do
      let order ← sortKeys (r.expr scope) part.children
      windowParts r scope spec rest { window with order := order }
    | _ => malformed spec

def namedWindow? (windows : List (String × Window)) (name : String) : Option Window :=
  (windows.find? fun entry => Text.sameName entry.1 name).map Prod.snd

variable (r : Resolvers)

def window (scope : Scope) (spec : Node) : Analyze Window := do
  match spec.kind with
  | .windowSpec none => windowParts r scope spec spec.children ⟨[], []⟩
  | .windowSpec (some name) =>
    match namedWindow? (← get).windows name with
    | some base => windowParts r scope spec spec.children base
    | none => fail (.unknownWindow name) spec.span
  | _ => malformed spec

def isWindow (node : Node) : Bool :=
  match node.kind with
  | .windowSpec _ => true
  | _ => false

/-- Resolves an argument. A name that cannot be resolved may still be a part of a date. The star of a count stands for
no argument at all. -/
def argument (scope : Scope) (function : Function) (alone : Bool) (node : Node) :
    Analyze (List TypedExpr) :=
  if node.kind = .star then
    if function.name = "COUNT" && alone then return [] else fail .starArgument node.span
  else
    try
      return [← r.expr scope node]
    catch failure =>
      match singleName? node with
      | some name =>
        if Function.isDatePart name then return [.literal (Text.upper name) .unknown node.span] else throw failure
      | none => throw failure

def checkWindow (function : Function) (node : Node) : Option Node → Analyze Unit
  | none =>
    if function.isAnalytic then fail (.analyticWithoutWindow function.name) node.span else return ()
  | some spec => do
    if !function.supportsOver then fail (.windowOfScalar function.name) spec.span
    else if (← get).analytic.isNone then fail (.analyticMisplaced function.name) node.span
    else return ()

def overWindow (function : Function) (arguments : List TypedExpr) (window : Window) (type : SqlType)
    (span : Option Span) :
    Analyze TypedExpr := do
  let calls := (← get).analytic.getD []
  let column ← fresh "$analytic" ("$analytic" ++ toString (calls.length + 1)) type
  let call : TypedExpr := .analyticCall function arguments window.partition window.order type span
  modify fun state => { state with analytic := state.analytic.map (· ++ [.mk column call]) }
  return .column column none

def functionCall (scope : Scope) (node : Node) : Analyze TypedExpr := do
  let callee ← child node 0
  if callee.kind ≠ .path then malformed node
  let name := callee.dotted
  match Function.lookup? name with
  | none => fail (.unknownFunction name) callee.span
  | some function =>
    let spec := node.children.getLast?.filter isWindow
    checkWindow function node spec
    let nodes := (node.children.drop 1).filter fun node => !isWindow node
    let arguments := (← each (argument r scope function (nodes.length = 1)) nodes).flatten
    match function.resolve? (arguments.map TypedExpr.type) with
    | none => fail (.functionArguments function (arguments.map TypedExpr.type)) node.span
    | some (_, type) =>
      match spec with
      | none => return .call function arguments type node.span
      | some spec => overWindow function arguments (← window r scope spec) type node.span

end SqlLens.Analysis
