import SqlLens.Analysis.Basic

/-!
Names and paths of names.

The first name of a path is a table or a column, of the innermost query that knows it. Every further name is a column
of the table, or a field of the value so far.
-/

namespace SqlLens.Analysis

open SqlLens.Resolved (NamedColumn TypedExpr)
open SqlLens.Surface (Node)

def pathParts (node : Node) : List (String × Option Span) :=
  node.children.filterMap fun
    | .mk (.identifier name) span _ => some (name, span)
    | _ => none

def singleName? (node : Node) : Option String :=
  match node.kind, node.names with
  | .path, [name] => some name
  | _, _ => none

/-- The name a selected expression has of its own: the last name of a path or the name of a field. -/
def ownName? (node : Node) : Option String :=
  match node.kind with
  | .path => node.names.getLast?
  | .dotIdentifier => node.children[1]?.bind Node.name?
  | _ => none

def fieldOf (base : TypedExpr) (name : String) (span nameSpan : Option Span) : Analyze TypedExpr :=
  match base.type with
  | .unknown => return .field base name .unknown span
  | .struct _ =>
    match base.type.field? name with
    | some (_, type) => return .field base name type span
    | none => fail (.unknownField name base.type) nameSpan
  | type => fail (.fieldOfScalar name type) nameSpan

def reach (start : Nat) (place : Option Span) : Option Span := place.map fun span => Span.upTo start span.stop

def fieldsOf (start : Nat) (base : TypedExpr) : List (String × Option Span) → Analyze TypedExpr
  | [] => return base
  | (name, place) :: rest => do
    let value ← fieldOf base name (reach start place) place
    fieldsOf start value rest

/-- The scope that knows a name: the given one, or else the innermost enclosing one. -/
def scopeFor (name : String) (scope : Scope) (outer : List Scope) : Scope :=
  ((scope :: outer).find? (·.knows name)).getD scope

def path (scope : Scope) (node : Node) : Analyze TypedExpr := do
  let start := (node.span.map Span.start).getD 0
  let outer := (← get).outer
  match pathParts node with
  | [] => malformed node
  | (first, place) :: rest =>
    let scope := scopeFor first scope outer
    match scope.relation? first with
    | some relation =>
      match rest with
      | [] => fail (.relationAsValue first) place
      | (name, columnPlace) :: rest =>
        match relation.column? name with
        | some found => fieldsOf start (.column found.column (reach start columnPlace)) rest
        | none => fail (.unknownColumn name first) columnPlace
    | none =>
      match scope.columnsNamed first with
      | [] => fail (.unknownName first) place
      | [found] => fieldsOf start (.column found.column place) rest
      | _ => fail (.ambiguousName first) place

def expandStar (columns : List NamedColumn) (star : Node) : Analyze (List NamedColumn) := do
  let excluded ← each (fun (node : Node) => do
    let name ← need star node.name?
    if columns.any fun column => Text.sameName column.name name then return name
    else fail (.unknownException name) node.span) star.children
  return columns.filter fun column => !excluded.any (Text.sameName column.name)

/-- Whether a table path starts at a table that is already visible, so that it stands for an array. -/
def isCorrelated (scope : Scope) (node : Node) : Bool :=
  match node.kind, node.tablePath?.map Node.names with
  | .tablePath, some (first :: _ :: _) => (scope.relation? first).isSome
  | _, _ => false

end SqlLens.Analysis
