import SqlLens.Resolved.Node
import SqlLens.Text.Json

/-!
Resolved statements as JSON, one row a node.
-/

namespace SqlLens.Resolved

def Column.toJson (column : Column) : Json :=
  .array [.nat column.id, .string column.table, .string column.name, .string column.type.text]

def columnsJson (columns : List Column) : Json := .array (columns.map Column.toJson)

def computedJson (computed : List Computed) : Json := columnsJson (computed.map Computed.column)

def directionsJson (keys : List SortKey) : Json := .array (keys.map fun key => .bool key.descending)

def outputsJson (outputs : List NamedColumn) : Json :=
  .array (outputs.map fun output => .array [.string output.name, output.column.toJson])

def JoinType.word : JoinType → String
  | inner => "Inner"
  | left => "Left"
  | right => "Right"
  | full => "Full"
  | cross => "Cross"

def SubqueryType.word : SubqueryType → String
  | scalar => "Scalar"
  | array => "Array"
  | exist => "Exists"
  | within => "In"

def Scan.members : Scan → List (String × Json)
  | table name aliasName _ _ => [("table", .string name), ("alias", .optional .string aliasName)]
  | project _ computed _ _ => [("computed", computedJson computed)]
  | join _ type _ _ condition _ => [("join", .string type.word), ("on", .bool condition.isSome)]
  | aggregate _ _ groups _ => [("group_by", computedJson groups)]
  | orderBy _ _ items _ => [("descending", directionsJson items)]
  | limit _ _ _ offset _ => [("offset", .bool offset.isSome)]
  | common _ entries _ _ => [("entries", .strings (entries.map Entry.name))]
  | reference _ entry aliasName _ => [("entry", .string entry), ("alias", .string aliasName)]
  | setOperation _ op distinct _ _ _ => [("set", .string (op.words distinct))]
  | array _ input _ element offset condition outer _ =>
    [("input", .bool input.isSome), ("element", element.toJson), ("offset", .optional Column.toJson offset),
      ("on", .bool condition.isSome), ("outer", .bool outer)]
  | analytic _ _ calls _ => [("functions", computedJson calls)]
  | filter .. | singleRow => []

def TypedExpr.members (expr : TypedExpr) : List (String × Json) :=
  match expr with
  | literal text _ _ => [("text", .string text)]
  | column source _ => [("column", source.toJson)]
  | call function arguments _ _ =>
    [("function", .string function.name), ("args", .nat arguments.length), ("aggregate", .bool expr.hasAggregate)]
  | analyticCall function arguments partition order _ _ =>
    [("function", .string function.name), ("args", .nat arguments.length), ("partition_by", .nat partition.length),
      ("descending", directionsJson order), ("aggregate", .bool expr.hasAggregate)]
  | field _ name _ _ => [("field", .string name)]
  | cast _ _ safe _ => [("safe", .bool safe)]
  | subquery kind _ tested _ _ => [("subquery", .string kind.word), ("in", .bool tested.isSome)]

def Node.toJson : Node → Json
  | statement _ => .null
  | scan own => .object (("columns", columnsJson own.columns) :: own.members)
  | expr own => .object (("type", .string own.type.text) :: own.members)

def Statement.toJson (statement : Statement) : Json :=
  .object [("range", .optional Span.bounds statement.span), ("columns", outputsJson statement.outputs),
    ("nodes", .array (statement.nodes.map fun (depth, node) =>
      .array [.nat depth, .string node.label, node.toJson, .optional Span.bounds node.span]))]

end SqlLens.Resolved
