import SqlLens.Function.Basic
import SqlLens.Query.Basic

/-!
Resolved queries: every name bound, every expression typed.

Scans form the spine of a query, and expressions hang off them. A scan lists the columns it produces; an expression
reads a column by its number. Nodes keep the bytes they were resolved from; those without a text of their own, such as
operators and the single row of a query without tables, have none.
-/

namespace SqlLens.Resolved

/-- A column that flows through the scans. The number identifies it within an analysis. -/
structure Column where
  id : Nat
  /-- The table it comes from: the path as written, the name of a common table, or a made-up name starting with a
  dollar sign when it is computed. -/
  table : String
  name : String
  type : SqlType
deriving DecidableEq

structure NamedColumn where
  name : String
  column : Column
deriving DecidableEq

inductive JoinType where
  | inner | left | right | full | cross
deriving DecidableEq

inductive SubqueryType where
  | scalar | array | exist | within
deriving DecidableEq

mutual
inductive Scan where
  | table (name : String) (aliasName : Option String) (columns : List Column) (span : Option Span)
  | project (columns : List Column) (computed : List Computed) (input : Scan) (span : Option Span)
  | filter (columns : List Column) (input : Scan) (condition : TypedExpr) (span : Option Span)
  | join (columns : List Column) (type : JoinType) (left right : Scan) (condition : Option TypedExpr)
      (span : Option Span)
  | aggregate (columns : List Column) (input : Scan) (groups : List Computed) (span : Option Span)
  | orderBy (columns : List Column) (input : Scan) (items : List SortKey) (span : Option Span)
  | limit (columns : List Column) (input : Scan) (count : TypedExpr) (offset : Option TypedExpr) (span : Option Span)
  | common (columns : List Column) (entries : List Entry) (query : Scan) (span : Option Span)
  | reference (columns : List Column) (entry aliasName : String) (span : Option Span)
  | singleRow
  | setOperation (columns : List Column) (op : SetOp) (distinct : Bool) (left right : Scan) (span : Option Span)
  | array (columns : List Column) (input : Option Scan) (array : TypedExpr) (element : Column) (offset : Option Column)
      (condition : Option TypedExpr) (outer : Bool) (span : Option Span)
  | analytic (columns : List Column) (input : Scan) (calls : List Computed) (span : Option Span)

inductive TypedExpr where
  | literal (text : String) (type : SqlType) (span : Option Span)
  | column (column : Column) (span : Option Span)
  | call (function : Function) (arguments : List TypedExpr) (type : SqlType) (span : Option Span)
  | analyticCall (function : Function) (arguments partition : List TypedExpr) (order : List SortKey) (type : SqlType)
      (span : Option Span)
  | field (base : TypedExpr) (name : String) (type : SqlType) (span : Option Span)
  | cast (base : TypedExpr) (type : SqlType) (safe : Bool) (span : Option Span)
  | subquery (kind : SubqueryType) (query : Scan) (tested : Option TypedExpr) (type : SqlType) (span : Option Span)

inductive Computed where
  | mk (column : Column) (expr : TypedExpr)

inductive SortKey where
  | mk (expr : TypedExpr) (descending : Bool)

inductive Entry where
  | mk (name : String) (query : Scan)
end

def Computed.column : Computed → Column
  | mk column _ => column

def Computed.expr : Computed → TypedExpr
  | mk _ expr => expr

def SortKey.expr : SortKey → TypedExpr
  | mk expr _ => expr

def SortKey.descending : SortKey → Bool
  | mk _ descending => descending

def Entry.name : Entry → String
  | mk name _ => name

def Entry.query : Entry → Scan
  | mk _ query => query

namespace Scan

def columns : Scan → List Column
  | table _ _ columns _ | project columns .. | filter columns .. | join columns .. | aggregate columns ..
  | orderBy columns .. | limit columns .. | common columns .. | reference columns .. | setOperation columns ..
  | array columns .. | analytic columns .. => columns
  | singleRow => []

def span : Scan → Option Span
  | table _ _ _ span | project _ _ _ span | filter _ _ _ span | join _ _ _ _ _ span | aggregate _ _ _ span
  | orderBy _ _ _ span | limit _ _ _ _ span | common _ _ _ span | reference _ _ _ span
  | setOperation _ _ _ _ _ span | array _ _ _ _ _ _ _ span | analytic _ _ _ span => span
  | singleRow => none

def label : Scan → String
  | table .. => "TableScan"
  | project .. => "ProjectScan"
  | filter .. => "FilterScan"
  | join .. => "JoinScan"
  | aggregate .. => "AggregateScan"
  | orderBy .. => "OrderByScan"
  | limit .. => "LimitOffsetScan"
  | common .. => "WithScan"
  | reference .. => "WithRefScan"
  | singleRow => "SingleRowScan"
  | setOperation .. => "SetOperationScan"
  | array .. => "ArrayScan"
  | analytic .. => "AnalyticScan"

end Scan

namespace TypedExpr

def type : TypedExpr → SqlType
  | literal _ type _ | call _ _ type _ | analyticCall _ _ _ _ type _ | field _ _ type _ | cast _ type _ _
  | subquery _ _ _ type _ => type
  | column source _ => source.type

def span : TypedExpr → Option Span
  | literal _ _ span | column _ span | call _ _ _ span | analyticCall _ _ _ _ _ span | field _ _ _ span
  | cast _ _ _ span | subquery _ _ _ _ span => span

def label : TypedExpr → String
  | literal .. => "Literal"
  | column .. => "ColumnRef"
  | call .. => "FunctionCall"
  | analyticCall .. => "AnalyticFunctionCall"
  | field .. => "GetStructField"
  | cast .. => "Cast"
  | subquery .. => "Subquery"

mutual
/-- Whether a function of groups is called in the expression. Calls over windows and calls in subqueries do not
count. -/
def hasAggregate : TypedExpr → Bool
  | call function arguments _ _ => function.isAggregate || anyAggregate arguments
  | field base _ _ _ => base.hasAggregate
  | cast base _ _ _ => base.hasAggregate
  | subquery _ _ (some tested) _ _ => tested.hasAggregate
  | _ => false

def anyAggregate : List TypedExpr → Bool
  | [] => false
  | expr :: rest => expr.hasAggregate || anyAggregate rest
end

end TypedExpr

structure Statement where
  outputs : List NamedColumn
  query : Scan
  span : Option Span

end SqlLens.Resolved
