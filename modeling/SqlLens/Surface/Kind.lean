import SqlLens.Query.Basic

/-!
What the nodes of a surface tree are.

The children of a node, by its kind; a question mark stands for a child that may be missing.

* `script`: statements. `statement`: a query.
* `query`: `withClause?`, then a `select`, `query` or `setOperation`, then `orderBy?` and `limit?`.
* `setOperation`: the two sides. `withClause`: `withEntry` nodes, each with a query.
* `select`: `selectList`, `fromClause?`, `whereClause?`, `groupBy?`, `having?`, `windowClause?` and `qualify?`.
* `selectColumn`: an expression, `star` or `dotStar`, then `alias?`. `star`: the names it leaves out.
  `dotStar`: a path and a `star`.
* `fromClause`: a `tablePath`, `tableSubquery`, `unnest` or `join`. `tablePath`: a path and `alias?`.
  `tableSubquery`: a query and `alias?`. `unnest`: an expression, `alias?` and `withOffset?`, which has `alias?`.
  `join`: the two sides and `onClause?`.
* `windowClause`: `namedWindow` nodes, each with a `windowSpec`. `windowSpec`: `partitionBy?` and `orderBy?`.
* `path`: identifiers. `functionCall`: a path, the arguments and `windowSpec?`.
* `dotIdentifier`: an expression and an identifier. `arrayElement`: the array and the index.
* `subquery`: the tested expression of an `IN`, and a query. `inUnnest`: an expression and an array.
* `cast`: an expression and a `typeName`. `case`: the operand, if it has one, then `whenClause` nodes and `elseClause?`.
* `limit`: the count and the offset, if there is one.
-/

namespace SqlLens.Surface

inductive JoinKind where
  | inner | left | right | full | cross
  | comma
deriving DecidableEq

inductive Operator where
  | or | and | equal | notEqual | less | greater | lessEqual | greaterEqual | like | notLike
  | add | subtract | multiply | divide | concat
deriving DecidableEq

def Operator.symbol : Operator → String
  | or => "OR" | and => "AND" | equal => "=" | notEqual => "!=" | less => "<" | greater => ">"
  | lessEqual => "<=" | greaterEqual => ">=" | like => "LIKE" | notLike => "NOT LIKE"
  | add => "+" | subtract => "-" | multiply => "*" | divide => "/" | concat => "||"

def Operator.of? : BinaryOp → Option Operator
  | .or => some or | .and => some and | .equal => some equal | .notEqual => some notEqual | .less => some less
  | .greater => some greater | .lessEqual => some lessEqual | .greaterEqual => some greaterEqual
  | .add => some add | .subtract => some subtract | .multiply => some multiply | .divide => some divide
  | .concat => some concat | .other _ => none

inductive Negation where
  | not | minus
deriving DecidableEq

inductive SubqueryKind where
  | scalar
  | array
  | exist (negated : Bool)
  | within (negated : Bool)
deriving DecidableEq

inductive ArrayPosition where
  | offset | safeOffset | ordinal | safeOrdinal
deriving DecidableEq

def ArrayPosition.ofName? (name : String) : Option ArrayPosition :=
  match Text.upper name with
  | "OFFSET" => some offset
  | "SAFE_OFFSET" => some safeOffset
  | "ORDINAL" => some ordinal
  | "SAFE_ORDINAL" => some safeOrdinal
  | _ => none

inductive Constant where
  | int (digits : String)
  | float (digits : String)
  | string (value : String)
  | bytes (value : String)
  | bool (value : Bool)
  | null
  | parameter (name : String)
deriving DecidableEq

inductive Kind where
  | script | statement | query | withClause
  | withEntry (name : String)
  | setOperation (op : SetOp) (distinct : Bool)
  | select (distinct : Bool)
  | selectList | selectColumn | star | dotStar
  | aliasName (name : String)
  | fromClause | tablePath | tableSubquery | unnest | withOffset
  | join (kind : JoinKind)
  | onClause | whereClause | groupBy | having | windowClause
  | namedWindow (name : String)
  /-- A window in parentheses, or a name alone when it has a base and no children. -/
  | windowSpec (base : Option String)
  | partitionBy | qualify | orderBy
  | orderingItem (descending : Bool)
  | limit | path
  | identifier (name : String)
  | literal (value : Constant)
  | functionCall (distinct : Bool)
  | binary (op : Operator)
  | unary (op : Negation)
  | isNull (negated : Bool)
  | inList (negated : Bool)
  | between (negated : Bool)
  | dotIdentifier
  | arrayElement (position : ArrayPosition)
  | arrayLiteral
  | subquery (kind : SubqueryKind)
  | inUnnest (negated : Bool)
  | interval (unit : String)
  | cast (safe : Bool)
  | typeName (name : String)
  | case (hasOperand : Bool)
  | whenClause | elseClause
deriving DecidableEq

def Kind.label : Kind → String
  | script => "Script" | statement => "QueryStatement" | query => "Query" | withClause => "WithClause"
  | withEntry _ => "WithEntry" | setOperation .. => "SetOperation" | select _ => "Select"
  | selectList => "SelectList" | selectColumn => "SelectColumn" | star => "Star" | dotStar => "DotStar"
  | aliasName _ => "Alias" | fromClause => "FromClause" | tablePath => "TablePathExpression"
  | tableSubquery => "TableSubquery" | unnest => "Unnest" | withOffset => "WithOffset" | join _ => "Join"
  | onClause => "OnClause" | whereClause => "WhereClause" | groupBy => "GroupBy" | having => "Having"
  | windowClause => "WindowClause" | namedWindow _ => "NamedWindow" | windowSpec _ => "WindowSpec"
  | partitionBy => "PartitionBy" | qualify => "Qualify" | orderBy => "OrderBy" | orderingItem _ => "OrderingItem"
  | limit => "Limit" | path => "PathExpression" | identifier _ => "Identifier" | literal _ => "Literal"
  | functionCall _ => "FunctionCall" | binary _ => "BinaryExpression" | unary _ => "UnaryExpression"
  | isNull _ => "IsNull" | inList _ => "InList" | between _ => "Between" | dotIdentifier => "DotIdentifier"
  | arrayElement _ => "ArrayElement" | arrayLiteral => "ArrayLiteral" | subquery _ => "Subquery"
  | inUnnest _ => "InUnnest" | interval _ => "Interval" | cast _ => "Cast" | typeName _ => "TypeName"
  | case _ => "Case" | whenClause => "WhenClause" | elseClause => "ElseClause"

def Kind.name? : Kind → Option String
  | identifier name | aliasName name | withEntry name | namedWindow name => some name
  | _ => none

end SqlLens.Surface
