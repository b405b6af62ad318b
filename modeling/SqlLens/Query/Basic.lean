import SqlLens.Token.Basic

/-!
Queries as the grammar reads them.

The types keep what the analysed part of the language is made of. A construct outside that part is kept as a `foreign`
node that holds the text it is shown with in messages. Names and a few tokens remember the offset they were read at, so
that the tree builder (`SqlLens.Surface`) can find them again among the tokens of the statement.
-/

namespace SqlLens

structure Ident where
  value : String
  quote : Option Char
  place : Option Nat
deriving DecidableEq

structure TableName where
  parts : List Ident
  dotless : ∀ part ∈ parts, '.' ∉ part.value.toList

inductive Literal where
  | number (digits : String) (long : Bool)
  | string (kind : StringKind) (quote : Char) (triple : Bool) (value : String)
  | dollar (tag : Option String) (value : String)
  | bool (value : Bool)
  | null
  | parameter (name : String)
deriving DecidableEq

inductive UnaryOp where
  | not | plus | minus
deriving DecidableEq

/-- Operators between two operands. Those without a meaning in the analysed language are kept by their symbol. -/
inductive BinaryOp where
  | or | and | equal | notEqual | less | greater | lessEqual | greaterEqual
  | add | subtract | multiply | divide | concat
  | other (symbol : String)
deriving DecidableEq

inductive Duplicates where
  | all | distinct
deriving DecidableEq

inductive SetOp where
  | union | intersect | except
deriving DecidableEq

def SetOp.keyword : SetOp → String
  | union => "UNION" | intersect => "INTERSECT" | except => "EXCEPT"

def SetOp.words (op : SetOp) (distinct : Bool) : String :=
  op.keyword ++ if distinct then " DISTINCT" else " ALL"

inductive SetQuantifier where
  | none | all | distinct | byName | allByName | distinctByName
deriving DecidableEq

inductive JoinOp where
  | inner | left | right | full | cross
  /-- A join outside the analysed language, by the words it is shown with. -/
  | other (words : String)
deriving DecidableEq

inductive Foreign where
  | expression
  | cast
  | roundingTo (name : String)
  | argument
deriving DecidableEq

structure CallNotes where
  /-- Written in braces, `fn` before the name. -/
  braces : Bool
  clauses : List String
  withinGroup : Option String
  nullTreatment : Option String
deriving DecidableEq

inductive JoinWords where
  | none
  | natural
  | using (columns : List Ident)
  /-- Words outside the analysed language, as they are shown before the condition. -/
  | foreign (text : String)
deriving DecidableEq

/-- The keyword that opens the common tables of a query: its offset, and whether they may refer to themselves. -/
structure WithHead where
  place : Option Nat
  recursive : Bool
deriving DecidableEq

structure TableAlias where
  name : Ident
  columns : List String
deriving DecidableEq

inductive Distinct where
  | no
  | yes
  | on (columns : String)
deriving DecidableEq

/-- A star with the columns it leaves out; `replacing` is the text of a `REPLACE` clause, `place` the offset of the
star. -/
structure Star where
  place : Option Nat
  except : List Ident
  replacing : Option String
deriving DecidableEq

/-- Parts of a `SELECT` that hold no expressions, or hold them only as they are shown; `place` is the offset of the
keyword. -/
structure SelectHead where
  place : Option Nat
  valueTable : Option String
  distinct : Distinct
  top : Option String
  into : Option String
  lateralViews : List String
  groupAll : Bool
  sorting : List String
  windowFirst : Bool
deriving DecidableEq

/-- Parts of a `FROM` item that hold no queries; those outside the analysed language as they are shown. -/
structure TableNotes where
  arguments : Option String
  ordinality : Bool
  hints : Option String
  version : Option String
deriving DecidableEq

mutual
inductive Expr where
  | name (parts : List Ident)
  | literal (value : Literal)
  | nested (inner : Expr)
  | typed (type : String) (value : String)
  | unary (op : UnaryOp) (operand : Expr)
  | binary (left : Expr) (op : BinaryOp) (right : Expr)
  | like (operand : Expr) (negated : Bool) (pattern : Expr)
  | isNull (operand : Expr) (negated : Bool)
  | inList (operand : Expr) (negated : Bool) (items : List Expr)
  | inQuery (operand : Expr) (negated : Bool) (query : Query)
  | inUnnest (operand : Expr) (negated : Bool) (array : Expr)
  | between (operand : Expr) (negated : Bool) (low high : Expr)
  | cast (safe : Bool) (operand : Expr) (type : String)
  | extract (part : String) (operand : Expr)
  | rounding (name : String) (operand : Expr) (scale : Option Literal)
  | substring (operand : Expr) (start length : Option Expr) (commas : Bool)
  | trim (operand : Expr) (characters : List Expr)
  | constant (name : List Ident)
  /-- A call whose only argument is a query without parentheses of its own. -/
  | callQuery (name : List Ident) (query : Query)
  | call (name : List Ident) (duplicates : Option Duplicates) (arguments : List Expr) (notes : CallNotes)
    (window : Option Window)
  | star
  | case (operand : Option Expr) (branches : List Branch) (otherwise : Option Expr)
  | exist (negated : Bool) (query : Query)
  | subquery (query : Query)
  | array (named : Bool) (items : List Expr)
  /-- What stands in brackets behind an expression. -/
  | index (base key : Expr)
  /-- What stands behind a dot that follows brackets. -/
  | dot (base key : Expr)
  | field (base : Expr) (name : Ident)
  | interval (value : Expr) (unit : String) (precision : Option Nat) (last : Option String) (fraction : Option Nat)
  | foreign (kind : Foreign) (text : String)

inductive Branch where
  | mk (condition result : Expr)

inductive Window where
  | named (name : Ident)
  | spec (base : Option Ident) (partitionBy : List Expr) (orderBy : List OrderItem) (frame : Option String)

inductive OrderItem where
  | mk (value : Expr) (ascending nullsFirst : Option Bool)

/-- A query with its clauses. `offsetRows` is the word after the offset, `extra` are clauses outside the analysed
language as they are shown. -/
inductive Query where
  | mk (withHead : Option WithHead) (entries : List Cte) (body : Body) (orderBy : List OrderItem)
    (limit offset : Option Expr) (offsetRows : String) (extra : List String)

inductive Cte where
  | mk (aliasName : TableAlias) (query : Query) (source : Option Ident) (close : Option Nat)

inductive Body where
  | select (head : SelectHead) (items : List SelectItem) (source : Source) (selection : Option Expr)
    (groupBy : List Expr) (having : Option Expr) (windows : List NamedWindow) (qualify : Option Expr)
  | query (query : Query)
  | setOperation (op : SetOp) (quantifier : SetQuantifier) (left right : Body)
  | foreign (text : String)

inductive NamedWindow where
  | mk (name : Ident) (window : Window)

inductive SelectItem where
  | expr (value : Expr) (aliasName : Option Ident)
  /-- All columns, or all columns of a name that is not empty. -/
  | star (name : List Ident) (star : Star)

inductive Source where
  | nothing
  | table (name : TableName) (aliasName : Option TableAlias) (notes : TableNotes)
  | derived (lateral : Bool) (query : Query) (aliasName : Option TableAlias)
  | unnest (arrays : List Expr) (ordinality : Bool) (aliasName : Option TableAlias) (offset : Bool)
    (offsetAlias : Option Ident)
  | nested (joined : Source) (aliasName : Option TableAlias)
  | join (left : Source) (global : Bool) (op : JoinOp) (right : Source) (words : JoinWords) (condition : Option Expr)
  | comma (left right : Source)
  | foreign (text : String)
end

end SqlLens
