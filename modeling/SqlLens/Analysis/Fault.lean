import SqlLens.Diagnostic
import SqlLens.Function.Basic
import SqlLens.Surface.Kind

/-!
What can be wrong with a statement that can be read.
-/

namespace SqlLens.Analysis

inductive Clause where
  | filter | having | qualify | join
deriving DecidableEq

def Clause.words : Clause → String
  | filter => "WHERE clause"
  | having => "HAVING clause"
  | qualify => "QUALIFY clause"
  | join => "JOIN ON clause"

inductive Fault where
  | malformed (kind : Surface.Kind)
  | unsupportedStatement (kind : Surface.Kind)
  | unsupportedExpression (kind : Surface.Kind)
  | columnCounts (op : SetOp) (distinct : Bool) (left right : Nat)
  /-- Columns at the same place of a set operation have no common type; places count from one. -/
  | columnTypes (place : Nat) (op : SetOp) (distinct : Bool) (left right : SqlType)
  | duplicateWindow (name : String)
  | unknownWindow (name : String)
  | starWithoutTables
  | starMisplaced
  | starArgument
  | unknownException (name : String)
  | unknownName (name : String)
  | ambiguousName (name : String)
  | unknownColumn (name owner : String)
  | relationAsValue (name : String)
  | unknownField (name : String) (type : SqlType)
  | fieldOfScalar (name : String) (type : SqlType)
  | unknownTable (path : String)
  | joinWithoutCondition
  | arrayJoin
  | notArray (type : SqlType)
  | notBoolean (clause : Clause) (type : SqlType)
  | unknownType (name : String)
  | elementTypes (left right : SqlType)
  | intervalPart (unit : String)
  | unknownFunction (name : String)
  | analyticWithoutWindow (name : String)
  | windowOfScalar (name : String)
  | analyticMisplaced (name : String)
  | functionArguments (function : Function) (types : List SqlType)
  | operatorArguments (symbol : String) (types : List SqlType)
  | scalarColumns
  | arrayColumns
  | withinColumns
  | withinTypes (left right : SqlType)
deriving DecidableEq

namespace Fault

def typeList (types : List SqlType) : String := Text.join ", " (types.map SqlType.text)

def columnCount (count : Nat) : String :=
  if count = 1 then "1 column" else toString count ++ " columns"

def message : Fault → String
  | malformed kind => "Malformed " ++ kind.label ++ " node"
  | unsupportedStatement kind => "Unsupported statement kind " ++ kind.label
  | unsupportedExpression kind => "Unsupported expression: " ++ kind.label
  | columnCounts op distinct left right =>
    "Queries in " ++ op.words distinct ++ " have mismatched column count; query 1 has " ++ columnCount left ++
      ", query 2 has " ++ columnCount right
  | columnTypes place op distinct left right =>
    "Column " ++ toString place ++ " in " ++ op.words distinct ++ " has incompatible types: " ++ left.text ++ ", " ++
      right.text
  | duplicateWindow name => "Duplicate window alias " ++ name
  | unknownWindow name => "Unrecognized window alias " ++ name
  | starWithoutTables => "SELECT * must have a FROM clause"
  | starMisplaced => "Star expansion is not allowed here"
  | starArgument => "Star is only allowed in COUNT(*)"
  | unknownException name => "Column " ++ name ++ " in SELECT * EXCEPT list does not exist"
  | unknownName name => "Unrecognized name: " ++ name
  | ambiguousName name => "Column name " ++ name ++ " is ambiguous"
  | unknownColumn name owner => "Name " ++ name ++ " not found inside " ++ owner
  | relationAsValue name => "Range variable " ++ name ++ " cannot be used as a value"
  | unknownField name type => "Field name " ++ name ++ " does not exist in " ++ type.text
  | fieldOfScalar name type => "Cannot access field " ++ name ++ " on a value with type " ++ type.text
  | unknownTable path => "Table not found: " ++ path
  | joinWithoutCondition => "JOIN must have an immediately following ON clause"
  | arrayJoin => "Arrays can only be joined with INNER, CROSS or LEFT JOIN"
  | notArray type =>
    "Values referenced in UNNEST must be arrays. UNNEST contains expression of type " ++ type.text
  | notBoolean clause type => clause.words ++ " should return type BOOL, but returns " ++ type.text
  | unknownType name => "Type not found: " ++ name
  | elementTypes left right =>
    "Array elements of types \x7b" ++ left.text ++ ", " ++ right.text ++ "\x7d do not have a common supertype"
  | intervalPart unit => "Unsupported INTERVAL date part " ++ unit
  | unknownFunction name => "Function not found: " ++ name
  | analyticWithoutWindow name => "Analytic function " ++ name ++ " cannot be called without an OVER clause"
  | windowOfScalar name => "Function " ++ name ++ " does not support an OVER clause"
  | analyticMisplaced name =>
    "Analytic function " ++ name ++ " is only allowed in the SELECT list and QUALIFY clause"
  | functionArguments function types =>
    "No matching signature for function " ++ function.name ++ " for argument types: " ++ typeList types ++
      ". Supported signatures: " ++ Text.join "; " function.signatureTexts
  | operatorArguments symbol types =>
    "No matching signature for operator " ++ symbol ++ " for argument types: " ++ typeList types
  | scalarColumns =>
    "Scalar subquery cannot have more than one column unless using SELECT AS STRUCT to build STRUCT values"
  | arrayColumns =>
    "ARRAY subquery cannot have more than one column unless using SELECT AS STRUCT to build ARRAY<STRUCT> values"
  | withinColumns => "Subquery of type IN must have only one output column"
  | withinTypes left right =>
    "Cannot execute IN subquery with uncomparable types " ++ left.text ++ " and " ++ right.text

def code : Fault → Code
  | unknownTable _ => .tableNotFound
  | _ => .analysisError

end Fault

structure Failure where
  fault : Fault
  span : Option Span
deriving DecidableEq

def Failure.diagnostic (failure : Failure) : Diagnostic :=
  ⟨failure.fault.code, .error, failure.fault.message, failure.span⟩

end SqlLens.Analysis
