import SqlLens.Grammar.Column

/-!
Statements that remove and alter objects. They are not analysed, so the readers only tell whether a statement follows
the grammar.
-/

namespace SqlLens.Grammar

/-! ### Removal -/

variable (r : Rules)

def parameterType : Reader Unit := do
  let _ ← oneOf ["IN", "OUT", "INOUT"]
  let type ← dataType
  if type.kind == .custom then
    let _ ← dataType
  let hasDefault ← if ← word "DEFAULT" then pure true else symbol .equal
  if hasDefault then
    let _ ← r.expr 0

def functionSignature : Reader Unit := do
  anyObject
  if ← symbol .openParen then
    if !(← symbol .closeParen) then
      listOf (parameterType r)
      closeParen

def dropFunctions : Reader Unit := do
  ifExists
  listOf (functionSignature r)
  dropBehavior

def dropPolicy : Reader Unit := do
  ifExists
  anyName
  expectWord "ON"
  anyObject
  dropBehavior

def dropSecret : Reader Unit := do
  ifExists
  anyName
  if ← word "FROM" then
    let _ ← outcome identifier

def dropObjects (isRole : Bool) : Reader Unit := do
  ifExists
  listOf objectName
  let after ← peek
  let cascade ← word "CASCADE"
  let restricted ← word "RESTRICT"
  let purge ← word "PURGE"
  if cascade && restricted then failAt "Cannot specify both CASCADE and RESTRICT in DROP" after
  if isRole && (cascade || restricted || purge) then
    failAt "Cannot specify CASCADE, RESTRICT, or PURGE in DROP ROLE" after

def drop : Reader Unit := do
  let kind ← peek
  match ← oneOf
      (Text.words
          ["TABLE VIEW INDEX ROLE SCHEMA DATABASE SEQUENCE STAGE TYPE FUNCTION POLICY PROCEDURE SECRET TRIGGER"]) with
  | none =>
    expected ("TABLE, VIEW, INDEX, ROLE, SCHEMA, DATABASE, FUNCTION, PROCEDURE, STAGE, TRIGGER, SECRET, SEQUENCE, " ++
      "or TYPE after DROP") kind
  | some "FUNCTION" | some "PROCEDURE" => dropFunctions r
  | some "POLICY" => dropPolicy
  | some "SECRET" => dropSecret
  | some "TRIGGER" => expected "an object type after DROP" kind
  | some name => dropObjects (name == "ROLE")

/-! ### Alteration -/

/-- Partitions that are added, each with its keys. Fuel bounds their number; the result tells whether there are any. -/
def addedPartitions : Nat → Reader Bool
  | 0 => return false
  | fuel + 1 => do
    if ← word "PARTITION" then
      exprsInParens r
      let _ ← addedPartitions fuel
      return true
    else return false

def tableAddition : Reader Unit := do
  if !(← tableConstraint r) then
    ifNotExists
    if !(← addedPartitions r ((← get).length + 1)) then
      perhaps "COLUMN"
      ifNotExists
      columnDefinition r

def tableRenaming : Reader Unit := do
  if ← word "TO" then
    anyObject
  else
    perhaps "COLUMN"
    anyName
    expectWord "TO"
    anyName

def tableDisabling : Reader Unit := do
  if ← words ["ROW", "LEVEL", "SECURITY"] then return
  else if (← oneOf ["RULE", "TRIGGER"]).isSome then
    anyName
  else expected "ROW LEVEL SECURITY, RULE, or TRIGGER after DISABLE" (← peek)

def tableEnabling : Reader Unit := do
  if ← words ["ROW", "LEVEL", "SECURITY"] then return
  for phrase in [["ALWAYS", "RULE"], ["ALWAYS", "TRIGGER"], ["REPLICA", "RULE"], ["REPLICA", "TRIGGER"], ["RULE"],
      ["TRIGGER"]] do
    if ← words phrase then
      anyName
      return
  expected "ALWAYS, REPLICA, ROW LEVEL SECURITY, RULE, or TRIGGER after ENABLE" (← peek)

def tableRemoval : Reader Unit := do
  if ← words ["IF", "EXISTS", "PARTITION"] then exprsInParens r
  else if ← word "PARTITION" then exprsInParens r
  else if ← word "CONSTRAINT" then
    ifExists
    anyName
    perhaps "CASCADE"
  else
    passOver [["PRIMARY", "KEY"], ["PROJECTION"]]
    if ← words ["CLUSTERING", "KEY"] then return
    else
      perhaps "COLUMN"
      ifExists
      anyName
      perhaps "CASCADE"

def columnChange : Reader Unit := do
  let _ ← dataType
  unnamedColumnOptions r ((← get).length + 1)

def columnAlteration : Reader Unit := do
  perhaps "COLUMN"
  anyName
  if ← words ["SET", "NOT", "NULL"] then return
  else if ← words ["DROP", "NOT", "NULL"] then return
  else if ← words ["SET", "DEFAULT"] then
    let _ ← r.expr 0
  else if ← words ["DROP", "DEFAULT"] then return
  else if ← words ["SET", "DATA", "TYPE"] then
    let _ ← dataType
  else if ← words ["ADD", "GENERATED"] then
    if !(← word "ALWAYS") then
      let _ ← words ["BY", "DEFAULT"]
    expectWords ["AS", "IDENTITY"]
    sequenceOptionsInParens
  else expected "SET/DROP NOT NULL, SET DEFAULT, or SET DATA TYPE after ALTER COLUMN" (← peek)

def tableChange : Reader Unit := do
  if ← word "ADD" then tableAddition r
  else if ← word "RENAME" then tableRenaming
  else if ← word "DISABLE" then tableDisabling
  else if ← word "ENABLE" then tableEnabling
  else
    passOver [["CLEAR", "PROJECTION"], ["MATERIALIZE", "PROJECTION"]]
    if ← word "DROP" then tableRemoval r
    else if ← word "PARTITION" then
      exprsInParens r
      expectWords ["RENAME", "TO", "PARTITION"]
      exprsInParens r
    else if ← word "CHANGE" then
      perhaps "COLUMN"
      anyName
      anyName
      columnChange r
    else if ← word "MODIFY" then
      perhaps "COLUMN"
      anyName
      columnChange r
    else if ← word "ALTER" then columnAlteration r
    else if ← word "SWAP" then
      expectWord "WITH"
      anyObject
    else if ← words ["CLUSTER", "BY"] then exprsInParens r
    else if ← words ["SUSPEND", "RECLUSTER"] then return
    else if ← words ["RESUME", "RECLUSTER"] then return
    else if ← optionsAfter r ["SET", "TBLPROPERTIES"] then return
    else expected "ADD, RENAME, PARTITION, SWAP, DROP, or SET TBLPROPERTIES after ALTER TABLE" (← peek)

def alterTable : Reader Unit := do
  ifExists
  perhaps "ONLY"
  anyObject
  onCluster
  listOf (tableChange r)
  let moved ← if ← word "LOCATION" then pure true else words ["SET", "LOCATION"]
  if moved then
    anyName

def alterView : Reader Unit := do
  anyObject
  let _ ← optionalColumns
  optionList r "WITH"
  expectWord "AS"
  let _ ← r.query

def alterIndex : Reader Unit := do
  anyObject
  if ← word "RENAME" then
    if ← word "TO" then
      anyObject
    else expected "TO after RENAME" (← peek)
  else expected "RENAME after ALTER INDEX" (← peek)

def alterPolicy : Reader Unit := do
  anyName
  expectWord "ON"
  anyObject
  if ← word "RENAME" then
    expectWord "TO"
    anyName
  else
    if ← word "TO" then
      listOf owner
    conditionAfter r ["USING"]
    conditionAfter r ["WITH", "CHECK"]

def alter : Reader Unit := do
  match ← expectOneOf ["VIEW", "TABLE", "INDEX", "ROLE", "POLICY"] with
  | "VIEW" => alterView r
  | "TABLE" => alterTable r
  | "INDEX" => alterIndex
  | "ROLE" => fail "ALTER ROLE is only support for PostgreSqlDialect, MsSqlDialect"
  | _ => alterPolicy r

end SqlLens.Grammar
