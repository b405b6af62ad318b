import SqlLens.Grammar.Column

/-!
Statements that define objects. They are not analysed, so the readers only tell whether a statement follows the grammar.
-/

namespace SqlLens.Grammar

variable (r : Rules)

def partitionColumns : Reader Unit := do
  if ← words ["PARTITIONED", "BY"] then
    let _ ← parenthesized (commaSeparated (columnDefinition r))

def anyWord : Reader Unit := do
  let lexeme ← next
  if (lexeme.bind identOf).isNone then expected "identifier" lexeme

def tableEngine : Reader Unit := do
  if ← word "ENGINE" then
    expectSymbol .equal
    anyWord
    if ← peekSymbol .openParen then
      let _ ← parenthesized (commaSeparated identifier)

def counterStart : Reader Unit := do
  if ← word "AUTO_INCREMENT" then
    let _ ← symbol .equal
    let _ ← naturalOf 32

def tableOrder : Reader Unit := do
  if ← words ["ORDER", "BY"] then
    if ← symbol .openParen then
      if !(← peekSymbol .closeParen) then
        listOf (r.expr 0)
      closeParen
    else
      let _ ← r.expr 0

def tableLayout : Reader Unit := do
  if ← words ["PARTITION", "BY"] then
    let _ ← r.expr 0
  if ← words ["CLUSTER", "BY"] then
    listOf identifier
  optionList r "OPTIONS"

def wordSetting (keywords : List String) : Reader Unit := do
  if ← words keywords then
    expectSymbol .equal
    anyWord

def onCommit : Reader Unit := do
  if ← words ["ON", "COMMIT"] then
    if ← words ["DELETE", "ROWS"] then return
    else if ← words ["PRESERVE", "ROWS"] then return
    else if ← word "DROP" then return
    else fail ("Expecting DELETE ROWS, PRESERVE ROWS or DROP" ++ found (← peek))

def tableComment : Reader Unit := do
  if ← word "COMMENT" then
    let _ ← symbol .equal
    let lexeme ← next
    match lexeme.map Lexeme.token with
    | some (.string .plain '\x27' false _) => return
    | _ => expected "comment" lexeme

def createTable : Reader Unit := do
  ifNotExists
  let _ ← tableName
  onCluster
  if (← oneOf ["LIKE", "ILIKE"]).isSome then
    let _ ← outcome tableName
  if ← word "CLONE" then
    let _ ← outcome tableName
  tableColumns r
  let _ ← words ["WITHOUT", "ROWID"]
  partitionColumns r
  storageFormats r ((← get).length + 1)
  optionList r "WITH"
  optionList r "TBLPROPERTIES"
  tableEngine
  counterStart
  tableOrder r
  tableLayout r
  wordSetting ["DEFAULT", "CHARSET"]
  wordSetting ["COLLATE"]
  onCommit
  perhaps "STRICT"
  tableComment
  if ← word "AS" then
    let _ ← r.query

def createView : Reader Unit := do
  perhaps "MATERIALIZED"
  expectWord "VIEW"
  ifNotExists
  let _ ← tableName
  if ← symbol .openParen then
    if !(← symbol .closeParen) then
      let column : Reader Unit := do
        anyName
        optionList r "OPTIONS"
      listOf column
      closeParen
  optionList r "WITH"
  if ← word "CLUSTER" then
    expectWord "BY"
    let _ ← optionalColumns
  optionList r "OPTIONS"
  expectWord "AS"
  let _ ← r.query

def typedParameter : Reader Unit := do
  anyName
  let _ ← dataType

def createFunction : Reader Unit := do
  ifNotExists
  anyObject
  openParen
  if !(← peekSymbol .closeParen) then
    listOf typedParameter
  closeParen
  if ← word "RETURNS" then
    let _ ← dataType
  if !(← word "DETERMINISTIC") then
    let _ ← words ["NOT", "DETERMINISTIC"]
  if ← word "LANGUAGE" then
    anyName
  let remote ← words ["REMOTE", "WITH", "CONNECTION"]
  if remote then
    anyObject
  let early ← peekWord "OPTIONS"
  optionList r "OPTIONS"
  if !remote then
    expectWord "AS"
    let _ ← r.expr 0
    if !early then optionList r "OPTIONS"

def procedureParameters : Nat → Reader Unit
  | 0 => return
  | fuel + 1 => do
    if ((← peek).bind identOf).isSome then typedParameter
    let comma ← symbol .comma
    if ← symbol .closeParen then return
    else if comma then procedureParameters fuel
    else expected "',' or ')' after parameter definition" (← peek)

/-- Statements separated by semicolons up to `END`. `ended` tells that a statement stands right before. Fuel bounds
their number. -/
def procedureBody : Nat → Bool → Reader Unit
  | 0, _ => return
  | fuel + 1, ended => do
    if ← symbol .semicolon then procedureBody fuel false
    else
      let lexeme ← peek
      if lexeme.isNone || (ended && isWord lexeme "END") then return
      else if ended then expected "end of statement" lexeme
      else
        let _ ← r.statement
        procedureBody fuel true

def createProcedure : Reader Unit := do
  anyObject
  if ← symbol .openParen then
    if !(← symbol .closeParen) then procedureParameters ((← get).length + 1)
  expectWords ["AS", "BEGIN"]
  procedureBody r ((← get).length + 1) false
  expectWord "END"

def createSchema : Reader Unit := do
  ifNotExists
  if ← word "AUTHORIZATION" then
    anyName
  else
    anyObject
    if ← word "AUTHORIZATION" then
      anyName

def databaseLocations : Nat → Reader Unit
  | 0 => return
  | fuel + 1 => do
    if (← oneOf ["LOCATION", "MANAGEDLOCATION"]).isSome then
      let _ ← literalString
      databaseLocations fuel

def createDatabase : Reader Unit := do
  ifNotExists
  anyObject
  databaseLocations ((← get).length + 1)

def createPolicy : Reader Unit := do
  anyName
  expectWord "ON"
  anyObject
  if ← word "AS" then
    let _ ← expectOneOf ["PERMISSIVE", "RESTRICTIVE"]
  if ← word "FOR" then
    let _ ← expectOneOf ["ALL", "SELECT", "INSERT", "UPDATE", "DELETE"]
  if ← word "TO" then
    listOf owner
  conditionAfter r ["USING"]
  conditionAfter r ["WITH", "CHECK"]

def createExternalTable : Reader Unit := do
  expectWord "TABLE"
  ifNotExists
  anyObject
  tableColumns r
  partitionColumns r
  storageFormats r ((← get).length + 1)
  optionList r "TBLPROPERTIES"

def createSecret : Reader Unit := do
  ifNotExists
  if !(← peekSymbol .openParen) then
    let stored ← word "IN"
    anyName
    if !stored then
      if ← word "IN" then
        anyName
  openParen
  expectWord "TYPE"
  anyName
  if ← symbol .comma then
    let entry : Reader Unit := do
      anyName
      anyName
    listOf entry
  closeParen

def createExtension : Reader Unit := do
  ifNotExists
  anyName
  if ← word "WITH" then
    if ← word "SCHEMA" then
      anyName
    if ← word "VERSION" then
      anyName
    perhaps "CASCADE"

def createIndex : Reader Unit := do
  perhaps "CONCURRENTLY"
  let conditional ← words ["IF", "NOT", "EXISTS"]
  let unnamed ← if conditional then pure false else word "ON"
  if !unnamed then
    anyObject
    expectWord "ON"
  anyObject
  if ← word "USING" then
    anyName
  let _ ← parenthesized (commaSeparated (orderItem r))
  if ← word "INCLUDE" then
    let _ ← parenthesized (commaSeparated identifier)
  nullsDistinct
  let _ ← clauseOf r "WHERE"

def createVirtualTable : Reader Unit := do
  expectWord "TABLE"
  ifNotExists
  anyObject
  expectWord "USING"
  anyName
  let _ ← optionalColumns

def createRole : Reader Unit := do
  ifNotExists
  listOf objectName
  perhaps "WITH"

def createSequence : Reader Unit := do
  ifNotExists
  anyObject
  if ← word "AS" then
    let _ ← dataType
  sequenceOptions
  if ← words ["OWNED", "BY"] then
    if !(← word "NONE") then
      anyObject

def typeAttributes : Nat → Reader Unit
  | 0 => return
  | fuel + 1 => do
    typedParameter
    if ← word "COLLATE" then
      anyObject
    let comma ← symbol .comma
    if ← symbol .closeParen then return
    else if comma then typeAttributes fuel
    else expected "',' or ')' after attribute definition" (← peek)

def createType : Reader Unit := do
  anyObject
  expectWord "AS"
  if ← word "ENUM" then
    openParen
    if !(← peekSymbol .closeParen) then
      listOf identifier
    closeParen
  else if ← symbol .openParen then
    if !(← symbol .closeParen) then typeAttributes ((← get).length + 1)

def create : Reader Unit := do
  let replaces ← words ["OR", "REPLACE"]
  passOver [["OR", "ALTER"], ["LOCAL"], ["GLOBAL"], ["TRANSIENT"]]
  let _ ← oneOf ["TEMP", "TEMPORARY"]
  let kind ← peek
  let second ← peekAfter 1
  if ← word "TABLE" then createTable r
  else if isWord kind "MATERIALIZED" || isWord kind "VIEW" then createView r
  else if ← word "POLICY" then createPolicy r
  else if ← word "EXTERNAL" then createExternalTable r
  else if ← word "FUNCTION" then createFunction r
  else if isWord kind "TRIGGER" || isWord kind "MACRO" then unknown kind
  else if isWord kind "CONSTRAINT" && isWord second "TRIGGER" then unknown second
  else if ← word "SECRET" then createSecret
  else if replaces then
    expected "[EXTERNAL] TABLE or [MATERIALIZED] VIEW or FUNCTION after CREATE OR REPLACE" kind
  else if ← word "EXTENSION" then createExtension
  else if ← word "INDEX" then createIndex r
  else if ← words ["UNIQUE", "INDEX"] then createIndex r
  else if ← word "VIRTUAL" then createVirtualTable
  else if ← word "SCHEMA" then createSchema
  else if ← word "DATABASE" then createDatabase
  else if ← word "ROLE" then createRole
  else if ← word "SEQUENCE" then createSequence
  else if ← word "TYPE" then createType
  else if ← word "PROCEDURE" then createProcedure r
  else unknown kind
where
  unknown (kind : Option Lexeme) : Reader Unit := expected "an object type after CREATE" kind

end SqlLens.Grammar
