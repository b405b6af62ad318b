import SqlLens.Grammar.Clause

/-!
Statements about the session: settings, transactions, privileges, and what there is to show. They are not analysed, so
the readers only tell whether a statement follows the grammar.
-/

namespace SqlLens.Grammar

/-! ### Transactions -/

def transactionModes : Nat → Bool → Reader Unit
  | 0, _ => return
  | fuel + 1, required => do
    let found ←
      if ← words ["ISOLATION", "LEVEL"] then
        if ← words ["READ", "UNCOMMITTED"] then pure true
        else if ← words ["READ", "COMMITTED"] then pure true
        else if ← words ["REPEATABLE", "READ"] then pure true
        else if ← word "SERIALIZABLE" then pure true
        else expected "isolation level" (← peek)
      else
        if ← words ["READ", "ONLY"] then pure true else words ["READ", "WRITE"]
    if found then transactionModes fuel (← symbol .comma)
    else if required then expected "transaction mode" (← peek)

def allTransactionModes : Reader Unit := do transactionModes ((← get).length + 1) false

def chain : Reader Unit := do
  let _ ← oneOf ["TRANSACTION", "WORK"]
  if ← word "AND" then
    perhaps "NO"
    expectWord "CHAIN"

def rollback : Reader Unit := do
  chain
  if ← word "TO" then
    perhaps "SAVEPOINT"
    anyName

/-! ### Settings -/

variable (r : Rules)

/-- A subquery without parentheses, or any expression. A failure inside is told as a missing value. -/
def settingValue : Reader Unit := do
  if ← peekQuery then
    let _ ← r.query
  else
    match ← outcome (r.expr 0) with
    | .ok _ => return
    | .error _ => expected "variable value" (← peek)

def sessionRole : Reader Unit := do
  expectWord "ROLE"
  if !(← word "NONE") then
    anyName

def settingName : Reader (Option String) := do
  if ← words ["TIME", "ZONE"] then return some "TIMEZONE"
  else if ← symbol .openParen then
    listOf identifier
    closeParen
    return none
  else return some (pathText (← objectName))

def settingPhrase (modified : Bool) (name : String) : Reader Unit := do
  if Text.upper name == "TIMEZONE" then
    match ← outcome (r.expr 0) with
    | .ok _ => return
    | .error _ => expected "timezone value" (← peek)
  else if name == "CHARACTERISTICS" then
    expectWords ["AS", "TRANSACTION"]
    allTransactionModes
  else if name == "TRANSACTION" && !modified then
    if ← word "SNAPSHOT" then
      let _ ← literal
    else allTransactionModes
  else expected "equals sign or TO" (← peek)

def setting : Reader Unit := do
  let modifier ← oneOf ["SESSION", "LOCAL", "HIVEVAR"]
  if modifier == some "HIVEVAR" then
    expectSymbol .colon
  else
    match ← optionally sessionRole with
    | some _ => return
    | none => pure ()
  let name ← settingName
  let assigned ← if ← symbol .equal then pure true else word "TO"
  if assigned then
    if name.isNone then
      openParen
    listOf (settingValue r)
    if name.isNone then
      closeParen
  else
    match name with
    | some name => settingPhrase r modifier.isSome name
    | none => expected "set variable" (← peek)

/-! ### Privileges -/

def privilege : Reader Unit := do
  match ← oneOf ["CONNECT", "CREATE", "DELETE", "EXECUTE", "TEMPORARY", "TRIGGER", "TRUNCATE", "USAGE"] with
  | some _ => return
  | none =>
    match ← oneOf ["INSERT", "REFERENCES", "SELECT", "UPDATE"] with
    | some _ => let _ ← optionalColumns
    | none => expected "a privilege keyword" (← peek)

def privileges : Reader Unit := do
  if ← word "ALL" then
    perhaps "PRIVILEGES"
  else
    listOf privilege
  expectWord "ON"
  if !(← words ["ALL", "TABLES", "IN", "SCHEMA"]) then
    if !(← words ["ALL", "SEQUENCES", "IN", "SCHEMA"]) then
      let _ ← oneOf ["SEQUENCE", "SCHEMA", "TABLE"]
  listOf objectName

def grantedBy : Reader Unit := do
  if ← words ["GRANTED", "BY"] then
    anyName

def grant : Reader Unit := do
  privileges
  expectWord "TO"
  listOf identifier
  let _ ← words ["WITH", "GRANT", "OPTION"]
  grantedBy

def revoke : Reader Unit := do
  privileges
  expectWord "FROM"
  listOf identifier
  grantedBy
  let after ← peek
  let cascade ← word "CASCADE"
  let restricted ← word "RESTRICT"
  if cascade && restricted then failAt "Cannot specify both CASCADE and RESTRICT in REVOKE" after

/-! ### Showing -/

def showFilter : Reader Unit := do
  if (← oneOf ["LIKE", "ILIKE"]).isSome then
    let _ ← literalString
  else if ← word "WHERE" then
    let _ ← r.expr 0
  else
    let _ ← optionally literalString

def showParent : Reader Unit := do
  if (← oneOf ["FROM", "IN"]).isSome then
    match ← oneOf ["ACCOUNT", "DATABASE", "SCHEMA", "TABLE", "VIEW"] with
    | some kind =>
      let unnamed := (isWord (← peek) "STARTS" && isWord (← peekAfter 1) "WITH") || isWord (← peek) "LIMIT"
      if !((kind == "DATABASE" || kind == "SCHEMA") && unnamed) then
        let _ ← optionally objectName
    | none =>
      anyObject
      if (← oneOf ["FROM", "IN"]).isSome then
        anyName

def showOptions : Reader Unit := do
  showParent
  showFilter r
  if ← words ["STARTS", "WITH"] then
    let _ ← literal
  rowLimit r
  if ← word "FROM" then
    let _ ← literal

/-- Takes everything up to the end of the text or an equals sign, which is left. Fuel bounds the number of tokens. -/
def namesToEnd : Nat → Reader Unit
  | 0 => return
  | fuel + 1 => do
    match ← peek with
    | none => return
    | some lexeme =>
      if !lexeme.isSymbol .equal then
        let _ ← next
        namesToEnd fuel

def showing : Reader Unit := do
  perhaps "TERSE"
  let extended ← word "EXTENDED"
  let full ← word "FULL"
  passOver [["SESSION"], ["GLOBAL"], ["EXTERNAL"]]
  if (← oneOf ["COLUMNS", "FIELDS", "TABLES"]).isSome then showOptions r
  else if ← words ["MATERIALIZED", "VIEWS"] then showOptions r
  else if ← word "VIEWS" then showOptions r
  else if ← word "FUNCTIONS" then showFilter r
  else if extended || full then fail "EXTENDED/FULL are not supported with this type of SHOW query"
  else if ← word "CREATE" then
    let _ ← expectOneOf ["TABLE", "TRIGGER", "FUNCTION", "PROCEDURE", "EVENT", "VIEW"]
    anyObject
  else if ← word "COLLATION" then showFilter r
  else
    passOver [["VARIABLES"], ["STATUS"]]
    if (← oneOf ["DATABASES", "SCHEMAS"]).isSome then
      perhaps "HISTORY"
      showOptions r
    else namesToEnd ((← get).length + 1)

end SqlLens.Grammar
