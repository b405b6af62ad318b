import SqlLens.Grammar.Definition
import SqlLens.Grammar.Alteration
import SqlLens.Grammar.Session
import SqlLens.Grammar.Transfer

/-!
Statements, and the grammar as a whole.

Only queries are kept; of other statements it matters that they follow the grammar. `rules` ties the grammar together:
each level of nesting reads with the rules of the level below it, and below the last level everything is too deep.
-/

namespace SqlLens.Grammar

variable (r : Rules)

def mergeClause : Reader Unit := do
  expectWord "WHEN"
  let unmatched ← word "NOT"
  expectWord "MATCHED"
  let bySource ← if unmatched then words ["BY", "SOURCE"] else pure false
  let byTarget ← if unmatched && !bySource then words ["BY", "TARGET"] else pure false
  let inserts := unmatched && !bySource
  let kind := whenText unmatched "NOT " ++ "MATCHED" ++ whenText bySource " BY SOURCE" ++ whenText byTarget " BY TARGET"
  if ← word "AND" then
    let _ ← r.expr 0
  expectWord "THEN"
  if ← word "UPDATE" then
    if inserts then fail ("UPDATE is not allowed in a " ++ kind ++ " merge clause")
    expectWord "SET"
    listOf (assignment r)
  else if ← word "INSERT" then
    if !inserts then fail ("INSERT is not allowed in a " ++ kind ++ " merge clause")
    let _ ← optionalColumns
    if !(← word "ROW") then
      expectWord "VALUES"
      let _ ← valuesBody r
  else if ← word "DELETE" then
    if inserts then fail ("DELETE is not allowed in a " ++ kind ++ " merge clause")
  else fail "expected UPDATE, DELETE or INSERT in merge clause"

def mergeClauses : Nat → Reader Unit
  | 0 => return
  | fuel + 1 => do
    match ← peek with
    | none => return
    | some lexeme =>
      if lexeme.isSymbol .semicolon then return
      else
        mergeClause r
        mergeClauses fuel

def merge : Reader Unit := do
  perhaps "INTO"
  let _ ← tableFactor r ((← get).length + 1)
  expectWord "USING"
  let _ ← tableFactor r ((← get).length + 1)
  expectWord "ON"
  let _ ← r.expr 0
  mergeClauses r ((← get).length + 1)

def deletion : Reader Unit := do
  perhaps "FROM"
  listOf (tables r)
  if ← word "USING" then
    listOf (tables r)
  let _ ← clauseOf r "WHERE"
  let _ ← returningClause r
  if ← words ["ORDER", "BY"] then
    listOf (orderItem r)
  rowLimit r

def declaration : Reader Unit := do
  listOf identifier
  if ← peekWord "DEFAULT" then
    let _ ← clauseOf r "DEFAULT"
  else
    let _ ← dataType
    let _ ← clauseOf r "DEFAULT"

def execution : Reader Unit := do
  anyObject
  if ← symbol .openParen then
    if !(← peekSymbol .closeParen) then
      listOf (r.expr 0)
    closeParen
  else
    match ← peek with
    | none => return
    | some lexeme =>
      if !(lexeme.isWord "USING" || lexeme.isSymbol .semicolon) then
        listOf (r.expr 0)
  if ← word "USING" then
    listOf (r.expr 0)

def explanation : Reader Statement := do
  if !(← words ["QUERY", "PLAN"]) then
    perhaps "ANALYZE"
    perhaps "VERBOSE"
    if ← word "FORMAT" then
      if (← oneOf ["TEXT", "GRAPHVIZ", "JSON"]).isNone then expected "fileformat" (← next)
  match ← optionally r.statement with
  | some .explain => fail "Explain must be root of the plan"
  | some _ => return .explain
  | none =>
    let _ ← oneOf ["EXTENDED", "FORMATTED"]
    anyObject
    return .explain

def truncation : Reader Unit := do
  perhaps "TABLE"
  perhaps "ONLY"
  listOf objectName
  if ← word "PARTITION" then exprsInParens r
  onCluster

def otherStatement (lexeme : Lexeme) : Reader Statement := do
  match lexeme.capitals with
  | "DESC" | "DESCRIBE" | "EXPLAIN" => explanation r
  | "TRUNCATE" => other (truncation r)
  | "CREATE" => other (create r)
  | "DROP" => other (drop r)
  | "ALTER" => other (alter r)
  | "DECLARE" => other (declaration r)
  | "DELETE" => other (deletion r)
  | "INSERT" => other (do let _ ← insertion r)
  | "UPDATE" => other (do let _ ← update r)
  | "MERGE" => other (merge r)
  | "CALL" => other (do
    let name ← objectName
    if ← peekSymbol .openParen then
      let _ ← callOf r name false)
  | "SET" => other (setting r)
  | "SHOW" => other (showing r)
  | "USE" => other (do anyObject)
  | "GRANT" => other grant
  | "REVOKE" => other revoke
  | "START" => other (do
    expectWord "TRANSACTION"
    allTransactionModes)
  | "BEGIN" => other (do
    let _ ← oneOf ["TRANSACTION", "WORK"]
    allTransactionModes)
  | "END" | "COMMIT" => other chain
  | "ROLLBACK" => other rollback
  | "SAVEPOINT" => other (do anyName)
  | "RELEASE" => other (do
    perhaps "SAVEPOINT"
    anyName)
  | "ASSERT" => other (do
    let _ ← r.expr 0
    let _ ← clauseOf r "AS")
  | "DEALLOCATE" => other (do
    perhaps "PREPARE"
    anyName)
  | "EXECUTE" | "EXEC" => other (execution r)
  | "PREPARE" => other (do
    anyName
    if ← symbol .openParen then
      listOf dataType
      closeParen
    expectWord "AS"
    let _ ← r.statement)
  | "CLOSE" => other (do
    if !(← word "ALL") then
      anyName)
  | "DISCARD" => other (do
    if (← oneOf ["ALL", "PLANS", "SEQUENCES", "TEMP", "TEMPORARY"]).isNone then
      expected "ALL, PLANS, SEQUENCES, TEMP or TEMPORARY after DISCARD" (← peek))
  | "KILL" => other (do
    let kind ← oneOf ["CONNECTION", "QUERY", "MUTATION"]
    let _ ← natural
    if kind == some "MUTATION" then
      expected "Unsupported type for KILL, allowed: CONNECTION | QUERY" (← peek))
  | "FLUSH" => failAt "Unsupported statement FLUSH" (← peek)
  | "REPLACE" => failAt "Unsupported statement REPLACE" (← peek)
  | "ATTACH" => other (do
    perhaps "DATABASE"
    let _ ← r.expr 0
    expectWord "AS"
    anyName)
  | "LOAD" =>
    perhaps "DATA"
    expected "\x60DATA\x60 or an extension name after \x60LOAD\x60" (← peek)
  | "ANALYZE" => other (analyze r)
  | "MSCK" => other repair
  | "CACHE" => other (cache r)
  | "UNCACHE" => other uncache
  | "FETCH" => other fetch
  | "COPY" => other (copy r)
  | "PRAGMA" => other pragma
  | "UNLOAD" => other (unload r)
  | _ => expected "an SQL statement" (some lexeme)
where
  other (reader : Reader Unit) : Reader Statement := do
    reader
    return .other

def statement : Reader Statement := do
  let lexeme ← peek
  match lexeme with
  | some l =>
    if l.isWord "SELECT" || l.isWord "WITH" || l.isWord "VALUES" || l.isSymbol .openParen then
      return .query (← r.query)
    else
      let _ ← next
      otherStatement r l
  | none => expected "an SQL statement" none

def rules : Nat → Rules
  | 0 => ⟨fun _ => throw .tooDeep, throw .tooDeep, throw .tooDeep⟩
  | levels + 1 => ⟨expression (rules levels), query (rules levels), statement (rules levels)⟩

def depthLimit : Nat := 50

def readStatement (lexemes : List Lexeme) : Except Failure (Statement × List Lexeme) :=
  match (rules depthLimit).statement.run lexemes with
  | (.ok statement, rest) => .ok (statement, rest)
  | (.error failure, _) => .error failure

end SqlLens.Grammar
