import SqlLens.Grammar.Query

/-!
Clauses that several kinds of statements share: options in parentheses, properties of files, indexes and sequences, and
what a removal does with dependent objects. Only whether they follow the grammar matters.
-/

namespace SqlLens.Grammar

def passOver (phrases : List (List String)) : Reader Unit := do
  for phrase in phrases do
    let _ ← words phrase

/-! Parts of a statement of which nothing is kept. -/

def anyName : Reader Unit := do let _ ← identifier

def anyObject : Reader Unit := do let _ ← objectName

def perhaps (wanted : String) : Reader Unit := do let _ ← word wanted

def listOf {α : Type} (item : Reader α) : Reader Unit := do let _ ← commaSeparated item

def ifNotExists : Reader Unit := do let _ ← words ["IF", "NOT", "EXISTS"]

def ifExists : Reader Unit := do let _ ← words ["IF", "EXISTS"]

def dropBehavior : Reader Unit := do
  let _ ← oneOf ["CASCADE", "RESTRICT"]

def onCluster : Reader Unit := do
  if ← words ["ON", "CLUSTER"] then
    anyName

variable (r : Rules)

def sqlOption : Reader Unit := do
  anyName
  expectSymbol .equal
  let _ ← r.expr 0

def optionList (keyword : String) : Reader Unit := do
  if ← word keyword then
    openParen
    if !(← peekSymbol .closeParen) then
      listOf (sqlOption r)
    closeParen

def optionsAfter (keywords : List String) : Reader Bool := do
  if ← words keywords then
    let _ ← parenthesized (commaSeparated (sqlOption r))
    return true
  else return false

def exprsInParens : Reader Unit := do
  let _ ← parenthesized (commaSeparated (r.expr 0))

def conditionAfter (keywords : List String) : Reader Unit := do
  if ← words keywords then
    let _ ← parenthesized (r.expr 0)

def rowLimit : Reader Unit := do
  if ← word "LIMIT" then
    if !(← word "ALL") then
      let _ ← r.expr 0

def literalByte : Reader Unit := do
  let lexeme ← peek
  let text ← literalString
  if Text.size text != 1 then failAt ("Expect a char, found " ++ Text.escaped text) lexeme

def owner : Reader Unit := do
  if (← oneOf ["CURRENT_USER", "CURRENT_ROLE", "SESSION_USER"]).isNone then
    match ← outcome identifier with
    | .ok _ => return
    | .error (.malformed message) =>
      fail ("Expected: CURRENT_USER, CURRENT_ROLE, SESSION_USER or identifier after OWNER TO. sql parser error: " ++
        message)
    | .error .tooDeep => throw .tooDeep

def sequenceOptions : Reader Unit := do
  if ← word "INCREMENT" then
    perhaps "BY"
    let _ ← signedNumber
  if ← word "MINVALUE" then
    let _ ← signedNumber
  else
    let _ ← words ["NO", "MINVALUE"]
  if ← word "MAXVALUE" then
    let _ ← signedNumber
  else
    let _ ← words ["NO", "MAXVALUE"]
  if ← word "START" then
    perhaps "WITH"
    let _ ← signedNumber
  if ← word "CACHE" then
    let _ ← signedNumber
  if !(← words ["NO", "CYCLE"]) then
    perhaps "CYCLE"

def sequenceOptionsInParens : Reader Unit := do
  if ← symbol .openParen then
    sequenceOptions
    closeParen

def indexKind : Reader Bool := do
  if ← word "USING" then
    if (← oneOf ["BTREE", "HASH"]).isNone then expected "index type \x7bBTREE | HASH\x7d" (← peek)
    return true
  else return false

def indexOptions : Nat → Reader Unit
  | 0 => return
  | fuel + 1 => do
    if ← indexKind then indexOptions fuel
    else if ← word "COMMENT" then
      let _ ← literalString
      indexOptions fuel

def nullsDistinct : Reader Unit := do
  if ← word "NULLS" then
    perhaps "NOT"
    expectWord "DISTINCT"

/-- What ends the parts of a row in a file. Fuel bounds the number of clauses; an unfinished one ends them. -/
def rowDelimiters : Nat → Reader Unit
  | 0 => return
  | fuel + 1 => do
    match ← oneOf ["FIELDS", "COLLECTION", "MAP", "LINES", "NULL"] with
    | some "FIELDS" =>
      if ← words ["TERMINATED", "BY"] then
        anyName
        if ← words ["ESCAPED", "BY"] then
          anyName
        rowDelimiters fuel
    | some "COLLECTION" => delimiter fuel ["ITEMS", "TERMINATED", "BY"]
    | some "MAP" => delimiter fuel ["KEYS", "TERMINATED", "BY"]
    | some "LINES" => delimiter fuel ["TERMINATED", "BY"]
    | some _ => delimiter fuel ["DEFINED", "AS"]
    | none => return
where
  delimiter (fuel : Nat) (rest : List String) : Reader Unit := do
    if ← words rest then
      anyName
      rowDelimiters fuel

def rowFormat : Reader Unit := do
  expectWord "FORMAT"
  match ← oneOf ["SERDE", "DELIMITED"] with
  | some "SERDE" => let _ ← literalString
  | _ => rowDelimiters ((← get).length + 1)

def storageFormats : Nat → Reader Unit
  | 0 => return
  | fuel + 1 => do
    if ← word "ROW" then
      rowFormat
      storageFormats fuel
    else if ← word "STORED" then
      expectWord "AS"
      if ← word "INPUTFORMAT" then
        let _ ← r.expr 0
        expectWord "OUTPUTFORMAT"
        let _ ← r.expr 0
      else
        let _ ← fileFormat
      storageFormats fuel
    else if ← word "LOCATION" then
      let _ ← literalString
      storageFormats fuel
    else if ← optionsAfter r ["WITH", "SERDEPROPERTIES"] then storageFormats fuel

end SqlLens.Grammar
