import SqlLens.Grammar.Clause

/-!
Statements that move rows and keep copies of tables. They are not analysed, so the readers only tell whether a statement
follows the grammar.
-/

namespace SqlLens.Grammar

/-! ### Copies from and to files -/

def optionalTruth : Reader Unit := do
  let _ ← oneOf ["TRUE", "FALSE"]

def copyOption : Reader Unit := do
  match ← oneOf
      (Text.words
          ["FORMAT FREEZE DELIMITER NULL HEADER QUOTE ESCAPE FORCE_QUOTE FORCE_NOT_NULL FORCE_NULL ENCODING"]) with
  | some "FORMAT" => anyName
  | some "FREEZE" | some "HEADER" => optionalTruth
  | some "DELIMITER" | some "QUOTE" | some "ESCAPE" => literalByte
  | some "NULL" | some "ENCODING" => let _ ← literalString
  | some _ => let _ ← mandatoryColumns
  | none => expected "option" (← peek)

def separatedOption : Reader Unit := do
  if ← word "HEADER" then return
  else if (← oneOf ["QUOTE", "ESCAPE"]).isSome then
    perhaps "AS"
    literalByte
  else if ← word "FORCE" then
    if ← words ["NOT", "NULL"] then
      listOf identifier
    else if ← word "QUOTE" then
      listOf identifier
    else expected "csv option" (← peek)
  else expected "csv option" (← peek)

def whileReadable (phrase : Reader Unit) : Nat → Reader Unit
  | 0 => return
  | fuel + 1 => do
    if (← optionally phrase).isSome then whileReadable phrase fuel

def bareCopyOption : Reader Unit := do
  match ← oneOf ["BINARY", "DELIMITER", "NULL", "CSV"] with
  | some "BINARY" => return
  | some "DELIMITER" =>
    perhaps "AS"
    literalByte
  | some "NULL" =>
    perhaps "AS"
    let _ ← literalString
  | some _ => whileReadable separatedOption ((← get).length + 1)
  | none => expected "option" (← peek)

variable (r : Rules)

def copy : Reader Unit := do
  let isQuery ← symbol .openParen
  if isQuery then
    let _ ← r.query
    closeParen
  else
    anyObject
    let _ ← optionalColumns
  match ← oneOf ["FROM", "TO"] with
  | some "FROM" => if isQuery then fail "COPY ... FROM does not support query as a source"
  | some _ => pure ()
  | none => expected "FROM or TO" (← peek)
  let inline ← word "STDIN"
  if !inline then
    if !(← word "STDOUT") then
      perhaps "PROGRAM"
      let _ ← literalString
  perhaps "WITH"
  if ← symbol .openParen then
    listOf copyOption
    closeParen
  whileReadable bareCopyOption ((← get).length + 1)
  if inline then
    expectSymbol .semicolon

def unload : Reader Unit := do
  let _ ← parenthesized r.query
  expectWord "TO"
  anyName
  optionList r "WITH"

/-! ### Kept tables -/

def cachedTable : Reader Unit := do
  anyObject
  optionList r "OPTIONS"
  match ← peek with
  | none => return
  | some lexeme =>
    if (identOf lexeme).isNone then expected "a QUERY statement" (some lexeme)
    perhaps "AS"
    let _ ← r.query

def cache : Reader Unit := do
  if ← word "TABLE" then cachedTable r
  else
    let before ← get
    anyObject
    let after ← get
    if ← word "TABLE" then cachedTable r
    else
      match ← peek with
      | some lexeme => expected "a \x60TABLE\x60 keyword" (some lexeme)
      | none => expected "a \x60TABLE\x60 keyword" (lastTaken before after)
where
  lastTaken (before after : List Lexeme) : Option Lexeme :=
    ((before.take (before.length - after.length)).filter (!·.isBlank)).getLast?

def uncache : Reader Unit := do
  expectWord "TABLE"
  ifExists
  anyObject

def statistics : Nat → Reader Unit
  | 0 => return
  | fuel + 1 => do
    match ← oneOf ["PARTITION", "FOR", "CACHE", "NOSCAN", "COMPUTE"] with
    | some "PARTITION" =>
      exprsInParens r
      statistics fuel
    | some "FOR" =>
      expectWord "COLUMNS"
      let _ ← optionally (commaSeparated identifier)
      statistics fuel
    | some "CACHE" =>
      expectWord "METADATA"
      statistics fuel
    | some "NOSCAN" => statistics fuel
    | some _ =>
      expectWord "STATISTICS"
      statistics fuel
    | none => return

def analyze : Reader Unit := do
  expectWord "TABLE"
  anyObject
  statistics r ((← get).length + 1)

def repair : Reader Unit := do
  perhaps "REPAIR"
  expectWord "TABLE"
  anyObject
  let partitions : Reader Unit := do
    let _ ← oneOf ["ADD", "DROP", "SYNC"]
    expectWord "PARTITIONS"
  let _ ← optionally partitions

/-! ### Cursors and other values -/

def fetch : Reader Unit := do
  match ← oneOf ["NEXT", "PRIOR", "FIRST", "LAST", "ABSOLUTE", "RELATIVE", "FORWARD", "BACKWARD", "ALL"] with
  | some "ABSOLUTE" | some "RELATIVE" | none => let _ ← numberLiteral
  | some "FORWARD" | some "BACKWARD" =>
    if !(← word "ALL") then
      let _ ← numberLiteral
  | some _ => pure ()
  let _ ← expectOneOf ["FROM", "IN"]
  anyName
  if ← word "INTO" then
    anyObject

def pragmaValue : Reader Unit := do
  let before ← get
  let lexeme ← peek
  match ← literal with
  | .string .plain _ false _ | .number _ _ | .parameter _ => return
  | _ =>
    set before
    expected "number or string or ? placeholder" lexeme

def pragma : Reader Unit := do
  anyObject
  if ← symbol .openParen then
    pragmaValue
    closeParen
  else if ← symbol .equal then pragmaValue

end SqlLens.Grammar
