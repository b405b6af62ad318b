import SqlLens.Grammar.Expr

/-!
What a `FROM` clause names: tables, subqueries, arrays and their joins.

Tables in parentheses may nest; the fuel of `tableFactor` bounds how deep, and the number of tokens is always enough.
-/

namespace SqlLens.Grammar

def aliasColumns : Reader (List String) := do
  if ← symbol .openParen then
    let column : Reader String := do
      let name ← identifier
      let type ← optionally dataType
      return name.text ++ optionText " " (type.map TypeName.text)
    let columns ← commaSeparated column
    closeParen
    return columns
  else return []

def tableAlias : Reader (Option TableAlias) := do
  match ← optionalAlias Keyword.reservedForTableAlias with
  | some name => return some ⟨name, ← aliasColumns⟩
  | none => return none

def namedText (value : Reader String) : Reader String := do
  let text ← value
  let name ← if ← word "AS" then (do return some (← identifier)) else pure none
  return text ++ optionText " AS " (name.map Ident.text)

variable (r : Rules)

def aggregateText : Reader String := do
  match (← next).map Lexeme.token with
  | some (.word name _) => return (← callOf r [⟨name, none, none⟩] false).text
  | _ => expected "a function identifier" (← peek)

def pivot (table : Source) : Reader Source := do
  openParen
  let aggregates ← commaSeparated (namedText (aggregateText r))
  expectWord "FOR"
  let column ← objectName
  expectWord "IN"
  openParen
  let values ←
    if ← word "ANY" then
      if ← words ["ORDER", "BY"] then
        let items ← commaSeparated (orderItem r)
        pure ("ANY ORDER BY " ++ Text.join ", " (orderTexts items))
      else pure "ANY"
    else
      if ← peekQuery then pure (← r.query).text
      else
        let items ← commaSeparated (namedText (do return (← r.expr 0).text))
        pure (Text.join ", " items)
  closeParen
  let default ←
    if ← words ["DEFAULT", "ON", "NULL"] then
      let value ← parenthesized (r.expr 0)
      pure (" DEFAULT ON NULL (" ++ value.text ++ ")")
    else pure ""
  closeParen
  let aliasName ← tableAlias
  return .foreign (table.text ++ " PIVOT(" ++ Text.join ", " aggregates ++ " FOR " ++ pathText column ++ " IN (" ++
    values ++ ")" ++ default ++ ")" ++ aliasText aliasName)

def unpivot (table : Source) : Reader Source := do
  openParen
  let value ← identifier
  expectWord "FOR"
  let name ← identifier
  expectWord "IN"
  let columns ← mandatoryColumns
  closeParen
  let aliasName ← tableAlias
  return .foreign (table.text ++ " UNPIVOT(" ++ value.text ++ " FOR " ++ name.text ++ " IN (" ++ identsText columns ++
    "))" ++ aliasText aliasName)

def pivots : Nat → Source → Reader Source
  | 0, table => return table
  | fuel + 1, table => do
    if ← word "PIVOT" then pivots fuel (← pivot r table)
    else if ← word "UNPIVOT" then pivots fuel (← unpivot table)
    else return table

def tableArguments : Reader String := do
  if ← symbol .closeParen then return "()"
  else
    let arguments ← commaSeparated (argument r)
    closeParen
    return "(" ++ Text.join ", " (exprTexts arguments) ++ ")"

def derivedTable (lateral : Bool) : Reader Source := do
  let query ← r.query
  closeParen
  return .derived lateral query (← tableAlias)

/-- The rest of an array as a table. A `WITH` after it is taken even when no `OFFSET` follows. -/
def unnestTable : Reader Source := do
  let arrays ← parenthesized (commaSeparated (r.expr 0))
  let ordinality ← words ["WITH", "ORDINALITY"]
  let aliasName ← tableAlias
  let offset ← if ← word "WITH" then word "OFFSET" else pure false
  let offsetAlias ← if offset then optionalAlias Keyword.reservedForColumnAlias else pure none
  return .unnest arrays ordinality aliasName offset offsetAlias

/-- What stands for a missing or malformed value of a column read from a document, as it is shown. Fuel bounds the
number of such clauses; the last one of each kind counts. -/
def fallbacks : Nat → Option String → Option String → Reader String
  | 0, onEmpty, onError => return optionText " " onEmpty ++ optionText " " onError
  | fuel + 1, onEmpty, onError => do
    let value ←
      match ← oneOf ["NULL", "ERROR", "DEFAULT"] with
      | some "DEFAULT" => pure (some ("DEFAULT " ++ (← literal).text))
      | found => pure found
    match value with
    | none => return optionText " " onEmpty ++ optionText " " onError
    | some value =>
      expectWord "ON"
      if ← word "EMPTY" then fallbacks fuel (some (value ++ " ON EMPTY")) onError
      else
        expectWord "ERROR"
        fallbacks fuel onEmpty (some (value ++ " ON ERROR"))

/-- A column read from a document, as it is shown. Fuel bounds how deep columns nest. -/
def documentColumn : Nat → Reader String
  | 0 => throw .tooDeep
  | fuel + 1 => do
    if ← word "NESTED" then
      let _ ← word "PATH"
      let path ← literal
      expectWord "COLUMNS"
      let columns ← parenthesized (commaSeparated (documentColumn fuel))
      return "NESTED PATH " ++ path.text ++ " COLUMNS (" ++ Text.join ", " columns ++ ")"
    else
      let name ← identifier
      if ← word "FOR" then
        expectWord "ORDINALITY"
        return name.text ++ " FOR ORDINALITY"
      else
        let type ← dataType
        let exist ← word "EXISTS"
        expectWord "PATH"
        let path ← literal
        let fallback ← fallbacks ((← get).length + 1) none none
        return name.text ++ " " ++ type.text ++ whenText exist " EXISTS" ++ " PATH " ++ path.text ++ fallback

def documentTable : Reader Source := do
  openParen
  let document ← r.expr 0
  expectSymbol .comma
  let path ← literal
  expectWord "COLUMNS"
  let columns ← parenthesized (do commaSeparated (documentColumn ((← get).length + 1)))
  closeParen
  return .foreign ("JSON_TABLE(" ++ document.text ++ ", " ++ path.text ++ " COLUMNS(" ++ Text.join ", " columns ++
    "))" ++ aliasText (← tableAlias))

def openDocument : Reader Source := do
  openParen
  let document ← r.expr 0
  let path ← if ← symbol .comma then (do return some (← literal)) else pure none
  closeParen
  let column : Reader String := do
    let name ← identifier
    let type ← dataType
    let path ←
      match (← peek).map Lexeme.token with
      | some (.string .plain '\x27' false path) => do
        let _ ← next
        pure (some path)
      | _ => pure none
    let json ← if ← word "AS" then (do return (← expectedWord "JSON").isSome) else pure false
    return name.text ++ " " ++ type.text ++ optionText " '" (path.map (· ++ "'")) ++ whenText json " AS JSON"
  let columns ← if ← word "WITH" then parenthesized (commaSeparated column) else pure []
  return .foreign ("OPENJSON(" ++ document.text ++ optionText ", " (path.map Literal.text) ++ ")" ++
    (if columns.isEmpty then "" else " WITH (" ++ Text.join ", " columns ++ ")") ++ aliasText (← tableAlias))

/-- Takes the next word if a parenthesis follows it, which stays where it is. -/
def wordBeforeParen (wanted : String) : Reader Bool := do
  if isWord (← peek) wanted && isSymbol (← peekAfter 1) .openParen then word wanted else return false

def namedTable : Reader Source := do
  let name ← tableName
  let version ←
    if ← words ["FOR", "SYSTEM_TIME", "AS", "OF"] then (do return some ("FOR SYSTEM_TIME AS OF " ++ (← r.expr 0).text))
    else pure none
  let arguments ← if ← symbol .openParen then (do return some (← tableArguments r)) else pure none
  let ordinality ← words ["WITH", "ORDINALITY"]
  let aliasName ← tableAlias
  let before ← get
  let hints ←
    if ← word "WITH" then
      if ← symbol .openParen then
        let hints ← commaSeparated (r.expr 0)
        closeParen
        pure (some ("WITH (" ++ Text.join ", " (exprTexts hints) ++ ")"))
      else
        set before
        pure none
    else pure none
  pivots r ((← get).length + 1) (.table name aliasName ⟨arguments, ordinality, hints, version⟩)

def joinConstraint : Reader (JoinWords × Option Expr) := do
  if ← word "ON" then return (.none, some (← r.expr 0))
  else if ← word "USING" then return (.using (← mandatoryColumns), none)
  else return (.none, none)

def joinOp (natural : Bool) : Reader (Option JoinOp) := do
  let lexeme ← peek
  match (lexeme.map Lexeme.capitals).getD "" with
  | "INNER" | "JOIN" =>
    let _ ← word "INNER"
    expectWord "JOIN"
    return some .inner
  | "LEFT" => side "LEFT" .left
  | "RIGHT" => side "RIGHT" .right
  | "ANTI" => plain "ANTI JOIN"
  | "SEMI" => plain "SEMI JOIN"
  | "FULL" =>
    let _ ← next
    let _ ← word "OUTER"
    expectWord "JOIN"
    return some .full
  | "OUTER" => expected "LEFT, RIGHT, or FULL" lexeme
  | _ => if natural then expected "a join type after NATURAL" lexeme else return none
where
  plain (words : String) : Reader (Option JoinOp) := do
    let _ ← next
    expectWord "JOIN"
    return some (.other words)
  side (name : String) (outer : JoinOp) : Reader (Option JoinOp) := do
    let _ ← next
    match ← oneOf ["OUTER", "SEMI", "ANTI", "JOIN"] with
    | some "OUTER" =>
      expectWord "JOIN"
      return some outer
    | some "JOIN" => return some outer
    | some kind =>
      expectWord "JOIN"
      return some (.other (name ++ " " ++ kind ++ " JOIN"))
    | none => fail ("expected OUTER, SEMI, ANTI or JOIN after " ++ name)

def joinAfter (factor : Reader Source) (left : Source) : Reader (Option Source) := do
  let isGlobal ← word "GLOBAL"
  if ← word "CROSS" then
    let op ←
      if ← word "JOIN" then pure JoinOp.cross
      else
        if ← word "APPLY" then pure (JoinOp.other "CROSS APPLY")
        else expected "JOIN or APPLY after CROSS" (← peek)
    return some (.join left isGlobal op (← factor) .none none)
  else if ← word "OUTER" then
    expectWord "APPLY"
    return some (.join left isGlobal (.other "OUTER APPLY") (← factor) .none none)
  else if ← word "ASOF" then
    expectWord "JOIN"
    let right ← factor
    expectWord "MATCH_CONDITION"
    let condition ← parenthesized (r.expr 0)
    let (words, constraint) ← joinConstraint r
    let columns := match words with
      | .using columns => " USING(" ++ identsText columns ++ ")"
      | _ => ""
    return some (.join left isGlobal (.other "ASOF JOIN") right
      (.foreign (" MATCH_CONDITION (" ++ condition.text ++ ")" ++ columns)) constraint)
  else
    let natural ← word "NATURAL"
    match ← joinOp natural with
    | none => return none
    | some op =>
      let right ← factor
      if natural then return some (.join left isGlobal op right .natural none)
      else
        let (words, constraint) ← joinConstraint r
        return some (.join left isGlobal op right words constraint)

def joins (factor : Reader Source) : Nat → Source → Reader Source
  | 0, left => return left
  | fuel + 1, left => do
    match ← joinAfter r factor left with
    | some joined => joins factor fuel joined
    | none => return left

def joinedTables (factor : Reader Source) : Reader Source := do
  let first ← factor
  joins r factor ((← get).length + 1) first

def tableFactor : Nat → Reader Source
  | 0 => throw .tooDeep
  | fuel + 1 => do
    if ← word "LATERAL" then
      if ← symbol .openParen then derivedTable r true
      else
        let name ← objectName
        openParen
        let arguments ← tableArguments r
        return .foreign ("LATERAL " ++ pathText name ++ arguments ++ aliasText (← tableAlias))
    else if ← word "TABLE" then
      let value ← parenthesized (r.expr 0)
      return .foreign ("TABLE(" ++ value.text ++ ")" ++ aliasText (← tableAlias))
    else if ← symbol .openParen then
      match ← optionally (derivedTable r false) with
      | some table => pivots r ((← get).length + 1) table
      | none =>
        let tables ← joinedTables r (tableFactor fuel)
        match tables with
        | .join .. | .nested .. =>
          closeParen
          return .nested tables (← tableAlias)
        | _ => expected "joined table" (← peek)
    else if ← word "UNNEST" then unnestTable r
    else if ← wordBeforeParen "JSON_TABLE" then documentTable r
    else if ← wordBeforeParen "OPENJSON" then openDocument r
    else namedTable r

def tables : Reader Source := do
  joinedTables r (tableFactor r ((← get).length + 1))

def fromItems : Reader Source := do
  match ← commaSeparated (tables r) with
  | first :: rest => return rest.foldl Source.comma first
  | [] => return .nothing

end SqlLens.Grammar
