import SqlLens.Grammar.Source

/-!
Queries: select lists, clauses, set operations and common tables.
-/

namespace SqlLens.Grammar

/-! ### Select lists -/

def starExcept : Reader (List Ident) := do
  if ← word "EXCEPT" then
    if ← peekSymbol .openParen then mandatoryColumns else return [← identifier]
  else return []

variable (r : Rules)

def starReplace : Reader (Option String) := do
  if ← word "REPLACE" then
    if ← symbol .openParen then
      let item : Reader String := do
        let value ← r.expr 0
        let as ← word "AS"
        let name ← identifier
        return value.text ++ (if as then " AS " else " ") ++ name.text
      let items ← commaSeparated item
      closeParen
      return some ("REPLACE (" ++ Text.join ", " items ++ ")")
    else expected "( after REPLACE but" (← next)
  else return none

def starAt (place : Nat) : Reader Star := do
  let except ← starExcept
  let replacing ← starReplace r
  return ⟨some place, except, replacing⟩

def selectItem : Reader SelectItem := do
  match ← wild r with
  | .star place => return .star [] (← starAt r place)
  | .qualified name place => return .star name (← starAt r place)
  | .expr value =>
    match value with
    | .name [⟨name, none, _⟩] =>
      if Text.lower name == "from" then failAt ("Expected an expression, found: " ++ name) (← peek)
      else aliased value
    | _ => aliased value
where
  aliased (value : Expr) : Reader SelectItem := do
    return .expr value (← optionalAlias Keyword.reservedForColumnAlias)

def anotherItem : Reader Bool := do
  if ← symbol .comma then
    match ← peek with
    | none => return false
    | some lexeme =>
      match lexeme.token with
      | .word _ none => return !Keyword.reservedForColumnAlias.any lexeme.isWord
      | .symbol .closeParen | .symbol .semicolon | .symbol .closeBracket | .symbol .closeBrace => return false
      | _ => return true
  else return false

def selectItems : Reader (List SelectItem) := do
  repeated (selectItem r) anotherItem ((← get).length + 1)

/-! ### The clauses of a `SELECT` -/

def selectDistinct : Reader Distinct := do
  let start ← peek
  let all ← word "ALL"
  if ← word "DISTINCT" then
    if all then failAt "Cannot specify both ALL and DISTINCT" start
    else if ← word "ON" then
      openParen
      let columns ← if ← peekSymbol .closeParen then pure [] else commaSeparated (r.expr 0)
      closeParen
      return .on (Text.join ", " (exprTexts columns))
    else return .yes
  else return .no

def topClause : Reader (Option String) := do
  if ← word "TOP" then
    let quantity ←
      if ← symbol .openParen then
        let value ← r.expr 0
        closeParen
        pure ("(" ++ value.text ++ ")")
      else pure (toString (← natural))
    let percent ← word "PERCENT"
    let ties ← words ["WITH", "TIES"]
    return some ("TOP " ++ quantity ++ whenText percent " PERCENT" ++ whenText ties " WITH TIES")
  else return none

def intoClause : Reader (Option String) := do
  if ← word "INTO" then
    let temporary ← oneOf ["TEMP", "TEMPORARY"]
    let unlogged ← word "UNLOGGED"
    let table ← word "TABLE"
    let name ← objectName
    return some ("INTO" ++ whenText temporary.isSome " TEMPORARY" ++ whenText unlogged " UNLOGGED" ++
      whenText table " TABLE" ++ " " ++ pathText name)
  else return none

def lateralViews : Nat → Reader (List String)
  | 0 => return []
  | fuel + 1 => do
    if ← words ["LATERAL", "VIEW"] then
      let outer ← word "OUTER"
      let value ← r.expr 0
      let name ← objectName
      let columns ← commaSeparated (optionalAlias ["WHERE", "GROUP", "CLUSTER", "HAVING", "LATERAL"])
      let columns := columns.filterMap id
      let view := " LATERAL VIEW" ++ whenText outer " OUTER" ++ " " ++ value.text ++ " " ++ pathText name ++
        (if columns.isEmpty then "" else " AS " ++ identsText columns)
      return view :: (← lateralViews fuel)
    else return []

def sortingClause (name : String) : Reader (List String) := do
  if ← words [name, "BY"] then
    let keys ← commaSeparated (r.expr 0)
    return [name ++ " BY " ++ Text.join ", " (exprTexts keys)]
  else return []

def namedWindow : Reader NamedWindow := do
  let name ← identifier
  expectWord "AS"
  return .mk name (← overWindow r)

def clauseOf (keyword : String) : Reader (Option Expr) := do
  if ← word keyword then return some (← r.expr 0) else return none

def windowsAndQualify : Reader (List NamedWindow × Option Expr × Bool) := do
  if ← word "WINDOW" then
    let windows ← commaSeparated (namedWindow r)
    return (windows, ← clauseOf r "QUALIFY", true)
  else if ← word "QUALIFY" then
    let filter ← r.expr 0
    let windows ← if ← word "WINDOW" then commaSeparated (namedWindow r) else pure []
    return (windows, some filter, false)
  else return ([], none, false)

def select : Reader Body := do
  let keyword ← expectedWord "SELECT"
  let valueTable ←
    if ← word "AS" then
      if ← word "VALUE" then pure (some "AS VALUE")
      else if ← word "STRUCT" then pure (some "AS STRUCT")
      else expected "VALUE or STRUCT" (← peek)
    else pure none
  let distinct ← selectDistinct r
  let top ← topClause r
  let items ← selectItems r
  let into ← intoClause
  let source ← if ← word "FROM" then fromItems r else pure .nothing
  let views ← lateralViews r ((← get).length + 1)
  let selection ← clauseOf r "WHERE"
  let (groupAll, groupBy) ←
    if ← words ["GROUP", "BY"] then
      if ← word "ALL" then pure (true, [])
      else do pure (false, ← commaSeparated (r.expr 0))
    else pure (false, [])
  let cluster ← sortingClause r "CLUSTER"
  let distribute ← sortingClause r "DISTRIBUTE"
  let sort ← sortingClause r "SORT"
  let having ← clauseOf r "HAVING"
  let (windows, qualify, windowFirst) ← windowsAndQualify r
  let head : SelectHead :=
    ⟨keyword.map (·.span.start), valueTable, distinct, top, into, views, groupAll, cluster ++ distribute ++ sort,
      windowFirst⟩
  return .select head items source selection groupBy having windows qualify

/-! ### Bodies -/

def valuesBody : Reader Body := do
  let row : Reader (Bool × String) := do
    let explicit ← word "ROW"
    let values ← parenthesized (commaSeparated (r.expr 0))
    return (explicit, "(" ++ Text.join ", " (exprTexts values) ++ ")")
  let rows ← commaSeparated row
  let opening := whenText (rows.any (·.1)) "ROW"
  return .foreign ("VALUES " ++ Text.join ", " (rows.map fun row => opening ++ row.2))

def tableBody : Reader Body := do
  let first ← next
  let second ← next
  let third ← next
  if isSymbol second .period then
    let schema ← nameOf "Schema name" first
    let name ← nameOf "Table name" third
    return .foreign ("TABLE " ++ schema ++ "." ++ name)
  else return .foreign ("TABLE " ++ (← nameOf "Table name" first))
where
  nameOf (what : String) (lexeme : Option Lexeme) : Reader String :=
    match lexeme.map Lexeme.token with
    | some (.word value _) => return value
    | _ => expected what lexeme

def setOp? (lexeme : Option Lexeme) : Option SetOp :=
  if isWord lexeme "UNION" then some .union
  else if isWord lexeme "EXCEPT" then some .except
  else if isWord lexeme "INTERSECT" then some .intersect
  else none

def setOpStrength : SetOp → Nat
  | .union | .except => 10
  | .intersect => 20

def setQuantifier : Reader SetQuantifier := do
  if ← words ["DISTINCT", "BY", "NAME"] then return .distinctByName
  else if ← words ["BY", "NAME"] then return .byName
  else if ← word "ALL" then
    if ← words ["BY", "NAME"] then return .allByName else return .all
  else if ← word "DISTINCT" then return .distinct
  else return .none

def simpleBody : Reader Body := do
  if ← peekWord "SELECT" then select r
  else if ← symbol .openParen then
    let query ← r.query
    closeParen
    return .query query
  else if ← word "VALUES" then valuesBody r
  else if ← word "TABLE" then tableBody
  else expected "SELECT, VALUES, or a subquery in the query body" (← peek)

/-- Goes on with set operators that bind more strongly than `strength`; an operator's right side is a body of its
strength. Fuel bounds the number of operators. -/
def setOperations : Nat → Nat → Body → Reader Body
  | 0, _, left => return left
  | fuel + 1, strength, left => do
    match setOp? (← peek) with
    | some op =>
      if setOpStrength op ≤ strength then return left
      else
        let _ ← next
        let quantifier ← setQuantifier
        let right ← simpleBody r
        let right ← setOperations fuel (setOpStrength op) right
        setOperations fuel strength (.setOperation op quantifier left right)
    | none => return left

def body : Reader Body := do
  let first ← simpleBody r
  setOperations r ((← get).length + 1) 0 first

/-! ### Queries -/

def cte : Reader Cte := do
  let name ← identifier
  let columns ← if ← peekWord "AS" then pure [] else aliasColumns
  expectWord "AS"
  openParen
  let query ← r.query
  let close ← expectedSymbol .closeParen
  let source ← if ← word "FROM" then (do return some (← identifier)) else pure none
  return .mk ⟨name, columns⟩ query source (close.map (·.span.start))

def withClause : Reader (Option WithHead × List Cte) := do
  let lexeme ← peek
  if ← word "WITH" then
    let isRecursive ← word "RECURSIVE"
    let entries ← commaSeparated (cte r)
    return (some ⟨lexeme.map (·.span.start), isRecursive⟩, entries)
  else return (none, [])

def limitAndOffset : Nat → Option Expr → Option Expr → String →
    Reader (Option Expr × Option Expr × String)
  | 0, limit, offset, rows => return (limit, offset, rows)
  | rounds + 1, limit, offset, rows => do
    let limit ←
      if limit.isNone then
        if ← word "LIMIT" then
          if ← word "ALL" then pure none else (do return some (← r.expr 0))
        else pure none
      else pure limit
    let (offset, rows) ←
      if offset.isNone then
        if ← word "OFFSET" then
          let value ← r.expr 0
          let unit ← oneOf ["ROW", "ROWS"]
          pure (some value, optionText " " unit)
        else pure (none, rows)
      else pure (offset, rows)
    limitAndOffset rounds limit offset rows

def fetchClause : Reader (List String) := do
  if ← word "FETCH" then
    let _ ← expectOneOf ["FIRST", "NEXT"]
    let quantity ←
      match ← oneOf ["ROW", "ROWS"] with
      | some _ => pure ""
      | none =>
        let value ← literal
        let percent ← word "PERCENT"
        let _ ← expectOneOf ["ROW", "ROWS"]
        pure (" " ++ value.text ++ whenText percent " PERCENT")
    let ties ←
      if ← word "ONLY" then pure false
      else
        if ← words ["WITH", "TIES"] then pure true else expected "one of ONLY or WITH TIES" (← peek)
    return ["FETCH FIRST" ++ quantity ++ " ROWS " ++ (if ties then "WITH TIES" else "ONLY")]
  else return []

def textInParens : Reader String := do
  if ← symbol .openParen then
    let text ← literalString
    closeParen
    return "('" ++ text ++ "')"
  else return ""

/-- Words about the form of a document after commas; `wanted` are those that stand alone and `pairs` those of two words.
 -/
def documentWords (wanted : List String) (pairs : List (String × String)) : Nat → List String → Reader (List String)
  | 0, seen => return seen
  | fuel + 1, seen => do
    if ← symbol .comma then
      if ← word "ROOT" then
        openParen
        let name ← literalString
        closeParen
        documentWords wanted pairs fuel (seen ++ ["ROOT('" ++ name ++ "')"])
      else
        match ← oneOf wanted with
        | some found => documentWords wanted pairs fuel (seen ++ [found])
        | none =>
          match ← oneOf (pairs.map Prod.fst) with
          | some found =>
            let second := ((pairs.lookup found).getD "")
            expectWord second
            documentWords wanted pairs fuel (seen ++ [found ++ " " ++ second])
          | none => documentWords wanted pairs fuel seen
    else return seen

def orderedWords (order : List String) (words : List String) : String :=
  String.join (order.flatMap fun start =>
    ((words.filter fun w => Text.startsWith start.toList w.toList).getLast?.map (", " ++ ·)).toList)

def documentClause : Reader (Option String) := do
  if ← word "XML" then
    let form ←
      match ← oneOf ["RAW", "AUTO", "EXPLICIT", "PATH"] with
      | some form =>
        if form == "RAW" || form == "PATH" then pure (form ++ (← textInParens)) else pure form
      | none => fail "Expected FOR XML [RAW | AUTO | EXPLICIT | PATH ]"
    let words ← documentWords ["ELEMENTS", "TYPE"] [("BINARY", "BASE64")] ((← get).length + 1) []
    return some ("FOR XML " ++ form ++ orderedWords ["BINARY", "TYPE", "ROOT", "ELEMENTS"] words)
  else if ← word "JSON" then
    let form ←
      match ← oneOf ["AUTO", "PATH"] with
      | some form => pure form
      | none => fail "Expected FOR JSON [AUTO | PATH ]"
    let words ← documentWords ["INCLUDE_NULL_VALUES", "WITHOUT_ARRAY_WRAPPER"] [] ((← get).length + 1) []
    return some ("FOR JSON " ++ form ++ orderedWords ["ROOT", "INCLUDE_NULL_VALUES", "WITHOUT_ARRAY_WRAPPER"] words)
  else if ← word "BROWSE" then return some "FOR BROWSE"
  else return none

def forClauses : Nat → Reader (List String)
  | 0 => return []
  | fuel + 1 => do
    if ← word "FOR" then
      match ← documentClause with
      | some form => return [form]
      | none =>
        let kind ← expectOneOf ["UPDATE", "SHARE"]
        let name ← if ← word "OF" then (do return some (← objectName)) else pure none
        let wait ←
          if ← word "NOWAIT" then pure " NOWAIT"
          else
            if ← words ["SKIP", "LOCKED"] then pure " SKIP LOCKED" else pure ""
        return ("FOR " ++ kind ++ optionText " OF " (name.map pathText) ++ wait) :: (← forClauses fuel)
    else return []

/-! ### Rows stored and changed -/

def assignment : Reader String := do
  let target ←
    if ← symbol .openParen then
      let names ← commaSeparated objectName
      closeParen
      pure ("(" ++ Text.join ", " (names.map pathText) ++ ")")
    else pure (pathText (← objectName))
  expectSymbol .equal
  let value ← r.expr 0
  return target ++ " = " ++ value.text

def conflictWords : Reader String := do
  for action in ["REPLACE", "ROLLBACK", "ABORT", "FAIL", "IGNORE"] do
    if ← words ["OR", action] then return " OR " ++ action
  if ← word "REPLACE" then return " OR REPLACE" else return ""

def returningClause : Reader String := do
  if ← word "RETURNING" then
    let items ← commaSeparated (selectItem r)
    return " RETURNING " ++ Text.join ", " (itemTexts items)
  else return ""

def onInsert : Reader String := do
  if ← word "ON" then
    if ← word "CONFLICT" then
      let target ←
        if ← words ["ON", "CONSTRAINT"] then pure (" ON CONSTRAINT " ++ pathText (← objectName))
        else
          if ← peekSymbol .openParen then pure ("(" ++ identsText (← mandatoryColumns) ++ ")") else pure ""
      expectWord "DO"
      if ← word "NOTHING" then return " ON CONFLICT" ++ target ++ " DO NOTHING"
      else
        expectWords ["UPDATE", "SET"]
        let assignments ← commaSeparated (assignment r)
        let condition ← clauseOf r "WHERE"
        return " ON CONFLICT" ++ target ++ " DO UPDATE SET " ++ Text.join ", " assignments ++
          optionText " WHERE " (condition.map Expr.text)
    else
      expectWords ["DUPLICATE", "KEY", "UPDATE"]
      let assignments ← commaSeparated (assignment r)
      return " ON DUPLICATE KEY UPDATE " ++ Text.join ", " assignments
  else return ""

def peekQueryInParens : Reader Bool := do
  return isSymbol (← peek) .openParen && isWord (← peekAfter 1) "SELECT"

def fileFormat : Reader String := do
  match ← oneOf ["AVRO", "JSONFILE", "ORC", "PARQUET", "RCFILE", "SEQUENCEFILE", "TEXTFILE"] with
  | some format => return format
  | none => expected "fileformat" (← next)

def directoryInsertion (overwrite isLocal : Bool) : Reader String := do
  let path ← literalString
  let format ← if ← words ["STORED", "AS"] then (do return some (← fileFormat)) else pure none
  let query ← r.query
  return "INSERT" ++ whenText overwrite " OVERWRITE" ++ whenText isLocal " LOCAL" ++ " DIRECTORY '" ++ path ++ "'" ++
    optionText " STORED AS " format ++ " " ++ query.text

def insertionColumns : Reader String := do
  if ← peekQueryInParens then return ""
  else
    let columns ← optionalColumns
    let partition ←
      if ← word "PARTITION" then
        let keys ← parenthesized (commaSeparated (r.expr 0))
        pure ("PARTITION (" ++ Text.join ", " (exprTexts keys) ++ ") ")
      else pure ""
    return (if columns.isEmpty then "" else "(" ++ identsText columns ++ ") ") ++ partition

def insertion : Reader String := do
  let conflict ← conflictWords
  let overwrite ← word "OVERWRITE"
  let into ← word "INTO"
  let isLocal ← word "LOCAL"
  if ← word "DIRECTORY" then return ← directoryInsertion r overwrite isLocal
  let table ← word "TABLE"
  let name ← objectName
  let head :=
    if conflict.isEmpty then
      "INSERT" ++ whenText overwrite " OVERWRITE" ++ whenText into " INTO" ++ whenText table " TABLE" ++ " " ++
        pathText name ++ " "
    else "INSERT" ++ conflict ++ " INTO " ++ pathText name ++ " "
  let rows ←
    if ← words ["DEFAULT", "VALUES"] then pure "DEFAULT VALUES"
    else
      let columns ← insertionColumns r
      let query ← r.query
      pure (columns ++ query.text)
  let conflictAction ← onInsert r
  let returning ← returningClause r
  return head ++ rows ++ conflictAction ++ returning

def update : Reader String := do
  let conflict ← conflictWords
  let table ← tables r
  expectWord "SET"
  let assignments ← commaSeparated (assignment r)
  let source ← if ← word "FROM" then (do return some (← tables r)) else pure none
  let condition ← clauseOf r "WHERE"
  let returning ← returningClause r
  return "UPDATE" ++ conflict ++ " " ++ table.text ++ " SET " ++ Text.join ", " assignments ++
    optionText " FROM " (source.map Source.text) ++ optionText " WHERE " (condition.map Expr.text) ++ returning

def query : Reader Query := do
  let (withHead, entries) ← withClause r
  if ← word "INSERT" then return .mk withHead entries (.foreign (← insertion r)) [] none none "" []
  else if ← word "UPDATE" then return .mk withHead entries (.foreign (← update r)) [] none none "" []
  else
    let body ← body r
    let orderBy ← if ← words ["ORDER", "BY"] then commaSeparated (orderItem r) else pure []
    let (limit, offset, rows) ← limitAndOffset r 2 none none ""
    let fetch ← fetchClause
    let clauses ← forClauses ((← get).length + 1)
    return .mk withHead entries body orderBy limit offset rows (fetch ++ clauses)

end SqlLens.Grammar
