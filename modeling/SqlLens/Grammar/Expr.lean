import SqlLens.Grammar.DataType

/-!
Expressions.

An expression is a prefix followed by operators, read by binding strength: `operatorStrength` says how strongly the next
token binds to what stands before it, and an operand goes on while the next operator binds more strongly than its own.
Operators of equal strength associate to the left.
-/

namespace SqlLens.Grammar

/-! ### Binding strengths -/

def strengthCast : Nat := 50

def strengthProduct : Nat := 40

def strengthCompare : Nat := 20

def strengthLike : Nat := 19

def strengthNot : Nat := 15

def symbolStrength : Symbol → Nat
  | .equal | .doubleEqual | .less | .lessEqual | .notEqual | .greater | .greaterEqual | .spaceship
  | .tilde | .tildeStar | .bangTilde | .bangTildeStar | .doubleTilde | .doubleTildeStar | .bangDoubleTilde
  | .bangDoubleTildeStar => strengthCompare
  | .pipe => 21
  | .caret | .shiftLeft | .shiftRight => 22
  | .ampersand => 23
  | .plus | .minus => 30
  | .star | .slash | .percent | .concat => strengthProduct
  | .doubleColon | .bang | .openBracket | .overlap | .caretAt => strengthCast
  | .arrow | .longArrow | .atArrow | .arrowAt | .atQuestion | .atAt => 16
  | _ => 0

def wordStrength (word : String) (second third : Option Lexeme) : Nat :=
  match word with
  | "OR" => 5
  | "AND" => 10
  | "XOR" => 24
  | "AT" => if isWord second "TIME" && isWord third "ZONE" then 41 else 0
  | "NOT" =>
    if isWord second "IN" || isWord second "BETWEEN" then strengthCompare
    else if ["LIKE", "ILIKE", "RLIKE", "REGEXP", "SIMILAR"].any (isWord second) then strengthLike
    else 0
  | "IS" => 17
  | "IN" | "BETWEEN" | "OPERATOR" => strengthCompare
  | "LIKE" | "ILIKE" | "RLIKE" | "REGEXP" | "SIMILAR" => strengthLike
  | "DIV" => strengthProduct
  | _ => 0

def operatorStrength : Reader Nat := do
  match ← peek with
  | none => return 0
  | some lexeme =>
    match lexeme.token with
    | .symbol s => return symbolStrength s
    | .word _ _ =>
      if lexeme.capitals.isEmpty then return 0
      else return wordStrength lexeme.capitals (← peekAfter 1) (← peekAfter 2)
    | _ => return 0

def binaryOp? (lexeme : Lexeme) : Option BinaryOp :=
  match lexeme.token with
  | .symbol s =>
    match s with
    | .equal | .doubleEqual => some .equal
    | .notEqual => some .notEqual
    | .greater => some .greater
    | .greaterEqual => some .greaterEqual
    | .less => some .less
    | .lessEqual => some .lessEqual
    | .plus => some .add
    | .minus => some .subtract
    | .star => some .multiply
    | .slash => some .divide
    | .concat => some .concat
    | .spaceship | .percent | .pipe | .caret | .ampersand | .tilde | .tildeStar | .bangTilde | .bangTildeStar
    | .doubleTilde | .doubleTildeStar | .bangDoubleTilde | .bangDoubleTildeStar | .arrow | .longArrow | .atArrow
    | .arrowAt | .atQuestion | .atAt => some (.other s.written)
    | _ => none
  | .word _ none =>
    match lexeme.capitals with
    | "AND" => some .and
    | "OR" => some .or
    | "XOR" => some (.other "XOR")
    | _ => none
  | _ => none

def isComparison : BinaryOp → Bool
  | .greater | .less | .greaterEqual | .lessEqual | .equal | .notEqual => true
  | _ => false

def foreign (text : String) : Expr := .foreign .expression text

def peekQuery : Reader Bool := do
  return (← peekWord "SELECT") || (← peekWord "WITH")

/-! ### Wildcards and arguments -/

inductive Wild where
  | expr (value : Expr)
  | star (place : Nat)
  | qualified (name : List Ident) (place : Nat)

def qualifiedStar : Nat → List Ident → Reader (Option Wild)
  | 0, _ => return none
  | fuel + 1, parts => do
    if ← symbol .period then
      let lexeme ← next
      match lexeme with
      | some l =>
        match l.token with
        | .word value quote => qualifiedStar fuel (parts ++ [⟨value, quote, some l.span.start⟩])
        | .string .plain '\x27' false value => qualifiedStar fuel (parts ++ [⟨value, some '\x27', none⟩])
        | .symbol .star => return some (.qualified parts l.span.start)
        | _ => expected "an identifier or a '*' after '.'" lexeme
      | none => expected "an identifier or a '*' after '.'" lexeme
    else return none

variable (r : Rules)

def wild : Reader Wild := do
  let before ← get
  match ← next with
  | some l =>
    match l.token with
    | .symbol .star => return .star l.span.start
    | .word value quote => name before ⟨value, quote, some l.span.start⟩
    | .string .plain '\x27' false value => name before ⟨value, some '\x27', none⟩
    | _ => plain before
  | none => plain before
where
  plain (before : List Lexeme) : Reader Wild := do
    set before
    return .expr (← r.expr 0)
  name (before : List Lexeme) (first : Ident) : Reader Wild := do
    match ← qualifiedStar ((← get).length + 1) [first] with
    | some star => return star
    | none => plain before

def Wild.text : Wild → String
  | .expr value => value.text
  | .star _ => "*"
  | .qualified name _ => pathText name ++ ".*"

def namedArgument : Reader String := do
  let name ← identifier
  let operator ←
    if ← word "VALUE" then pure "VALUE"
    else
      if ← symbol .fatArrow then pure "=>" else expected "argument operator" (← peek)
  let value ← wild r
  return name.text ++ " " ++ operator ++ " " ++ value.text

def argument : Reader Expr := do
  match ← optionally (namedArgument r) with
  | some text => return .foreign .argument text
  | none =>
    match ← wild r with
    | .expr value => return value
    | .star _ => return .star
    | .qualified name _ => return .foreign .argument (pathText name ++ ".*")

/-! ### Orderings and windows -/

def orderItem : Reader OrderItem := do
  let value ← r.expr 0
  let ascending ← ascDesc
  let nullsFirst ←
    if ← words ["NULLS", "FIRST"] then pure (some true)
    else
      if ← words ["NULLS", "LAST"] then pure (some false) else pure none
  return .mk value ascending nullsFirst

def frameUnit : Reader String := do
  let lexeme ← next
  match lexeme with
  | some l =>
    if ["ROWS", "RANGE", "GROUPS"].any l.isWord then return l.capitals
    else expected "ROWS, RANGE, GROUPS" lexeme
  | none => expected "ROWS, RANGE, GROUPS" lexeme

def interval : Reader Expr := do
  let value ← r.expr 0
  let unit ←
    match ← peek with
    | some l =>
      if Keyword.intervalUnits.any l.isWord then datePart
      else failAt "INTERVAL requires a unit after the literal value" (some l)
    | none => failAt "INTERVAL requires a unit after the literal value" none
  if unit == "SECOND" then
    if ← symbol .openParen then
      let precision ← natural
      let fraction ← if ← symbol .comma then (do return some (← natural)) else pure none
      closeParen
      return .interval value unit (some precision) none fraction
    else return .interval value unit none none none
  else
    let precision ← optionalPrecision
    if ← word "TO" then
      let last ← datePart
      let fraction ← if last == "SECOND" then optionalPrecision else pure none
      return .interval value unit precision (some last) fraction
    else return .interval value unit precision none none

def frameBound : Reader String := do
  if ← words ["CURRENT", "ROW"] then return "CURRENT ROW"
  else
    let rows ←
      if ← word "UNBOUNDED" then pure "UNBOUNDED"
      else
        match (← peek).map Lexeme.token with
        | some (.string .plain '\x27' false _) => pure (← interval r).text
        | _ => pure (← r.expr 0).text
    if ← word "PRECEDING" then return rows ++ " PRECEDING"
    else if ← word "FOLLOWING" then return rows ++ " FOLLOWING"
    else expected "PRECEDING or FOLLOWING" (← peek)

def frame : Reader String := do
  let unit ← frameUnit
  if ← word "BETWEEN" then
    let low ← frameBound r
    expectWord "AND"
    let high ← frameBound r
    return unit ++ " BETWEEN " ++ low ++ " AND " ++ high
  else return unit ++ " " ++ (← frameBound r)

def windowSpec : Reader Window := do
  let base ←
    match ← peek with
    | some l => if isPlainWord l then (do return some (← identifier)) else pure none
    | none => pure none
  let partitionBy ← if ← words ["PARTITION", "BY"] then commaSeparated (r.expr 0) else pure []
  let orderBy ← if ← words ["ORDER", "BY"] then commaSeparated (orderItem r) else pure []
  if ← symbol .closeParen then return .spec base partitionBy orderBy none
  else
    let text ← frame r
    closeParen
    return .spec base partitionBy orderBy (some text)

def overWindow : Reader Window := do
  if ← symbol .openParen then windowSpec r else return .named (← identifier)

/-! ### Calls -/

def nullTreatment : Reader (Option String) := do
  match ← oneOf ["RESPECT", "IGNORE"] with
  | some treatment =>
    expectWord "NULLS"
    return some (treatment ++ " NULLS")
  | none => return none

def jsonNulls : Reader (Option String) := do
  if ← words ["ABSENT", "ON", "NULL"] then return some "ABSENT ON NULL"
  else if ← words ["NULL", "ON", "NULL"] then return some "NULL ON NULL"
  else return none

def onOverflow : Reader (Option String) := do
  if ← words ["ON", "OVERFLOW"] then
    if ← word "ERROR" then return some "ON OVERFLOW ERROR"
    expectWord "TRUNCATE"
    let lexeme ← peek
    let filler ←
      if isWord lexeme "WITH" || isWord lexeme "WITHOUT" then pure none
      else
        match lexeme.map Lexeme.token with
        | some (.string .plain '\x27' false _) | some (.string .escaped _ _ _) | some (.string .national _ _ _)
        | some (.string .hex _ _ _) => pure (some (← r.expr 0).text)
        | _ => expected "either filler, WITH, or WITHOUT in LISTAGG" lexeme
    let counted ← word "WITH"
    if !counted then
      if !(← word "WITHOUT") then
        let _ ← (expected "either WITH or WITHOUT in LISTAGG" (← peek) : Reader Unit)
    expectWord "COUNT"
    return some ("ON OVERFLOW TRUNCATE" ++ optionText " " filler ++ (if counted then " WITH" else " WITHOUT") ++
      " COUNT")
  else return none

def duplicates : Reader (Option Duplicates) := do
  let start ← peek
  let all ← word "ALL"
  let distinct ← word "DISTINCT"
  match all, distinct with
  | true, true => failAt "Cannot specify both ALL and DISTINCT" start
  | true, false => return some .all
  | false, true => return some .distinct
  | false, false => return none

/-- The arguments of a call after its opening parenthesis, the closing one included, with the clauses among them and
whether these say what to do with nulls. -/
def argumentList : Reader (Option Duplicates × List Expr × List String × Bool) := do
  let first ← jsonNulls
  if ← symbol .closeParen then return (none, [], first.toList, false)
  let unique ← duplicates
  let arguments ← commaSeparated (argument r)
  let nulls ← nullTreatment
  let order ←
    if ← words ["ORDER", "BY"] then do
      let items ← commaSeparated (orderItem r)
      pure (some ("ORDER BY " ++ Text.join ", " (orderTexts items)))
    else pure none
  let limit ← if ← word "LIMIT" then (do return some ("LIMIT " ++ (← r.expr 0).text)) else pure none
  let having ←
    if ← word "HAVING" then do
      let kind ← expectOneOf ["MIN", "MAX"]
      pure (some ("HAVING " ++ kind ++ " " ++ (← r.expr 0).text))
    else pure none
  let overflow ← onOverflow r
  let last ← jsonNulls
  closeParen
  return (unique, arguments,
    first.toList ++ nulls.toList ++ order.toList ++ limit.toList ++ having.toList ++ overflow.toList ++ last.toList,
    nulls.isSome)

def callOf (name : List Ident) (braces : Bool) : Reader Expr := do
  openParen
  let (unique, arguments, clauses, nullsSaid) ← argumentList r
  let withinGroup ←
    if ← words ["WITHIN", "GROUP"] then do
      openParen
      expectWords ["ORDER", "BY"]
      let items ← commaSeparated (orderItem r)
      closeParen
      pure (some ("WITHIN GROUP (ORDER BY " ++ Text.join ", " (orderTexts items) ++ ")"))
    else pure none
  let nulls ← if nullsSaid then pure none else nullTreatment
  let window ← if ← word "OVER" then (do return some (← overWindow r)) else pure none
  return .call name unique arguments ⟨braces, clauses, withinGroup, nulls⟩ window

/-! ### Words with a meaning of their own -/

def caseExpr : Reader Expr := do
  let operand ←
    if ← word "WHEN" then pure none
    else do
      let value ← r.expr 0
      expectWord "WHEN"
      pure (some value)
  let branch : Reader Branch := do
    let condition ← r.expr 0
    expectWord "THEN"
    return .mk condition (← r.expr 0)
  let branches ← repeated branch (word "WHEN") ((← get).length + 1)
  let otherwise ← if ← word "ELSE" then (do return some (← r.expr 0)) else pure none
  expectWord "END"
  return .case operand branches otherwise

def castExpr (name : String) : Reader Expr := do
  openParen
  let operand ← r.expr 0
  expectWord "AS"
  let type ← dataType
  let format ←
    if ← word "FORMAT" then do
      let value ← literal
      let zone ← if ← words ["AT", "TIME", "ZONE"] then (do return some (← literal)) else pure none
      pure (some (value.text ++ optionText " AT TIME ZONE " (zone.map Literal.text)))
    else pure none
  closeParen
  let text := name ++ "(" ++ operand.text ++ " AS " ++ type.text ++ optionText " FORMAT " format ++ ")"
  if format.isSome then return foreign text
  else
    match name with
    | "CAST" => return .cast false operand type.text
    | "SAFE_CAST" => return .cast true operand type.text
    | _ => return .foreign .cast text

def convertExpr : Reader Expr := do
  openParen
  let operand ← r.expr 0
  if ← word "USING" then
    let charset ← objectName
    closeParen
    return foreign ("CONVERT(" ++ operand.text ++ " USING " ++ pathText charset ++ ")")
  expectSymbol .comma
  let type ← dataType
  let charset ← if ← words ["CHARACTER", "SET"] then (do return some (← objectName)) else pure none
  closeParen
  return foreign ("CONVERT(" ++ operand.text ++ ", " ++ type.text ++
    optionText " CHARACTER SET " (charset.map pathText) ++ ")")

def queryInParens : Reader Query := parenthesized r.query

def extractExpr : Reader Expr := do
  openParen
  let part ← datePart
  if !(← word "FROM") then
    let _ ← symbol .comma
    fail "Expected 'FROM' or ','"
  else
    let operand ← r.expr 0
    closeParen
    return .extract part operand

def roundingExpr (name : String) : Reader Expr := do
  openParen
  let operand ← r.expr 0
  if ← word "TO" then
    let part ← datePart
    closeParen
    return .foreign (.roundingTo name) (name ++ "(" ++ operand.text ++ " TO " ++ part ++ ")")
  else if ← symbol .comma then
    match ← literal with
    | .number digits long =>
      closeParen
      return .rounding name operand (some (.number digits long))
    | _ => fail "Scale field can only be of number type"
  else
    closeParen
    return .rounding name operand none

def positionExpr (name : Ident) : Reader Expr := do
  let special : Reader Expr := do
    openParen
    let part ← r.expr strengthCompare
    expectWord "IN"
    let whole ← r.expr 0
    closeParen
    return foreign ("POSITION(" ++ part.text ++ " IN " ++ whole.text ++ ")")
  match ← optionally special with
  | some value => return value
  | none => callOf r [name] false

def substringExpr : Reader Expr := do
  openParen
  let operand ← r.expr 0
  let commas ← symbol .comma
  let start ←
    if commas then (do return some (← r.expr 0))
    else
      if ← word "FROM" then (do return some (← r.expr 0)) else pure none
  let length ←
    if ← word "FOR" then (do return some (← r.expr 0))
    else
      if ← symbol .comma then (do return some (← r.expr 0)) else pure none
  closeParen
  return .substring operand start length commas

def overlayExpr : Reader Expr := do
  openParen
  let operand ← r.expr 0
  expectWord "PLACING"
  let what ← r.expr 0
  expectWord "FROM"
  let start ← r.expr 0
  let length ← if ← word "FOR" then (do return some (← r.expr 0)) else pure none
  closeParen
  return foreign ("OVERLAY(" ++ operand.text ++ " PLACING " ++ what.text ++ " FROM " ++ start.text ++
    optionText " FOR " (length.map Expr.text) ++ ")")

def trimExpr : Reader Expr := do
  openParen
  let side ← oneOf ["BOTH", "LEADING", "TRAILING"]
  let first ← r.expr 0
  if ← word "FROM" then
    let operand ← r.expr 0
    closeParen
    return foreign ("TRIM(" ++ optionText "" (side.map (· ++ " ")) ++ first.text ++ " FROM " ++ operand.text ++ ")")
  else if ← symbol .comma then
    let characters ← commaSeparated (r.expr 0)
    closeParen
    return .trim first characters
  else
    closeParen
    match side with
    | some side => return foreign ("TRIM(" ++ side ++ " " ++ first.text ++ ")")
    | none => return .trim first []

def arrayItems (named : Bool) : Reader Expr := do
  let items ← if ← peekSymbol .closeBracket then pure [] else commaSeparated (r.expr 0)
  expectSymbol .closeBracket
  return .array named items

def notExpr : Reader Expr := do
  if ← word "EXISTS" then return .exist true (← queryInParens r)
  else return .unary .not (← r.expr strengthNot)

def structExpr (lexeme : Lexeme) : Reader Expr := do
  let (fields, closed) ← structType (some lexeme) (do openType ((← get).length + 1))
  if closed then failAt "unmatched > in STRUCT literal" (← peek)
  else
    let value : Reader String := do
      let value ← r.expr 0
      let as ← peek
      if ← word "AS" then
        if fields.isEmpty then return value.text ++ " AS " ++ (← identifier).text
        else failAt "Typed syntax does not allow AS" as
      else return value.text
    let values ← parenthesized (commaSeparated value)
    return foreign (structText fields ++ "(" ++ Text.join ", " values ++ ")")

def timeFunction (name : Ident) : Reader Expr := do
  if ← symbol .openParen then
    let (unique, arguments, clauses, _) ← argumentList r
    return .call [name] unique arguments ⟨false, clauses, none, none⟩ none
  else return .constant [name]

/-- The expression a word opens by its own meaning, if it has one here. The word has been taken. -/
def specialForm (lexeme : Lexeme) (name : Ident) : Reader (Option Expr) := do
  match lexeme.capitals with
  | "TRUE" => return some (.literal (.bool true))
  | "FALSE" => return some (.literal (.bool false))
  | "NULL" => return some (.literal .null)
  | "CURRENT_TIMESTAMP" | "CURRENT_TIME" | "CURRENT_DATE" | "LOCALTIME" | "LOCALTIMESTAMP" =>
    return some (← timeFunction r name)
  | "CASE" => return some (← caseExpr r)
  | "CONVERT" => return some (← convertExpr r)
  | "CAST" | "TRY_CAST" | "SAFE_CAST" => return some (← castExpr r lexeme.capitals)
  | "EXISTS" => return some (.exist false (← queryInParens r))
  | "EXTRACT" => return some (← extractExpr r)
  | "CEIL" | "FLOOR" => return some (← roundingExpr r lexeme.capitals)
  | "POSITION" => if ← peekSymbol .openParen then return some (← positionExpr r name) else return none
  | "SUBSTRING" => return some (← substringExpr r)
  | "OVERLAY" => return some (← overlayExpr r)
  | "TRIM" => return some (← trimExpr r)
  | "INTERVAL" => return some (← interval r)
  | "ARRAY" =>
    if ← symbol .openBracket then return some (← arrayItems r true)
    else if ← peekSymbol .openParen then return some (.callQuery [name] (← queryInParens r))
    else return none
  | "NOT" => return some (← notExpr r)
  | "STRUCT" => return some (← structExpr r lexeme)
  | _ => return none

def nameParts : Nat → Reader (List Ident)
  | 0 => return []
  | fuel + 1 => do
    if ← symbol .period then
      let lexeme ← next
      match lexeme with
      | some l =>
        match l.token with
        | .word value quote => return ⟨value, quote, some l.span.start⟩ :: (← nameParts fuel)
        | .string .plain '\x27' false value => return ⟨value, some '\x27', none⟩ :: (← nameParts fuel)
        | .symbol .star => expected "an identifier after '.'" lexeme
        | _ => expected "an identifier or a '*' after '.'" lexeme
      | none => expected "an identifier or a '*' after '.'" lexeme
    else return []

def nameOrCall (name : Ident) : Reader Expr := do
  let lexeme ← peek
  match lexeme.map Lexeme.token with
  | some (.symbol .openParen) | some (.symbol .period) =>
    let rest ← nameParts ((← get).length + 1)
    if ← peekSymbol .openParen then callOf r (name :: rest) false
    else return .name (name :: rest)
  | some (.string kind quote false value) =>
    if (kind == .plain || kind == .hex) && name.value.startsWith "_" then
      let _ ← next
      return foreign (name.value ++ " " ++ (Literal.string kind quote false value).text)
    else return .name [name]
  | _ => return .name [name]

/-- What starts with a word: its special form, or a name or call when that form fails. The word has been taken. The
result tells whether a collation may follow, which it may not behind a name whose special form failed. -/
def wordExpr (lexeme : Lexeme) (name : Ident) : Reader (Expr × Bool) := do
  match ← outcome (attempt (specialForm r lexeme name)) with
  | .ok (some value) => return (value, true)
  | .ok none => return (← nameOrCall r name, true)
  | .error failure =>
    if Keyword.reservedForIdentifier.any lexeme.isWord then throw failure
    else
      match ← outcome (attempt (nameOrCall r name)) with
      | .ok value => return (value, false)
      | .error _ => throw failure

def parenExpr : Reader Expr := do
  let inner ←
    if ← peekQuery then pure (Expr.subquery (← r.query))
    else
      match ← commaSeparated (r.expr 0) with
      | [value] => pure (Expr.nested value)
      | values => pure (foreign ("(" ++ Text.join ", " (exprTexts values) ++ ")"))
  closeParen
  if ← symbol .period then
    let lexeme ← next
    match lexeme.bind identOf with
    | some name => return .field inner name
    | none => failAt ("Expected identifier, found: " ++ found lexeme) lexeme
  else return inner

def typedLiteral : Reader Expr := do
  let start ← peek
  let type ← dataType
  match type.kind with
  | .interval => interval r
  | .custom => failAt "dummy" start
  | .builtin => return .typed type.text (← literalString)

def bracedCall : Reader Expr := do
  expectWord "FN"
  let name ← objectName
  callOf r name true

def symbolExpr (lexeme : Lexeme) : Reader Expr := do
  match lexeme.token with
  | .symbol .openBracket => arrayItems r false
  | .symbol .minus => return .unary .minus (← r.expr strengthProduct)
  | .symbol .plus => return .unary .plus (← r.expr strengthProduct)
  | .symbol .openParen => parenExpr r
  | .symbol .openBrace =>
    match ← optionally (bracedCall r) with
    | some value =>
      expectSymbol .closeBrace
      return value
    | none => expected "an expression" (some lexeme)
  | .symbol .colon | .symbol .atSign =>
    modify (lexeme :: ·)
    return .literal (← literal)
  | .number digits long => return .literal (.number digits long)
  | .string .escaped _ _ _ => expected "an expression" (some lexeme)
  | .string kind quote triple value => return .literal (.string kind quote triple value)
  | .dollar tag value => return .literal (.dollar tag value)
  | .placeholder name => return .literal (.parameter name)
  | _ => expected "an expression" (some lexeme)

def primary : Reader Expr := do
  match ← optionally (typedLiteral r) with
  | some value => return value
  | none =>
    let lexeme ← next
    match lexeme with
    | none => expected "an expression" none
    | some l =>
      let (value, collates) ← match l.token with
        | .word value quote => wordExpr r l ⟨value, quote, some l.span.start⟩
        | _ => (·, true) <$> symbolExpr r l
      if !collates then return value
      else if ← word "COLLATE" then
        return foreign (value.text ++ " COLLATE " ++ pathText (← objectName))
      else return value

/-! ### Operators -/

def inExpr (operand : Expr) (negated : Bool) : Reader Expr := do
  if ← word "UNNEST" then
    openParen
    let array ← r.expr 0
    closeParen
    return .inUnnest operand negated array
  openParen
  let value ←
    if ← peekQuery then (do return .inQuery operand negated (← r.query))
    else (do return .inList operand negated (← commaSeparated (r.expr 0)))
  closeParen
  return value

def betweenExpr (operand : Expr) (negated : Bool) : Reader Expr := do
  let low ← r.expr strengthCompare
  expectWord "AND"
  let high ← r.expr strengthCompare
  return .between operand negated low high

def escapeCharacter : Reader (Option String) := do
  if ← word "ESCAPE" then return some (← literalString) else return none

def patternExpr (operand : Expr) (negated : Bool) (name : String) : Reader Expr := do
  let any ← if name == "SIMILAR TO" then pure false else word "ANY"
  let pattern ← r.expr strengthLike
  let escape ← escapeCharacter
  if name == "LIKE" && !any && escape.isNone then return .like operand negated pattern
  else
    let anyText := if name == "ILIKE" && escape.isSome then "ANY" else "ANY "
    return foreign (operand.text ++ whenText negated " NOT" ++ " " ++ name ++ " " ++ whenText any anyText ++
      pattern.text ++ optionText " ESCAPE '" (escape.map (· ++ "'")))

def isExpr (operand : Expr) : Reader Expr := do
  if ← word "NULL" then return .isNull operand false
  else if ← words ["NOT", "NULL"] then return .isNull operand true
  else if ← word "TRUE" then return test "TRUE"
  else if ← words ["NOT", "TRUE"] then return test "NOT TRUE"
  else if ← word "FALSE" then return test "FALSE"
  else if ← words ["NOT", "FALSE"] then return test "NOT FALSE"
  else if ← word "UNKNOWN" then return test "UNKNOWN"
  else if ← words ["NOT", "UNKNOWN"] then return test "NOT UNKNOWN"
  else if ← words ["DISTINCT", "FROM"] then return test ("DISTINCT FROM " ++ (← r.expr 0).text)
  else if ← words ["NOT", "DISTINCT", "FROM"] then return test ("NOT DISTINCT FROM " ++ (← r.expr 0).text)
  else expected "[NOT] NULL or TRUE|FALSE or [NOT] DISTINCT FROM after IS" (← peek)
where
  test (words : String) : Expr := foreign (operand.text ++ " IS " ++ words)

def testExpr (operand : Expr) : Reader Expr := do
  let negated ← word "NOT"
  let regexp ← word "REGEXP"
  let rlike ← word "RLIKE"
  if regexp || rlike then
    let pattern ← r.expr strengthLike
    return foreign (operand.text ++ whenText negated " NOT" ++ (if regexp then " REGEXP " else " RLIKE ") ++
      pattern.text)
  else if ← word "IN" then inExpr r operand negated
  else if ← word "BETWEEN" then betweenExpr r operand negated
  else if ← word "LIKE" then patternExpr r operand negated "LIKE"
  else if ← word "ILIKE" then patternExpr r operand negated "ILIKE"
  else if ← words ["SIMILAR", "TO"] then patternExpr r operand negated "SIMILAR TO"
  else expected "IN or BETWEEN after NOT" (← peek)

def quantified (left : Expr) (op : BinaryOp) (operator : Option Lexeme) (strength : Nat)
    (quantifier : String) : Reader Expr := do
  let open_ ← expectedSymbol .openParen
  let isQuery ← peekQuery
  let right ←
    if isQuery then do
      modify (open_.toList ++ ·)
      r.expr strength
    else do
      let value ← r.expr strength
      closeParen
      pure value
  if !isComparison op then
    failAt ("Expected one of [=, >, <, =>, =<, !=] as comparison operator, found: " ++ op.text) operator
  else
    let inner := match right with
      | .subquery _ => right.text
      | _ => "(" ++ right.text ++ ")"
    return foreign (left.text ++ " " ++ op.text ++ " " ++ quantifier ++ inner)

def symbolName : Symbol → String
  | .shiftLeft => "ShiftLeft"
  | .shiftRight => "ShiftRight"
  | .overlap => "Overlap"
  | .caretAt => "CaretAt"
  | .bang => "ExclamationMark"
  | s => s.written

def accessKeys : Nat → Expr → Reader Expr
  | 0, base => return base
  | fuel + 1, base => do
    if ← symbol .openBracket then
      let key ← r.expr 0
      expectSymbol .closeBracket
      accessKeys fuel (.index base key)
    else if ← symbol .period then
      let key ← r.expr 0
      accessKeys fuel (.dot base key)
    else return base

def operation (left : Expr) (strength : Nat) : Reader Expr := do
  let lexeme ← next
  match lexeme with
  | none => return left
  | some l =>
    match binaryOp? l with
    | some op =>
      match ← oneOf ["ANY", "ALL", "SOME"] with
      | some quantifier => quantified r left op lexeme strength quantifier
      | none => return .binary left op (← r.expr strength)
    | none =>
      match l.token with
      | .symbol .doubleColon =>
        let type ← dataType
        return .foreign .cast (left.text ++ "::" ++ type.text)
      | .symbol .openBracket =>
        let key ← r.expr 0
        expectSymbol .closeBracket
        accessKeys r ((← get).length + 1) (.index left key)
      | .symbol s => failAt ("No infix parser for token " ++ symbolName s) lexeme
      | _ =>
        match l.capitals with
        | "IS" => isExpr r left
        | "AT" =>
          expectWords ["TIME", "ZONE"]
          return foreign (left.text ++ " AT TIME ZONE " ++ (← r.expr strength).text)
        | "NOT" | "IN" | "BETWEEN" | "LIKE" | "ILIKE" | "SIMILAR" | "REGEXP" | "RLIKE" =>
          modify (l :: ·)
          testExpr r left
        | capitals =>
          failAt ("No infix parser for token Word(Word \x7b value: " ++ Text.escaped l.token.written ++
            ", quote_style: None, keyword: " ++ capitals ++ " \x7d)") lexeme

/-- Goes on with operators that bind more strongly than `strength`. Fuel bounds their number. -/
def operations (strength : Nat) : Nat → Expr → Reader Expr
  | 0, left => return left
  | fuel + 1, left => do
    let next ← operatorStrength
    if next ≤ strength then return left
    else operations strength fuel (← operation r left next)

def expression (strength : Nat) : Reader Expr := do
  let first ← primary r
  operations r strength ((← get).length + 1) first

end SqlLens.Grammar
