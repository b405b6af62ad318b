import SqlLens.Query.Text
import SqlLens.Surface.Cursor

/-!
Building the surface tree of a query.

The tree follows the query as the grammar read it; the cursor finds the tokens of each node on the way, from left to
right, and the nodes are put into the store children first. A construct outside the analysed language ends the building,
and the token the cursor rests on then tells where.
-/

namespace SqlLens.Surface

namespace Build

def excerpt (text : String) : String :=
  let cs := text.toList
  if cs.length ≤ 40 then "\x60" ++ text ++ "\x60" else "\x60" ++ String.ofList (cs.take 40) ++ "...\x60"

def isLiteral (value : Literal) (shape : Shape) : Bool :=
  match value, shape with
  | .number digits _, .number found => digits == found
  | .string .plain _ false text, .string found => text == found
  | .bool true, shape => shape.isKeyword "TRUE"
  | .bool false, shape => shape.isKeyword "FALSE"
  | .null, shape => shape.isKeyword "NULL"
  | value, .other text => text == value.text
  | _, _ => false

def constant? : Literal → Option Constant
  | .number digits _ =>
    if digits.toList.any fun c => c == '.' || c == 'e' || c == 'E' then some (.float digits) else some (.int digits)
  | .string .plain _ _ value | .string .raw _ _ value => some (.string value)
  | .string .bytes _ _ value => some (.bytes value)
  | .bool value => some (.bool value)
  | .null => some .null
  | .parameter name => some (.parameter name)
  | _ => none

variable {m : Type → Type} {ν : Type} [Monad m] [NodeStore m ν]

def literal (value : Literal) : BuildT m ν := do
  match constant? value with
  | some constant => leaf (.literal constant) (← takeSpan (isLiteral value))
  | none => unsupported ("Literal " ++ value.text)

def tableAlias (aliasName : TableAlias) : BuildT m ν := do
  if aliasName.columns.isEmpty then Build.aliasName aliasName.name
  else unsupported ("Column aliases in " ++ excerpt aliasName.text)

def tableAlias? : Option TableAlias → BuildT m (List ν)
  | some aliasName => return [← tableAlias aliasName]
  | none => return []

def star (star : Star) : BuildT m ν := do
  if star.replacing.isSome then unsupported "SELECT * modifier"
  else
    let symbol ← kept star.place
    let excluded ← star.except.mapM identifier
    let close ← if excluded.isEmpty then pure none else takeSpan (· == .mark .closeParen)
    covering .star excluded [symbol, close]

def openKeywordCall (keyword : String) : BuildT m (ν × Option Nat) := do
  let index ← take (·.isKeyword keyword)
  let span ← spanOf index
  let name ← node .path span [← leaf (.identifier keyword) span]
  let parens := index.bind (← read).parensAfter?
  match parens with
  | some (start, stop) =>
    jumpTo (start + 1)
    return (name, some stop)
  | none => return (name, none)

def closeKeywordCall (name : ν) (stop : Option Nat) (arguments : List ν) : BuildT m ν := do
  covering (.functionCall false) (name :: arguments) [← close stop]

def direction (ascending nullsFirst : Option Bool) : Build (List (Option Span)) := do
  let direction ←
    match ascending with
    | some true => takeWord "ASC"
    | some false => takeWord "DESC"
    | none => pure none
  let nulls ←
    match nullsFirst with
    | some first =>
      let _ ← takeWord "NULLS"
      takeWord (if first then "FIRST" else "LAST")
    | none => pure none
  return [direction, nulls]

def joinKind? : JoinOp → Option JoinKind
  | .inner => some .inner
  | .left => some .left
  | .right => some .right
  | .full => some .full
  | .cross => some .cross
  | .other _ => none

def hasTables : Source → Bool
  | .nothing => false
  | _ => true

def part (present : Bool) (keyword : String) (kind : Kind) (items : BuildT m (List ν)) : BuildT m (List ν) := do
  if present then
    let keyword ← takeWord keyword
    return [← covering kind (← items) [keyword]]
  else return []

def bounds (hasLimit hasOffset : Bool) (limit offset : BuildT m (List ν)) : BuildT m (List ν) := do
  if hasLimit then
    let keyword ← takeWord "LIMIT"
    let count ← limit
    let offset ←
      if hasOffset then do
        let _ ← takeWord "OFFSET"
        offset
      else pure []
    return [← covering .limit (count ++ offset) [keyword]]
  else if hasOffset then unsupported "OFFSET without LIMIT"
  else return []

def previous : Option Nat → Option Nat
  | some (before + 1) => some before
  | _ => none

/-- The first and the last token of the type in a cast, given the word before it and the parentheses of the cast. -/
def typeTokens (as : Option Nat) (parens : Option (Nat × Nat)) : Option Nat × Option Nat :=
  match as, parens with
  | some as, some (_, stop) => if as + 1 < stop then (some (as + 1), some (stop - 1)) else (none, none)
  | _, _ => (none, none)

def fieldName? : Expr → Option Ident
  | .name [name] => some name
  | _ => none

def isExpression : Expr → Bool
  | .star | .foreign .argument _ => false
  | _ => true

def position? : Expr → Option ArrayPosition
  | .call [name] _ [index] _ _ => if isExpression index then ArrayPosition.ofName? name.value else none
  | _ => none

mutual
def query : Query → BuildT m ν
  | .mk withHead entries body orderBy limit offset offsetRows extra => do
    if !extra.isEmpty then
      unsupported ("Query clause in " ++
        excerpt (Query.mk withHead entries body orderBy limit offset offsetRows extra).text)
    else
      let common ←
        match withHead with
        | some head => do
          if head.recursive then unsupported "WITH RECURSIVE"
          else
            let keyword ← kept head.place
            let entries ← ctes entries
            pure [← covering .withClause entries [keyword]]
        | none => pure []
      let rows ← queryBody body
      let order ← part (!orderBy.isEmpty) "ORDER" .orderBy (orderItems orderBy)
      let bounds ← bounds limit.isSome offset.isSome (expr? limit) (expr? offset)
      covering .query (common ++ rows :: order ++ bounds) []

def ctes : List Cte → BuildT m (List ν)
  | [] => return []
  | .mk aliasName body source place :: rest => do
    if !aliasName.columns.isEmpty || source.isSome then unsupported ("WITH entry " ++ excerpt aliasName.text)
    else
      let name ← identSpan aliasName.name
      let rows ← query body
      let close ← kept place
      let entry ← covering (.withEntry aliasName.name.value) [rows] [name, close]
      return entry :: (← ctes rest)

def queryBody : Body → BuildT m ν
  | .select head items source selection groupBy having windows qualify => do
    if head.top.isSome || head.into.isSome || !head.lateralViews.isEmpty || !head.sorting.isEmpty then
      unsupported ("SELECT clause in " ++
        excerpt (Body.select head items source selection groupBy having windows qualify).text)
    else if head.valueTable.isSome then unsupported "SELECT AS STRUCT / SELECT AS VALUE"
    else
      let keyword ← kept head.place
      let distinct ←
        match head.distinct with
        | .no => pure false
        | .yes => do
          let _ ← takeWord "DISTINCT"
          pure true
        | .on _ => unsupported "SELECT DISTINCT ON"
      let columns ← selectColumns items
      let list ← covering .selectList columns []
      let source ← part (hasTables source) "FROM" .fromClause (do return [← fromItem source])
      let selection ← part selection.isSome "WHERE" .whereClause (expr? selection)
      let groups ←
        if head.groupAll then unsupported "GROUP BY modifier"
        else part (!groupBy.isEmpty) "GROUP" .groupBy (exprs groupBy)
      let having ← part having.isSome "HAVING" .having (expr? having)
      let definitions := part (!windows.isEmpty) "WINDOW" .windowClause (namedWindows windows)
      let filter := part qualify.isSome "QUALIFY" .qualify (expr? qualify)
      let last ←
        if head.windowFirst then do
          let windows ← definitions
          pure (windows ++ (← filter))
        else do
          let filter ← filter
          pure (filter ++ (← definitions))
      covering (.select distinct) (list :: source ++ selection ++ groups ++ having ++ last) [keyword]
  | .query body => query body
  | .setOperation op quantifier left right => do
    match quantifier with
    | .all | .distinct =>
      let left ← queryBody left
      let right ← queryBody right
      covering (.setOperation op (quantifier == .distinct)) [left, right] []
    | .none => unsupported (op.keyword ++ " without ALL or DISTINCT")
    | other => unsupported (op.keyword ++ " " ++ other.text)
  | .foreign text => unsupported ("Query body " ++ excerpt text)

def namedWindows : List NamedWindow → BuildT m (List ν)
  | [] => return []
  | .mk name definition :: rest => do
    let nameSpan ← identSpan name
    let _ ← takeWord "AS"
    let spec ← window none definition
    let definition ← covering (.namedWindow name.value) [spec] [nameSpan]
    return definition :: (← namedWindows rest)

def window (keyword : Option Span) : Window → BuildT m ν
  | .named name => do
    let span ← identSpan name
    covering (.windowSpec (some name.value)) [] [keyword, span]
  | .spec base partitionBy orderBy _ => do
    let start ← take (· == .mark .openParen)
    let stop ← closerOf start
    let base ←
      match base with
      | some name => do
        let _ ← identSpan name
        pure (some name.value)
      | none => pure none
    let partition ← part (!partitionBy.isEmpty) "PARTITION" .partitionBy (exprs partitionBy)
    let order ← part (!orderBy.isEmpty) "ORDER" .orderBy (orderItems orderBy)
    let start ← spanOf start
    let stop ← close stop
    covering (.windowSpec base) (partition ++ order) [keyword, start, stop]

def selectColumns : List SelectItem → BuildT m (List ν)
  | [] => return []
  | .expr value name :: rest => do
    let value ← expr value
    let aliasName ←
      match name with
      | some name => do pure [← Build.aliasName name]
      | none => pure []
    let column ← covering .selectColumn (value :: aliasName) []
    return column :: (← selectColumns rest)
  | .star [] all :: rest => do
    let all ← star all
    let column ← covering .selectColumn [all] []
    return column :: (← selectColumns rest)
  | .star (first :: more) all :: rest => do
    let name ← path (first :: more)
    let all ← star all
    let column ← covering .selectColumn [← covering .dotStar [name, all] []] []
    return column :: (← selectColumns rest)

def fromItem : Source → BuildT m ν
  | .nothing => unsupported "Empty FROM clause"
  | .table name aliasName notes => do
    if notes.arguments.isSome || notes.hints.isSome then
      unsupported ("Table function " ++ excerpt (pathText name.parts))
    else
      let name ← path name.parts
      covering .tablePath (name :: (← tableAlias? aliasName)) []
  | .derived lateral body aliasName => do
    if lateral then unsupported "LATERAL subquery"
    else
      let rows ← query body
      let parens ← enclosing (← spanOfNode rows)
      covering .tableSubquery (rows :: (← tableAlias? aliasName)) [parens]
  | .unnest arrays ordinality aliasName offset offsetAlias => do
    match arrays with
    | [array] =>
      if ordinality then unsupported "UNNEST ... WITH ORDINALITY"
      else
        let index ← take (·.isKeyword "UNNEST")
        let parens := index.bind (← read).parensAfter?
        let array ← expr array
        let stop ← close (parens.map Prod.snd)
        let aliasName ← tableAlias? aliasName
        let numbering ←
          if offset then do
            let «with» ← takeWord "WITH"
            let word ← takeWord "OFFSET"
            let name ← offsetAlias.toList.mapM Build.aliasName
            pure [← covering .withOffset name [«with», word]]
          else pure []
        covering .unnest (array :: aliasName ++ numbering) [← spanOf index, stop]
    | [] | _ :: _ :: _ => unsupported "UNNEST of several arrays"
  | .nested joined none => fromItem joined
  | .nested joined (some aliasName) =>
      unsupported ("FROM item " ++ excerpt (Source.nested joined (some aliasName)).text)
  | .join left isGlobal op right words condition => do
    let left ← fromItem left
    match joinKind? op with
    | some kind =>
      let right ← fromItem right
      match words with
      | .none =>
        let condition ← part condition.isSome "ON" .onClause (expr? condition)
        covering (.join kind) (left :: right :: condition) []
      | _ => unsupported "JOIN ... USING / NATURAL JOIN"
    | none =>
      unsupported ("Join " ++ excerpt (Source.text.joinText isGlobal op right.text words (exprText? condition)))
  | .comma left right => do
    let left ← fromItem left
    let right ← fromItem right
    covering (.join .comma) [left, right] []
  | .foreign text => unsupported ("FROM item " ++ excerpt text)

def orderItems : List OrderItem → BuildT m (List ν)
  | [] => return []
  | .mk value ascending nullsFirst :: rest => do
    let value ← expr value
    let words ← direction ascending nullsFirst
    let item ← covering (.orderingItem (ascending == some false)) [value] words
    return item :: (← orderItems rest)

def exprs : List Expr → BuildT m (List ν)
  | [] => return []
  | value :: rest => do
    let value ← expr value
    return value :: (← exprs rest)

def expr? : Option Expr → BuildT m (List ν)
  | none => return []
  | some value => return [← expr value]

def overClause : Option Window → BuildT m (List ν)
  | none => return []
  | some definition => do
    let keyword ← takeWord "OVER"
    return [← window keyword definition]

def branches : List Branch → BuildT m (List ν)
  | [] => return []
  | .mk condition result :: rest => do
    let keyword ← takeWord "WHEN"
    let condition ← expr condition
    let _ ← takeWord "THEN"
    let result ← expr result
    let branch ← covering .whenClause [condition, result] [keyword]
    return branch :: (← branches rest)

def soleArgument : Expr → BuildT m ν
  | .call _ _ [index] _ _ => expr index
  | other => unsupported ("Expression " ++ excerpt other.text)

def expr : Expr → BuildT m ν
  | .name parts => path parts
  | .literal value => literal value
  | .nested inner => expr inner
  | .typed type value => do
    let index ← take (· == .string value)
    let value ← leaf (.literal (.string value)) (← spanOf index)
    let typeName ← leaf (.typeName type) (← spanOf (previous index))
    covering (.cast false) [value, typeName] []
  | .unary .plus operand => expr operand
  | .unary .not operand => do
    let floor := (← get).place
    let operand ← expr operand
    let tokens ← read
    let symbol := (← spanOfNode operand).bind fun span => tokens.before? floor span.start (·.isKeyword "NOT")
    covering (.unary .not) [operand] [symbol]
  | .unary .minus operand => do
    let floor := (← get).place
    let operand ← expr operand
    let tokens ← read
    let symbol := (← spanOfNode operand).bind fun span => tokens.before? floor span.start (· == .mark .minus)
    covering (.unary .minus) [operand] [symbol]
  | .binary left op right => do
    match Operator.of? op with
    | some operator =>
      let left ← expr left
      let right ← expr right
      covering (.binary operator) [left, right] []
    | none => unsupported ("Operator " ++ op.text)
  | .like operand negated pattern => do
    let operand ← expr operand
    let pattern ← expr pattern
    covering (.binary (if negated then .notLike else .like)) [operand, pattern] []
  | .isNull operand negated => do
    let operand ← expr operand
    covering (.isNull negated) [operand] [← takeWord "NULL"]
  | .inList operand negated items => do
    let operand ← expr operand
    let items ← exprs items
    covering (.inList negated) (operand :: items) [← takeSpan (· == .mark .closeParen)]
  | .inQuery operand negated body => do
    let operand ← expr operand
    let rows ← query body
    covering (.subquery (.within negated)) [operand, rows] [← enclosing (← spanOfNode rows)]
  | .inUnnest operand negated array => do
    let operand ← expr operand
    let array ← expr array
    covering (.inUnnest negated) [operand, array] [← enclosing (← spanOfNode array)]
  | .between operand negated low high => do
    let operand ← expr operand
    let low ← expr low
    let high ← expr high
    covering (.between negated) [operand, low, high] []
  | .cast safe operand type => do
    let index ← take fun shape => shape.isKeyword "CAST" || shape.isKeyword "SAFE_CAST"
    let parens := index.bind (← read).parensAfter?
    match parens with
    | some (start, _) => jumpTo (start + 1)
    | none => pure ()
    let operand ← expr operand
    let as ← take (·.isKeyword "AS")
    let first ← spanOf (typeTokens as parens).1
    let last ← spanOf (typeTokens as parens).2
    let typeName ← leaf (.typeName type) (Span.coverAll (first.toList ++ last.toList))
    let keyword ← spanOf index
    let stop ← close (parens.map Prod.snd)
    covering (.cast safe) [operand, typeName] [keyword, stop]
  | .extract part operand => do
    let (name, stop) ← openKeywordCall "EXTRACT"
    let span ← takeSpan (·.isWordNamed part)
    let part ← node .path span [← leaf (.identifier part) span]
    let _ ← takeWord "FROM"
    let operand ← expr operand
    closeKeywordCall name stop [part, operand]
  | .rounding keyword operand scale => do
    let (name, stop) ← openKeywordCall keyword
    let operand ← expr operand
    let scale ← scale.toList.mapM literal
    closeKeywordCall name stop (operand :: scale)
  | .substring operand start length _ => do
    let (name, stop) ← openKeywordCall "SUBSTRING"
    let operand ← expr operand
    let start ← expr? start
    let length ← expr? length
    closeKeywordCall name stop (operand :: start ++ length)
  | .trim operand characters => do
    let (name, stop) ← openKeywordCall "TRIM"
    let operand ← expr operand
    let characters ← exprs characters
    closeKeywordCall name stop (operand :: characters)
  | .constant name => do
    covering (.functionCall false) [← path name] []
  | .callQuery name body => do
    let keyword ←
      match name with
      | [name] => identSpan name
      | _ => unsupported ("Function call " ++ excerpt (Expr.callQuery name body).text)
    let rows ← query body
    covering (.subquery .array) [rows] [keyword, ← enclosing (← spanOfNode rows)]
  | .call name duplicates arguments notes analytic => do
    if notes.withinGroup.isSome then
      unsupported ("Function call " ++ excerpt (Expr.call name duplicates arguments notes analytic).text)
    else
      let name ← path name
      let start ← takeOpenParen
      let arguments ← exprs arguments
      let stop ← close (← closerOf start)
      let rows ← overClause analytic
      covering (.functionCall (duplicates == some .distinct)) (name :: arguments ++ rows) [stop]
  | .star => do
    leaf .star (← takeSpan (· == .mark .star))
  | .case operand whens otherwise => do
    let keyword ← takeWord "CASE"
    let operand ← expr? operand
    let whens ← branches whens
    let otherwise ← part otherwise.isSome "ELSE" .elseClause (expr? otherwise)
    let «end» ← takeWord "END"
    covering (.case (!operand.isEmpty)) (operand ++ whens ++ otherwise) [keyword, «end»]
  | .exist negated body => do
    let floor := (← get).place
    let keyword ← takeWord "EXISTS"
    let tokens ← read
    let not := if negated then keyword.bind fun span => tokens.before? floor span.start (·.isKeyword "NOT") else none
    let rows ← query body
    covering (.subquery (.exist negated)) [rows] [not, keyword, ← enclosing (← spanOfNode rows)]
  | .subquery body => do
    let rows ← query body
    covering (.subquery .scalar) [rows] [← enclosing (← spanOfNode rows)]
  | .array named items => do
    let start ← take (· == .mark .openBracket)
    let keyword ← spanOf (if named then previous start else none)
    let items ← exprs items
    let startSpan ← spanOf start
    let stop ← close (← closerOf start)
    covering .arrayLiteral items [keyword, startSpan, stop]
  | .index base key => do
    let base ← expr base
    let position := position? key
    let key ← if position.isSome then soleArgument key else expr key
    covering (.arrayElement (position.getD .offset)) [base, key] [← takeSpan (· == .mark .closeBracket)]
  | .dot base key => do
    let base ← expr base
    match fieldName? key with
    | some name => covering .dotIdentifier [base, ← identifier name] []
    | none => unsupported ("Field access " ++ excerpt key.text)
  | .field base name => do
    let base ← expr base
    covering .dotIdentifier [base, ← identifier name] []
  | .interval value unit _ last _ => do
    let keyword ← takeWord "INTERVAL"
    let value ← expr value
    let unitSpan ← takeSpan (·.isWordNamed unit)
    let lastSpan ←
      match last with
      | some last => takeSpan (·.isWordNamed last)
      | none => pure none
    covering (.interval unit) [value] [keyword, unitSpan, lastSpan]
  | .foreign kind text =>
    match kind with
    | .expression => unsupported ("Expression " ++ excerpt text)
    | .cast => unsupported ("Cast " ++ excerpt text)
    | .roundingTo name => unsupported (name ++ " ... TO")
    | .argument => unsupported ("Function argument " ++ excerpt text)
end

def statement (source : Query) (span : Span) : BuildT m ν := do
  node .statement (some span) [← query source]

end Build

def Node.ofQuery (query : Query) (pieces : List Piece) (span : Span) : Except Unsupported Node :=
  (((Build.statement query span : Build Node).run (Tokens.of pieces)).run.run .start).1

def Arena.lower (query : Query) (pieces : List Piece) (span : Span) : StateM Arena (Except Unsupported Nat) := do
  let (outcome, _) ← ((Build.statement query span : BuildT (StateM Arena) Nat).run (Tokens.of pieces)).run.run .start
  return outcome

end SqlLens.Surface
