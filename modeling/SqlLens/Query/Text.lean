import SqlLens.Query.Basic

/-!
How queries are shown in messages.

Keywords stand in capitals, items are separated by a comma and a space, names keep the quotes they were written in, and
aliases follow `AS`. Quotes inside a string or a quoted name are doubled unless a backslash or a second quote already
guards them.
-/

namespace SqlLens

/-- Doubles the quotes of a text that are not guarded. `last` is the last character that was not a guarded quote. -/
def doubleQuotes (quote : Char) (last : Char) : List Char → List Char
  | [] => []
  | [c] => if c == quote && last != '\\' then [c, c] else [c]
  | c :: d :: rest =>
    if c == quote then
      if last == '\\' then c :: doubleQuotes quote last (d :: rest)
      else if d == quote then c :: d :: doubleQuotes quote c rest
      else c :: c :: doubleQuotes quote c (d :: rest)
    else c :: doubleQuotes quote c (d :: rest)

def inQuotes (quote : Char) (text : String) : String :=
  String.ofList (quote :: doubleQuotes quote '\x00' text.toList ++ [quote])

def Ident.text (ident : Ident) : String :=
  match ident.quote with
  | none => ident.value
  | some quote => inQuotes quote ident.value

def pathText (parts : List Ident) : String := Text.join "." (parts.map Ident.text)

def identsText (names : List Ident) : String := Text.join ", " (names.map Ident.text)

def escapedChar : Char → String
  | '\x27' => "\\'"
  | '\\' => "\\\\"
  | '\n' => "\\n"
  | '\t' => "\\t"
  | '\r' => "\\r"
  | c => c.toString

def Literal.text : Literal → String
  | number digits long => if long then digits ++ "L" else digits
  | string .plain quote false value => inQuotes quote value
  | string .escaped _ _ value => "E'" ++ String.join (value.toList.map escapedChar) ++ "'"
  | string kind quote triple value => kind.letter ++ Token.quoted quote triple value
  | dollar tag value => (Token.dollar tag value).written
  | bool true => "true"
  | bool false => "false"
  | null => "NULL"
  | parameter name => name

def UnaryOp.text : UnaryOp → String
  | not => "NOT "
  | plus => "+"
  | minus => "-"

def BinaryOp.text : BinaryOp → String
  | or => "OR" | and => "AND" | equal => "=" | notEqual => "<>" | less => "<" | greater => ">"
  | lessEqual => "<=" | greaterEqual => ">=" | add => "+" | subtract => "-" | multiply => "*" | divide => "/"
  | concat => "||" | other symbol => symbol

def SetQuantifier.text : SetQuantifier → String
  | none => "" | all => "ALL" | distinct => "DISTINCT" | byName => "BY NAME" | allByName => "ALL BY NAME"
  | distinctByName => "DISTINCT BY NAME"

def JoinOp.text : JoinOp → String
  | inner => "JOIN" | left => "LEFT JOIN" | right => "RIGHT JOIN" | full => "FULL JOIN" | cross => "CROSS JOIN"
  | other words => words

def TableAlias.text (aliasName : TableAlias) : String :=
  aliasName.name.text ++ (if aliasName.columns.isEmpty then "" else " (" ++ Text.join ", " aliasName.columns ++ ")")

def aliasText : Option TableAlias → String
  | none => ""
  | some aliasName => " AS " ++ aliasName.text

def optionText (before : String) : Option String → String
  | none => ""
  | some text => before ++ text

def whenText (applies : Bool) (text : String) : String := if applies then text else ""

def Star.text (star : Star) : String :=
  "*" ++ (if star.except.isEmpty then "" else " EXCEPT (" ++ identsText star.except ++ ")") ++
    optionText " " star.replacing

def directionText (ascending nullsFirst : Option Bool) : String :=
  (match ascending with | none => "" | some true => " ASC" | some false => " DESC") ++
    (match nullsFirst with | none => "" | some true => " NULLS FIRST" | some false => " NULLS LAST")

def windowText (base : Option Ident) (partitionBy orderBy : List String) (frame : Option String) : String :=
  let parts := (base.map Ident.text).toList ++
    (if partitionBy.isEmpty then [] else ["PARTITION BY " ++ Text.join ", " partitionBy]) ++
    (if orderBy.isEmpty then [] else ["ORDER BY " ++ Text.join ", " orderBy]) ++ frame.toList
  "(" ++ Text.join " " parts ++ ")"

def callText (name : List Ident) (duplicates : Option Duplicates) (arguments : List String) (notes : CallNotes)
    (window : Option String) : String :=
  let unique := match duplicates with | none => "" | some .all => "ALL " | some .distinct => "DISTINCT "
  let clauses := if notes.clauses.isEmpty then "" else
    (if arguments.isEmpty then "" else " ") ++ Text.join " " notes.clauses
  whenText notes.braces "\x7bfn " ++ pathText name ++ "(" ++ unique ++ Text.join ", " arguments ++ clauses ++ ")" ++
    optionText " " notes.withinGroup ++ optionText " " notes.nullTreatment ++ optionText " OVER " window ++
    whenText notes.braces "\x7d"

def intervalText (value unit : String) (precision : Option Nat) (last : Option String) (fraction : Option Nat) :
    String :=
  match precision, fraction with
  | some p, some f =>
    if unit == "SECOND" then "INTERVAL " ++ value ++ " SECOND (" ++ toString p ++ ", " ++ toString f ++ ")"
    else general
  | _, _ => general
where
  general : String :=
    "INTERVAL " ++ value ++ " " ++ unit ++ optionText " (" (precision.map fun p => toString p ++ ")") ++
      optionText " TO " last ++ optionText " (" (fraction.map fun f => toString f ++ ")")

mutual
def Expr.text : Expr → String
  | .name parts => pathText parts
  | .literal value => value.text
  | .nested inner => "(" ++ inner.text ++ ")"
  | .typed type value => type ++ " " ++ inQuotes '\x27' value
  | .unary op operand => op.text ++ operand.text
  | .binary left op right => left.text ++ " " ++ op.text ++ " " ++ right.text
  | .like operand negated pattern => operand.text ++ whenText negated " NOT" ++ " LIKE " ++ pattern.text
  | .isNull operand negated => operand.text ++ " IS " ++ whenText negated "NOT " ++ "NULL"
  | .inList operand negated items =>
    operand.text ++ whenText negated " NOT" ++ " IN (" ++ Text.join ", " (exprTexts items) ++ ")"
  | .inQuery operand negated query => operand.text ++ whenText negated " NOT" ++ " IN (" ++ query.text ++ ")"
  | .inUnnest operand negated array => operand.text ++ whenText negated " NOT" ++ " IN UNNEST(" ++ array.text ++ ")"
  | .between operand negated low high =>
    operand.text ++ whenText negated " NOT" ++ " BETWEEN " ++ low.text ++ " AND " ++ high.text
  | .cast safe operand type => whenText safe "SAFE_" ++ "CAST(" ++ operand.text ++ " AS " ++ type ++ ")"
  | .extract part operand => "EXTRACT(" ++ part ++ " FROM " ++ operand.text ++ ")"
  | .rounding name operand scale =>
    name ++ "(" ++ operand.text ++ optionText ", " (scale.map Literal.text) ++ ")"
  | .substring operand start length commas =>
    "SUBSTRING(" ++ operand.text ++ optionText (if commas then ", " else " FROM ") (exprText? start) ++
      optionText (if commas then ", " else " FOR ") (exprText? length) ++ ")"
  | .trim operand characters =>
    "TRIM(" ++ operand.text ++ String.join ((exprTexts characters).map (", " ++ ·)) ++ ")"
  | .constant name => pathText name
  | .callQuery name query => pathText name ++ "(" ++ query.text ++ ")"
  | .call name duplicates arguments notes window =>
    callText name duplicates (exprTexts arguments) notes (windowText? window)
  | .star => "*"
  | .case operand branches otherwise =>
    "CASE" ++ optionText " " (exprText? operand) ++ String.join (branchTexts branches) ++
      optionText " ELSE " (exprText? otherwise) ++ " END"
  | .exist negated query => whenText negated "NOT " ++ "EXISTS (" ++ query.text ++ ")"
  | .subquery query => "(" ++ query.text ++ ")"
  | .array named items => whenText named "ARRAY" ++ "[" ++ Text.join ", " (exprTexts items) ++ "]"
  | .index base key => base.text ++ "[" ++ key.text ++ "]"
  | .dot base key => base.text ++ "." ++ key.text
  | .field base name => base.text ++ "." ++ name.text
  | .interval value unit precision last fraction => intervalText value.text unit precision last fraction
  | .foreign _ text => text

def exprTexts : List Expr → List String
  | [] => []
  | value :: rest => value.text :: exprTexts rest

def exprText? : Option Expr → Option String
  | none => none
  | some value => some value.text

def branchTexts : List Branch → List String
  | [] => []
  | .mk condition result :: rest => (" WHEN " ++ condition.text ++ " THEN " ++ result.text) :: branchTexts rest

def Window.text : Window → String
  | .named name => name.text
  | .spec base partitionBy orderBy frame => windowText base (exprTexts partitionBy) (orderTexts orderBy) frame

def windowText? : Option Window → Option String
  | none => none
  | some window => some window.text

def orderTexts : List OrderItem → List String
  | [] => []
  | .mk value ascending nullsFirst :: rest => (value.text ++ directionText ascending nullsFirst) :: orderTexts rest

def Query.text : Query → String
  | .mk withHead entries body orderBy limit offset offsetRows extra =>
    (match withHead with
      | none => ""
      | some head => "WITH " ++ whenText head.recursive "RECURSIVE " ++ Text.join ", " (cteTexts entries) ++ " ") ++
      body.text ++
      (match orderTexts orderBy with
        | [] => ""
        | items => " ORDER BY " ++ Text.join ", " items) ++
      optionText " LIMIT " (exprText? limit) ++
      optionText " OFFSET " ((exprText? offset).map (· ++ offsetRows)) ++
      String.join (extra.map (" " ++ ·))

def cteTexts : List Cte → List String
  | [] => []
  | .mk aliasName query source _ :: rest =>
    (aliasName.text ++ " AS (" ++ query.text ++ ")" ++ optionText " FROM " (source.map Ident.text)) :: cteTexts rest

def Body.text : Body → String
  | .select head items source selection groupBy having windows qualify =>
    let window := match namedWindowTexts windows with
      | [] => ""
      | definitions => " WINDOW " ++ Text.join ", " definitions
    let filter := optionText " QUALIFY " (exprText? qualify)
    "SELECT" ++ optionText " " head.valueTable ++
      (match head.distinct with
        | .no => ""
        | .yes => " DISTINCT"
        | .on columns => " DISTINCT ON (" ++ columns ++ ")") ++
      optionText " " head.top ++ " " ++ Text.join ", " (itemTexts items) ++ optionText " " head.into ++
      (match source.text with
        | "" => ""
        | tables => " FROM " ++ tables) ++
      String.join head.lateralViews ++
      optionText " WHERE " (exprText? selection) ++
      (if head.groupAll then " GROUP BY ALL" else
        match exprTexts groupBy with
        | [] => ""
        | keys => " GROUP BY " ++ Text.join ", " keys) ++
      String.join (head.sorting.map (" " ++ ·)) ++
      optionText " HAVING " (exprText? having) ++
      (if head.windowFirst then window ++ filter else filter ++ window)
  | .query query => "(" ++ query.text ++ ")"
  | .setOperation op quantifier left right =>
    left.text ++ " " ++ op.keyword ++ whenText (quantifier != .none) (" " ++ quantifier.text) ++ " " ++ right.text
  | .foreign text => text

def namedWindowTexts : List NamedWindow → List String
  | [] => []
  | .mk name window :: rest => (name.text ++ " AS " ++ window.text) :: namedWindowTexts rest

def itemTexts : List SelectItem → List String
  | [] => []
  | .expr value aliasName :: rest => (value.text ++ optionText " AS " (aliasName.map Ident.text)) :: itemTexts rest
  | .star name star :: rest => (whenText (!name.isEmpty) (pathText name ++ ".") ++ star.text) :: itemTexts rest

def Source.text : Source → String
  | .nothing => ""
  | .table name aliasName notes =>
    pathText name.parts ++ optionText "" notes.arguments ++ whenText notes.ordinality " WITH ORDINALITY" ++
      aliasText aliasName ++ optionText " " notes.hints ++ optionText " " notes.version
  | .derived lateral query aliasName => whenText lateral "LATERAL " ++ "(" ++ query.text ++ ")" ++ aliasText aliasName
  | .unnest arrays ordinality aliasName offset offsetAlias =>
    "UNNEST(" ++ Text.join ", " (exprTexts arrays) ++ ")" ++ whenText ordinality " WITH ORDINALITY" ++
      aliasText aliasName ++ whenText offset " WITH OFFSET" ++ optionText " AS " (offsetAlias.map Ident.text)
  | .nested joined aliasName => "(" ++ joined.text ++ ")" ++ aliasText aliasName
  | .join left isGlobal op right words condition =>
    left.text ++ joinText isGlobal op right.text words (exprText? condition)
  | .comma left right => left.text ++ ", " ++ right.text
  | .foreign text => text
where
  joinText (isGlobal : Bool) (op : JoinOp) (table : String) (words : JoinWords) (condition : Option String) : String :=
    whenText isGlobal " GLOBAL" ++ " " ++ whenText (words == .natural) "NATURAL " ++ op.text ++ " " ++ table ++
      (match words with
        | .using columns => " USING(" ++ identsText columns ++ ")"
        | .foreign text => text
        | _ => "") ++
      optionText " ON " condition
end

end SqlLens
