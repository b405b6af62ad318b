import SqlLens.Surface.Build
import Mathlib.Algebra.GroupWithZero.Nat

/-!
Queries whose tokens are found in order.

The tree builder searches for most tokens from its cursor on, but finds names and a few keywords where they were kept,
and the parentheses around a query right before it. `Forward.query` takes the steps of the builder without making nodes,
and stops where one of these tokens lies before the cursor.
-/

namespace SqlLens.Surface.Forward

open Build

def notPast (index : Option Nat) (cursor : Nat) : Build Unit :=
  if index.any (· < cursor) then unsupported "Token before the cursor" else pure ()

/-- Stops if the cursor is past the token that starts at a kept place. -/
def ahead (place : Option Nat) : Build Unit := do
  notPast (place.bind (← read).at?) (← get).place

/-- Passes the kept place of a token. -/
def kept (place : Option Nat) : Build (Option Span) := do
  ahead place
  Build.kept place

def name (ident : Ident) : Build (Option Span) := do
  ahead ident.place
  identSpan ident

def name? : Option Ident → Build Unit
  | some ident => do
    let _ ← name ident
  | none => pure ()

def group (parts : List Ident) : Build Unit := do
  match parts with
  | first :: _ :: _ =>
    match (first.place.bind (← read).at?).bind (← read).span? with
    | some outer =>
      ahead first.place
      if outer.start + (parts.map fun part => Text.size part.value + 1).sum ≤ outer.stop then
        let _ ← (sharedNodes parts : Build (List Node))
      else unsupported "Names longer than their token"
    | none => unsupported "Names without a token"
  | _ =>
    let _ ← parts.mapM name

def path (parts : List Ident) : Build Unit := do
  let _ ← (groupShared parts).mapM group

def star (all : Star) : Build Unit := do
  let _ ← kept all.place
  let _ ← all.except.mapM name
  if all.except.isEmpty then pure ()
  else
    let _ ← takeSpan (· == .mark .closeParen)

def part (present : Bool) (keyword : String) (items : Build Unit) : Build Unit := do
  if present then
    let _ ← takeWord keyword
    items
  else pure ()

/-- What stands in parentheses that are looked for right before it: they have to lie behind what comes before. -/
def enclosed (check : Build Unit) (rows : Build Node) : Build Unit := do
  let start ← get
  check
  set start
  let rows ← rows
  let tokens ← read
  notPast ((rows.span.bind fun span => tokens.at? span.start).map (· - 1)) start.place
  let _ ← enclosing rows.span

mutual
def query : Query → Build Unit
  | .mk withHead entries body orderBy limit offset _ _ => do
    match withHead with
    | some head =>
      let _ ← kept head.place
      ctes entries
    | none => pure ()
    queryBody body
    part (!orderBy.isEmpty) "ORDER" (orderItems orderBy)
    part limit.isSome "LIMIT" (do
      expr? limit
      part offset.isSome "OFFSET" (expr? offset))

def ctes : List Cte → Build Unit
  | [] => pure ()
  | .mk aliasName body _ place :: rest => do
    let _ ← name aliasName.name
    query body
    let _ ← kept place
    ctes rest

def queryBody : Body → Build Unit
  | .select head items source selection groupBy having windows qualify => do
    let _ ← kept head.place
    match head.distinct with
    | .yes =>
      let _ ← takeWord "DISTINCT"
    | _ => pure ()
    selectColumns items
    part (hasTables source) "FROM" (fromItem source)
    part selection.isSome "WHERE" (expr? selection)
    part (!groupBy.isEmpty) "GROUP" (exprs groupBy)
    part having.isSome "HAVING" (expr? having)
    if head.windowFirst then
      part (!windows.isEmpty) "WINDOW" (namedWindows windows)
      part qualify.isSome "QUALIFY" (expr? qualify)
    else
      part qualify.isSome "QUALIFY" (expr? qualify)
      part (!windows.isEmpty) "WINDOW" (namedWindows windows)
  | .query body => query body
  | .setOperation _ _ left right => do
    queryBody left
    queryBody right
  | .foreign _ => pure ()

def namedWindows : List NamedWindow → Build Unit
  | [] => pure ()
  | .mk name definition :: rest => do
    let _ ← Forward.name name
    let _ ← takeWord "AS"
    window definition
    namedWindows rest

def window : Window → Build Unit
  | .named name => do
    let _ ← Forward.name name
  | .spec base partitionBy orderBy _ => do
    let start ← take (· == .mark .openParen)
    let stop ← closerOf start
    name? base
    part (!partitionBy.isEmpty) "PARTITION" (exprs partitionBy)
    part (!orderBy.isEmpty) "ORDER" (orderItems orderBy)
    let _ ← spanOf start
    let _ ← close stop

def selectColumns : List SelectItem → Build Unit
  | [] => pure ()
  | .expr value aliasName :: rest => do
    expr value
    name? aliasName
    selectColumns rest
  | .star [] all :: rest => do
    star all
    selectColumns rest
  | .star (first :: more) all :: rest => do
    path (first :: more)
    star all
    selectColumns rest

def fromItem : Source → Build Unit
  | .table name aliasName _ => do
    path name.parts
    name? (aliasName.map (·.name))
  | .derived _ body aliasName => do
    enclosed (query body) (Build.query body)
    name? (aliasName.map (·.name))
  | .unnest [array] _ aliasName offset offsetAlias => do
    let index ← take (·.isKeyword "UNNEST")
    let parens := index.bind (← read).parensAfter?
    expr array
    let _ ← close (parens.map Prod.snd)
    name? (aliasName.map (·.name))
    part offset "WITH" (do
      let _ ← takeWord "OFFSET"
      let _ ← offsetAlias.toList.mapM name)
    let _ ← spanOf index
  | .nested joined _ => fromItem joined
  | .join left _ _ right _ condition => do
    fromItem left
    fromItem right
    part condition.isSome "ON" (expr? condition)
  | .comma left right => do
    fromItem left
    fromItem right
  | .nothing | .unnest _ _ _ _ _ | .foreign _ => pure ()

def orderItems : List OrderItem → Build Unit
  | [] => pure ()
  | .mk value ascending nullsFirst :: rest => do
    expr value
    let _ ← direction ascending nullsFirst
    orderItems rest

def exprs : List Expr → Build Unit
  | [] => pure ()
  | value :: rest => do
    expr value
    exprs rest

def expr? : Option Expr → Build Unit
  | none => pure ()
  | some value => expr value

def overClause : Option Window → Build Unit
  | none => pure ()
  | some definition => do
    let _ ← takeWord "OVER"
    window definition

def branches : List Branch → Build Unit
  | [] => pure ()
  | .mk condition result :: rest => do
    let _ ← takeWord "WHEN"
    expr condition
    let _ ← takeWord "THEN"
    expr result
    branches rest

/-- The index of a call that says how the index is counted. -/
def soleArgument : Expr → Build Unit
  | .call _ _ [index] _ _ => expr index
  | _ => pure ()

def expr : Expr → Build Unit
  | .name parts | .constant parts => path parts
  | .literal value => do
    let _ ← (literal value : Build Node)
  | .nested inner => expr inner
  | .typed _ value => do
    let start := (← get).place
    let index ← take (· == .string value)
    notPast (index.map (· - 1)) start
    let _ ← spanOf index
    let _ ← spanOf (previous index)
  | .unary _ operand => expr operand
  | .binary first _ second | .like first _ second => do
    expr first
    expr second
  | .isNull operand _ => do
    expr operand
    let _ ← takeWord "NULL"
  | .inList operand _ items => do
    expr operand
    exprs items
    let _ ← takeSpan (· == .mark .closeParen)
  | .inQuery operand _ body => do
    expr operand
    enclosed (query body) (Build.query body)
  | .inUnnest operand _ array => do
    expr operand
    enclosed (expr array) (Build.expr array)
  | .between operand _ low high => do
    expr operand
    expr low
    expr high
  | .cast _ operand _ => do
    let index ← take fun shape => shape.isKeyword "CAST" || shape.isKeyword "SAFE_CAST"
    let parens := index.bind (← read).parensAfter?
    match parens with
    | some (start, _) => jumpTo (start + 1)
    | none => pure ()
    expr operand
    let as ← take (·.isKeyword "AS")
    let _ ← spanOf (typeTokens as parens).1
    let _ ← spanOf (typeTokens as parens).2
    let _ ← spanOf index
    let _ ← close (parens.map Prod.snd)
  | .extract part operand => do
    let (_, stop) ← (openKeywordCall "EXTRACT" : Build (Node × Option Nat))
    let _ ← takeSpan (·.isWordNamed part)
    let _ ← takeWord "FROM"
    expr operand
    let _ ← close stop
  | .rounding keyword operand scale => do
    let (_, stop) ← (openKeywordCall keyword : Build (Node × Option Nat))
    expr operand
    let _ ← (scale.toList.mapM literal : Build (List Node))
    let _ ← close stop
  | .substring operand start length _ => do
    let (_, stop) ← (openKeywordCall "SUBSTRING" : Build (Node × Option Nat))
    expr operand
    expr? start
    expr? length
    let _ ← close stop
  | .trim operand characters => do
    let (_, stop) ← (openKeywordCall "TRIM" : Build (Node × Option Nat))
    expr operand
    exprs characters
    let _ ← close stop
  | .callQuery [name] body => do
    let _ ← Forward.name name
    enclosed (query body) (Build.query body)
  | .call name _ arguments _ analytic => do
    path name
    let start ← takeOpenParen
    exprs arguments
    let _ ← close (← closerOf start)
    overClause analytic
  | .star => do
    let _ ← takeSpan (· == .mark .star)
  | .case operand whens otherwise => do
    let _ ← takeWord "CASE"
    expr? operand
    branches whens
    part otherwise.isSome "ELSE" (expr? otherwise)
    let _ ← takeWord "END"
  | .exist _ body => do
    let _ ← takeWord "EXISTS"
    enclosed (query body) (Build.query body)
  | .subquery body => enclosed (query body) (Build.query body)
  | .array named items => do
    let cursor := (← get).place
    let start ← take (· == .mark .openBracket)
    notPast (if named then start.map (· - 1) else none) cursor
    let _ ← spanOf (if named then previous start else none)
    exprs items
    let _ ← spanOf start
    let _ ← close (← closerOf start)
  | .index base key => do
    expr base
    if (position? key).isSome then soleArgument key else expr key
    let _ ← takeSpan (· == .mark .closeBracket)
  | .dot base key => do
    expr base
    match fieldName? key with
    | some field =>
      let _ ← name field
    | none => pure ()
  | .field base field => do
    expr base
    let _ ← name field
  | .interval value unit _ last _ => do
    let _ ← takeWord "INTERVAL"
    expr value
    let _ ← takeSpan (·.isWordNamed unit)
    match last with
    | some last =>
      let _ ← takeSpan (·.isWordNamed last)
    | none => pure ()
  | .callQuery .. | .foreign .. => pure ()
end

end SqlLens.Surface.Forward
