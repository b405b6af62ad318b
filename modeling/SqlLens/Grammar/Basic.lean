import SqlLens.Query.Text
import SqlLens.Token.Scan
import SqlLens.Token.Keyword
import SqlLens.Text.Escape

/-!
Reading phrases from tokens.

A `Reader` takes phrases off the front of a list of lexemes. White space and comments between tokens are passed over,
except where a rule asks for the very next lexeme. A failed reader leaves the lexemes where it stopped; `attempt` and
`optionally` put them back.

How deep statements, queries and expressions nest is limited. `Rules` holds the readers for the next level down, so a
rule of the grammar is an ordinary definition that takes them, and the grammar as a whole (`SqlLens.Grammar.Statement`)
is recursion on the number of levels left.
-/

namespace SqlLens.Grammar

inductive Failure where
  /-- The text does not follow the grammar; the message ends with a location, where one is known. -/
  | malformed (message : String)
  | tooDeep
deriving DecidableEq

abbrev Reader := ExceptT Failure (StateM (List Lexeme))

def dropBlanks (lexemes : List Lexeme) : List Lexeme := lexemes.dropWhile Lexeme.isBlank

def atLocation (location : Location) : String :=
  " at Line: " ++ toString location.line ++ ", Column: " ++ toString location.column

def atLexeme : Option Lexeme → String
  | some lexeme => atLocation lexeme.location
  | none => ""

def found : Option Lexeme → String
  | some lexeme => lexeme.token.written
  | none => "EOF"

def failAt {α : Type} (message : String) (lexeme : Option Lexeme) : Reader α :=
  throw (.malformed (message ++ atLexeme lexeme))

def fail {α : Type} (message : String) : Reader α := throw (.malformed message)

def expected {α : Type} (what : String) (lexeme : Option Lexeme) : Reader α :=
  failAt ("Expected: " ++ what ++ ", found: " ++ found lexeme) lexeme

def peek : Reader (Option Lexeme) := do return (dropBlanks (← get)).head?

def peekAfter (n : Nat) : Reader (Option Lexeme) := do
  return ((← get).filter (!·.isBlank))[n]?

def next : Reader (Option Lexeme) := do
  match dropBlanks (← get) with
  | [] => set ([] : List Lexeme); return none
  | lexeme :: rest => set rest; return some lexeme

def peekClose : Reader (Option Lexeme) := do return (← get).head?

def nextClose : Reader (Option Lexeme) := do
  match ← get with
  | [] => return none
  | lexeme :: rest => set rest; return some lexeme

def isWord (lexeme : Option Lexeme) (word : String) : Bool :=
  match lexeme with
  | some lexeme => lexeme.isWord word
  | none => false

def isSymbol (lexeme : Option Lexeme) (symbol : Symbol) : Bool :=
  match lexeme with
  | some lexeme => lexeme.isSymbol symbol
  | none => false

def peekWord (word : String) : Reader Bool := do return isWord (← peek) word

def peekSymbol (symbol : Symbol) : Reader Bool := do return isSymbol (← peek) symbol

def word (word : String) : Reader Bool := do
  if isWord (← peek) word then
    let _ ← next
    return true
  else return false

def symbol (symbol : Symbol) : Reader Bool := do
  if isSymbol (← peek) symbol then
    let _ ← next
    return true
  else return false

variable (wanted : List String)

def words : Reader Bool := do
  let before ← get
  for w in wanted do
    if !(← word w) then
      set before
      return false
  return true

def oneOf : Reader (Option String) := do
  match ← peek with
  | some lexeme =>
    match wanted.find? lexeme.isWord with
    | some w =>
      let _ ← next
      return some w
    | none => return none
  | none => return none

def expectedWord (wanted : String) : Reader (Option Lexeme) := do
  let lexeme ← peek
  if isWord lexeme wanted then next else expected wanted lexeme

def expectWord (wanted : String) : Reader Unit := do let _ ← expectedWord wanted

def expectWords : Reader Unit := do
  for w in wanted do
    expectWord w

def expectOneOf : Reader String := do
  match ← oneOf wanted with
  | some w => return w
  | none => expected ("one of " ++ Text.join " or " wanted) (← peek)

def expectedSymbol (wanted : Symbol) : Reader (Option Lexeme) := do
  let lexeme ← peek
  if isSymbol lexeme wanted then next else expected wanted.written lexeme

def expectSymbol (wanted : Symbol) : Reader Unit := do let _ ← expectedSymbol wanted

abbrev openParen : Reader Unit := expectSymbol .openParen

abbrev closeParen : Reader Unit := expectSymbol .closeParen

def attempt {α : Type} (reader : Reader α) : Reader α := do
  let before ← get
  try reader catch failure =>
    set before
    throw failure

/-- Runs a reader; when the text does not follow the grammar the phrase is absent and the lexemes are put back. -/
def optionally {α : Type} (reader : Reader α) : Reader (Option α) := do
  try
    let value ← attempt reader
    return some value
  catch
  | .tooDeep => throw .tooDeep
  | .malformed _ => return none

def outcome {α : Type} (reader : Reader α) : Reader (Except Failure α) :=
  ExceptT.mk do return .ok (← reader.run)

/-- Phrases as long as `more` asks for another one. Fuel bounds their number. -/
def repeated {α : Type} (item : Reader α) (more : Reader Bool) : Nat → Reader (List α)
  | 0 => return []
  | fuel + 1 => do
    let first ← item
    if ← more then
      let rest ← repeated item more fuel
      return first :: rest
    else return [first]

def commaSeparated {α : Type} (item : Reader α) : Reader (List α) := do
  repeated item (symbol .comma) ((← get).length + 1)

def parenthesized {α : Type} (item : Reader α) : Reader α := do
  openParen
  let value ← item
  closeParen
  return value

inductive Statement where
  | query (query : Query)
  | explain
  | other

structure Rules where
  expr : Nat → Reader Expr
  query : Reader Query
  statement : Reader Statement

/-! ### Names and simple literals -/

def identOf (lexeme : Lexeme) : Option Ident :=
  match lexeme.token with
  | .word value quote => some ⟨value, quote, some lexeme.span.start⟩
  | _ => none

def stringName? : Token → Option Ident
  | .string .plain quote false value => some ⟨value, some quote, none⟩
  | _ => none

def identifier : Reader Ident := do
  let lexeme ← next
  match lexeme.bind identOf, lexeme.bind (stringName? ·.token) with
  | some ident, _ => return ident
  | none, some ident => return ident
  | none, none => expected "identifier" lexeme

/-- The further parts of a name with dashes. Each dash directly follows what is before it, and a word or a number
directly follows the dash. The result tells whether the last part was a number. -/
def dashedParts : Nat → String → Bool → Reader (String × Bool)
  | 0, value, numeric => return (value, numeric)
  | fuel + 1, value, numeric => do
    if isSymbol (← peekClose) .minus then
      let _ ← nextClose
      let part ← nextClose
      match part.map Lexeme.token with
      | some (.word more none) => dashedParts fuel (value ++ "-" ++ more) false
      | some (.number digits false) =>
        if digits.toList.all Lexer.isDigit then dashedParts fuel (value ++ "-" ++ digits) true
        else expected "continuation of hyphenated identifier" part
      | _ => expected "continuation of hyphenated identifier" part
    else return (value, numeric)

/-- A name in a `FROM` clause, which may contain dashes. A number at its end has to be the end of the text. -/
def tableIdentifier : Reader Ident := do
  match ← peek with
  | some lexeme =>
    match lexeme.token with
    | .word value none =>
      let _ ← next
      let (value, numeric) ← dashedParts ((← get).length + 1) value false
      if numeric then
        let after ← next
        if after.isSome then expected "whitespace following hyphenated identifier" after
      return ⟨value, none, some lexeme.span.start⟩
    | _ => identifier
  | none => identifier

/-- Names whose values contain dots are cut at the dots; the pieces share the place of the name. -/
def splitDotted (idents : List Ident) : List Ident :=
  if idents.any (·.value.toList.contains '.') then
    idents.flatMap fun ident =>
      (Text.splitOn '.' ident.value.toList).map fun piece => { ident with value := String.ofList piece }
  else idents

theorem dotless_of_mem_splitDotted {idents : List Ident} {part : Ident} (cut : part ∈ splitDotted idents) :
    '.' ∉ part.value.toList := by
  unfold splitDotted at cut
  split at cut
  · obtain ⟨ident, -, inside⟩ := List.mem_flatMap.mp cut
    obtain ⟨piece, split, rfl⟩ := List.mem_map.mp inside
    simpa using Text.not_mem_of_mem_splitOn split
  · rename_i plain
    intro dot
    exact plain (List.any_eq_true.mpr ⟨part, cut, List.contains_iff_mem.mpr dot⟩)

def dotSeparated (part : Reader Ident) : Reader (List Ident) := do repeated part (symbol .period) ((← get).length + 1)

def objectName : Reader (List Ident) := do return splitDotted (← dotSeparated identifier)

def tableName : Reader TableName := do
  let idents ← dotSeparated tableIdentifier
  return ⟨splitDotted idents, fun _ => dotless_of_mem_splitDotted⟩

def optionalColumns : Reader (List Ident) := do
  if ← symbol .openParen then
    let columns ← commaSeparated identifier
    closeParen
    return columns
  else return []

def mandatoryColumns : Reader (List Ident) := do
  if ← peekSymbol .openParen then optionalColumns
  else expected "a list of columns in parentheses" (← peek)

/-- The value of a numeral below a limit, read from the left after a value so far; otherwise why there is none. -/
def boundedValue (limit : Nat) (soFar : Nat) : List Char → Except String Nat
  | [] => .ok soFar
  | c :: rest =>
    match Text.decimal? [c] with
    | none => .error "invalid digit found in string"
    | some d =>
      if soFar * 10 + d < limit then boundedValue limit (soFar * 10 + d) rest
      else .error "number too large to fit in target type"

def naturalOf (bits : Nat) : Reader Nat := do
  let lexeme ← next
  match lexeme.map Lexeme.token with
  | some (.number digits _) =>
    match boundedValue (Nat.pow 2 bits) 0 digits.toList with
    | .ok n => return n
    | .error reason =>
      failAt ("Could not parse '" ++ digits ++ "' as u" ++ toString bits ++ ": " ++ reason) lexeme
  | _ => expected "literal int" lexeme

def natural : Reader Nat := naturalOf 64

def isPlainWord (lexeme : Lexeme) : Bool :=
  match lexeme.token with
  | .word _ none => !Keyword.isKeyword lexeme.capitals
  | .word _ (some _) => true
  | _ => false

def literalString : Reader String := do
  let lexeme ← next
  match lexeme with
  | some l =>
    match l.token with
    | .word value _ => if isPlainWord l then return value else expected "literal string" lexeme
    | .string .plain _ false value => return value
    | _ => expected "literal string" lexeme
  | none => expected "literal string" lexeme

def literal : Reader Literal := do
  let lexeme ← next
  match lexeme with
  | some l =>
    match l.token with
    | .word _ quote =>
      match l.capitals with
      | "TRUE" => return .bool true
      | "FALSE" => return .bool false
      | "NULL" => return .null
      | _ => if quote.isSome then expected "A value?" lexeme else expected "a concrete value" lexeme
    | .number digits long => return .number digits long
    | .string kind quote triple value => return .string kind quote triple value
    | .dollar tag value => return .dollar tag value
    | .placeholder name => return .parameter name
    | .symbol s =>
      if s == .colon || s == .atSign then
        let after ← next
        match after.map Lexeme.token with
        | some (.word value _) => return .parameter (s.written ++ value)
        | some (.number digits false) => return .parameter (s.written ++ digits)
        | _ => expected "placeholder" after
      else expected "a value" lexeme
    | _ => expected "a value" lexeme
  | none => expected "a value" lexeme

def numberLiteral : Reader Literal := do
  let before ← get
  let lexeme ← peek
  match ← literal with
  | .number digits long => return .number digits long
  | .parameter name => return .parameter name
  | _ =>
    set before
    expected "literal number" lexeme

def signedNumber : Reader String := do
  let sign ←
    if ← symbol .plus then pure "+"
    else
      if ← symbol .minus then pure "-" else pure ""
  return sign ++ (← numberLiteral).text

def optionalAlias (reserved : List String) : Reader (Option Ident) := do
  let afterAs ← word "AS"
  let lexeme ← peek
  match lexeme.bind identOf, lexeme.bind (stringName? ·.token) with
  | some ident, _ =>
    if afterAs || !(reserved.any (isWord lexeme)) then
      let _ ← next
      return some ident
    else return none
  | none, some ident =>
    let _ ← next
    return some ident
  | none, none => if afterAs then expected "an identifier after AS" (← next) else return none

def ascDesc : Reader (Option Bool) := do
  if ← word "ASC" then return some true
  else if ← word "DESC" then return some false
  else return none

end SqlLens.Grammar
