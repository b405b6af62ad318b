import SqlLens.Diagnostic
import SqlLens.Grammar.Statement
import SqlLens.Script.ErrorLocation
import SqlLens.Surface.Build

/-!
Scripts: statements separated by semicolons.

A script is cut into tokens once and split at the semicolons. Each statement then stands alone: one that cannot be read,
or that is not a query of the analysed language, leaves a problem and nothing else behind, and the others make up the
tree. All are put into one arena; what a statement without a tree has put there is taken out again.
-/

namespace SqlLens

inductive Problem where
  | malformed (message : String) (span : Span)
  | unsupported (what : String) (span : Span)
  | notQuery (word : String) (span : Span)
deriving DecidableEq

namespace Problem

def message : Problem → String
  | malformed message _ => "Syntax error: " ++ message
  | unsupported what _ => what ++ " is not supported"
  | notQuery word _ => word ++ " statements are not analyzed"

def span : Problem → Span
  | malformed _ span => span
  | unsupported _ span => span
  | notQuery _ span => span

/-- A text that cannot be read is an error; what lies outside the analysed language is told for information. -/
def diagnostic (problem : Problem) : Diagnostic :=
  match problem with
  | malformed .. => ⟨.parseError, .error, problem.message, some problem.span⟩
  | unsupported .. | notQuery .. => ⟨.unsupported, .info, problem.message, some problem.span⟩

end Problem

/-- A script as a tree of the statements that could be read, with a problem for each of the others. -/
structure Script where
  syntaxTree : Surface.SyntaxTree
  problems : List Problem

namespace Script

def tree (script : Script) : Surface.Node := script.syntaxTree.node

def chunks : List Lexeme → List (List Lexeme)
  | [] => [[]]
  | lexeme :: rest =>
    if lexeme.isSymbol .semicolon then [] :: chunks rest
    else
      match chunks rest with
      | [] => [[lexeme]]
      | chunk :: others => (lexeme :: chunk) :: others

def tokenSpan (pieces : List Piece) (offset : Nat) : Span :=
  match pieces.find? fun piece => piece.span.start == offset with
  | some piece => piece.span
  | none => .empty offset

variable (index : LineIndex)

/-- The problem of a statement that does not follow the grammar; at the end of the text there is no location. -/
def malformedAt (pieces : List Piece) (span : Span) (failure : Grammar.Failure) : Problem :=
  let message := match failure with
    | .malformed message => message
    | .tooDeep => "query is nested too deeply"
  match splitLocation index message.toList with
  | (message, some offset) => .malformed (String.ofList message) (tokenSpan pieces offset)
  | (message, none) => .malformed (String.ofList message) (.empty span.stop)

def extent (first : Piece) (others : List Piece) : Span :=
  first.span.cover (((first :: others).getLast?.map Piece.span).getD first.span)

/-- The query that a chunk is read as, whose tokens are `first` and `others`. -/
def query (chunk : List Lexeme) (first : Piece) (others : List Piece) : Except Problem Query :=
  match Grammar.readStatement chunk with
  | .error failure => .error (malformedAt index (first :: others) (extent first others) failure)
  | .ok (statement, rest) =>
    match (Grammar.dropBlanks rest).head? with
    | some lexeme =>
      .error (.malformed ("Expected: end of statement, found: " ++ lexeme.token.written)
        (tokenSpan (first :: others) (index.offset lexeme.location)))
    | none =>
      match statement with
      | .query query => .ok query
      | _ => .error (.notQuery (Text.upper first.shape.written) first.span)

/-- The problem of a statement that starts with a token and has a construct without a place in the tree. -/
def unsupportedAt (first : Piece) (construct : Surface.Unsupported) : Problem :=
  .unsupported construct.what (construct.span.getD first.span)

/-- Puts the statement of a chunk, whose tokens are `first` and `others`, into the arena and gives its number. -/
def statement (chunk : List Lexeme) (first : Piece) (others : List Piece) :
    StateM Surface.Arena (Except Problem Nat) := do
  match query index chunk first others with
  | .error problem => return .error problem
  | .ok query =>
    let outcome ← Surface.Arena.lower query (first :: others) (extent first others)
    return outcome.mapError (unsupportedAt first)

/-- Puts the statements of chunks into the arena; a chunk without tokens has none. What a statement with a problem has
put there is taken out again. -/
def statements (index : LineIndex) : List (List Lexeme) → StateM Surface.Arena (List (Except Problem Nat))
  | [] => return []
  | chunk :: rest => do
    match chunk.filterMap Lexeme.piece? with
    | [] => statements index rest
    | first :: others =>
      let size := (← get).size
      let outcome ← statement index chunk first others
      if outcome.toOption.isNone then modify (·.rollback size)
      return outcome :: (← statements index rest)

def made {α : Type} : List (Except Problem α) → List α
  | [] => []
  | .ok one :: rest => one :: made rest
  | .error _ :: rest => made rest

def problemsOf {α : Type} : List (Except Problem α) → List Problem
  | [] => []
  | .ok _ :: rest => problemsOf rest
  | .error problem :: rest => problem :: problemsOf rest

def ofLexemes (text : String) (lexemes : List Lexeme) : Script :=
  let (outcomes, arena) := (statements (LineIndex.of text.toList) (chunks lexemes)).run .empty
  ⟨arena.finish .script (some (.whole text)) (made outcomes), problemsOf outcomes⟩

def read (text : String) : Script :=
  match scan text with
  | .ok lexemes => ofLexemes text lexemes
  | .error error =>
    ⟨Surface.Arena.empty.finish .script (some (.whole text)) [], [.malformed error.message (.empty error.offset)]⟩

def readAll (text : String) : Except Problem Surface.Node :=
  let script := read text
  match script.problems with
  | [] => .ok script.tree
  | problem :: _ => .error problem

end Script

end SqlLens
