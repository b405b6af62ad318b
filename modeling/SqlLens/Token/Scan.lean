import SqlLens.Token.Lexer

/-!
The tokens of a whole text with the places they stand at.

`scan` keeps white space and comments, since names with dashes may not be broken by them. Its lexemes follow each other
without gaps from the first character of the text to the last.
-/

namespace SqlLens

structure Placed where
  token : Token
  start : Location
  stop : Location
deriving DecidableEq

structure LexError where
  fault : Lexer.Fault
  offset : Nat
deriving DecidableEq

def LexError.message (error : LexError) : String := error.fault.message

structure Lexeme where
  token : Token
  location : Location
  span : Span
  capitals : String
deriving DecidableEq

namespace Scan

/-- Cuts characters into placed tokens. `skip` characters belong to a token that has been read. -/
def place (location : Location) (skip : Nat) : List Char → Except (Lexer.Fault × Location) (List Placed)
  | [] => .ok []
  | c :: rest =>
    match skip with
    | skip + 1 => place (location.advance c) skip rest
    | 0 =>
      match Lexer.step c rest with
      | .ok (token, n) =>
        match place (location.advance c) n rest with
        | .ok placed => .ok (⟨token, location, location.advanceAll (c :: rest.take n)⟩ :: placed)
        | .error fault => .error fault
      | .error (fault, n) => .error (fault, location.advanceAll ((c :: rest).take n))

def capitals : Token → String
  | .word value none => String.ofList (value.toList.map Char.toUpper)
  | _ => ""

def lexeme (index : LineIndex) (placed : Placed) : Lexeme :=
  ⟨placed.token, placed.start, Span.upTo (index.offset placed.start) (index.offset placed.stop),
    capitals placed.token⟩

end Scan

def scan (text : String) : Except LexError (List Lexeme) :=
  let index := LineIndex.of text.toList
  match Scan.place .first 0 text.toList with
  | .ok placed => .ok (placed.map (Scan.lexeme index))
  | .error (fault, location) => .error ⟨fault, index.offset location⟩

namespace Lexeme

variable (lexeme : Lexeme)

def isBlank : Bool := lexeme.token.isBlank

def isWord (capitals : String) : Bool :=
  lexeme.capitals == capitals && !lexeme.capitals.isEmpty

def isSymbol (symbol : Symbol) : Bool := lexeme.token == .symbol symbol

end Lexeme

end SqlLens
