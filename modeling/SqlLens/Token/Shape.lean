import SqlLens.Token.Scan

/-!
Tokens as the tree builder sees them.

Only a few distinctions matter once a statement has been recognised: words, numbers, plain strings, and the punctuation
that separates the parts of a node. Everything else is carried as the text it is shown with.
-/

namespace SqlLens

inductive Mark where
  | comma | period | openParen | closeParen | openBracket | closeBracket
  | star | plus | minus | slash | concat
  | equal | notEqual | less | greater | lessEqual | greaterEqual | semicolon
deriving DecidableEq

def Mark.written : Mark → String
  | comma => "," | period => "." | openParen => "(" | closeParen => ")" | openBracket => "[" | closeBracket => "]"
  | star => "*" | plus => "+" | minus => "-" | slash => "/" | concat => "||"
  | equal => "=" | notEqual => "!=" | less => "<" | greater => ">" | lessEqual => "<=" | greaterEqual => ">="
  | semicolon => ";"

inductive Shape where
  | word (value : String) (quote : Option Char)
  | number (digits : String)
  | string (value : String)
  | mark (mark : Mark)
  | other (text : String)
deriving DecidableEq

namespace Shape

def written : Shape → String
  | word value none => value
  | word value (some q) => q.toString ++ value ++ q.toString
  | number digits => digits
  | string value => "\"" ++ value ++ "\""
  | mark m => m.written
  | other text => text

def isKeyword (shape : Shape) (keyword : String) : Bool :=
  match shape with
  | word value none => Text.sameName value keyword
  | _ => false

def isWordNamed (shape : Shape) (name : String) : Bool :=
  match shape with
  | word value _ => Text.sameName value name
  | _ => false

end Shape

def Symbol.mark? : Symbol → Option Mark
  | .comma => some .comma
  | .period => some .period
  | .openParen => some .openParen
  | .closeParen => some .closeParen
  | .openBracket => some .openBracket
  | .closeBracket => some .closeBracket
  | .star => some .star
  | .plus => some .plus
  | .minus => some .minus
  | .slash => some .slash
  | .concat => some .concat
  | .equal | .doubleEqual => some .equal
  | .notEqual => some .notEqual
  | .less => some .less
  | .greater => some .greater
  | .lessEqual => some .lessEqual
  | .greaterEqual => some .greaterEqual
  | .semicolon => some .semicolon
  | _ => none

def Token.shape? : Token → Option Shape
  | .word value quote => some (.word value quote)
  | .number digits _ => some (.number digits)
  | .string .plain _ false value => some (.string value)
  | .symbol s => some (match s.mark? with | some m => .mark m | none => .other s.written)
  | .blank _ => none
  | other => some (.other other.written)

structure Piece where
  shape : Shape
  span : Span
deriving DecidableEq

def Lexeme.piece? (lexeme : Lexeme) : Option Piece := lexeme.token.shape?.map (⟨·, lexeme.span⟩)

def tokenize (text : String) : Except LexError (List Piece) :=
  match scan text with
  | .ok lexemes => .ok (lexemes.filterMap Lexeme.piece?)
  | .error error => .error error

end SqlLens
