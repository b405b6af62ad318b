import SqlLens.Text.Span
import SqlLens.Text.Location

/-!
Tokens of a query text.

`Token` is what the characters of a text are cut into. A token remembers how it was written (quotes, prefix letters),
because messages show tokens as they were written; `Token.written` is that text.
-/

namespace SqlLens

inductive Symbol where
  | comma | period | semicolon | backslash
  | openParen | closeParen | openBracket | closeBracket | openBrace | closeBrace
  | star | plus | minus | slash | percent | concat | pipe | squareRoot | cubeRoot
  | equal | doubleEqual | fatArrow | notEqual | bang | doubleBang
  | bangTilde | bangTildeStar | bangDoubleTilde | bangDoubleTildeStar
  | less | lessEqual | spaceship | shiftLeft | arrowAt | greater | greaterEqual | shiftRight
  | colon | doubleColon | assign | ampersand | overlap | caret | caretAt
  | tilde | tildeStar | doubleTilde | doubleTildeStar
  | atSign | atArrow | atQuestion | atAt | arrow | longArrow
deriving DecidableEq

def Symbol.written : Symbol → String
  | comma => "," | period => "." | semicolon => ";" | backslash => "\\"
  | openParen => "(" | closeParen => ")" | openBracket => "[" | closeBracket => "]"
  | openBrace => "\x7b" | closeBrace => "\x7d"
  | star => "*" | plus => "+" | minus => "-" | slash => "/" | percent => "%" | concat => "||" | pipe => "|"
  | squareRoot => "|/" | cubeRoot => "||/"
  | equal => "=" | doubleEqual => "==" | fatArrow => "=>" | notEqual => "<>" | bang => "!" | doubleBang => "!!"
  | bangTilde => "!~" | bangTildeStar => "!~*" | bangDoubleTilde => "!~~" | bangDoubleTildeStar => "!~~*"
  | less => "<" | lessEqual => "<=" | spaceship => "<=>" | shiftLeft => "<<" | arrowAt => "<@"
  | greater => ">" | greaterEqual => ">=" | shiftRight => ">>"
  | colon => ":" | doubleColon => "::" | assign => ":=" | ampersand => "&" | overlap => "&&"
  | caret => "^" | caretAt => "^@"
  | tilde => "~" | tildeStar => "~*" | doubleTilde => "~~" | doubleTildeStar => "~~*"
  | atSign => "@" | atArrow => "@>" | atQuestion => "@?" | atAt => "@@" | arrow => "->" | longArrow => "->>"

inductive StringKind where
  | plain | bytes | raw | national | escaped | hex
deriving DecidableEq

def StringKind.letter : StringKind → String
  | plain => "" | bytes => "B" | raw => "R" | national => "N" | escaped => "E" | hex => "X"

inductive Token where
  | word (value : String) (quote : Option Char)
  | number (digits : String) (long : Bool)
  /-- A string literal: the text between its quotes, of which there is one or there are three on each side. -/
  | string (kind : StringKind) (quote : Char) (triple : Bool) (value : String)
  | dollar (tag : Option String) (value : String)
  | placeholder (name : String)
  | symbol (symbol : Symbol)
  | blank (text : String)
  | stray (c : Char)
deriving DecidableEq

namespace Token

def isBlank : Token → Bool
  | blank _ => true
  | _ => false

def quoted (quote : Char) (triple : Bool) (value : String) : String :=
  let marks := String.ofList (List.replicate (if triple then 3 else 1) quote)
  marks ++ value ++ marks

def written : Token → String
  | word value none => value
  | word value (some q) => q.toString ++ value ++ q.toString
  | number digits long => if long then digits ++ "L" else digits
  | string kind quote triple value => kind.letter ++ quoted quote triple value
  | dollar none value => "$$" ++ value ++ "$$"
  | dollar (some tag) value => "$" ++ tag ++ "$" ++ value ++ "$" ++ tag ++ "$"
  | placeholder name => name
  | symbol s => s.written
  | blank text => text
  | stray c => c.toString

end Token

end SqlLens
