import SqlLens.Text.Shapeless

/-!
Texts in double quotes, as listings of trees show them.

Quotes, backslashes and the usual control characters are written with a backslash. Other characters that have no shape
of their own (`SqlLens.Text.Shapeless`) are written by their number.
-/

namespace SqlLens.Text

def escapeChar (c : Char) : String :=
  match c with
  | '\x00' => "\\0"
  | '\t' => "\\t"
  | '\n' => "\\n"
  | '\r' => "\\r"
  | '\x22' => "\\\""
  | '\\' => "\\\\"
  | c => if isShapeless c then "\\u\x7b" ++ hex c.toNat ++ "\x7d" else c.toString

def escaped (text : String) : String := "\"" ++ String.join (text.toList.map escapeChar) ++ "\""

end SqlLens.Text
