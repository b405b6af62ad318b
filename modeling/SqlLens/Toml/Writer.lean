import SqlLens.Text.Basic

/-!
Texts in TOML.

A text is written in the first of these forms that needs no escapes: between double quotes, between single quotes, and
in the same order between three quotes, where it may have several lines. Otherwise it is escaped between double quotes.
-/

namespace SqlLens.Toml

def needsCode (c : Char) : Bool := (c.toNat ≤ 0x1f && c ≠ '\t' && c ≠ '\n') || c.toNat = 0x7f

def longestRun (c : Char) : Nat → List Char → Nat
  | run, [] => run
  | run, d :: rest => if d = c then longestRun c (run + 1) rest else max run (longestRun c 0 rest)

/-- A character between double quotes. Up to two quotes in a row may stand for themselves on several lines. -/
def escaped (long : Bool) : Nat → List Char → List Char
  | _, [] => []
  | quotes, c :: rest =>
    match c with
    | '\x22' =>
      if long && quotes < 2 then c :: escaped long (quotes + 1) rest else '\\' :: c :: escaped long 0 rest
    | '\\' => '\\' :: '\\' :: escaped long 0 rest
    | '\n' => if long then c :: escaped long 0 rest else '\\' :: 'n' :: escaped long 0 rest
    | '\x08' => '\\' :: 'b' :: escaped long 0 rest
    | '\t' => '\\' :: 't' :: escaped long 0 rest
    | '\x0c' => '\\' :: 'f' :: escaped long 0 rest
    | '\r' => '\\' :: 'r' :: escaped long 0 rest
    | c =>
      if needsCode c then
        '\\' :: 'u' :: (Text.padLeft '0' 4 (Text.upper (Text.hex c.toNat))).toList ++ escaped long 0 rest
      else c :: escaped long 0 rest

variable (text : List Char)

def quoted : String := "\"" ++ String.ofList (escaped false 0 text) ++ "\""

def opening : String := if text.contains '\n' then "\n" else ""

def longQuoted : String :=
  "\"\"\"" ++ opening text ++ String.ofList (escaped true 0 text) ++ "\"\"\""

def textOf (value : String) : String :=
  let text := value.toList
  let codes := text.any needsCode
  let backslash := text.contains '\\'
  let lines := text.contains '\n'
  let doubles := longestRun '\x22' 0 text
  let singles := longestRun '\x27' 0 text
  if !codes && !backslash && doubles = 0 && !lines then quoted text
  else if !codes && singles = 0 && !lines then "\x27" ++ value ++ "\x27"
  else if !codes && !backslash && doubles ≤ 2 then longQuoted text
  else if !codes && singles ≤ 2 then "\x27\x27\x27" ++ opening text ++ value ++ "\x27\x27\x27"
  else if lines then longQuoted text
  else quoted text

end SqlLens.Toml
