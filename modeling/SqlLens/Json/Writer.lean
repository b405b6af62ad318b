import SqlLens.Json.Basic
import SqlLens.Text.Basic

/-!
JSON text.

`Json.compact` writes a value on one line without spaces, `Json.pretty` with one item a line, indented by two spaces.
-/

namespace SqlLens.Json

def escape (c : Char) : List Char :=
  if c = '\x22' then ['\\', '\x22']
  else if c = '\\' then ['\\', '\\']
  else if c = '\n' then ['\\', 'n']
  else if c = '\r' then ['\\', 'r']
  else if c = '\t' then ['\\', 't']
  else if c = '\x08' then ['\\', 'b']
  else if c = '\x0c' then ['\\', 'f']
  else if c.toNat < 0x20 then ['\\', 'u'] ++ (Text.padLeft '0' 4 (Text.hex c.toNat)).toList
  else [c]

def quote (text : String) : String := "\"" ++ String.ofList (text.toList.flatMap escape) ++ "\""

mutual
def compact : Json → String
  | null => "null"
  | bool true => "true"
  | bool false => "false"
  | integer value => toString value
  | decimal literal => literal
  | string value => quote value
  | array items => "[" ++ ",".intercalate (compactItems items) ++ "]"
  | object members => "\x7b" ++ ",".intercalate (compactMembers members) ++ "\x7d"

def compactItems : List Json → List String
  | [] => []
  | item :: rest => compact item :: compactItems rest

def compactMembers : List (String × Json) → List String
  | [] => []
  | (name, value) :: rest => (quote name ++ ":" ++ compact value) :: compactMembers rest
end

mutual
def indented (indent : String) : Json → String
  | array [] => "[]"
  | array items =>
    "[\n" ++ ",\n".intercalate (indentedItems (indent ++ "  ") items) ++ "\n" ++ indent ++ "]"
  | object [] => "\x7b\x7d"
  | object members =>
    "\x7b\n" ++ ",\n".intercalate (indentedMembers (indent ++ "  ") members) ++ "\n" ++ indent ++ "\x7d"
  | null => "null"
  | bool true => "true"
  | bool false => "false"
  | integer value => toString value
  | decimal literal => literal
  | string value => quote value

def indentedItems (indent : String) : List Json → List String
  | [] => []
  | item :: rest => (indent ++ indented indent item) :: indentedItems indent rest

def indentedMembers (indent : String) : List (String × Json) → List String
  | [] => []
  | (name, value) :: rest =>
    (indent ++ quote name ++ ": " ++ indented indent value) :: indentedMembers indent rest
end

def pretty (json : Json) : String := indented "" json

end SqlLens.Json
