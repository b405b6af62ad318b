import SqlLens.Json.Basic
import SqlLens.Text.Basic

/-!
Messages as they travel: a header with the length of the content in bytes, an empty line, the content.
-/

namespace SqlLens.Server.Frame

def trimLine (line : String) : List Char := (line.toList.reverse.dropWhile fun c => c = '\n' || c = '\r').reverse

def endsHeader (line : String) : Bool := (trimLine line).isEmpty

def length? (line : String) : Option Nat :=
  match (trimLine line).span (· ≠ ':') with
  | (name, _ :: value) =>
    if Text.sameName (String.ofList name) "Content-Length" then Text.nat64? (Text.trim value) else none
  | (_, []) => none

def header (content : String) : String := "Content-Length: " ++ toString (Text.size content) ++ "\r\n\r\n"

end SqlLens.Server.Frame
