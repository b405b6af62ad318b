import SqlLens.Json.Number

/-!
Reading JSON text.

`Json.parse?` accepts exactly one value, with white space around it, nested at most 127 deep.
-/

namespace SqlLens.Json

def skipBlanks (cs : List Char) : List Char :=
  cs.dropWhile fun c => c == ' ' || c == '\n' || c == '\t' || c == '\r'

def hex4? : List Char → Option (Nat × List Char)
  | a :: b :: c :: d :: rest => do
    let digits ← [a, b, c, d].mapM Text.digitValue
    return (Text.ofDigits 16 digits, rest)
  | _ => none

/-- The characters of a string after its opening quote, and what follows its closing quote. Fuel bounds the number of
characters read. -/
def stringBody : Nat → List Char → Option (List Char × List Char)
  | 0, _ => none
  | fuel + 1, cs =>
    match cs with
    | [] => none
    | '\x22' :: rest => some ([], rest)
    | '\\' :: e :: rest =>
      let simple : Option Char :=
        match e with
        | '\x22' => some '\x22'
        | '\\' => some '\\'
        | '/' => some '/'
        | 'b' => some '\x08'
        | 'f' => some '\x0c'
        | 'n' => some '\n'
        | 'r' => some '\r'
        | 't' => some '\t'
        | _ => none
      match simple with
      | some c => (stringBody fuel rest).map fun (body, after) => (c :: body, after)
      | none =>
        if e != 'u' then none
        else do
          let (n, rest) ← hex4? rest
          if 0xDC00 ≤ n ∧ n ≤ 0xDFFF then none
          else if 0xD800 ≤ n ∧ n ≤ 0xDBFF then
            match rest with
            | '\\' :: 'u' :: rest => do
              let (m, rest) ← hex4? rest
              if 0xDC00 ≤ m ∧ m ≤ 0xDFFF then
                let (body, after) ← stringBody fuel rest
                return (Char.ofNat (0x10000 + (n - 0xD800) * 0x400 + (m - 0xDC00)) :: body, after)
              else none
            | _ => none
          else do
            let (body, after) ← stringBody fuel rest
            return (Char.ofNat n :: body, after)
    | '\\' :: [] => none
    | c :: rest =>
      if c.toNat < 0x20 then none else (stringBody fuel rest).map fun (body, after) => (c :: body, after)

def number? (cs : List Char) : Option (Json × List Char) := do
  let (numeral, rest) ← numeral? cs
  return (← numeral.value?, rest)

/-- The items of a list after its opening mark: `item` reads one item, `close` ends the list. -/
def items {α : Type} (item : List Char → Option (α × List Char)) (close : Char) :
    Nat → List Char → Option (List α × List Char)
  | 0, _ => none
  | fuel + 1, cs => do
    let (first, rest) ← item cs
    match skipBlanks rest with
    | c :: rest =>
      if c == close then return ([first], rest)
      else if c == ',' then
        let (more, rest) ← items item close fuel (skipBlanks rest)
        return (first :: more, rest)
      else none
    | [] => none

def member (value : List Char → Option (Json × List Char)) (cs : List Char) : Option ((String × Json) × List Char) :=
  match cs with
  | '\x22' :: rest => do
    let (name, rest) ← stringBody (rest.length + 1) rest
    match skipBlanks rest with
    | ':' :: rest =>
      let (json, rest) ← value (skipBlanks rest)
      return ((String.ofList name, json), rest)
    | _ => none
  | _ => none

def scalar? (cs : List Char) : Option (Json × List Char) :=
  match cs with
  | 'n' :: 'u' :: 'l' :: 'l' :: rest => some (.null, rest)
  | 't' :: 'r' :: 'u' :: 'e' :: rest => some (.bool true, rest)
  | 'f' :: 'a' :: 'l' :: 's' :: 'e' :: rest => some (.bool false, rest)
  | '\x22' :: rest => (stringBody (rest.length + 1) rest).map fun (s, rest) => (.string (String.ofList s), rest)
  | _ => number? cs

/-- A value that starts at the first character and whose lists and objects nest at most `depth` deep. -/
def value? : (depth : Nat) → List Char → Option (Json × List Char)
  | 0, cs => scalar? cs
  | depth + 1, cs =>
    match cs with
    | '[' :: rest =>
      match skipBlanks rest with
      | ']' :: rest => some (.array [], rest)
      | rest => (items (value? depth) ']' (rest.length + 1) rest).map fun (xs, rest) => (.array xs, rest)
    | '\x7b' :: rest =>
      match skipBlanks rest with
      | '\x7d' :: rest => some (.object [], rest)
      | rest =>
        (items (member (value? depth)) '\x7d' (rest.length + 1) rest).map fun (xs, rest) => (.object xs, rest)
    | _ => scalar? cs

def maxDepth : Nat := 127

def parse? (text : String) : Option Json := do
  let (json, rest) ← value? maxDepth (skipBlanks text.toList)
  if (skipBlanks rest).isEmpty then return json else none

end SqlLens.Json
