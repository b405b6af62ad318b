import SqlLens.Toml.Number

/-!
Reading documents in TOML.
-/

namespace SqlLens.Toml

variable (item : Reader (Located Toml))

def items : Reader (List (Located Toml)) := do
  if (← peek) = some ']' then return []
  let spaced : Reader (Located Toml) := do
    gap
    let read ← item
    gap
    return read
  match ← attempt (separated spaced ",") with
  | some read =>
    let _ ← skip ","
    gap
    return read
  | none =>
    gap
    return []

def entry : Reader (List Key × Located Toml) := do
  let keys ← key
  committed do
    expect "="
    blanks
    return (keys, ← item)

def entries : Reader Toml := sound do
  let spaced : Reader (List Key × Located Toml) := do
    let read ← entry item
    blanks
    return read
  let read ← attempt (separated spaced ",")
  blanks
  return inlineTable (read.getD [])

def word (text : String) (value : Toml) : Reader Toml := do
  committed (expect text)
  return value

def scalar : Reader Toml := do
  match ← peek with
  | some '\x22' | some '\x27' => return .string (← text)
  | some 't' => word "true" (.bool true)
  | some 'f' => word "false" (.bool false)
  | some c => if c.isDigit || "+-_.in".toList.contains c then number else reject
  | none => reject

def value : (depth : Nat) → Reader (Located Toml)
  | 0 => committed reject
  | depth + 1 => do
    let place ← here
    let read ← match ← peek with
      | some '[' => nested depth do
        expect "["
        let read ← items (value depth)
        expect "]"
        pure (.array read)
      | some '\x7b' => nested depth do
        expect "\x7b"
        let read ← entries (value depth)
        expect "\x7d"
        pure read
      | _ => scalar
    return ⟨some place, read⟩
where
  nested (depth : Nat) (reader : Reader Toml) : Reader Toml := committed (if depth = 0 then reject else reader)

def header (document : Document) : Reader Document := sound do
  let place ← here
  let isItem ← skip "[["
  if !isItem then
    if (← get).length < 2 then reject
    expect "["
  let path ← key
  expect (if isItem then "]]" else "]")
  endOfLine
  return if isItem then document.addItem place path else document.addHeader place path

def assignment (document : Document) : Reader Document := sound do
  let (keys, read) ← entry do
    let read ← value depthLimit
    endOfLine
    return read
  return document.addValue keys read

def lines : Nat → Document → Reader Document
  | 0, _ => reject
  | fuel + 1, document => do
    blanks
    match ← peek with
    | none => return document
    | some '#' =>
      comment
      finish
      lines fuel document
    | some '\n' | some '\r' =>
      match ← attempt lineEnd with
      | some () => lines fuel document
      | none => reject
    | some '[' => lines fuel (← header document)
    | some _ => lines fuel (← assignment document)

def parse (content : String) : Except Place (List (Key × Located Toml)) :=
  let chars := match content.toList with
    | '\ufeff' :: rest => rest
    | all => all
  match (lines (chars.length + 1) .empty).run chars with
  | .ok (document, _) => .ok document.finish
  | .error stop => .error stop.place

/-- The line and the column of a place, from one. Columns count characters; where a character that is not ASCII stands,
they count bytes. At the end of the text the column is the one after the last character. -/
def position (content : String) (place : Place) : Nat × Nat :=
  let chars := content.toList
  let before := if place = 0 then chars.dropLast else chars.take (chars.length - place)
  let column := before.reverse.takeWhile (· ≠ '\n')
  let line := before.count '\n' + 1
  match place, chars.drop before.length with
  | 0, [] => (line, 1)
  | 0, _ => (line, column.length + 2)
  | _, c :: _ => if c.toNat < 0x80 then (line, column.length + 1) else (line, Text.size (String.ofList column) + 1)
  | _, [] => (line, column.length + 1)

end SqlLens.Toml
