import SqlLens.Text.Decimal
import SqlLens.Toml.Reader

/-!
Texts and keys in TOML.
-/

namespace SqlLens.Toml

variable (c : Char)

def digitValue : Nat :=
  if c.isDigit then c.toNat - '0'.toNat else c.toLower.toNat - 'a'.toNat + 10

def isHexDigit : Bool := c.isDigit || ('a' ≤ c.toLower && c.toLower ≤ 'f')

def numeral (base : Nat) (read : List Char) : Nat := Text.ofDigits base (read.map digitValue)

def exactly (count : Nat) (test : Char → Bool) : Reader (List Char) := do
  let rest ← get
  let read := rest.take count
  if read.length = count && read.all test then
    set (rest.drop count)
    return read
  else reject

def hexChar (count : Nat) : Reader Char := sound do
  let number := numeral 16 (← exactly count isHexDigit)
  return if (Char.ofNat number).toNat = number then some (Char.ofNat number) else none

def escape : Reader Char := do
  expect "\\"
  match ← one fun _ => true with
  | 'b' => return '\x08'
  | 't' => return '\t'
  | 'n' => return '\n'
  | 'f' => return '\x0c'
  | 'r' => return '\r'
  | '\x22' => return '\x22'
  | '\\' => return '\\'
  | 'u' => committed (hexChar 4)
  | 'U' => committed (hexChar 8)
  | _ => committed reject

def isBasic : Bool := isPlain c && c ≠ '\x22' && c ≠ '\\'

def isLiteral : Bool := isPlain c && c ≠ '\x27'

def basicText : Reader (List Char) := do
  expect "\""
  let text ← all (either (one isBasic) escape)
  committed (expect "\"")
  return text

def literalText : Reader (List Char) := do
  expect "\x27"
  let text ← takeWhile isLiteral
  committed (expect "\x27")
  return text

def lineContinuation : Reader Unit := do
  expect "\\"
  blanks
  lineEnd
  let blank : Reader Unit := do let _ ← one fun c => c = ' ' || c = '\t'
  let _ ← all (either lineEnd blank)

def newLine : Reader (List Char) := do
  lineEnd
  return ['\n']

def basicPart : Reader (List Char) :=
  let plain : Reader (List Char) := do return [← one isBasic]
  let continued : Reader (List Char) := do
    lineContinuation
    return []
  let escaped : Reader (List Char) := do return [← escape]
  either plain (either continued (either escaped newLine))

def literalPart : Reader (List Char) :=
  let plain : Reader (List Char) := do return [← one isLiteral]
  either plain newLine

def innerQuotes (quote : Char) : Reader (List Char) := do
  let rest ← get
  let quotes := rest.takeWhile (· = quote)
  if 0 < quotes.length && quotes.length < 3 && quotes.length < rest.length then
    set (rest.drop quotes.length)
    return quotes
  else reject

def outerQuotes (quote : Char) : Reader (List Char) := do
  let rest ← get
  let extra := min 2 ((rest.takeWhile (· = quote)).length - 3)
  set (rest.drop extra)
  return rest.take extra

def longBasicText : Reader (List Char) := do
  expect "\"\"\""
  let _ ← attempt lineEnd
  let start ← all basicPart
  let quoted : Reader (List Char) := do
    let quotes ← innerQuotes '\x22'
    let parts ← all basicPart
    if parts.isEmpty then committed reject
    return quotes ++ parts.flatten
  let middle ← all quoted
  let extra ← outerQuotes '\x22'
  committed (expect "\"\"\"")
  return start.flatten ++ middle.flatten ++ extra

def longLiteralText : Reader (List Char) := do
  expect "\x27\x27\x27"
  let _ ← attempt lineEnd
  let start ← all literalPart
  let quoted : Reader (List Char) := do
    let quotes ← innerQuotes '\x27'
    let parts ← all literalPart
    if parts.isEmpty then reject
    return quotes ++ parts.flatten
  let middle ← all quoted
  let extra ← outerQuotes '\x27'
  committed (expect "\x27\x27\x27")
  return start.flatten ++ middle.flatten ++ extra

def text : Reader String := do
  return String.ofList (← either longBasicText (either basicText (either longLiteralText literalText)))

/-! ### Keys -/

def isKeyChar : Bool := c.isAlphanum || c = '_' || c = '-'

def simpleKey : Reader Key := do
  let place ← here
  let name ← match ← peek with
    | some '\x22' => basicText
    | some '\x27' => literalText
    | _ => do
      let first ← one isKeyChar
      pure (first :: (← takeWhile isKeyChar))
  return ⟨String.ofList name, place⟩

def depthLimit : Nat := 80

def key : Reader (List Key) := sound do
  let part : Reader Key := do
    blanks
    let read ← simpleKey
    blanks
    return read
  let parts ← separated part "."
  return if parts.length < depthLimit then some parts else none

end SqlLens.Toml
