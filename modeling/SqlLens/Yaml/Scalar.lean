import SqlLens.Text.Decimal

/-!
Texts in YAML.

A text is written plain if it reads back as that text. It is put in single quotes where it would read back as something
else, in double quotes where it holds characters that cannot stand for themselves, and as a block of lines where it
holds line ends.
-/

namespace SqlLens.Yaml

def isBreak (c : Char) : Bool := ['\n', '\r', '\u0085', '\u2028', '\u2029'].contains c

def isBlankOrEnd : Option Char → Bool
  | none => true
  | some c => c = ' ' || c = '\t' || c = '\x00' || isBreak c

def isPrintable (c : Char) : Bool :=
  let n := c.toNat
  n = 0x0a || (0x20 ≤ n && n ≤ 0x7e) || (0xa0 ≤ n && n ≠ 0xfeff && n ≠ 0xfffe && n ≠ 0xffff)

/-! ### Texts that look like something else -/

variable (text : List Char)

def isPaddedNumber : Bool :=
  let digits := match text with
    | '-' :: rest | '+' :: rest => rest
    | all => all
  match digits with
  | '0' :: rest => !rest.isEmpty && rest.all Char.isDigit
  | _ => false

def digit? (base : Nat) (c : Char) : Option Nat :=
  let value :=
    if c.isDigit then some (c.toNat - '0'.toNat)
    else if c.toLower.toNat ≥ 'a'.toNat && c.toLower.toNat ≤ 'f'.toNat then some (c.toLower.toNat - 'a'.toNat + 10)
    else none
  value.filter (· < base)

def isNumeral (base limit : Nat) (digits : List Char) : Bool :=
  !digits.isEmpty &&
    match digits.mapM (digit? base) with
    | some values => Text.ofDigits base values < limit
    | none => false

def isMarkedInteger : Bool :=
  let numeral (limit : Nat) : List Char → Bool
    | '0' :: 'x' :: digits => isNumeral 16 limit digits
    | '0' :: 'o' :: digits => isNumeral 8 limit digits
    | '0' :: 'b' :: digits => isNumeral 2 limit digits
    | _ => false
  match text with
  | '-' :: rest => numeral (Nat.pow 2 127 + 1) rest
  | '+' :: rest => numeral (Nat.pow 2 128) rest
  | all => numeral (Nat.pow 2 128) all

def exponent? : List Char → Option Int
  | [] => some 0
  | mark :: rest =>
    if mark = 'e' || mark = 'E' then
      match rest with
      | '-' :: digits => (Text.decimal? digits).map fun n => -(n : Int)
      | '+' :: digits => (Text.decimal? digits).map fun n => (n : Int)
      | digits => (Text.decimal? digits).map fun n => (n : Int)
    else none

def isUnsignedNumber : Bool :=
  let whole := text.takeWhile Char.isDigit
  let after := text.drop whole.length
  let (fraction, rest) := match after with
    | '.' :: more => (more.takeWhile Char.isDigit, more.dropWhile Char.isDigit)
    | more => ([], more)
  let digits := whole ++ fraction
  if digits.isEmpty then false
  else
    match exponent? rest with
    | some exponent => !Text.isTooGreat (digits.filterMap (digit? 10)) (exponent - fraction.length)
    | none => false

def isNumber : Bool :=
  let infinities := [".inf", ".Inf", ".INF"].map String.toList
  let special := infinities.any fun name => text = name || text = '+' :: name || text = '-' :: name
  let nothing := [".nan", ".NaN", ".NAN"].any fun name => text = name.toList
  let finite := match text with
    | '+' :: rest | '-' :: rest => isUnsignedNumber rest
    | all => isUnsignedNumber all
  special || nothing || finite

def looksTyped (text : String) : Bool :=
  ["", "null", "Null", "NULL", "~", "true", "True", "TRUE", "false", "False", "FALSE"].contains text ||
    isPaddedNumber text.toList || isMarkedInteger text.toList || isNumber text.toList

/-! ### What a text may be written as -/

def startIndicators : List Char :=
  ['#', ',', '[', ']', '\x7b', '\x7d', '&', '*', '!', '|', '>', '\x27', '\x22', '%', '@', '\x60']

def hasIndicator (before : Char) : List Char → Bool
  | [] => false
  | c :: rest =>
    (c = ':' && isBlankOrEnd rest.head?) || (c = '#' && isBlankOrEnd (some before)) || hasIndicator c rest

def isMarked : Bool :=
  match text with
  | [] => false
  | first :: rest =>
    startIndicators.contains first ||
      ((first = '?' || first = ':' || first = '-') && isBlankOrEnd rest.head?) ||
      Text.startsWith "---".toList text || Text.startsWith "...".toList text || hasIndicator first rest

def hasPair (first second : Char → Bool) : List Char → Bool
  | a :: b :: rest => (first a && second b) || hasPair first second (b :: rest)
  | _ => false

def atEdge (test : Char → Bool) (text : List Char) : Bool := text.head?.any test || text.getLast?.any test

def needsEscapes : Bool :=
  hasPair (· = ' ') isBreak text || text.any fun c => !isPrintable c

def allowsQuotes : Bool := !needsEscapes text && !hasPair isBreak (· = ' ') text

def allowsPlain : Bool :=
  allowsQuotes text && !text.any isBreak && !atEdge (· = ' ') text && !isMarked text

def allowsBlock : Bool := !needsEscapes text && !text.getLast?.any (· = ' ')

/-! ### Writing -/

def escapeChar (c : Char) : List Char :=
  let digits (width : Nat) : List Char := (Text.padLeft '0' width (Text.upper (Text.hex c.toNat))).toList
  if isPrintable c && !isBreak c && c ≠ '\x22' && c ≠ '\\' then [c]
  else
    '\\' :: match c.toNat with
      | 0x00 => ['0'] | 0x07 => ['a'] | 0x08 => ['b'] | 0x09 => ['t'] | 0x0a => ['n'] | 0x0b => ['v'] | 0x0c => ['f']
      | 0x0d => ['r'] | 0x1b => ['e'] | 0x22 => ['\x22'] | 0x5c => ['\\'] | 0x85 => ['N'] | 0xa0 => ['_']
      | 0x2028 => ['L'] | 0x2029 => ['P']
      | n => if n ≤ 0xff then 'x' :: digits 2 else if n ≤ 0xffff then 'u' :: digits 4 else 'U' :: digits 8

def doubleQuoted : String := "\"" ++ String.ofList (text.flatMap escapeChar) ++ "\""

def indented (indent : Nat) : (atStart : Bool) → List Char → List Char
  | _, [] => []
  | atStart, c :: rest =>
    if atStart && !isBreak c then List.replicate indent ' ' ++ c :: indented indent false rest
    else c :: indented indent (isBreak c) rest

def singleQuoted (indent : Nat) (text : List Char) : String :=
  let quoted := text.flatMap fun c => if c = '\x27' then [c, c] else [c]
  "\x27" ++ String.ofList (indented indent false (quoted ++ ['\x27']))

/-- What stands after the mark of a block: how far it is indented, where that cannot be seen from the text, and what
becomes of line ends at the end. -/
def blockHints : String :=
  let indent := if text.head?.any fun c => c = ' ' || isBreak c then "2" else ""
  let chomp := match text.reverse with
    | last :: before :: _ => if !isBreak last then "-" else if isBreak before then "+" else ""
    | [last] => if isBreak last then "+" else "-"
    | [] => "-"
  indent ++ chomp

/-- A text as a block of lines. A line end is added only where the text does not end with one. -/
def block (indent : Nat) (text : List Char) : String :=
  "|" ++ blockHints text ++ "\n" ++ String.ofList (indented indent true text) ++
    if text.getLast?.any isBreak then "" else "\n"

def scalar (indent : Nat) (text : String) : String :=
  let chars := text.toList
  if chars.contains '\n' then
    if allowsBlock chars then block indent chars else doubleQuoted chars ++ "\n"
  else if !looksTyped text && allowsPlain chars then text ++ "\n"
  else if allowsQuotes chars then singleQuoted indent chars ++ "\n"
  else doubleQuoted chars ++ "\n"

end SqlLens.Yaml
