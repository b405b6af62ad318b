import SqlLens.Token.Basic
import SqlLens.Text.Alphanumeric

/-!
Cutting characters into tokens.

`Lexer.step` reads one token. It is given the token's first character and the characters after it, and says how many of
those after it belong to the token, so every step uses up at least one character and a text is read by recursion on its
characters (`SqlLens.Token.Scan`). Faults say how many characters after the token's start they lie.
-/

namespace SqlLens.Lexer

inductive Fault where
  | unterminatedString
  | unterminatedEscapedString
  | unterminatedName
  | unterminatedComment
  | unterminatedDollar
  | unterminatedTag
deriving DecidableEq

def Fault.message : Fault → String
  | unterminatedString => "Unterminated string literal"
  | unterminatedEscapedString => "Unterminated encoded string literal"
  | unterminatedName => "Expected close delimiter '`' before EOF."
  | unterminatedComment => "Unexpected EOF while in a multi-line comment"
  | unterminatedDollar => "Unterminated dollar-quoted string"
  | unterminatedTag => "Unterminated dollar-quoted, expected $"

/-- A token and the number of characters after its first, or a fault and its distance from the token's start. -/
abbrev Step := Except (Fault × Nat) (Token × Nat)

variable (c : Char)

def isWordStart : Bool := ('a' ≤ c && c ≤ 'z') || ('A' ≤ c && c ≤ 'Z') || c == '_'

def isWordPart : Bool := isWordStart c || ('0' ≤ c && c ≤ '9')

def isDigit : Bool := '0' ≤ c && c ≤ '9'

/-- Characters of a parameter name or of the tag between dollar signs: letters and digits of any script. -/
def isNamePart : Bool := isWordPart c || (0x80 ≤ c.toNat && Text.isAlphanumeric c)

def unescape : Char → Char
  | '0' => '\x00'
  | 'a' => '\x07'
  | 'b' => '\x08'
  | 'f' => '\x0c'
  | 'n' => '\n'
  | 'r' => '\r'
  | 't' => '\t'
  | 'Z' => '\x1a'
  | c => c

/-- The text up to a closing quote and the number of characters read, the quote included. A doubled quote stands for
one. -/
def singleBody (quote : Char) (escapes : Bool) : List Char → Option (List Char × Nat)
  | [] => none
  | [c] => if c == quote then some ([], 1) else none
  | c :: d :: rest =>
    if c == quote then
      if d == quote then (singleBody quote escapes rest).map fun (body, n) => (quote :: body, n + 2) else some ([], 1)
    else if escapes && c == '\\' then
      (singleBody quote escapes rest).map fun (body, n) => (unescape d :: body, n + 2)
    else (singleBody quote escapes (d :: rest)).map fun (body, n) => (c :: body, n + 1)

/-- The text up to three closing quotes and the number of characters read, the quotes included. `pending` are the
quotes just read, `before` the rest of the text so far, last character first. -/
def tripleBody (quote : Char) (escapes : Bool) (before : List Char) (pending : Nat) :
    List Char → Option (List Char × Nat)
  | [] => none
  | [c] => if c == quote && pending == 2 then some (before.reverse, 1) else none
  | c :: d :: rest =>
    if c == quote then
      if pending == 2 then some (before.reverse, 1)
      else (tripleBody quote escapes before (pending + 1) (d :: rest)).map fun (body, n) => (body, n + 1)
    else
      let before := List.replicate pending quote ++ before
      if escapes && c == '\\' then
        (tripleBody quote escapes (unescape d :: before) 0 rest).map fun (body, n) => (body, n + 2)
      else (tripleBody quote escapes (c :: before) 0 (d :: rest)).map fun (body, n) => (body, n + 1)

/-- A string literal whose first quote is the `before`-th character of the token counted from one; `rest` follows that
quote. -/
def stringLiteral (kind : StringKind) (quote : Char) (escapes : Bool) (before : Nat) (rest : List Char) : Step :=
  match rest with
  | q :: r :: more =>
    if q == quote then
      if r == quote then
        match tripleBody quote escapes [] 0 more with
        | some (body, n) => .ok (.string kind quote true (.ofList body), before + 1 + n)
        | none => .error (.unterminatedString, before + 2)
      else .ok (.string kind quote false "", before)
    else single
  | [q] => if q == quote then .ok (.string kind quote false "", before) else single
  | [] => single
where
  single : Step :=
    match singleBody quote escapes rest with
    | some (body, n) => .ok (.string kind quote false (.ofList body), before - 1 + n)
    | none => .error (.unterminatedString, before)

/-- A string literal behind one letter that never has three quotes; `rest` follows its quote. -/
def letteredLiteral (kind : StringKind) (rest : List Char) : Step :=
  match singleBody '\x27' true rest with
  | some (body, n) => .ok (.string kind '\x27' false (.ofList body), 1 + n)
  | none => .error (.unterminatedString, 1)

def byteChar? (n : Nat) : Option Char := if n % 256 ≤ 127 then some (Char.ofNat (n % 256)) else none

def leadingDigits (base : Nat) : (limit : Nat) → List Char → Nat × Nat
  | 0, _ => (0, 0)
  | _, [] => (0, 0)
  | limit + 1, c :: rest =>
    match Text.digitValue c with
    | some d =>
      if d < base then
        let (value, n) := leadingDigits base limit rest
        (d * Nat.pow base n + value, n + 1)
      else (0, 0)
    | none => (0, 0)

/-- The character of a fixed number of hexadecimal digits; a plus sign may stand for the first of them. -/
def unicodeChar? (width : Nat) (rest : List Char) : Option Char :=
  let (width, rest) :=
    match rest with
    | '+' :: more => (width - 1, more)
    | _ => (width, rest)
  match leadingDigits 16 width rest with
  | (value, n) => if n == width && value.isValidChar then some (Char.ofNat value) else none

/-- The character an escape in an `E'..'` literal stands for, and the length of the escape after its backslash. A
character with code zero is refused. -/
def escapedChar? (rest : List Char) : Option (Char × Nat) :=
  let found : Option (Char × Nat) :=
    match c with
    | 'b' => some ('\x08', 1)
    | 'f' => some ('\x0c', 1)
    | 'n' => some ('\n', 1)
    | 'r' => some ('\r', 1)
    | 't' => some ('\t', 1)
    | 'u' => (unicodeChar? 4 rest).map (·, 5)
    | 'U' => (unicodeChar? 8 rest).map (·, 9)
    | 'x' =>
      match leadingDigits 16 2 rest with
      | (_, 0) => some ('x', 1)
      | (value, n) => (byteChar? value).map (·, n + 1)
    | c =>
      if '0' ≤ c ∧ c ≤ '7' then
        match leadingDigits 8 3 (c :: rest) with
        | (value, n) => (byteChar? value).map (·, n)
      else some (c, 1)
  found.filter fun (c, _) => c.toNat != 0

/-- The text of an `E'..'` literal after its quote, with the number of characters read. `skip` characters belong to an
escape that has been read. -/
def escapedBody (skip : Nat) : List Char → Option (List Char × Nat)
  | [] => none
  | c :: rest =>
    match skip with
    | skip + 1 => (escapedBody skip rest).map fun (body, n) => (body, n + 1)
    | 0 =>
      if c == '\x27' then
        match rest with
        | '\x27' :: _ => (escapedBody 1 rest).map fun (body, n) => ('\x27' :: body, n + 1)
        | _ => some ([], 1)
      else if c == '\\' then
        match rest with
        | [] => none
        | d :: more =>
          match escapedChar? d more with
          | some (e, length) => (escapedBody length rest).map fun (body, n) => (e :: body, n + 1)
          | none => none
      else (escapedBody 0 rest).map fun (body, n) => (c :: body, n + 1)

def word (rest : List Char) : Token × Nat :=
  let more := rest.takeWhile isWordPart
  (.word (.ofList (c :: more)) none, more.length)

def nameBody : List Char → Option (List Char × Nat)
  | [] => none
  | ['\x60'] => some ([], 1)
  | '\x60' :: '\x60' :: rest => (nameBody rest).map fun (body, n) => ('\x60' :: body, n + 2)
  | '\x60' :: _ => some ([], 1)
  | c :: rest => (nameBody rest).map fun (body, n) => (c :: body, n + 1)

def exponent (cs : List Char) : List Char :=
  match cs with
  | e :: rest =>
    if e == 'e' || e == 'E' then
      let (sign, digits) :=
        match rest with
        | s :: more => if s == '+' || s == '-' then ([s], more) else ([], rest)
        | [] => ([], [])
      let digits := digits.takeWhile isDigit
      if digits.isEmpty then [] else e :: sign ++ digits
    else []
  | [] => []

def number (cs : List Char) : Token × Nat :=
  let whole := cs.takeWhile isDigit
  let rest := cs.drop whole.length
  match whole, rest with
  | ['0'], 'x' :: more =>
    let digits := more.takeWhile fun c => (Text.digitValue c).isSome
    (.string .hex '\x27' false (.ofList digits), 1 + digits.length)
  | _, _ =>
    let point := if rest.head? == some '.' then ['.'] else []
    let rest := rest.drop point.length
    let fraction := rest.takeWhile isDigit
    let rest := rest.drop fraction.length
    let mantissa := whole ++ point ++ fraction
    if mantissa == ['.'] then (.symbol .period, 0)
    else
      let power := exponent rest
      let long := (rest.drop power.length).head? == some 'L'
      let digits := mantissa ++ power
      (.number (.ofList digits) long, digits.length + (if long then 1 else 0) - 1)

def lineComment : List Char → Nat
  | [] => 0
  | c :: rest => if c == '\n' then 1 else 1 + lineComment rest

/-- Number of characters up to the end of a block comment, its closing mark included. Comments nest; `last` is the
character before. -/
def blockComment (depth : Nat) (last : Char) : List Char → Option Nat
  | [] => none
  | c :: rest =>
    if last == '/' && c == '*' then (blockComment (depth + 1) c rest).map (· + 1)
    else if last == '*' && c == '/' then
      if depth == 0 then some 1 else (blockComment (depth - 1) c rest).map (· + 1)
    else (blockComment depth c rest).map (· + 1)

/-- The text between `$$` and `$$` with the number of characters read; `afterDollar` tells that the last character was
a dollar sign. -/
def dollarBody (afterDollar : Bool) : List Char → Option (List Char × Nat)
  | [] => none
  | c :: rest =>
    if afterDollar then
      if c == '$' then some ([], 1)
      else (dollarBody false rest).map fun (body, n) => ('$' :: c :: body, n + 1)
    else if c == '$' then (dollarBody true rest).map fun (body, n) => (body, n + 1)
    else (dollarBody false rest).map fun (body, n) => (c :: body, n + 1)

/-- How a closing tag goes on: it matches, it differs after some characters, or the text ends inside it. -/
inductive TagMatch where
  | closed
  | differs (read : Nat)
  | ended

/-- Compares the text after a dollar sign with a tag and its closing dollar sign. -/
def matchTag : (tag text : List Char) → TagMatch
  | [], '$' :: _ => .closed
  | [], _ => .differs 0
  | _ :: _, [] => .ended
  | t :: ts, c :: cs =>
    if t == c then
      match matchTag ts cs with
      | .differs n => .differs (n + 1)
      | other => other
    else .differs 1

/-- The text up to `$tag$` with the number of characters read; `none` when it never closes. `skip` characters are
ordinary text that has been compared with the tag in vain. -/
def taggedBody (tag : List Char) (skip : Nat) : List Char → Option (List Char × Nat)
  | [] => none
  | c :: rest =>
    match skip with
    | skip + 1 => (taggedBody tag skip rest).map fun (body, n) => (c :: body, n + 1)
    | 0 =>
      if c == '$' then
        match matchTag tag rest with
        | .closed => some ([], tag.length + 2)
        | .ended => none
        | .differs n => (taggedBody tag n rest).map fun (body, m) => (c :: body, m + 1)
      else (taggedBody tag 0 rest).map fun (body, n) => (c :: body, n + 1)

def dollar (rest : List Char) : Step :=
  match rest with
  | '$' :: more =>
    match dollarBody false more with
    | some (body, n) => .ok (.dollar none (.ofList body), 1 + n)
    | none => .error (.unterminatedDollar, 1 + rest.length)
  | _ =>
    let name := rest.takeWhile isNamePart
    match rest.drop name.length with
    | '$' :: more =>
      match taggedBody name 0 more with
      | some (body, n) =>
        .ok (.dollar (if name.isEmpty then none else some (.ofList name)) (.ofList body),
          name.length + 1 + n)
      | none => .error (.unterminatedTag, 1 + rest.length)
    | _ => .ok (.placeholder ("$" ++ String.ofList name), name.length)

def symbol? (rest : List Char) : Option (Symbol × Nat) :=
  match c, rest with
  | '(', _ => some (.openParen, 0)
  | ')', _ => some (.closeParen, 0)
  | ',', _ => some (.comma, 0)
  | ';', _ => some (.semicolon, 0)
  | '\\', _ => some (.backslash, 0)
  | '[', _ => some (.openBracket, 0)
  | ']', _ => some (.closeBracket, 0)
  | '\x7b', _ => some (.openBrace, 0)
  | '\x7d', _ => some (.closeBrace, 0)
  | '+', _ => some (.plus, 0)
  | '*', _ => some (.star, 0)
  | '/', _ => some (.slash, 0)
  | '%', _ => some (.percent, 0)
  | '-', '>' :: '>' :: _ => some (.longArrow, 2)
  | '-', '>' :: _ => some (.arrow, 1)
  | '-', _ => some (.minus, 0)
  | '|', '|' :: '/' :: _ => some (.cubeRoot, 2)
  | '|', '|' :: _ => some (.concat, 1)
  | '|', '/' :: _ => some (.squareRoot, 1)
  | '|', _ => some (.pipe, 0)
  | '=', '>' :: _ => some (.fatArrow, 1)
  | '=', '=' :: _ => some (.doubleEqual, 1)
  | '=', _ => some (.equal, 0)
  | '!', '=' :: _ => some (.notEqual, 1)
  | '!', '!' :: _ => some (.doubleBang, 1)
  | '!', '~' :: '*' :: _ => some (.bangTildeStar, 2)
  | '!', '~' :: '~' :: '*' :: _ => some (.bangDoubleTildeStar, 3)
  | '!', '~' :: '~' :: _ => some (.bangDoubleTilde, 2)
  | '!', '~' :: _ => some (.bangTilde, 1)
  | '!', _ => some (.bang, 0)
  | '<', '=' :: '>' :: _ => some (.spaceship, 2)
  | '<', '=' :: _ => some (.lessEqual, 1)
  | '<', '>' :: _ => some (.notEqual, 1)
  | '<', '<' :: _ => some (.shiftLeft, 1)
  | '<', '@' :: _ => some (.arrowAt, 1)
  | '<', _ => some (.less, 0)
  | '>', '=' :: _ => some (.greaterEqual, 1)
  | '>', '>' :: _ => some (.shiftRight, 1)
  | '>', _ => some (.greater, 0)
  | ':', ':' :: _ => some (.doubleColon, 1)
  | ':', '=' :: _ => some (.assign, 1)
  | ':', _ => some (.colon, 0)
  | '&', '&' :: _ => some (.overlap, 1)
  | '&', _ => some (.ampersand, 0)
  | '^', '@' :: _ => some (.caretAt, 1)
  | '^', _ => some (.caret, 0)
  | '~', '~' :: '*' :: _ => some (.doubleTildeStar, 2)
  | '~', '~' :: _ => some (.doubleTilde, 1)
  | '~', '*' :: _ => some (.tildeStar, 1)
  | '~', _ => some (.tilde, 0)
  | '@', '>' :: _ => some (.atArrow, 1)
  | '@', '?' :: _ => some (.atQuestion, 1)
  | '@', '@' :: _ => some (.atAt, 1)
  | '@', _ => some (.atSign, 0)
  | _, _ => none

/-- What starts with a letter that may introduce a string literal, or any other first character of a word. -/
def wordOrLiteral (rest : List Char) : Step :=
  match c, rest with
  | 'b', '\x27' :: more | 'B', '\x27' :: more => stringLiteral .bytes '\x27' false 2 more
  | 'b', '\x22' :: more | 'B', '\x22' :: more => stringLiteral .bytes '\x22' false 2 more
  | 'r', '\x27' :: more | 'R', '\x27' :: more => stringLiteral .raw '\x27' false 2 more
  | 'r', '\x22' :: more | 'R', '\x22' :: more => stringLiteral .raw '\x22' false 2 more
  | 'n', '\x27' :: more | 'N', '\x27' :: more => letteredLiteral .national more
  | 'x', '\x27' :: more | 'X', '\x27' :: more => letteredLiteral .hex more
  | 'e', '\x27' :: more | 'E', '\x27' :: more =>
    match escapedBody 0 more with
    | some (body, n) => .ok (.string .escaped '\x27' false (.ofList body), 1 + n)
    | none => .error (.unterminatedEscapedString, 0)
  | _, _ => .ok (word c rest)

def step (rest : List Char) : Step :=
  if isWordStart c then wordOrLiteral c rest
  else if isDigit c || c == '.' then .ok (number (c :: rest))
  else
    match c, rest with
    | '\r', '\n' :: _ => .ok (.blank "\n", 1)
    | '\r', _ => .ok (.blank "\n", 0)
    | '\n', _ | '\t', _ => .ok (.blank c.toString, 0)
    | '\x27', _ => stringLiteral .plain '\x27' true 1 rest
    | '\x22', _ => stringLiteral .plain '\x22' true 1 rest
    | '\x60', _ =>
      match nameBody rest with
      | some (body, n) => .ok (.word (.ofList body) (some '\x60'), n)
      | none => .error (.unterminatedName, 0)
    | '#', _ => .ok (comment (lineComment rest))
    | '-', '-' :: more => .ok (comment (1 + lineComment more))
    | '/', '*' :: more =>
      match blockComment 0 ' ' more with
      | some n => .ok (comment (1 + n))
      | none => .error (.unterminatedComment, 1 + rest.length)
    | '?', _ =>
      let digits := rest.takeWhile Text.isNumeric
      .ok (.placeholder ("?" ++ String.ofList digits), digits.length)
    | '$', _ => dollar rest
    | _, _ =>
      match symbol? c rest with
      | some (s, n) => .ok (.symbol s, n)
      | none => .ok (if Text.isBlank c then .blank " " else .stray c, 0)
where
  comment (n : Nat) : Token × Nat := (.blank (.ofList (c :: rest.take n)), n)

end SqlLens.Lexer
