import SqlLens.Domain.Mapping
import SqlLens.Domain.Compose
import SqlLens.Domain.Punycode
import SqlLens.Domain.Mark
import SqlLens.Domain.Joining
import SqlLens.Domain.Direction

/-!
Domain names in ASCII.

A name is mapped character by character and normalized; then its labels, which stand between dots, are looked at one by
one. A label outside ASCII is written with `xn--` before it. A label that is already written so must stand for a text
that mapping and normalizing leave as it is.
-/

namespace SqlLens.Domain

def isForbidden (c : Char) : Bool :=
  c.toNat ≤ 0x20 || c.toNat = 0x7f ||
    ['%', '#', '/', ':', '<', '>', '?', '@', '[', '\\', ']', '^', '|'].contains c

def asciiMark : List Char := ['x', 'n', '-', '-']

def maxLabel : Nat := 1000

def maxEncoded : Nat := 2000

def isAscii (text : List Char) : Bool := text.all (·.toNat < 0x80)

/-! ### Joiners -/

def joins (sides : List Joining) (text : List Char) : Bool :=
  match text.find? fun c => joining c ≠ .transparent with
  | some c => sides.contains (joining c)
  | none => false

/-- Whether the joiners of a label stand where they may: after the sign that takes away a vowel, or, where they part
letters, between two that would join. `before` is in reverse. -/
def joinersFit : (before text : List Char) → Bool
  | _, [] => true
  | before, c :: rest =>
    let afterVirama := (before.head?.map combiningClass) = some virama
    let fits :=
      if c.toNat = 0x200C then afterVirama || (joins [.left, .both] before && joins [.right, .both] rest)
      else if c.toNat = 0x200D then afterVirama
      else true
    fits && joinersFit (c :: before) rest

/-! ### Direction -/

def isBidirectional (labels : List (List Char)) : Bool :=
  labels.any fun label => label.any fun c => [Direction.right, .arabic, .arabicDigit].contains (direction c)

def anywhere : List Direction :=
  [.europeanDigit, .europeanSeparator, .commonSeparator, .europeanTerminator, .neutral, .boundary, .mark]

variable (label : List Char)

def hasOneDirection : Bool :=
  let all := label.map direction
  let ending := (all.tail.reverse.dropWhile (· = .mark))
  match all.head? with
  | none => true
  | some .left =>
    match ending with
    | [] => true
    | last :: middle =>
      [Direction.left, .europeanDigit].contains last && middle.all fun d => d = .left || anywhere.contains d
  | some first =>
    [Direction.right, .arabic].contains first &&
      match ending with
      | [] => true
      | last :: middle =>
        [Direction.right, .arabic, .europeanDigit, .arabicDigit].contains last &&
          (middle.all fun d => [Direction.right, .arabic, .arabicDigit].contains d || anywhere.contains d) &&
          !(ending.contains .europeanDigit && ending.contains .arabicDigit)

/-! ### Labels and names -/

def labelText? : Option (List Char) :=
  if Text.startsWith asciiMark label then do
    let encoded := label.drop asciiMark.length
    if !isAscii encoded || maxEncoded < encoded.length then none
    else
      let text ← Punycode.decode? encoded
      if isAscii text || !text.all isKept || normalize text ≠ text then none else return text
  else some label

def isLabel (text : List Char) : Bool :=
  !text.any isForbidden && !(text.head?.any isMark) && joinersFit [] text

def labelAscii? : Option (List Char) :=
  if isAscii label then some label
  else if maxLabel < label.length then none
  else some (asciiMark ++ Punycode.encode label)

def toAscii? (name : List Char) : Option (List Char) := do
  let mapped ← name.mapM mapChar
  let labels := Text.splitOn '.' (normalize mapped.flatten)
  let texts ← labels.mapM labelText?
  if !texts.all isLabel || (isBidirectional texts && !texts.all hasOneDirection) then none
  else return ['.'].intercalate (← labels.mapM labelAscii?)

end SqlLens.Domain
