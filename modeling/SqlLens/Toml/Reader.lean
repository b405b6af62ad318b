import SqlLens.Toml.Basic
import SqlLens.Text.Basic

/-!
Reading from the front of a text.

A reader that fails says where it stopped. Whether another reader may be tried instead depends on how far it came: once
it is clear what was meant, a failure is final. A failure that is not final leaves only its place behind, which counts
only if no other reader is tried.
-/

namespace SqlLens.Toml

structure Stop where
  isFinal : Bool
  place : Place

abbrev Reader := StateT (List Char) (Except Stop)

def here : Reader Place := do return (← get).length

def reject : Reader α := do throw ⟨false, ← here⟩

def committed (reader : Reader α) : Reader α := fun text =>
  match reader text with
  | .error stop => .error { stop with isFinal := true }
  | .ok read => .ok read

def attempt (reader : Reader α) : Reader (Option α) := fun text =>
  match reader text with
  | .ok (value, rest) => .ok (some value, rest)
  | .error ⟨true, place⟩ => .error ⟨true, place⟩
  | .error ⟨false, _⟩ => .ok (none, text)

def either (first second : Reader α) : Reader α := do
  match ← attempt first with
  | some value => return value
  | none => second

def sound (reader : Reader (Option α)) : Reader α := do
  let start ← here
  match ← reader with
  | some value => return value
  | none => throw ⟨false, start⟩

def peek : Reader (Option Char) := do return (← get).head?

def one (test : Char → Bool) : Reader Char := do
  match ← get with
  | c :: rest =>
    if test c then
      set rest
      return c
    else reject
  | [] => reject

def skip (text : String) : Reader Bool := do
  let rest ← get
  if Text.startsWith text.toList rest then
    set (rest.drop text.length)
    return true
  else return false

def expect (text : String) : Reader Unit := do if !(← skip text) then reject

def takeWhile (test : Char → Bool) : Reader (List Char) := do
  let rest ← get
  set (rest.dropWhile test)
  return rest.takeWhile test

def many (reader : Reader α) : (fuel : Nat) → Reader (List α)
  | 0 => return []
  | fuel + 1 => do
    match ← attempt reader with
    | some value => return value :: (← many reader fuel)
    | none => return []

def all (reader : Reader α) : Reader (List α) := do many reader (← get).length

/-- Reads one or more items with a mark between them. A mark without an item after it stays. -/
def separated (item : Reader α) (mark : String) : Reader (List α) := do
  let first ← item
  let next : Reader α := do
    expect mark
    item
  return first :: (← all next)

/-! ### Between values -/

def blanks : Reader Unit := do let _ ← takeWhile fun c => c = ' ' || c = '\t'

def lineEnd : Reader Unit :=
  let pair : Reader Unit := do
    expect "\r"
    expect "\n"
  either (expect "\n") pair

def isPlain (c : Char) : Bool := c = '\t' || (c.toNat ≥ 0x20 && c.toNat ≠ 0x7f)

def comment : Reader Unit := do
  expect "#"
  let _ ← takeWhile isPlain

def finish : Reader Unit :=
  let nothing : Reader Unit := do if !(← get).isEmpty then reject
  either lineEnd nothing

def endOfLine : Reader Unit := do
  blanks
  let _ ← attempt comment
  finish

def gap : Reader Unit := do go ((← get).length + 1)
where
  go : Nat → Reader Unit
    | 0 => reject
    | fuel + 1 => do
      blanks
      match ← peek with
      | some '#' =>
        comment
        lineEnd
        go fuel
      | some '\n' | some '\r' =>
        lineEnd
        go fuel
      | _ => return ()

end SqlLens.Toml
