/-!
Text as a list of characters measured in UTF-8 bytes.

Every offset of this project counts bytes, while the rules that read text work character by character. The functions
here connect the two views: `byteLength` measures, `splitAtByte` cuts at an offset when the offset falls between two
characters, and `lines` cuts at line feeds only. Letter case is the case of the ASCII letters.
-/

namespace SqlLens.Text

def byteLength : List Char → Nat
  | [] => 0
  | c :: rest => c.utf8Size + byteLength rest

variable (text : String)

def size : Nat := byteLength text.toList

/-- The characters before and after a byte offset, when the offset does not fall inside a character. -/
def splitAtByte : List Char → Nat → Option (List Char × List Char)
  | rest, 0 => some ([], rest)
  | [], _ + 1 => none
  | c :: rest, n + 1 =>
    if c.utf8Size ≤ n + 1 then
      (splitAtByte rest (n + 1 - c.utf8Size)).map fun (before, after) => (c :: before, after)
    else none

def splitOn (separator : Char) : List Char → List (List Char)
  | [] => [[]]
  | c :: rest =>
    if c = separator then [] :: splitOn separator rest
    else
      match splitOn separator rest with
      | [] => [[c]]
      | piece :: pieces => (c :: piece) :: pieces

def words (lines : List String) : List String :=
  lines.flatMap fun line => (splitOn ' ' line.toList).map String.ofList

theorem not_mem_of_mem_splitOn {separator : Char} {text piece : List Char} (cut : piece ∈ splitOn separator text) :
    separator ∉ piece := by
  induction text generalizing piece with
  | nil =>
    rw [splitOn, List.mem_singleton] at cut
    simp [cut]
  | cons c rest ih =>
    rw [splitOn] at cut
    split at cut
    · rcases List.mem_cons.mp cut with rfl | later
      · exact List.not_mem_nil
      · exact ih later
    · rename_i other
      split at cut
      · rw [List.mem_singleton.mp cut, List.mem_singleton]
        exact Ne.symm other
      · rename_i first pieces found
        rcases List.mem_cons.mp cut with rfl | later
        · rw [List.mem_cons, not_or]
          exact ⟨Ne.symm other, ih (by rw [found]; exact List.mem_cons_self)⟩
        · exact ih (by rw [found]; exact List.mem_cons_of_mem _ later)

def pieces (separator : Char) (text : String) : List String := (splitOn separator text.toList).map String.ofList

def lines (text : List Char) : List (List Char) := splitOn '\n' text

def isBlank (c : Char) : Bool :=
  let n := c.toNat
  (9 ≤ n && n ≤ 13) || n == 0x20 || n == 0x85 || n == 0xA0 || n == 0x1680 || (0x2000 ≤ n && n ≤ 0x200A) ||
    n == 0x2028 || n == 0x2029 || n == 0x202F || n == 0x205F || n == 0x3000

def trim (text : List Char) : List Char :=
  ((text.dropWhile isBlank).reverse.dropWhile isBlank).reverse

/-- Capital letters. Beside the ASCII letters this knows the few characters whose capitals are ASCII letters. -/
def upperChar (c : Char) : List Char :=
  if c.toNat < 128 then [c.toUpper]
  else
    match c with
    | 'ı' => ['I']
    | 'ſ' => ['S']
    | 'ß' => ['S', 'S']
    | 'ﬀ' => ['F', 'F']
    | 'ﬁ' => ['F', 'I']
    | 'ﬂ' => ['F', 'L']
    | 'ﬃ' => ['F', 'F', 'I']
    | 'ﬄ' => ['F', 'F', 'L']
    | 'ﬅ' => ['S', 'T']
    | 'ﬆ' => ['S', 'T']
    | other => [other]

def upper : String := String.ofList (text.toList.flatMap upperChar)

def lower : String := String.ofList (text.toList.map Char.toLower)

def sameName (a b : String) : Bool := a.toList.map Char.toLower == b.toList.map Char.toLower

def startsWith : (part text : List Char) → Bool
  | [], _ => true
  | _ :: _, [] => false
  | p :: ps, t :: ts => p == t && startsWith ps ts

def join (separator : String) (parts : List String) : String := separator.intercalate parts

def ofDigits (base : Nat) (digits : List Nat) : Nat := digits.foldl (fun n d => n * base + d) 0

def digitValue (c : Char) : Option Nat :=
  if '0' ≤ c ∧ c ≤ '9' then some (c.toNat - '0'.toNat)
  else if 'a' ≤ c ∧ c ≤ 'f' then some (c.toNat - 'a'.toNat + 10)
  else if 'A' ≤ c ∧ c ≤ 'F' then some (c.toNat - 'A'.toNat + 10)
  else none

def decimal? (digits : List Char) : Option Nat :=
  if digits.isEmpty || !digits.all Char.isDigit then none
  else some (ofDigits 10 (digits.filterMap digitValue))

def nat64? (text : List Char) : Option Nat := do
  let value ← match text with
    | '+' :: digits => decimal? digits
    | digits => decimal? digits
  if value < 18446744073709551616 then some value else none

def isInt64 (value : Int) : Bool := -9223372036854775808 ≤ value && value ≤ 9223372036854775807

def int64? : Option Int := do
  let value : Int ← match text.toList with
    | '-' :: digits => (decimal? digits).map fun n => -(n : Int)
    | '+' :: digits => (decimal? digits).map fun n => (n : Int)
    | digits => (decimal? digits).map fun n => (n : Int)
  if isInt64 value then some value else none

def hex (n : Nat) : String := String.ofList (Nat.toDigits 16 n)

def padLeft (fill : Char) (width : Nat) (text : String) : String :=
  String.ofList (List.replicate (width - text.length) fill) ++ text

end SqlLens.Text
