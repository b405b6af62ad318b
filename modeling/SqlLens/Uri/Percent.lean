import SqlLens.Text.Basic

/-!
Characters written as percent signs with their bytes.
-/

namespace SqlLens.Uri

def escapeByte (byte : UInt8) : List Char :=
  '%' :: (Text.padLeft '0' 2 (Text.upper (Text.hex byte.toNat))).toList

/-- Writes a character by its bytes if it is one of the given characters, a control character or outside ASCII. -/
def escapeChar (reserved : List Char) (c : Char) : List Char :=
  if c.toNat < 0x20 || c.toNat ≥ 0x7f || reserved.contains c then c.toString.toUTF8.toList.flatMap escapeByte else [c]

def escape (reserved : List Char) (text : List Char) : List Char := text.flatMap (escapeChar reserved)

def unescape : List Char → List UInt8
  | [] => []
  | '%' :: a :: b :: rest =>
    match Text.digitValue a, Text.digitValue b with
    | some high, some low => (high * 16 + low).toUInt8 :: unescape rest
    | _, _ => '%'.toNat.toUInt8 :: unescape (a :: b :: rest)
  | c :: rest => c.toString.toUTF8.toList ++ unescape rest

def unescaped? (text : List Char) : Option (List Char) :=
  (String.fromUTF8? ⟨(unescape text).toArray⟩).map String.toList

def fragmentReserved : List Char := [' ', '\x22', '<', '>', '\x60']

def pathReserved : List Char := fragmentReserved ++ ['#', '?', '\x7b', '\x7d']

def userReserved : List Char := pathReserved ++ ['/', ':', ';', '=', '@', '[', '\\', ']', '^', '|']

def queryReserved (special : Bool) : List Char :=
  [' ', '\x22', '#', '<', '>'] ++ if special then ['\x27'] else []

end SqlLens.Uri
