import SqlLens.Grammar.Basic

/-!
Names of data types.

A data type is kept as the text it is shown with: built-in names in their canonical form, other names as written. One
`>>` may close two angle brackets, so a reader of types tells whether a bracket of the enclosing type has been closed
already.
-/

namespace SqlLens.Grammar

inductive TypeKind where
  | builtin | interval | custom
deriving DecidableEq

structure TypeName where
  kind : TypeKind
  text : String

def builtin (text : String) : TypeName := ⟨.builtin, text⟩

def optionalPrecision : Reader (Option Nat) := do
  if ← symbol .openParen then
    let n ← natural
    closeParen
    return some n
  else return none

variable (name : String)

def withLength (length : Option Nat) : String :=
  name ++ optionText "(" (length.map fun n => toString n ++ ")")

def sized : Reader TypeName := do return builtin (withLength name (← optionalPrecision))

def integerType : Reader TypeName := do
  let length ← optionalPrecision
  let unsigned ← word "UNSIGNED"
  return builtin (withLength name length ++ whenText unsigned " UNSIGNED")

def characterType : Reader TypeName := do
  if ← symbol .openParen then
    if ← word "MAX" then
      closeParen
      return builtin (name ++ "(MAX)")
    let n ← natural
    let unit ← oneOf ["CHARACTERS", "OCTETS"]
    closeParen
    return builtin (name ++ "(" ++ toString n ++ optionText " " unit ++ ")")
  else return builtin name

def characterTypes : Reader TypeName := do
  if ← word "VARYING" then characterType (name ++ " VARYING")
  else if ← words ["LARGE", "OBJECT"] then sized (name ++ " LARGE OBJECT")
  else characterType name

def exactType : Reader TypeName := do
  if ← symbol .openParen then
    let precision ← natural
    let scale ← if ← symbol .comma then (do return some (← natural)) else pure none
    closeParen
    return builtin (name ++ "(" ++ toString precision ++ optionText "," (scale.map fun s => toString s) ++ ")")
  else return builtin name

def timeType : Reader TypeName := do
  let precision ← optionalPrecision
  let zone ←
    if ← word "WITH" then
      expectWords ["TIME", "ZONE"]
      pure " WITH TIME ZONE"
    else
      if ← word "WITHOUT" then
        expectWords ["TIME", "ZONE"]
        pure " WITHOUT TIME ZONE"
      else pure ""
  return builtin (withLength name precision ++ zone)

def enumMember : Reader String := do
  let name ← literalString
  let value ← if ← symbol .equal then (do return some (← signedNumber)) else pure none
  return inQuotes '\x27' name ++ optionText " = " value

def setMembers : Nat → Reader (List String)
  | 0 => return []
  | fuel + 1 => do
    let lexeme ← next
    match lexeme.map Lexeme.token with
    | some (.string .plain '\x27' false value) =>
      let after ← next
      match after.map Lexeme.token with
      | some (.symbol .comma) => return inQuotes '\x27' value :: (← setMembers fuel)
      | some (.symbol .closeParen) => return [inQuotes '\x27' value]
      | _ => expected ", or \x7d" after
    | _ => expected "a string" lexeme

def preciseTime : Reader TypeName := do
  openParen
  let precision ← natural
  let zone ← if ← symbol .comma then (do return some (← literalString)) else pure none
  closeParen
  return builtin ("DateTime64(" ++ toString precision ++ optionText ", '" (zone.map (· ++ "'")) ++ ")")

def typeModifiers : Nat → Reader (List String)
  | 0 => return []
  | fuel + 1 => do
    let lexeme ← next
    match lexeme.map Lexeme.token with
    | some (.symbol .closeParen) => return []
    | some (.symbol .comma) => typeModifiers fuel
    | some (.word value quote) => return (Token.word value quote).written :: (← typeModifiers fuel)
    | some (.number digits _) => return digits :: (← typeModifiers fuel)
    | some (.string .plain '\x27' false value) => return value :: (← typeModifiers fuel)
    | _ => expected "type modifiers" lexeme

def customType : Reader TypeName := do
  let name ← objectName
  let modifiers ←
    if ← symbol .openParen then typeModifiers ((← get).length + 1) else pure []
  return ⟨.custom, pathText name ++ (if modifiers.isEmpty then "" else "(" ++ Text.join ", " modifiers ++ ")")⟩

/-- Closes an angle bracket, unless a double one has closed it already. The result tells whether a bracket of the
enclosing type has been closed too. -/
def closeAngle (closed : Bool) : Reader Bool := do
  if closed then return false
  else if ← symbol .greater then return false
  else if ← symbol .shiftRight then return true
  else expected ">" (← peek)

def structFields (start : Option Lexeme) (type : Reader (TypeName × Bool)) : Nat → Reader (List String × Bool)
  | 0 => return ([], false)
  | fuel + 1 => do
    let named := match ← peekAfter 0, ← peekAfter 1 with
      | some a, some b => (identOf a).isSome && (identOf b).isSome
      | _, _ => false
    let name ← if named then (do return some (← identifier)) else pure none
    let (fieldType, closed) ← type
    let field := optionText "" (name.map fun n => n.text ++ " ") ++ fieldType.text
    if ← symbol .comma then
      if closed then failAt "unmatched > in STRUCT definition" start
      else
        let (rest, closed) ← structFields start type fuel
        return (field :: rest, closed)
    else return ([field], closed)

/-- A structure type without its fields, or with fields between angle brackets. The word itself has been taken. -/
def structType (start : Option Lexeme) (type : Reader (TypeName × Bool)) : Reader (List String × Bool) := do
  if ← symbol .less then
    let (fields, closed) ← structFields start type ((← get).length + 1)
    return (fields, ← closeAngle closed)
  else return ([], false)

def structText (fields : List String) : String :=
  if fields.isEmpty then "STRUCT" else "STRUCT<" ++ Text.join ", " fields ++ ">"

def namedType (lexeme : Lexeme) (type : Reader (TypeName × Bool)) : Reader (TypeName × Bool) := do
  match lexeme.capitals with
  | "BOOLEAN" | "BOOL" | "REAL" | "FLOAT4" | "FLOAT64" | "FLOAT8" | "INT64" | "UUID" | "DATE" | "JSON" | "JSONB"
  | "REGCLASS" | "TEXT" | "TINYTEXT" | "MEDIUMTEXT" | "LONGTEXT" | "BYTEA" | "TINYBLOB" | "MEDIUMBLOB" | "LONGBLOB"
  | "TRIGGER" => plain (builtin lexeme.capitals)
  | "FLOAT32" => plain (builtin "Float32")
  | "INT16" => plain (builtin "Int16")
  | "INT32" => plain (builtin "Int32")
  | "INT128" => plain (builtin "Int128")
  | "INT256" => plain (builtin "Int256")
  | "UINT8" => plain (builtin "UInt8")
  | "UINT16" => plain (builtin "UInt16")
  | "UINT32" => plain (builtin "UInt32")
  | "UINT64" => plain (builtin "UInt64")
  | "UINT128" => plain (builtin "UInt128")
  | "UINT256" => plain (builtin "UInt256")
  | "DATE32" => plain (builtin "Date32")
  | "INTERVAL" => plain ⟨.interval, "INTERVAL"⟩
  | "DOUBLE" => if ← word "PRECISION" then plain (builtin "DOUBLE PRECISION") else plain (builtin "DOUBLE")
  | "FLOAT" | "CLOB" | "BINARY" | "VARBINARY" | "BLOB" | "BYTES" | "DATETIME" | "STRING" =>
    plain (← sized lexeme.capitals)
  | "TINYINT" | "INT2" | "SMALLINT" | "MEDIUMINT" | "INT" | "INT4" | "INT8" | "INTEGER" | "BIGINT" =>
    plain (← integerType lexeme.capitals)
  | "VARCHAR" | "NVARCHAR" => plain (← characterType lexeme.capitals)
  | "CHARACTER" | "CHAR" => plain (← characterTypes lexeme.capitals)
  | "BIT" => if ← word "VARYING" then plain (← sized "BIT VARYING") else plain (← sized "BIT")
  | "TIMESTAMP" | "TIME" => plain (← timeType lexeme.capitals)
  | "TIMESTAMPTZ" | "TIMETZ" => plain (← sized lexeme.capitals)
  | "NUMERIC" | "DECIMAL" | "DEC" | "BIGNUMERIC" | "BIGDECIMAL" => plain (← exactType lexeme.capitals)
  | "FIXEDSTRING" =>
    let length ← parenthesized natural
    plain (builtin ("FixedString(" ++ toString length ++ ")"))
  | "DATETIME64" => plain (← preciseTime)
  | "ENUM" | "ENUM8" | "ENUM16" =>
    let members ← parenthesized (commaSeparated enumMember)
    plain (builtin (lexeme.capitals ++ "(" ++ Text.join ", " members ++ ")"))
  | "SET" =>
    openParen
    let members ← setMembers ((← get).length + 1)
    plain (builtin ("SET(" ++ Text.join ", " members ++ ")"))
  | "ARRAY" =>
    expectSymbol .less
    let (element, closed) ← type
    return (builtin ("ARRAY<" ++ element.text ++ ">"), ← closeAngle closed)
  | "STRUCT" =>
    let (fields, closed) ← structType (some lexeme) type
    return (builtin (structText fields), closed)
  | _ => custom
where
  plain (name : TypeName) : Reader (TypeName × Bool) := return (name, false)
  custom : Reader (TypeName × Bool) := do
    modify (lexeme :: ·)
    return (← customType, false)

def arraySuffix : Nat → TypeName → Reader TypeName
  | 0, name => return name
  | fuel + 1, name => do
    if ← symbol .openBracket then
      expectSymbol .closeBracket
      arraySuffix fuel (builtin (name.text ++ "[]"))
    else return name

/-- A data type, and whether a bracket of the enclosing type has been closed. Fuel bounds how deep types nest. -/
def openType : Nat → Reader (TypeName × Bool)
  | 0 => do expected "a data type name" (← peek)
  | fuel + 1 => do
    let lexeme ← next
    match lexeme with
    | some l =>
      match l.token with
      | .word _ _ =>
        let (name, closed) ← namedType l (openType fuel)
        return (← arraySuffix ((← get).length + 1) name, closed)
      | _ => expected "a data type name" lexeme
    | none => expected "a data type name" lexeme

def dataType : Reader TypeName := do
  let (name, closed) ← openType ((← get).length + 1)
  if closed then fail ("unmatched > after parsing data type " ++ name.text ++ found (← peek))
  else return name

def datePart : Reader String := do
  let lexeme ← next
  match lexeme with
  | some l =>
    if l.capitals == "WEEK" then
      if ← symbol .openParen then
        let day ← identifier
        closeParen
        return "WEEK(" ++ day.text ++ ")"
      else return "WEEK"
    else if Keyword.datePartWords.any l.isWord then return l.capitals
    else expected "date/time field" lexeme
  | none => expected "date/time field" lexeme

end SqlLens.Grammar
