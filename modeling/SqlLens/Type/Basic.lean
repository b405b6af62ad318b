import SqlLens.Text.Basic

/-!
Types of columns and expressions.

A type is a scalar, a structure with named fields, or an array. `unknown` stands for a type that cannot be told, such as
that of a bare `NULL`; it coerces to every type and every type coerces to it.
-/

namespace SqlLens

inductive Scalar where
  | int64 | float64 | numeric | bigNumeric | bool | string | bytes
  | date | datetime | time | timestamp | interval | json | geography
  | unknown
deriving DecidableEq

inductive SqlType where
  | scalar (scalar : Scalar)
  | struct (fields : List (String × SqlType))
  | array (element : SqlType)

namespace SqlType

@[match_pattern] abbrev int64 : SqlType := scalar .int64
@[match_pattern] abbrev float64 : SqlType := scalar .float64
@[match_pattern] abbrev numeric : SqlType := scalar .numeric
@[match_pattern] abbrev bigNumeric : SqlType := scalar .bigNumeric
@[match_pattern] abbrev bool : SqlType := scalar .bool
@[match_pattern] abbrev string : SqlType := scalar .string
@[match_pattern] abbrev bytes : SqlType := scalar .bytes
@[match_pattern] abbrev date : SqlType := scalar .date
@[match_pattern] abbrev datetime : SqlType := scalar .datetime
@[match_pattern] abbrev time : SqlType := scalar .time
@[match_pattern] abbrev timestamp : SqlType := scalar .timestamp
@[match_pattern] abbrev interval : SqlType := scalar .interval
@[match_pattern] abbrev json : SqlType := scalar .json
@[match_pattern] abbrev geography : SqlType := scalar .geography
@[match_pattern] abbrev unknown : SqlType := scalar .unknown

mutual
def decEq : (a b : SqlType) → Decidable (a = b)
  | scalar a, scalar b => if h : a = b then isTrue (by rw [h]) else isFalse (by simpa using h)
  | struct a, struct b =>
    match decEqFields a b with
    | isTrue h => isTrue (by rw [h])
    | isFalse h => isFalse (by simpa using h)
  | array a, array b =>
    match decEq a b with
    | isTrue h => isTrue (by rw [h])
    | isFalse h => isFalse (by simpa using h)
  | scalar _, struct _ => isFalse (by simp)
  | scalar _, array _ => isFalse (by simp)
  | struct _, scalar _ => isFalse (by simp)
  | struct _, array _ => isFalse (by simp)
  | array _, scalar _ => isFalse (by simp)
  | array _, struct _ => isFalse (by simp)

def decEqFields : (a b : List (String × SqlType)) → Decidable (a = b)
  | [], [] => isTrue rfl
  | [], _ :: _ => isFalse (by simp)
  | _ :: _, [] => isFalse (by simp)
  | (name, type) :: rest, (name', type') :: rest' =>
    match decEq type type', decEqFields rest rest' with
    | isTrue h, isTrue h' =>
      if same : name = name' then isTrue (by rw [h, h', same]) else isFalse (by simp [same])
    | isFalse h, _ => isFalse (by simp [h])
    | _, isFalse h => isFalse (by simp [h])
end

instance : DecidableEq SqlType := decEq

def scalarName : Scalar → String
  | .int64 => "INT64" | .float64 => "FLOAT64" | .numeric => "NUMERIC" | .bigNumeric => "BIGNUMERIC"
  | .bool => "BOOL" | .string => "STRING" | .bytes => "BYTES" | .date => "DATE" | .datetime => "DATETIME"
  | .time => "TIME" | .timestamp => "TIMESTAMP" | .interval => "INTERVAL" | .json => "JSON"
  | .geography => "GEOGRAPHY" | .unknown => "UNKNOWN"

mutual
def text : SqlType → String
  | scalar s => scalarName s
  | struct fields => "STRUCT<" ++ Text.join ", " (fieldTexts fields) ++ ">"
  | array element => "ARRAY<" ++ element.text ++ ">"

def fieldTexts : List (String × SqlType) → List String
  | [] => []
  | (name, type) :: rest => (name ++ " " ++ type.text) :: fieldTexts rest
end

/-- The scalar or structure a type name without parameters stands for; arrays are told apart by `ofName`. -/
def ofBaseName : String → SqlType
  | "BOOL" | "BOOLEAN" => bool
  | "INT64" | "INTEGER" | "INT" | "SMALLINT" | "BIGINT" | "TINYINT" | "BYTEINT" => int64
  | "FLOAT64" | "FLOAT" => float64
  | "NUMERIC" | "DECIMAL" => numeric
  | "BIGNUMERIC" | "BIGDECIMAL" => bigNumeric
  | "STRING" => string
  | "BYTES" => bytes
  | "DATE" => date
  | "DATETIME" => datetime
  | "TIME" => time
  | "TIMESTAMP" => timestamp
  | "INTERVAL" => interval
  | "JSON" => json
  | "GEOGRAPHY" => geography
  | "STRUCT" | "RECORD" => struct []
  | _ => unknown

def parameter? (name : List Char) : Option (List Char) :=
  match name.dropWhile (· != '<') with
  | [] => none
  | _ :: after =>
    match after.reverse.dropWhile (· != '>') with
    | [] => none
    | _ :: inside => some inside.reverse

def baseName (name : List Char) : String :=
  Text.upper (String.ofList (Text.trim ((name.takeWhile (· != '(')).takeWhile (· != '<'))))

def ofChars : Nat → List Char → SqlType
  | 0, _ => unknown
  | fuel + 1, name =>
    let name := Text.trim name
    let base := baseName name
    if base = "ARRAY" then
      match parameter? name with
      | some element => array (ofChars fuel element)
      | none => array unknown
    else ofBaseName base

/-- The type a name stands for. Old and new names are both known, in any case. Parameters other than the elements of an
array are left out of account, so a structure has no fields, and any other name stands for `unknown`. -/
def ofName (name : String) : SqlType := ofChars (name.length + 1) name.toList

def field? (type : SqlType) (name : String) : Option (String × SqlType) :=
  match type with
  | struct fields => fields.find? fun field => Text.sameName field.1 name
  | _ => none

def isStruct : SqlType → Bool
  | struct _ => true
  | _ => false

def isNumeric : SqlType → Bool
  | int64 | float64 | numeric | bigNumeric => true
  | _ => false

def widens : Scalar → Scalar → Bool
  | .int64, .float64 | .int64, .numeric | .int64, .bigNumeric => true
  | .numeric, .float64 | .numeric, .bigNumeric => true
  | .bigNumeric, .float64 => true
  | _, _ => false

/-- Whether a value of the first type can stand where the second is expected: numbers widen, any structure fits where no
fields are asked for, and `unknown` fits everywhere. -/
def coercesTo : SqlType → SqlType → Bool
  | scalar a, scalar b => a = b || a = .unknown || b = .unknown || widens a b
  | scalar a, _ => a = .unknown
  | _, scalar b => b = .unknown
  | struct a, struct b => struct a = struct b || b.isEmpty
  | array a, array b => a.coercesTo b
  | _, _ => false

/-- The one of two types that the other coerces to. An `unknown` type gives way to any other. -/
def supertype? (a b : SqlType) : Option SqlType :=
  if a = unknown then some b
  else if b = unknown then some a
  else if a.coercesTo b then some b
  else if b.coercesTo a then some a
  else none

end SqlType

end SqlLens
