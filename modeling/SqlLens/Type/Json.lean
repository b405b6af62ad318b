import SqlLens.Json.Basic
import SqlLens.Type.Basic

/-!
Types as JSON.

A type is an object whose member `type` names it in small letters; an array has its elements' type in `element_type`, a
structure its fields in `fields`. Where an object is expected an array of the same members in order will do, and members
of an object without a meaning are left out of account. A type inside another one may also be named by its number.
-/

namespace SqlLens

mutual
def Json.depth : Json → Nat
  | .array items => Json.depthAll items + 1
  | .object members => Json.depthMembers members + 1
  | _ => 0

def Json.depthAll : List Json → Nat
  | [] => 0
  | item :: rest => max item.depth (Json.depthAll rest)

def Json.depthMembers : List (String × Json) → Nat
  | [] => 0
  | (_, value) :: rest => max value.depth (Json.depthMembers rest)
end

namespace SqlType

def scalarTag (scalar : Scalar) : String := Text.lower (scalarName scalar)

def scalars : List Scalar :=
  [.int64, .float64, .numeric, .bigNumeric, .bool, .string, .bytes, .date, .datetime, .time, .timestamp, .interval,
    .json, .geography, .unknown]

mutual
def toJson : SqlType → Json
  | .scalar s => .object [("type", .string (scalarTag s))]
  | .struct fields => .object [("type", .string "struct"), ("fields", .array (fieldsToJson fields))]
  | .array element => .object [("type", .string "array"), ("element_type", element.toJson)]

def fieldsToJson : List (String × SqlType) → List Json
  | [] => []
  | (name, type) :: rest => .object [("name", .string name), ("field_type", type.toJson)] :: fieldsToJson rest
end

def tags : List String := Text.words
  ["int64 float64 numeric bignumeric bool string bytes date datetime time timestamp interval json geography",
    "struct array unknown"]

/-- The tag a value stands for; only an inner type may give its number. -/
def tagOf? (inner : Bool) : Json → Option String
  | .string tag => some tag
  | .integer (.ofNat n) => if inner then tags[n]? else none
  | _ => none

/-- The tag of a type and a way to its other members: by their name in an object, and by their order in an array. An
array has exactly the members that a tag asks for. -/
def tagged? (inner : Bool) : Json → Option (String × (String → Option Json) × Option (List Json))
  | .object members => do
    let tag ← (Json.lookup "type" members).bind (tagOf? inner)
    return (tag, fun name => Json.lookup name members, none)
  | .array (tag :: rest) => do return (← tagOf? inner tag, fun _ => none, some rest)
  | _ => none

def onlyMember? (name : String) (lookup : String → Option Json) (rest : Option (List Json)) : Option Json :=
  match rest with
  | none => lookup name
  | some [member] => some member
  | some _ => none

def fieldMembers? : Json → Option (String × Json)
  | .object members => do
    let name ← (Json.lookup "name" members).bind Json.string?
    let type ← Json.lookup "field_type" members
    return (name, type)
  | .array [.string name, type] => some (name, type)
  | _ => none

def ofJsonWithin : Nat → (inner : Bool) → Json → Option SqlType
  | 0, _, _ => none
  | fuel + 1, inner, value => do
    let (tag, lookup, rest) ← tagged? inner value
    if tag = "struct" then
      let fields ← (← onlyMember? "fields" lookup rest).array?
      let fields ← fields.mapM fun field => do
        let (name, type) ← fieldMembers? field
        return (name, ← ofJsonWithin fuel true type)
      return .struct fields
    else if tag = "array" then
      return .array (← ofJsonWithin fuel true (← onlyMember? "element_type" lookup rest))
    else if rest.any (!·.isEmpty) then none
    else
      return .scalar (← scalars.find? fun s => scalarTag s = tag)

def ofJson? (value : Json) : Option SqlType := ofJsonWithin (value.depth + 1) false value

end SqlType

end SqlLens
