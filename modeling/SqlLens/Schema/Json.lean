import SqlLens.Schema.Basic
import SqlLens.Type.Json
import SqlLens.Json.Shape

/-!
Tables and fields as JSON.

A field has `name` and `type`; `mode`, `description` and `fields` may be missing and are not written when they say
nothing. Only a missing mode may be written as null.
-/

namespace SqlLens

namespace SchemaField

mutual
def toJson : SchemaField → Json
  | mk name typeName mode description fields =>
    .object ([("name", .string name), ("type", .string typeName)] ++
      (mode.map fun mode => ("mode", Json.string mode.word)).toList ++
      (if description.isEmpty then [] else [("description", .string description)]) ++
      (match allToJson fields with
        | [] => []
        | items => [("fields", .array items)]))

def allToJson : List SchemaField → List Json
  | [] => []
  | field :: rest => field.toJson :: allToJson rest
end

/-- The members of a record by name; in an array they stand in the order of `names`, and the last ones may be missing.
-/
def record? (names : List String) : Json → Option (String → Option Json)
  | .object members => some fun name => Json.lookup name members
  | .array items => if items.length ≤ names.length then some fun name => (names.zip items).lookup name else none
  | _ => none

def orDefault {α : Type} (default : α) (decode : Json → Option α) : Option Json → Option α
  | none => some default
  | some value => decode value

/-- A mode, which may be null. Its word may also stand as the only member of an object, which is null. -/
def modeOfJson? : Json → Option (Option Mode)
  | .null => some none
  | .string word | .object [(word, .null)] => (Mode.ofWord? word).map some
  | _ => none

def memberNames : List String := ["name", "type", "mode", "description", "fields"]

def shapeWithin : Nat → Json.Shape
  | 0 => .whole
  | fuel + 1 =>
    .record [("name", .whole), ("type", .whole), ("mode", .whole), ("description", .whole),
      ("fields", .list (shapeWithin fuel))]

def shape : Json.Shape := shapeWithin Json.maxDepth

def ofJsonWithin : Nat → Json → Option SchemaField
  | 0, _ => none
  | fuel + 1, value => do
    let member ← record? memberNames value
    let name ← (member "name").bind Json.string?
    let type ← (member "type").bind Json.string?
    let mode ← orDefault none modeOfJson? (member "mode")
    let description ← orDefault "" Json.string? (member "description")
    let fields ← orDefault [] (fun value => do (← value.array?).mapM (ofJsonWithin fuel)) (member "fields")
    return mk name type mode description fields

def ofJson? (value : Json) : Option SchemaField := ofJsonWithin (value.depth + 1) value

def allOfJson? (value : Json) : Option (List SchemaField) := do (← value.array?).mapM ofJson?

end SchemaField

namespace Table

def toJson (table : Table) : Json :=
  .object [("full_id", .string table.fullId), ("description", .string table.description),
    ("creation_time", .string table.created.text), ("last_modified_time", .string table.modified.text),
    ("schema", .array (SchemaField.allToJson table.schema))]

def memberNames : List String := ["full_id", "description", "creation_time", "last_modified_time", "schema"]

def shape : Json.Shape :=
  .record [("full_id", .whole), ("description", .whole), ("creation_time", .whole), ("last_modified_time", .whole),
    ("schema", .list SchemaField.shape)]

def ofJson? (value : Json) : Option Table := do
  let member ← SchemaField.record? memberNames value
  let fullId ← (member "full_id").bind Json.string?
  let description ← SchemaField.orDefault "" Json.string? (member "description")
  let created ← (member "creation_time").bind fun value => value.string?.bind Instant.parse?
  let modified ← (member "last_modified_time").bind fun value => value.string?.bind Instant.parse?
  let schema ← SchemaField.orDefault [] SchemaField.allOfJson? (member "schema")
  return ⟨fullId, description, created, modified, schema⟩

def ofText? (text : String) : Option Table := do ofJson? (← Json.parseAs? shape text)

end Table

end SqlLens
