import SqlLens.Time.Instant
import SqlLens.Type.Basic

/-!
What is known about a table: its fields and when it was made and changed.
-/

namespace SqlLens

inductive Mode where
  | nullable | required | repeated
deriving DecidableEq

def Mode.word : Mode → String
  | nullable => "NULLABLE"
  | required => "REQUIRED"
  | repeated => "REPEATED"

def Mode.ofWord? : String → Option Mode
  | "NULLABLE" => some nullable
  | "REQUIRED" => some required
  | "REPEATED" => some repeated
  | _ => none

/-- A field of a table or of a structure: its name, the name of its type, its mode, what it is about, and the fields it
has itself. -/
inductive SchemaField where
  | mk (name : String) (typeName : String) (mode : Option Mode) (description : String) (fields : List SchemaField)

namespace SchemaField

def name : SchemaField → String
  | mk name _ _ _ _ => name

def typeName : SchemaField → String
  | mk _ typeName _ _ _ => typeName

def description : SchemaField → String
  | mk _ _ _ description _ => description

def mode : SchemaField → Option Mode
  | mk _ _ mode _ _ => mode

def fields : SchemaField → List SchemaField
  | mk _ _ _ _ fields => fields

mutual
/-- The type of a field: a structure has the types of its fields, and a repeated field is an array. -/
def type : SchemaField → SqlType
  | mk _ typeName mode _ fields =>
    let base := match SqlType.ofName typeName with
      | .struct _ => .struct (typesOf fields)
      | other => other
    match mode with
    | some .repeated => .array base
    | _ => base

def typesOf : List SchemaField → List (String × SqlType)
  | [] => []
  | field :: rest => (field.name, field.type) :: typesOf rest
end

end SchemaField

structure Table where
  fullId : String
  description : String
  created : Instant
  modified : Instant
  schema : List SchemaField

namespace Table

def of (fullId : String) (created : Instant) (schema : List SchemaField) : Table :=
  ⟨fullId, "", created, created, schema⟩

def fieldNames (table : Table) : List String := table.schema.map SchemaField.name

def field? (table : Table) (name : String) : Option SchemaField := table.schema.find? fun field => field.name == name

end Table

end SqlLens
