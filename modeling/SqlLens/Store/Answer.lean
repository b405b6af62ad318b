import SqlLens.Schema.Json
import SqlLens.Store.TablePath

/-!
Tables as a service answers them.

Members that are null count as missing. Times are milliseconds since 1970, as a number or as a text; a missing time of
change is the time of creation.
-/

namespace SqlLens

mutual
def Json.withoutNulls : Json → Json
  | .object members => .object (Json.membersWithoutNulls members)
  | .array items => .array (Json.itemsWithoutNulls items)
  | value => value

def Json.itemsWithoutNulls : List Json → List Json
  | [] => []
  | item :: rest => item.withoutNulls :: Json.itemsWithoutNulls rest

def Json.membersWithoutNulls : List (String × Json) → List (String × Json)
  | [] => []
  | (_, .null) :: rest => Json.membersWithoutNulls rest
  | (name, value) :: rest => (name, value.withoutNulls) :: Json.membersWithoutNulls rest
end

namespace Table

def momentOfJson? (value : Json) : Option Instant := do
  let millis ← match value with
    | .string text => Text.int64? text
    | .integer millis => some millis
    | _ => none
  Instant.ofMillis? millis

def ofAnswer (path : TablePath) (answer : Json) : Except FetchError Table :=
  let answer := answer.withoutNulls
  let fullId := ((answer.get? "id").bind Json.string?).getD path.fullId
  let description := ((answer.get? "description").bind Json.string?).getD ""
  let created := ((answer.get? "creationTime").bind momentOfJson?).getD .epoch
  let modified := ((answer.get? "lastModifiedTime").bind momentOfJson?).getD created
  match (answer.get? "schema").bind (·.get? "fields") with
  | none => .ok ⟨fullId, description, created, modified, []⟩
  | some fields =>
    match SchemaField.allOfJson? fields with
    | some schema => .ok ⟨fullId, description, created, modified, schema⟩
    | none => .error (.invalidResponse ("Malformed schema for " ++ path.canonical))

end Table

end SqlLens
