import SqlLens.Hover.Target
import SqlLens.Schema.Yaml
import SqlLens.Workspace.File

/-!
What is shown for the thing under the cursor.

Only a table needs the store to be shown. A column is described from its table if that can be fetched, and otherwise by
the type it was resolved to.
-/

namespace SqlLens.Hover

open Resolved (Column)

structure Content where
  language : String
  value : String
deriving DecidableEq

def markdown (value : String) : Content := ⟨"markdown", value⟩

def timeText (instant : Instant) : String := instant.dateText ++ " " ++ instant.clockText

def tableContents (table : Table) : List Content :=
  let description := if table.description.isEmpty then [] else [table.description]
  let lines := ["## " ++ table.fullId] ++ description ++
    ["created at " ++ timeText table.created, "last modified at " ++ timeText table.modified]
  [markdown (Text.join "\n" lines), ⟨"yaml", SchemaField.toYaml table.schema⟩]

def functionContent (function : Function) : Content :=
  markdown ("## " ++ function.name ++ "\n\n" ++ Text.join "\n" function.signatureTexts)

def columnContent (column : Column) (outcome : Except WorkspaceError Table) : Content :=
  let field? : Option SchemaField := match outcome with
    | .ok table => table.schema.find? fun field => Text.sameName field.name column.name
    | .error _ => none
  match field? with
  | some field => markdown (field.name ++ ": " ++ field.typeName ++ "\n" ++ field.description)
  | none => markdown (column.name ++ ": " ++ column.type.text)

def contents : Target → Attempt (List Content)
  | .table written => do return tableContents (← fetchTable written none)
  | .call function => return [functionContent function]
  | .field type => return [markdown type.text]
  | .column column => do return [columnContent column (← Attempt.perform (.fetch column.table none))]

def at? (uri : Uri) (position : Position) : Attempt (List Content) := do
  let file ← parseFile uri none
  match position.offset? file.text with
  | .error error => throw (.position error)
  | .ok offset =>
    match target? file offset with
    | some target => contents target
    | none => return []

end SqlLens.Hover
