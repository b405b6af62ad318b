import SqlLens.Store.FetchError
import SqlLens.Text.Basic

/-!
Paths of tables.

A path is written `project.dataset.table`, `project:dataset.table` or `dataset.table`; the last form needs a default
project.
-/

namespace SqlLens

structure TablePath where
  project : String
  dataset : String
  table : String
deriving DecidableEq

namespace TablePath

def dotFirstColon : List Char → List Char
  | [] => []
  | c :: rest => if c = ':' then '.' :: rest else c :: dotFirstColon rest

def parts (written : String) : List String := (Text.splitOn '.' (dotFirstColon written.toList)).map String.ofList

def parse (defaultProject : Option String) (written : String) : Except FetchError TablePath :=
  let parts := parts written
  if parts.any String.isEmpty then .error (.invalidPath written)
  else
    match parts with
    | [project, dataset, table] => .ok ⟨project, dataset, table⟩
    | [dataset, table] =>
      match defaultProject with
      | some project => .ok ⟨project, dataset, table⟩
      | none =>
        .error (.configuration ("Table " ++ written ++ " has no project and no default project_id is configured"))
    | _ => .error (.invalidPath written)

def canonical (path : TablePath) : String := path.project ++ "." ++ path.dataset ++ "." ++ path.table

def fullId (path : TablePath) : String := path.project ++ ":" ++ path.dataset ++ "." ++ path.table

end TablePath

end SqlLens
