import SqlLens.Schema.Basic
import SqlLens.Yaml.Scalar

/-!
The fields of a table as YAML.

Each field is an item of a list with the keys `name`, `type`, `mode`, `description` and `fields`; what says nothing is
left out. A list below a key is not indented further than the key.
-/

namespace SqlLens.SchemaField

def entryText (indent : Nat) (key value : String) : String := key ++ ": " ++ Yaml.scalar (indent + 2) value

def blanks (count : Nat) : String := String.ofList (List.replicate count ' ')

def itemText (indent : Nat) : List String → String
  | [] => ""
  | first :: rest => blanks indent ++ "- " ++ first ++ String.join (rest.map (blanks (indent + 2) ++ ·))

mutual
def yamlText (indent : Nat) : SchemaField → String
  | mk name typeName mode description fields =>
    let texts := [("name", name), ("type", typeName)] ++ (mode.map fun mode => ("mode", mode.word)).toList ++
      (if description.isEmpty then [] else [("description", description)])
    let below := allYamlText (indent + 2) fields
    itemText indent
      (texts.map (fun entry => entryText (indent + 2) entry.1 entry.2) ++
        if below.isEmpty then [] else ["fields:\n" ++ below])

def allYamlText (indent : Nat) : List SchemaField → String
  | [] => ""
  | field :: rest => yamlText indent field ++ allYamlText indent rest
end

def toYaml (fields : List SchemaField) : String := if fields.isEmpty then "[]\n" else allYamlText 0 fields

end SqlLens.SchemaField
