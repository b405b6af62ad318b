/-!
JSON values.

Objects keep their members in the order in which they were read or built. Where a name occurs twice, the last member
counts.
-/

namespace SqlLens

/-- A JSON value. A number that is not an integer of 64 bits is kept as the text of its double. -/
inductive Json where
  | null
  | bool (value : Bool)
  | integer (value : Int)
  | decimal (literal : String)
  | string (value : String)
  | array (items : List Json)
  | object (members : List (String × Json))

namespace Json

def lookup (name : String) : List (String × Json) → Option Json
  | [] => none
  | (key, value) :: rest => (lookup name rest).or (if key == name then some value else none)

def get? (json : Json) (name : String) : Option Json :=
  match json with
  | object members => lookup name members
  | _ => none

def string? : Json → Option String
  | string value => some value
  | _ => none

def bool? : Json → Option Bool
  | bool value => some value
  | _ => none

def integer? : Json → Option Int
  | integer value => some value
  | _ => none

def natural? : Json → Option Nat
  | integer (.ofNat value) => some value
  | _ => none

def array? : Json → Option (List Json)
  | array items => some items
  | _ => none

def object? : Json → Option (List (String × Json))
  | object members => some members
  | _ => none

def nat (n : Nat) : Json := integer n

def optional {α : Type} (encode : α → Json) : Option α → Json
  | some value => encode value
  | none => null

def strings (values : List String) : Json := array (values.map string)

end Json

end SqlLens
