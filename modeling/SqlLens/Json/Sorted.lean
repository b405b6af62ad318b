import SqlLens.Json.Basic

/-!
Objects with their members in order.

`Json.sorted` brings the members of all objects into the order of their names. Of members with one name only the last
one stays, which is the one that counts.
-/

namespace SqlLens.Json

def arrange (members : List (String × Json)) : List (String × Json) :=
  (members.foldl (fun kept member => member :: kept.filter fun other => other.1 ≠ member.1) []).mergeSort
    fun a b => a.1 ≤ b.1

mutual
def sorted : Json → Json
  | array items => array (sortedItems items)
  | object members => object (arrange (sortedMembers members))
  | null => null
  | bool value => bool value
  | integer value => integer value
  | decimal literal => decimal literal
  | string value => string value

def sortedItems : List Json → List Json
  | [] => []
  | item :: rest => sorted item :: sortedItems rest

def sortedMembers : List (String × Json) → List (String × Json)
  | [] => []
  | (name, value) :: rest => (name, sorted value) :: sortedMembers rest
end

end SqlLens.Json
