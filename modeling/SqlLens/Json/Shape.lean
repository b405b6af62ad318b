import SqlLens.Json.Reader

/-!
Reading what matters of a JSON text.

A `Shape` says which parts of a value are looked at. What is not looked at only has to follow the grammar: it may nest
to any depth, its numbers may be of any size, and its strings may have escapes that stand for no character. A member
that is looked at occurs at most once.
-/

namespace SqlLens.Json

inductive Shape where
  | ignored
  | whole
  | list (item : Shape)
  /-- Some members of an object, or the items of a list in the place of them, in this order. -/
  | record (members : List (String × Shape))

def skipString : List Char → Option (List Char)
  | [] => none
  | '\x22' :: rest => some rest
  | '\\' :: 'u' :: a :: b :: c :: d :: rest =>
    if [a, b, c, d].all fun digit => (Text.digitValue digit).isSome then skipString rest else none
  | '\\' :: e :: rest =>
    if ['\x22', '\\', '/', 'b', 'f', 'n', 'r', 't'].contains e then skipString rest else none
  | c :: rest => if c.toNat < 0x20 || c == '\\' then none else skipString rest

/-- What follows a value that starts at the first character. Fuel bounds how deep lists and objects nest. -/
def skipValue : Nat → List Char → Option (List Char)
  | 0, _ => none
  | fuel + 1, cs =>
    match cs with
    | '\x22' :: rest => skipString rest
    | '[' :: rest =>
      match skipBlanks rest with
      | ']' :: rest => some rest
      | rest => (items (item fuel) ']' (rest.length + 1) rest).map Prod.snd
    | '\x7b' :: rest =>
      match skipBlanks rest with
      | '\x7d' :: rest => some rest
      | rest => (items (entry fuel) '\x7d' (rest.length + 1) rest).map Prod.snd
    | 'n' :: 'u' :: 'l' :: 'l' :: rest | 't' :: 'r' :: 'u' :: 'e' :: rest => some rest
    | 'f' :: 'a' :: 'l' :: 's' :: 'e' :: rest => some rest
    | _ => (numeral? cs).map Prod.snd
where
  item (fuel : Nat) (cs : List Char) : Option (Unit × List Char) := (skipValue fuel cs).map fun rest => ((), rest)
  entry (fuel : Nat) (cs : List Char) : Option (Unit × List Char) :=
    match cs with
    | '\x22' :: rest => do
      match skipBlanks (← skipString rest) with
      | ':' :: rest => item fuel (skipBlanks rest)
      | _ => none
    | _ => none

def eachOnce (names : List String) (members : List (String × Json)) : Bool :=
  names.all fun name => (members.filter fun member => member.1 == name).length ≤ 1

def positional (item : Shape → List Char → Option (Json × List Char)) :
    List Shape → List Char → Option (List Json × List Char)
  | [], _ => none
  | shape :: shapes, cs => do
    let (first, rest) ← item shape cs
    match skipBlanks rest with
    | ']' :: rest => return ([first], rest)
    | ',' :: rest =>
      let (more, rest) ← positional item shapes (skipBlanks rest)
      return (first :: more, rest)
    | _ => none

/-- A value that starts at the first character, read by its shape; the lists and objects that are looked at nest at most
`depth` deep. -/
def valueAs? : (depth : Nat) → Shape → List Char → Option (Json × List Char)
  | _, .ignored, cs => (skipValue (cs.length + 1) cs).map fun rest => (.null, rest)
  | depth, .whole, cs => value? depth cs
  | 0, _, cs => scalar? cs
  | depth + 1, .list item, cs =>
    match cs with
    | '[' :: rest =>
      match skipBlanks rest with
      | ']' :: rest => some (.array [], rest)
      | rest => (items (valueAs? depth item) ']' (rest.length + 1) rest).map fun (xs, rest) => (.array xs, rest)
    | _ => scalar? cs
  | depth + 1, .record members, cs =>
    match cs with
    | '[' :: rest =>
      match skipBlanks rest with
      | ']' :: rest => some (.array [], rest)
      | rest => (positional (valueAs? depth) (members.map Prod.snd) rest).map fun (xs, rest) => (.array xs, rest)
    | '\x7b' :: rest =>
      match skipBlanks rest with
      | '\x7d' :: rest => some (.object [], rest)
      | rest => do
        let (found, rest) ← items (entry depth members) '\x7d' (rest.length + 1) rest
        if eachOnce (members.map Prod.fst) found then return (.object found, rest) else none
    | _ => scalar? cs
where
  entry (depth : Nat) (members : List (String × Shape)) (cs : List Char) : Option ((String × Json) × List Char) :=
    match cs with
    | '\x22' :: rest => do
      let (name, rest) ← stringBody (rest.length + 1) rest
      let name := String.ofList name
      match skipBlanks rest with
      | ':' :: rest =>
        let (json, rest) ← valueAs? depth ((members.lookup name).getD .ignored) (skipBlanks rest)
        return ((name, json), rest)
      | _ => none
    | _ => none

def parseAs? (shape : Shape) (text : String) : Option Json := do
  let (json, rest) ← valueAs? maxDepth shape (skipBlanks text.toList)
  if (skipBlanks rest).isEmpty then return json else none

end SqlLens.Json
