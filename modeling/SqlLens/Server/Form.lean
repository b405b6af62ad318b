import SqlLens.Json.Basic
import SqlLens.Text.Escape
import SqlLens.Uri.Basic

/-!
Forms of the parameters that messages carry.

`Form.read` checks a value against a form. What it gives back has every record as an object with all its members, those
that may be missing as null, and every address in its normal form; otherwise it says what is wrong. A record may also be
written as the list of its members, unless it takes in the members of other records. The members of objects are expected
to be in the order of their names, each name once.
-/

namespace SqlLens.Server

mutual
inductive Form where
  | any
  | text
  | flag
  | natural
  | integer
  | number
  | address
  | word (names : List String)
  | optional (inner : Form)
  /-- As a member it may be missing, in a list of members too. -/
  | lenient (inner : Form)
  | switch (inner : Form)
  | list (item : Form)
  | pair (item : Form)
  | table (byAddress : Bool) (value : Form)
  | choice (name : String) (first second : Form)
  | tagged (tag : String) (variants : Layout)
  /-- Named members; `groups` are forms that are read from the other members of the same object. Without groups, and if
  `isListable`, a list of the members will do. -/
  | record (name : String) (isListable : Bool) (members : Layout) (groups : Layout)

inductive Layout where
  | nil
  | cons (name : String) (form : Form) (rest : Layout)
end

namespace Layout

def of : List (String × Form) → Layout
  | [] => nil
  | (name, form) :: rest => cons name form (of rest)

def size : Layout → Nat
  | nil => 0
  | cons _ _ rest => rest.size + 1

def names : Layout → List String
  | nil => []
  | cons name _ rest => name :: rest.names

end Layout

/-! ### Messages -/

def described : Json → String
  | .null => "null"
  | .bool true => "boolean \x60true\x60"
  | .bool false => "boolean \x60false\x60"
  | .integer value => "integer \x60" ++ toString value ++ "\x60"
  | .decimal literal => "floating point \x60" ++ literal ++ "\x60"
  | .string value => "string " ++ Text.escaped value
  | .array _ => "sequence"
  | .object _ => "map"

def wrongType (json : Json) (expected : String) : String :=
  "invalid type: " ++ described json ++ ", expected " ++ expected

def wrongLength (length : Nat) (expected : String) : String :=
  "invalid length " ++ toString length ++ ", expected " ++ expected

def elements (count : Nat) : String := toString count ++ if count = 1 then " element" else " elements"

def oneOf (names : List String) : String :=
  let quoted := names.map fun name => "\x60" ++ name ++ "\x60"
  match quoted with
  | [] => "there are no variants"
  | [only] => only
  | [first, second] => first ++ " or " ++ second
  | all => "one of " ++ Text.join ", " all

/-! ### Values without parts -/

def readInteger (least greatest : Int) (expected : String) : Json → Except String Json
  | .integer value =>
    if least ≤ value ∧ value ≤ greatest then .ok (.integer value)
    else .error ("invalid value: integer \x60" ++ toString value ++ "\x60, expected " ++ expected)
  | other => .error (wrongType other expected)

def readUri (text : String) : Except String Uri :=
  match Uri.parse text with
  | .ok uri => .ok uri
  | .error fault => .error (fault.message ++ ": " ++ Text.escaped text)

def readAddress : Json → Except String Json
  | .string text => do return .string (← readUri text).text
  | other => .error (wrongType other "a string representing an URL")

def readWord (names : List String) : Json → Except String Json
  | .string name => known name
  | .object [(name, value)] => do
    let word ← known name
    match value with
    | .null => return word
    | other => .error (wrongType other "unit")
  | .object _ => .error "invalid value: map, expected map with a single key"
  | other => .error (wrongType other "string or map")
where
  known (name : String) : Except String Json :=
    if names.contains name then .ok (.string name)
    else .error ("unknown variant \x60" ++ name ++ "\x60, expected " ++ oneOf names)

/-! ### Members of records -/

/-- What became of a member: its name, whether it may be missing, and what was read if it is there. -/
structure Found where
  name : String
  isOptional : Bool
  value : Option (Except String Json)

def firstFault? (found : List Found) : Option String :=
  let faults := found.filterMap fun member =>
    match member.value with
    | some (.error fault) => some (member.name, fault)
    | _ => none
  ((faults.mergeSort fun a b => a.1 ≤ b.1).head?).map Prod.snd

/-- The members of a record. Faults of members come first, in the order of names; then the first member that is missing.
-/
def collect (found : List Found) : Except String (List (String × Json)) :=
  match firstFault? found with
  | some fault => .error fault
  | none =>
    found.mapM fun member =>
      match member.value with
      | some (.ok value) => .ok (member.name, value)
      | some (.error fault) => .error fault
      | none =>
        if member.isOptional then .ok (member.name, .null)
        else .error ("missing field \x60" ++ member.name ++ "\x60")

namespace Form

def isOptional : Form → Bool
  | optional _ | lenient _ => true
  | _ => false

def isLenient : Form → Bool
  | lenient _ => true
  | _ => false

end Form

/-! ### Reading -/

/-- The tag of an object or of a list, with the value that is left without it. A tag may be a number. -/
def cutTag? (tag : String) (names : List String) : Json → Option (String × Json)
  | .object members => do
    let name ← nameOf (← Json.lookup tag members)
    return (name, .object (members.filter fun member => member.1 ≠ tag))
  | .array (first :: rest) => do return (← nameOf first, .array rest)
  | _ => none
where
  nameOf : Json → Option String
    | .string name => some name
    | .integer (.ofNat n) => names[n]?
    | _ => none

mutual
/-- Reads a value. Values of groups and choices are read from a copy (`copied`), for which the message about too many
items is a different one. -/
def Form.read (copied : Bool) : Form → Json → Except String Json
  | .any, json => .ok json
  | .text, json =>
    match json with
    | .string value => .ok (.string value)
    | other => .error (wrongType other "a string")
  | .flag, json =>
    match json with
    | .bool value => .ok (.bool value)
    | other => .error (wrongType other "a boolean")
  | .natural, json => readInteger 0 4294967295 "u32" json
  | .integer, json => readInteger (-2147483648) 2147483647 "i32" json
  | .number, json =>
    match json with
    | .integer value => .ok (.integer value)
    | .decimal literal => .ok (.decimal literal)
    | other => .error (wrongType other "f32")
  | .address, json => readAddress json
  | .word names, json => readWord names json
  | .optional inner, json =>
    match json with
    | .null => .ok .null
    | other => inner.read copied other
  | .lenient inner, json => inner.read copied json
  | .switch inner, json =>
    match json with
    | .null | .bool _ => .ok .null
    | other => inner.read false other
  | .list item, json =>
    match json with
    | .array items => do return .array (← items.mapM (item.read copied))
    | other => .error (wrongType other "a sequence")
  | .pair item, json =>
    match json with
    | .array [first, second] => do return .array [← item.read copied first, ← item.read copied second]
    | .array items => .error (wrongLength items.length "an array of length 2")
    | other => .error (wrongType other "an array of length 2")
  | .table byAddress value, json =>
    match json with
    | .object members => do
      let entries ← members.mapM fun (name, given) => do
        if byAddress then let _ ← readUri name
        return (name, ← value.read copied given)
      return .object entries
    | other => .error (wrongType other (if byAddress then "map" else "a map"))
  | .choice name first second, json =>
    match first.read true json with
    | .ok value => .ok value
    | .error _ =>
      match second.read true json with
      | .ok value => .ok value
      | .error _ => .error ("data did not match any variant of untagged enum " ++ name)
  | .tagged tag variants, json =>
    match cutTag? tag variants.names json with
    | none => .error ("missing field \x60" ++ tag ++ "\x60")
    | some (name, rest) => variants.readVariant name rest
  | .record name isListable members groups, json =>
    match json with
    | .object given => do
      let own ← collect (members.findIn copied given)
      let others ← groups.gather (given.filter fun member => !members.names.contains member.1)
      return .object (own ++ others)
    | .array items =>
      if groups.size > 0 || !isListable then .error (wrongType json ("struct " ++ name))
      else do
        let own ← members.takeFrom copied (name ++ " with " ++ elements members.size) 0 items
        if items.length > members.size then
          .error (wrongLength items.length
            (if copied then elements members.size ++ " in sequence" else "fewer elements in array"))
        else return .object own
    | other => .error (wrongType other ("struct " ++ name))

def Layout.findIn (copied : Bool) : Layout → List (String × Json) → List Found
  | .nil, _ => []
  | .cons name form rest, given =>
    ⟨name, form.isOptional, (Json.lookup name given).map (form.read copied)⟩ :: rest.findIn copied given

def Layout.takeFrom (copied : Bool) (record : String) (index : Nat) :
    Layout → List Json → Except String (List (String × Json))
  | .nil, _ => .ok []
  | .cons name form rest, [] =>
    if form.isLenient then do
      let others ← rest.takeFrom copied record (index + 1) []
      return (name, .null) :: others
    else .error (wrongLength index ("struct " ++ record))
  | .cons name form rest, item :: items => do
    let value ← form.read copied item
    let others ← rest.takeFrom copied record (index + 1) items
    return (name, value) :: others

def Layout.gather : Layout → List (String × Json) → Except String (List (String × Json))
  | .nil, _ => .ok []
  | .cons _ form rest, given => do
    let own ← form.read true (.object given)
    let others ← rest.gather given
    return (own.object?.getD []) ++ others

def Layout.readVariant (tag : String) : Layout → Json → Except String Json
  | .nil, _ => .error ("unknown variant \x60" ++ tag ++ "\x60")
  | .cons name form rest, json => if name = tag then form.read true json else rest.readVariant tag json
end

end SqlLens.Server
