/-!
Values in TOML, and documents as they are put together.

A document is a table. Its lines add to it: a header opens a table, or one more table of a list, and a line with a key
puts a value under the key. A key with dots goes through tables on its way, and makes them where they are missing. No
table may be opened twice, and keys with dots add only to tables that they have made themselves.

Keys and values know where they stand.
-/

namespace SqlLens

namespace Toml

abbrev Place := Nat

structure Key where
  name : String
  place : Place

structure Located (α : Type) where
  place : Option Place
  value : α

end Toml

/-- A value in TOML. Of numbers that are not integers and of moments only the kind is kept. -/
inductive Toml where
  | string (value : String)
  | integer (value : Int)
  | float
  | bool (value : Bool)
  | moment
  | array (items : List (Toml.Located Toml))
  | table (entries : List (Toml.Key × Toml.Located Toml))

namespace Toml

inductive Role where
  | implicit
  | opened
  | dotted
deriving DecidableEq

structure Level (α : Type) where
  role : Role
  place : Option Place
  entries : List (Key × α)

def Level.find? (name : String) (level : Level α) : Option α :=
  (level.entries.find? fun entry => entry.1.name = name).map Prod.snd

def Level.push (key : Key) (content : α) (level : Level α) : Level α :=
  { level with entries := level.entries ++ [(key, content)] }

def Level.replace (name : String) (content : α) (level : Level α) : Level α :=
  { level with entries := level.entries.map fun entry => if entry.1.name = name then (entry.1, content) else entry }

def Level.erase (name : String) (level : Level α) : Level α :=
  { level with entries := level.entries.filter fun entry => entry.1.name ≠ name }

inductive Draft where
  | value (value : Located Toml)
  | table (level : Level Draft)
  | tables (items : List (Level Draft))

mutual
def Draft.finish : Draft → Located Toml
  | .value value => value
  | .table level => ⟨level.place, .table (finishEntries level.entries)⟩
  | .tables items => ⟨items.head?.bind Level.place, .array (finishItems items)⟩

def finishEntries : List (Key × Draft) → List (Key × Located Toml)
  | [] => []
  | (key, draft) :: rest => (key, draft.finish) :: finishEntries rest

def finishItems : List (Level Draft) → List (Located Toml)
  | [] => []
  | level :: rest => ⟨level.place, .table (finishEntries level.entries)⟩ :: finishItems rest
end

/-- Goes down a path of keys, makes the tables that are missing, and changes the last one. A list of tables is entered
at its last table. -/
def descend (dotted : Bool) (change : Level Draft → Option (Level Draft)) :
    List Key → Level Draft → Option (Level Draft)
  | [], level => change level
  | key :: rest, level =>
    match level.find? key.name with
    | none => do
      let made ← descend dotted change rest ⟨if dotted then .dotted else .implicit, none, []⟩
      return level.push key (.table made)
    | some (.value _) => none
    | some (.tables items) => do
      let below ← descend dotted change rest (items.getLast?.getD ⟨.opened, none, []⟩)
      return level.replace key.name (.tables (items.dropLast ++ [below]))
    | some (.table below) =>
      if dotted && below.role = .opened then none
      else do return level.replace key.name (.table (← descend dotted change rest below))

def addEntry (key : Key) (value : Located Toml) (viaDots : Bool) (level : Level Draft) : Option (Level Draft) :=
  if (level.role = .dotted) ≠ viaDots then none
  else if (level.find? key.name).isSome then none
  else some (level.push key (.value value))

def assign (keys : List Key) (value : Located Toml) (level : Level Draft) : Option (Level Draft) :=
  match keys.getLast? with
  | none => none
  | some key =>
    let path := keys.dropLast
    descend true (addEntry key value (!path.isEmpty)) path level

variable (place : Place)

/-- Opens a table by a header at a place. One that headers of other tables went through comes after the others then. -/
def openTable (key : Key) (level : Level Draft) : Option (Level Draft) :=
  match level.find? key.name with
  | none => some (level.push key (.table ⟨.opened, some place, []⟩))
  | some (.table ⟨.implicit, _, below⟩) =>
    some ((level.erase key.name).push key (.table ⟨.opened, some place, below⟩))
  | some _ => none

def openItem (key : Key) (level : Level Draft) : Option (Level Draft) :=
  let made : Level Draft := ⟨.opened, some place, []⟩
  match level.find? key.name with
  | none => some (level.push key (.tables [made]))
  | some (.tables items) => some (level.replace key.name (.tables (items ++ [made])))
  | some _ => none

def atLast (change : Key → Level Draft → Option (Level Draft)) (path : List Key) (level : Level Draft) :
    Option (Level Draft) :=
  match path.getLast? with
  | none => none
  | some key => descend false (change key) path.dropLast level

structure Document where
  current : List Key
  root : Level Draft

namespace Document

def empty : Document := ⟨[], ⟨.opened, none, []⟩⟩

def addValue (keys : List Key) (value : Located Toml) (document : Document) : Option Document := do
  return { document with root := ← descend false (assign keys value) document.current document.root }

def addHeader (path : List Key) (document : Document) : Option Document := do
  return ⟨path, ← atLast (openTable place) path document.root⟩

def addItem (path : List Key) (document : Document) : Option Document := do
  return ⟨path, ← atLast (openItem place) path document.root⟩

def finish (document : Document) : List (Key × Located Toml) := finishEntries document.root.entries

end Document

def inlineTable (entries : List (List Key × Located Toml)) : Option Toml := do
  let made ← entries.foldlM (fun level entry => assign entry.1 entry.2 level) (⟨.opened, none, []⟩ : Level Draft)
  return .table (finishEntries made.entries)

end Toml

end SqlLens
