import SqlLens.Files.Basic
import SqlLens.Json.Writer
import SqlLens.Schema.Json
import SqlLens.Store.Cache

/-!
Where tables are fetched from.

A store has its tables in memory or as snapshots in a folder, and may keep a cache in front of them. Fetching has two
parts, because an answer may take a while: `Store.ask` looks into the cache and counts the request, `Store.answer` gives
the answer and puts it into the cache.
-/

namespace SqlLens

structure MemoryStore where
  tables : List (String × Table)
  /-- Errors by the keys of paths; they come before tables. -/
  errors : List (String × FetchError)
  calls : Nat
  latency : Nat
  reachable : Bool

namespace MemoryStore

def empty : MemoryStore := ⟨[], [], 0, 0, true⟩

def addTable (store : MemoryStore) (key : String) (table : Table) : MemoryStore :=
  { store with tables := (key, table) :: store.tables }

def addError (store : MemoryStore) (key : String) (error : FetchError) : MemoryStore :=
  { store with errors := (key, error) :: store.errors }

def clearErrors (store : MemoryStore) : MemoryStore := { store with errors := [] }

def answer (store : MemoryStore) (path : TablePath) : Except FetchError Table :=
  match store.errors.lookup path.canonical with
  | some error => .error error
  | none =>
    match store.tables.lookup path.canonical with
    | some table => .ok table
    | none => .error (.tableNotFound path.canonical)

def test (store : MemoryStore) : Except FetchError Unit :=
  if store.reachable then .ok () else .error (.network "Simulated connection failure")

end MemoryStore

namespace Snapshot

def file (folder : String) (path : TablePath) : String := Files.join folder (path.canonical ++ ".json")

def text (table : Table) : String := table.toJson.pretty

def answer (folder : String) (files : Files) (path : TablePath) : Except FetchError Table :=
  let file := file folder path
  match files.read file with
  | .ok content =>
    match Table.ofText? content with
    | some table => .ok table
    | none => .error (.invalidResponse ("Malformed snapshot " ++ file))
  | .error .missing => .error (.tableNotFound path.canonical)
  | .error fault => .error (.configuration ("Cannot read " ++ file ++ ": " ++ fault.message))

/-- Writes the snapshot of a table and makes the folder if it is missing. The folder stays when the file cannot be
written. -/
def save (folder : String) (files : Files) (path : TablePath) (table : Table) : Except FetchError Unit × Files :=
  match files.makeFolder folder with
  | (.error fault, made) =>
    (.error (.configuration ("Cannot create " ++ folder ++ ": " ++ fault.message)), made)
  | (.ok (), made) =>
    let file := file folder path
    match made.write file (text table) with
    | .error fault => (.error (.configuration ("Cannot write " ++ file ++ ": " ++ fault.message)), made)
    | .ok written => (.ok (), written)

def test (folder : String) (files : Files) : Except FetchError Unit :=
  if files.hasFolder folder then .ok ()
  else .error (.configuration ("Snapshot directory " ++ folder ++ " does not exist"))

end Snapshot

inductive Backing where
  | memory (store : MemoryStore)
  | snapshots (folder : String)

structure Store where
  backing : Backing
  cache : Option Cache

namespace Store

variable (store : Store)

def name : String :=
  match store.backing with
  | .memory _ => "Mock"
  | .snapshots _ => "Offline"

def latency : Nat :=
  match store.backing with
  | .memory memory => memory.latency
  | .snapshots _ => 0

def mapMemory (f : MemoryStore → MemoryStore) (store : Store) : Store :=
  match store.backing with
  | .memory memory => { store with backing := .memory (f memory) }
  | .snapshots _ => store

def calls : Nat :=
  match store.backing with
  | .memory memory => memory.calls
  | .snapshots _ => 0

def ask (now : Nat) (path : TablePath) : Option Table × Store :=
  let (found, cache) := match store.cache with
    | none => (none, none)
    | some cache =>
      let (found, cache) := cache.get now path
      (found, some cache)
  match found with
  | some table => (some table, { store with cache := cache })
  | none => (none, mapMemory (fun memory => { memory with calls := memory.calls + 1 }) { store with cache := cache })

def answer (files : Files) (now : Nat) (path : TablePath) : Except FetchError Table × Store :=
  let result := match store.backing with
    | .memory memory => memory.answer path
    | .snapshots folder => Snapshot.answer folder files path
  match result with
  | .ok table => (.ok table, { store with cache := store.cache.map (·.insert now path table) })
  | .error error => (.error error, store)

def fetch (files : Files) (now : Nat) (path : TablePath) : Except FetchError Table × Store :=
  match store.ask now path with
  | (some table, store) => (.ok table, store)
  | (none, store) => store.answer files now path

def test (files : Files) : Except FetchError Unit :=
  match store.backing with
  | .memory memory => memory.test
  | .snapshots folder => Snapshot.test folder files

def mapCache (f : Cache → Cache) (store : Store) : Store := { store with cache := store.cache.map f }

def cached : Nat := (store.cache.map Cache.size).getD 0

def serviceError : FetchError :=
  .configuration "BigQuery support not compiled. Rebuild with: cargo build --features bigquery"

end Store

end SqlLens
