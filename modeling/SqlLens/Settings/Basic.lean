import SqlLens.Files.Basic
import SqlLens.Toml.Parser
import SqlLens.Toml.Writer

/-!
Settings of the server, read from a file in the folder it works in.
-/

namespace SqlLens

inductive TableSource where
  | service
  | snapshots
deriving DecidableEq

def TableSource.word : TableSource → String
  | service => "bigquery"
  | snapshots => "offline"

def TableSource.ofWord? : String → Option TableSource
  | "bigquery" => some service
  | "offline" => some snapshots
  | _ => none

structure MetadataSettings where
  source : TableSource
  lifetime : Nat
  timeout : Nat
  folder : String
deriving DecidableEq

def MetadataSettings.default : MetadataSettings := ⟨.service, 300, 10000, "schemas"⟩

structure Settings where
  project : Option String
  logLevel : String
  metadata : MetadataSettings
  diagnostics : Bool
  root : String
deriving DecidableEq

inductive SettingsError where
  | unreadable (fault : FileFault)
  | malformed (line column : Nat)
deriving DecidableEq

def SettingsError.message : SettingsError → String
  | unreadable fault => "IO error: " ++ fault.message
  | malformed line column =>
    "Parse error: TOML parse error at line " ++ toString line ++ ", column " ++ toString column

namespace Settings

open Toml (Located Place)

def default (root : String) : Settings := ⟨none, "info", .default, true, root⟩

def fileName : String := "bqls.toml"

/-! ### Reading -/

abbrev Decoded := Except (Option Place)

def orAt (place : Place) : Decoded α → Except Place α
  | .ok value => .ok value
  | .error found => .error (found.getD place)

def textOf : Located Toml → Decoded String
  | ⟨_, .string value⟩ => .ok value
  | ⟨place, _⟩ => .error place

def boolOf : Located Toml → Decoded Bool
  | ⟨_, .bool value⟩ => .ok value
  | ⟨place, _⟩ => .error place

def natOf : Located Toml → Decoded Nat
  | ⟨_, .integer (.ofNat value)⟩ => .ok value
  | ⟨place, _⟩ => .error place

def wordOf (place : Option Place) (word : String) : Decoded TableSource :=
  match TableSource.ofWord? word with
  | some source => .ok source
  | none => .error place

/-- A source, by its word or as the only key of a table without content. -/
def sourceOf : Located Toml → Decoded TableSource
  | ⟨place, .string word⟩ => wordOf place word
  | ⟨place, .table [(key, content)]⟩ => do
    let source ← wordOf (some key.place) key.name
    match content.value with
    | .table [] | .array [] => return source
    | _ => .error (content.place <|> place)
  | ⟨place, _⟩ => .error place

def readEntries (change : String → Located Toml → α → Decoded α) (start : α)
    (entries : List (Toml.Key × Located Toml)) : Except Place α :=
  entries.foldlM (fun made entry => orAt entry.1.place (change entry.1.name entry.2 made)) start

/-- Changes settings by the members of a value: those of a table, or the items of a list in the order of `names`. A
moment has no members. -/
def readMembers (names : List String) (change : String → Located Toml → α → Decoded α) (start : α) :
    Located Toml → Decoded α
  | ⟨_, .table entries⟩ => (readEntries change start entries).mapError some
  | ⟨_, .array items⟩ => (names.zip items).foldlM (fun made item => change item.1 item.2 made) start
  | ⟨_, .moment⟩ => .ok start
  | ⟨place, _⟩ => .error place

def setMetadata (name : String) (value : Located Toml) (settings : MetadataSettings) : Decoded MetadataSettings :=
  match name with
  | "backend" => return { settings with source := ← sourceOf value }
  | "cache_ttl_secs" => return { settings with lifetime := ← natOf value }
  | "request_timeout_ms" => return { settings with timeout := ← natOf value }
  | "offline_dir" => return { settings with folder := ← textOf value }
  | _ => return settings

def metadataOf (value : Located Toml) : Decoded MetadataSettings :=
  readMembers ["backend", "cache_ttl_secs", "request_timeout_ms", "offline_dir"] setMetadata .default value

def setDiagnostics (name : String) (value : Located Toml) (enabled : Bool) : Decoded Bool :=
  if name = "enabled" then boolOf value else .ok enabled

def diagnosticsOf (value : Located Toml) : Decoded Bool := readMembers ["enabled"] setDiagnostics true value

def setEntry (name : String) (value : Located Toml) (settings : Settings) : Decoded Settings :=
  match name with
  | "project_id" => return { settings with project := some (← textOf value) }
  | "log_level" => return { settings with logLevel := ← textOf value }
  | "metadata" => return { settings with metadata := ← metadataOf value }
  | "diagnostics" => return { settings with diagnostics := ← diagnosticsOf value }
  | _ => return settings

def ofText (root content : String) : Except SettingsError Settings :=
  let read : Except Place Settings := do
    let entries ← Toml.parse content
    readEntries setEntry (default root) entries
  read.mapError fun place =>
    let (line, column) := Toml.position content place
    .malformed line column

def parse (content : String) : Except SettingsError Settings := ofText "" content

def load (files : Files) (path : String) : Except SettingsError Settings :=
  match files.read path with
  | .error fault => .error (.unreadable fault)
  | .ok content => ofText (Files.parent path) content

/-- Loads the settings of a folder, or takes those where nothing is given. -/
def discover (files : Files) (folder : String) : Except SettingsError Settings :=
  let path := Files.join folder fileName
  if files.hasFile path then load files path else .ok (default folder)

def snapshotFolder (settings : Settings) : String := Files.join settings.root settings.metadata.folder

/-! ### Writing -/

def text (settings : Settings) : String :=
  let project := match settings.project with
    | some project => "project_id = " ++ Toml.textOf project ++ "\n"
    | none => ""
  project ++ "log_level = " ++ Toml.textOf settings.logLevel ++ "\n\n[metadata]\nbackend = \"" ++
    settings.metadata.source.word ++ "\"\ncache_ttl_secs = " ++ toString settings.metadata.lifetime ++
    "\nrequest_timeout_ms = " ++ toString settings.metadata.timeout ++ "\noffline_dir = " ++
    Toml.textOf settings.metadata.folder ++ "\n\n[diagnostics]\nenabled = " ++
    (if settings.diagnostics then "true" else "false") ++ "\n"

end Settings

end SqlLens
