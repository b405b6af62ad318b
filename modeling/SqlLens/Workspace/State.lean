import SqlLens.Settings.Basic
import SqlLens.Store.Basic
import SqlLens.Workspace.File

/-!
The state that jobs share, and what each action does to it.

Most actions happen at once. Fetching, publishing and sleeping may take time, and the gate may be closed: such an action
has a beginning, after which its job waits, and an end.
-/

namespace SqlLens

structure Artifacts where
  entries : List (Uri × Artifact)

namespace Artifacts

def empty : Artifacts := ⟨[]⟩

def find? (artifacts : Artifacts) (uri : Uri) : Option Artifact := artifacts.entries.lookup uri

def erase (artifacts : Artifacts) (uri : Uri) : Artifacts :=
  ⟨artifacts.entries.filter fun entry => entry.1 ≠ uri⟩

def insert (artifacts : Artifacts) (uri : Uri) (artifact : Artifact) : Artifacts :=
  ⟨(uri, artifact) :: (artifacts.erase uri).entries⟩

end Artifacts

structure Workspace where
  settings : Settings
  files : Files
  store : Store
  now : Nat
  delay : Nat
  documents : Documents
  artifacts : Artifacts
  cancelled : List Ticket
  occupied : Bool
  events : List Event
  notices : List Notice

inductive Progress (action : Action) where
  | finished (result : action.Result)
  | after (milliseconds : Nat)
  | atGate

namespace Workspace

def empty (settings : Settings) (files : Files) (store : Store) (delay : Nat) : Workspace :=
  ⟨settings, files, store, 0, delay, .empty, .empty, [], false, [], []⟩

variable (workspace : Workspace)

def isCancelled : Option Ticket → Bool
  | some ticket => workspace.cancelled.contains ticket
  | none => false

def isInTime : Bool :=
  workspace.store.latency = 0 || workspace.store.latency < workspace.settings.metadata.timeout

def requestTime : Nat :=
  if workspace.isInTime then workspace.store.latency else workspace.settings.metadata.timeout

def beginFetch (written : String) (ticket : Option Ticket) :
    Progress (.fetch written ticket) × Workspace :=
  match TablePath.parse workspace.settings.project written with
  | .error error => (.finished (.error (.metadata error)), workspace)
  | .ok path =>
    if workspace.isCancelled ticket then (.finished (.error .cancelled), workspace)
    else
      match workspace.store.ask workspace.now path with
      | (some table, store) => (.finished (.ok table), { workspace with store := store })
      | (none, store) => (.after workspace.requestTime, { workspace with store := store })

def endFetch (written : String) (ticket : Option Ticket) :
    Except WorkspaceError Table × Workspace :=
  match TablePath.parse workspace.settings.project written with
  | .error error => (.error (.metadata error), workspace)
  | .ok path =>
    if workspace.isCancelled ticket then (.error .cancelled, workspace)
    else if !workspace.isInTime then (.error (.metadata (.timeout workspace.settings.metadata.timeout)), workspace)
    else
      match workspace.store.answer workspace.files workspace.now path with
      | (.ok table, store) => (.ok table, { workspace with store := store })
      | (.error error, store) => (.error (.metadata error), { workspace with store := store })

def tell (notice : Notice) : Workspace :=
  { workspace with notices := workspace.notices ++ [notice] }

def start : (action : Action) → Progress action × Workspace
  | .readDocument uri => (.finished (workspace.documents.find? uri), workspace)
  | .putDocument document => (.finished (), { workspace with documents := workspace.documents.insert document })
  | .dropDocument uri => (.finished (), { workspace with documents := workspace.documents.erase uri })
  | .readArtifact uri => (.finished (workspace.artifacts.find? uri), workspace)
  | .keepArtifact uri artifact =>
    (.finished (), { workspace with artifacts := workspace.artifacts.insert uri artifact })
  | .dropArtifact uri => (.finished (), { workspace with artifacts := workspace.artifacts.erase uri })
  | .fetch written ticket => workspace.beginFetch written ticket
  | .isCancelled ticket => (.finished (workspace.isCancelled ticket), workspace)
  | .enterGate =>
    if workspace.occupied then (.atGate, workspace) else (.finished (), { workspace with occupied := true })
  | .leaveGate => (.finished (), { workspace with occupied := false })
  | .publish .. => (.after workspace.delay, workspace)
  | .log level message => (.finished (), workspace.tell (.logged level message))
  | .emit event => (.finished (), { workspace with events := workspace.events ++ [event] })
  | .sleep milliseconds => (.after milliseconds, workspace)

def complete : (action : Action) → action.Result × Workspace
  | .readDocument uri => (workspace.documents.find? uri, workspace)
  | .readArtifact uri => (workspace.artifacts.find? uri, workspace)
  | .fetch written ticket => workspace.endFetch written ticket
  | .isCancelled ticket => (workspace.isCancelled ticket, workspace)
  | .publish turn uri markers => ((), workspace.tell (.published turn uri markers))
  | .enterGate => ((), { workspace with occupied := true })
  | .putDocument _ | .dropDocument _ | .keepArtifact .. | .dropArtifact _ | .leaveGate | .log .. | .emit _
  | .sleep _ => ((), workspace)

end Workspace

end SqlLens
