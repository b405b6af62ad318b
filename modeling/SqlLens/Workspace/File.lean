import SqlLens.Schema.Catalog
import SqlLens.Workspace.Job

/-!
Jobs on the files of a workspace.

A text is read and resolved against the tables its paths name, which are fetched first. The artifact is kept for the
next job only if every one of those tables was fetched or is known to be missing; otherwise a later job tries again.
-/

namespace SqlLens

structure Supply where
  tables : Catalog
  /-- Paths that could not be fetched although the tables may exist, with the place that names them first. -/
  unavailable : List (String × Span × FetchError)

namespace Supply

def empty : Supply := ⟨.empty, []⟩

variable (supply : Supply)

def note (path : String) (span : Span) : Except WorkspaceError Table → Except WorkspaceError Supply
  | .ok table => .ok { supply with tables := supply.tables.insert path table }
  | .error (.metadata error) =>
    if error.isNotFound then .ok supply
    else .ok { supply with unavailable := supply.unavailable ++ [(path, span, error)] }
  | .error error => .error error

def warnings : List Diagnostic :=
  supply.unavailable.map fun (path, span, error) =>
    ⟨.metadataUnavailable, .warn, "Metadata unavailable for " ++ path ++ ": " ++ error.message, some span⟩

def disproves (diagnostic : Diagnostic) : Bool :=
  diagnostic.code = .tableNotFound &&
    supply.unavailable.any fun (path, _, _) => diagnostic.message == "Table not found: " ++ path

def artifact (text : String) (script : Script) : Artifact :=
  let built := Artifact.build text script supply.tables.find? supply.warnings
  { built with diagnostics := built.diagnostics.filter fun diagnostic => !supply.disproves diagnostic }

def isComplete : Bool := supply.unavailable.isEmpty

end Supply

def fetchTable (written : String) (ticket : Option Ticket) : Attempt Table := Job.perform (.fetch written ticket)

def gather (ticket : Option Ticket) (supply : Supply) : List (String × Span) → Attempt Supply
  | [] => return supply
  | (path, span) :: rest => do
    let outcome ← Attempt.perform (.fetch path ticket)
    match supply.note path span outcome with
    | .ok supply => gather ticket supply rest
    | .error error => throw error

def buildFile (document : Document) (ticket : Option Ticket) : Attempt Artifact := do
  let script := Script.read document.text
  let supply ← gather ticket .empty script.tree.tablePaths
  let artifact := supply.artifact document.text script
  if supply.isComplete then
    Attempt.perform (.keepArtifact document.uri artifact)
  return artifact

def parseFile (uri : Uri) (ticket : Option Ticket) : Attempt Artifact := do
  match ← Attempt.perform (.readDocument uri) with
  | none => throw (.documentNotFound uri)
  | some document =>
    match ← Attempt.perform (.readArtifact uri) with
    | some kept => if kept.isCurrent document.text then return kept else buildFile document ticket
    | none => buildFile document ticket

def diagnose (uri : Uri) (ticket : Option Ticket) : Attempt (List Editor.Marker) := do
  let file ← parseFile uri ticket
  if ← Attempt.perform (.isCancelled ticket) then throw .cancelled
  return file.diagnostics.map (Editor.Marker.of file.text)

def updateFile (document : Document) : Job Unit := do
  Job.perform (.dropArtifact document.uri)
  Job.perform (.putDocument document)

def deleteFile (uri : Uri) : Job Unit := do
  Job.perform (.dropArtifact uri)
  Job.perform (.dropDocument uri)

/-! ### Publication -/

def publishRun (uri : Uri) (ticket : Ticket) : Job Unit := do
  match ← (diagnose uri (some ticket)).run with
  | .error _ => return
  | .ok markers =>
    Job.perform .enterGate
    if ← Job.perform (.isCancelled (some ticket)) then
      Job.perform .leaveGate
    else
      Job.perform (.publish ticket.number uri markers)
      Job.perform .leaveGate

def clearRun (uri : Uri) (turn : Nat) : Job Unit := do
  Job.perform .enterGate
  Job.perform (.publish turn uri [])
  Job.perform .leaveGate

end SqlLens
