import SqlLens.Server.Message
import SqlLens.Workspace.System

/-!
The server: one message from the editor after another.

Before it is initialized and after it is shut down the server refuses requests and takes no notice of notifications.
-/

namespace SqlLens

namespace Server

inductive Phase where
  | fresh
  | initialized
  | shutDown
  | exited
deriving DecidableEq

end Server

structure Server where
  phase : Server.Phase
  system : System

namespace Server

def of (workspace : Workspace) : Server := ⟨.fresh, .of workspace⟩

/-! ### Jobs -/

def takeText (enabled : Bool) (document : Document) : Job Unit := do
  updateFile document
  if enabled then Job.perform (.emit (.changed document.uri))

def takeSave (enabled : Bool) (uri : Uri) : Option String → Job Unit
  | some text => do
    let known ← Job.perform (.readDocument uri)
    takeText enabled ⟨uri, text, (known.map Document.version).getD 0⟩
  | none => do
    if enabled then Job.perform (.emit (.changed uri))

def takeClose (uri : Uri) : Job Unit := do
  deleteFile uri
  Job.perform (.emit (.closed uri))

def answerHover (uri : Uri) (position : Position) : Job (Except Refusal Json) := do
  match ← (Hover.at? uri position).run with
  | .ok contents => return .ok (hoverResult contents)
  | .error error =>
    Job.perform (.log .error ("Hover failed: " ++ error.message))
    return .error (.failed error)

/-! ### Parameters -/

def documentOf? (params : Json) : Option Json := params.get? "textDocument"

def uriOf? (document : Json) : Option Uri := ((document.get? "uri").bind Json.string?).map Uri.mk

def versionOf? (document : Json) : Option Int := (document.get? "version").bind Json.integer?

def textOf? (json : Json) : Option String := (json.get? "text").bind Json.string?

def positionOf? (params : Json) : Option Position := do
  let position ← params.get? "position"
  let line ← (position.get? "line").bind Json.natural?
  let character ← (position.get? "character").bind Json.natural?
  return ⟨line, character⟩

def readParams (form : Form) : Option Json → Except Refusal Json
  | none => .error (.invalidParams "Missing params field")
  | some params =>
    match form.read false params with
    | .ok value => .ok value
    | .error fault => .error (.invalidParams fault)

/-- What a notification makes the server do; nothing if its parameters cannot be read. -/
def heed? (enabled : Bool) (method : String) (params : Option Json) : Option (Job Unit) :=
  let read (form : Form) : Option Json := (readParams form params).toOption
  match method with
  | "initialized" => do
    let _ ← read (.plain "InitializedParams" [])
    return Job.perform (.log .info "bqls initialized")
  | "textDocument/didOpen" => do
    let document ← (← read .opened) |> documentOf?
    return takeText enabled ⟨← uriOf? document, ← textOf? document, ← versionOf? document⟩
  | "textDocument/didChange" => do
    let given ← read .changed
    let document ← documentOf? given
    let changes ← (given.get? "contentChanges").bind Json.array?
    let last ← changes.getLast?
    return takeText enabled ⟨← uriOf? document, ← textOf? last, ← versionOf? document⟩
  | "textDocument/didSave" => do
    let given ← read .saved
    let document ← documentOf? given
    return takeSave enabled (← uriOf? document) (textOf? given)
  | "textDocument/didClose" => do
    let document ← (← read .closed) |> documentOf?
    return takeClose (← uriOf? document)
  | _ => none

def heeded : List String :=
  ["initialized", "textDocument/didOpen", "textDocument/didChange", "textDocument/didSave", "textDocument/didClose"]

/-! ### Calls -/

def refuse (call : Call) (refusal : Refusal) : Option Json := call.id.map fun id => answer id (.error refusal)

def Phase.refusal : Phase → Refusal
  | fresh => .notInitialized
  | _ => .invalidRequest

variable (server : Server)

def run (job : Job α) : Option α × Server :=
  match server.system.run job with
  | some (value, system) => (some value, { server with system := system })
  | none => (none, server)

def initializeSession (call : Call) : Option Json × Server :=
  if server.phase ≠ .fresh then (refuse call .invalidRequest, server)
  else
    match call.id, readParams .editorInfo call.params with
    | none, _ => (none, server)
    | some id, .error refusal => (some (answer id (.error refusal)), server)
    | some id, .ok _ => (some (answer id (.ok greeting)), { server with phase := .initialized })

def shutDownSession (call : Call) : Option Json × Server :=
  if server.phase ≠ .initialized then (refuse call server.phase.refusal, server)
  else
    let outcome : Except Refusal Json := match call.params with
      | none => .ok .null
      | some params => .error (.invalidParams ("Unexpected params: " ++ params.compact))
    (call.id.map fun id => answer id outcome, { server with phase := .shutDown })

def hoverRequest (id : Json) (params : Option Json) : Option Json × Server :=
  match readParams .hover params with
  | .error refusal => (some (answer id (.error refusal)), server)
  | .ok given =>
    match (documentOf? given).bind uriOf?, positionOf? given with
    | some uri, some position =>
      let (outcome, server) := server.run (answerHover uri position)
      (outcome.map (answer id), server)
    | _, _ => (none, server)

def request (call : Call) (id : Json) : Option Json × Server :=
  if call.method = "textDocument/hover" then server.hoverRequest id call.params
  else
    match unserved.lookup call.method with
    | none => (none, server)
    | some form =>
      match readParams form call.params with
      | .error refusal => (some (answer id (.error refusal)), server)
      | .ok _ => (some (answer id (.error .notServed)), server)

def notify (call : Call) : Server :=
  match heed? server.system.workspace.settings.diagnostics call.method call.params with
  | some job => (server.run job).2
  | none => server

def isNotification (method : String) : Bool := heeded.contains method || unheeded.contains method

def isKnown (method : String) : Bool :=
  method = "textDocument/hover" || isNotification method || (unserved.lookup method).isSome

def isOptionalMethod (method : String) : Bool := Text.startsWith ['$', '/'] method.toList

def take (call : Call) : Option Json × Server :=
  match call.method with
  | "initialize" => server.initializeSession call
  | "shutdown" => server.shutDownSession call
  | "exit" => (none, { server with phase := .exited })
  | method =>
    if !isKnown method then
      (if isOptionalMethod method then none else refuse call (.unknownMethod method), server)
    else if server.phase ≠ .initialized && method ≠ "$/cancelRequest" then (refuse call server.phase.refusal, server)
    else
      match call.id with
      | some id =>
        if isNotification method then (some (answer id (.error .invalidRequest)), server) else server.request call id
      | none => (none, server.notify call)

def receive (message : Json) : Option Json × Server := server.take (Call.of message.sorted)

def accept (message : Json) : Option Json × Server :=
  match Incoming.of message.sorted with
  | .call call => server.take call
  | .response => (none, server)
  | .malformed => (some (answer .null (.error .invalidRequest)), server)

/-- What the editor is told since the last time, as messages. Nothing is told after the end of a session. -/
def takeMessages : List Json × Server :=
  let (notices, system) := server.system.takeNotices
  (if server.phase = .exited then [] else notices.map noticeMessage, { server with system := system })

def pass (milliseconds : Nat) : Server := (server.run (Job.perform (.sleep milliseconds))).2

end Server

end SqlLens
