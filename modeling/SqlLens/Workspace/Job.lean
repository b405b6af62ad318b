import SqlLens.Editor.Marker
import SqlLens.Script.Artifact
import SqlLens.Workspace.Document
import SqlLens.Workspace.Error

/-!
Jobs: work on shared state, one action after another.

Several jobs share the open documents, the artifacts, the store of tables and a gate. A job is the tree of the actions
it takes, with a branch for each result an action may have. Between two actions of a job anything may happen, so what a
job can rely on is visible in the tree.
-/

namespace SqlLens

structure Ticket where
  number : Nat
deriving DecidableEq

inductive Event where
  | changed (uri : Uri)
  | closed (uri : Uri)
deriving DecidableEq

inductive LogLevel where
  | error
  | info
deriving DecidableEq

inductive Notice where
  | published (turn : Nat) (uri : Uri) (markers : List Editor.Marker)
  | logged (level : LogLevel) (message : String)
deriving DecidableEq

inductive Action where
  | readDocument (uri : Uri)
  | putDocument (document : Document)
  | dropDocument (uri : Uri)
  | readArtifact (uri : Uri)
  | keepArtifact (uri : Uri) (artifact : Artifact)
  | dropArtifact (uri : Uri)
  | fetch (written : String) (ticket : Option Ticket)
  | isCancelled (ticket : Option Ticket)
  | enterGate
  | leaveGate
  | publish (turn : Nat) (uri : Uri) (markers : List Editor.Marker)
  | log (level : LogLevel) (message : String)
  | emit (event : Event)
  | sleep (milliseconds : Nat)

@[reducible]
def Action.Result : Action → Type
  | readDocument _ => Option Document
  | readArtifact _ => Option Artifact
  | fetch .. => Except WorkspaceError Table
  | isCancelled _ => Bool
  | putDocument _ | dropDocument _ | keepArtifact .. | dropArtifact _ | enterGate | leaveGate | publish .. | log ..
  | emit _ | sleep _ => Unit

inductive Job (α : Type) where
  | done (value : α)
  | act (action : Action) (next : action.Result → Job α)

namespace Job

def bind : Job α → (α → Job β) → Job β
  | done value, f => f value
  | act action next, f => act action fun result => (next result).bind f

instance : Monad Job where
  pure := done
  bind := bind

def perform (action : Action) : Job action.Result := act action done

end Job

abbrev Attempt := ExceptT WorkspaceError Job

def Attempt.perform (action : Action) : Attempt action.Result := ExceptT.lift (Job.perform action)

end SqlLens
