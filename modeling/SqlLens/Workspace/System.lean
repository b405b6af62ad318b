import SqlLens.Workspace.State

/-!
Running jobs side by side.

One job is in the foreground; runs in the background are started by a coordinator, which looks at events. A job goes on
until it has to wait. Jobs go on in the order in which they became able to, and when all wait the clock moves to the
earliest time somebody waits for. The coordinator keeps one ticket for each document, and cancels it before it starts
another run for the document.
-/

namespace SqlLens

structure Paused (α : Type) where
  action : Action
  next : action.Result → Job α
  /-- When the action ends; at the gate that is not known. -/
  due : Option Nat

inductive Stage (α : Type) where
  | ended (value : α)
  | paused (job : Paused α)

def Job.advance (clock : Nat) : Job α → Workspace → Stage α × Workspace
  | .done value, workspace => (.ended value, workspace)
  | .act action next, workspace =>
    match workspace.start action with
    | (.finished result, workspace) => (next result).advance clock workspace
    | (.after 0, workspace) =>
      let (result, workspace) := workspace.complete action
      (next result).advance clock workspace
    | (.after milliseconds, workspace) => (.paused ⟨action, next, some (clock + milliseconds)⟩, workspace)
    | (.atGate, workspace) => (.paused ⟨action, next, none⟩, workspace)

namespace Paused

def advance (clock : Nat) (paused : Paused α) (workspace : Workspace) : Stage α × Workspace :=
  let (result, workspace) := workspace.complete paused.action
  (paused.next result).advance clock workspace

def listensTo (ticket : Ticket) (paused : Paused α) : Bool :=
  match paused.action with
  | .fetch _ (some own) => own = ticket
  | _ => false

def isDue (clock : Nat) (paused : Paused α) : Bool := paused.due.any (· ≤ clock)

end Paused

inductive Ready where
  | coordinator
  | job (job : Job Unit)
  | paused (job : Paused Unit)

def Ready.isCoordinator : Ready → Bool
  | coordinator => true
  | _ => false

structure System where
  workspace : Workspace
  clock : Nat
  turn : Nat
  /-- The ticket of the last run of each document that was not closed since. -/
  pending : List (Uri × Ticket)
  ready : List Ready
  waiting : List (Paused Unit)
  /-- The size of the longest text that a document had; runs may still be about texts that are gone. -/
  longest : Nat

namespace System

def of (workspace : Workspace) : System := ⟨workspace, 0, 0, [], [], [], 0⟩

variable (system : System)

def wake (test : Paused Unit → Bool) : System :=
  { system with
    ready := system.ready ++ (system.waiting.filter test).map .paused
    waiting := system.waiting.filter fun job => !test job }

def cancel (ticket : Ticket) : System :=
  { system with
    workspace := { system.workspace with cancelled := ticket :: system.workspace.cancelled } }.wake (·.listensTo ticket)

def spentTicket : Ticket × System :=
  (⟨system.turn⟩, { system with turn := system.turn + 1 }.cancel ⟨system.turn⟩)

def supersede (uri : Uri) : System :=
  match system.pending.lookup uri with
  | some ticket => { system.cancel ticket with pending := system.pending.filter fun entry => entry.1 ≠ uri }
  | none => system

def spawn (job : Job Unit) : System := { system with ready := system.ready ++ [.job job] }

def handle (event : Event) : System :=
  let turn := system.turn
  let system := { system with turn := turn + 1 }
  match event with
  | .changed uri =>
    let system := (system.supersede uri).spawn (publishRun uri ⟨turn⟩)
    { system with pending := (uri, ⟨turn⟩) :: system.pending }
  | .closed uri => (system.supersede uri).spawn (clearRun uri turn)

def coordinate : System :=
  system.workspace.events.foldl handle { system with workspace := { system.workspace with events := [] } }

def openGate : System :=
  if system.workspace.occupied then system
  else
    match system.waiting.find? (·.due.isNone) with
    | none => system
    | some first =>
      { system with
        workspace := { system.workspace with occupied := true }
        ready := system.ready ++ [.paused first]
        waiting := system.waiting.eraseP (·.due.isNone) }

def callCoordinator : System :=
  if system.workspace.events.isEmpty || system.ready.any Ready.isCoordinator then system
  else { system with ready := system.ready ++ [.coordinator] }

def settle : System := system.openGate.callCoordinator

def park : Stage Unit × Workspace → System
  | (.ended (), workspace) => { system with workspace := workspace }
  | (.paused job, workspace) => { system with workspace := workspace, waiting := system.waiting ++ [job] }

def proceed : Ready → System
  | .coordinator => system.coordinate.settle
  | .job job => (system.park (job.advance system.clock system.workspace)).settle
  | .paused job => (system.park (job.advance system.clock system.workspace)).settle

def nextTime? (foreground : Paused α) : Option Nat :=
  ((foreground.due :: system.waiting.map Paused.due).filterMap id).min?

def moveClock (time : Nat) : System :=
  { system with clock := time }.wake (·.isDue time)

def await : Nat → System → Paused α → Option (α × System)
  | 0, _, _ => none
  | rounds + 1, system, foreground =>
    match system.ready with
    | first :: others => await rounds ({ system with ready := others }.proceed first) foreground
    | [] =>
      match system.nextTime? foreground with
      | none => none
      | some time =>
        let system := system.moveClock time
        if foreground.isDue time then
          match foreground.advance time system.workspace with
          | (.ended value, workspace) => some (value, { system with workspace := workspace }.settle)
          | (.paused again, workspace) => await rounds { system with workspace := workspace }.settle again
        else await rounds system foreground

def measure : System :=
  let sizes := system.workspace.documents.entries.map fun document => Text.size document.text
  { system with longest := sizes.foldl max system.longest }

/-- Enough rounds for all jobs to end. A job waits at most once for each table its document names, once at the gate and
once to publish. -/
def patience : Nat :=
  2 * (system.ready.length + system.waiting.length + system.workspace.events.length + 2) * (system.longest + 8)

def run (job : Job α) (system : System) : Option (α × System) :=
  match job.advance system.clock system.workspace with
  | (.ended value, workspace) => some (value, { system with workspace := workspace }.measure.settle)
  | (.paused job, workspace) =>
    let system := { system with workspace := workspace }.measure.settle
    await system.patience system job

def takeNotices : List Notice × System :=
  (system.workspace.notices, { system with workspace := { system.workspace with notices := [] } })

def mapStore (f : Store → Store) (system : System) : System :=
  { system with workspace := { system.workspace with store := f system.workspace.store } }

end System

end SqlLens
