import SqlLens.Proofs.Workspace.Protocol

/-!
Jobs side by side.

`Step` lets the coordinator look at one event, or a job take one action; a job that waits goes on at any time, and
whoever waits at the gate may be let in when nobody is inside. Under the free discipline anybody may be next, so what
holds of every free `Schedule` holds however jobs are run. Under the queued discipline jobs go on in the order in which
they became able to, and the gate is a queue.
-/

namespace SqlLens

def Event.uri : Event → Uri
  | .changed uri | .closed uri => uri

def Notice.publication? : Notice → Option (Nat × Uri)
  | .published turn uri _ => some (turn, uri)
  | .logged .. => none

def Workspace.publications (workspace : Workspace) : List (Nat × Uri) := workspace.notices.filterMap Notice.publication?

structure Workspace.Undisturbed (before after : Workspace) : Prop where
  occupied : after.occupied = before.occupied
  cancelled : after.cancelled = before.cancelled
  publications : after.publications = before.publications

def jobsOf (ready : List Ready) : List Ready := ready.filter fun entry => !entry.isCoordinator

theorem jobsOf_append (first second : List Ready) : jobsOf (first ++ second) = jobsOf first ++ jobsOf second :=
  List.filter_append ..

theorem jobsOf_cons (job : entry.isCoordinator = false) (rest : List Ready) :
    jobsOf (entry :: rest) = entry :: jobsOf rest := List.filter_cons_of_pos (by simp [job])

def System.jobs (system : System) : List Ready := jobsOf system.ready

/-- Those who wait at the gate, the longest waiting first. -/
def System.atGate (system : System) : List (Paused Unit) := system.waiting.filter fun paused => paused.due.isNone

def System.expecting (system : System) (events : List Event) : System :=
  { system with workspace := { system.workspace with events := events } }

inductive Discipline where
  | free
  /-- Only the longest ready, and the gate lets in those who wait at it in the order in which they came. -/
  | queued

/-- One thing happens. The list holds the event that was looked at, if that is what happened. -/
inductive Step (discipline : Discipline) : System → List (Nat × Event) → System → Prop where
  /-- Time passes, or something happens in the foreground. -/
  | change (undisturbed : system.workspace.Undisturbed workspace) :
      Step discipline system [] { system with workspace := workspace, clock := clock, longest := longest }
  | request (quiet : job.Quiet) : Step discipline system [] (system.spawn job)
  /-- A ticket is made that is cancelled already. -/
  | spend : Step discipline system [] system.spentTicket.2
  | handle (events : system.workspace.events = event :: rest) :
      Step discipline system [(system.turn, event)] ((system.expecting rest).handle event)
  /-- The coordinator is called, or has nothing left to do. -/
  | coordinator (jobs : { system with ready := ready }.jobs = system.jobs) :
      Step discipline system [] { system with ready := ready }
  | act {next : action.Result → Job Unit} {result : action.Result}
      (order : discipline = .queued → earlier = [] ∧ (action = .enterGate → system.atGate = []))
      (ready : system.ready = earlier ++ .job (.act action next) :: later)
      (started : system.workspace.start action = (.finished result, workspace)) :
      Step discipline system []
        { system with workspace := workspace, ready := earlier ++ .job (next result) :: later }
  | instant {next : action.Result → Job Unit} {result : action.Result} {middle : Workspace}
      (order : discipline = .queued → earlier = [])
      (ready : system.ready = earlier ++ .job (.act action next) :: later)
      (started : system.workspace.start action = (.after milliseconds, middle))
      (completed : middle.complete action = (result, workspace)) :
      Step discipline system []
        { system with workspace := workspace, ready := earlier ++ .job (next result) :: later }
  | pause {next : action.Result → Job Unit} (order : discipline = .queued → earlier = [])
      (ready : system.ready = earlier ++ .job (.act action next) :: later)
      (started : system.workspace.start action = (.after milliseconds, workspace)) :
      Step discipline system [] { system with
        workspace := workspace, ready := earlier ++ later, waiting := system.waiting ++ [⟨action, next, some due⟩] }
  | block {next : action.Result → Job Unit} (order : discipline = .queued → earlier = [])
      (ready : system.ready = earlier ++ .job (.act action next) :: later)
      (started : system.workspace.start action = (.atGate, workspace)) :
      Step discipline system [] { system with
        workspace := workspace, ready := earlier ++ later, waiting := system.waiting ++ [⟨action, next, none⟩] }
  | finish (order : discipline = .queued → earlier = []) (ready : system.ready = earlier ++ .job (.done ()) :: later) :
      Step discipline system [] { system with ready := earlier ++ later }
  | wake (waiting : system.waiting = earlier ++ paused :: later) (due : paused.due.isSome = true) :
      Step discipline system [] { system with
        ready := system.ready ++ [.paused paused], waiting := earlier ++ later }
  | letIn (order : discipline = .queued → ∀ paused ∈ earlier, paused.due.isSome = true)
      (free : system.workspace.occupied = false) (waiting : system.waiting = earlier ++ paused :: later)
      (due : paused.due = none) :
      Step discipline system [] { system with
        workspace := { system.workspace with occupied := true }
        ready := system.ready ++ [.paused paused]
        waiting := earlier ++ later }
  | resume {paused : Paused Unit} {result : paused.action.Result} (order : discipline = .queued → earlier = [])
      (ready : system.ready = earlier ++ .paused paused :: later)
      (completed : system.workspace.complete paused.action = (result, workspace)) :
      Step discipline system []
        { system with workspace := workspace, ready := earlier ++ .job (paused.next result) :: later }

/-- Any number of things happen, one after another; the history lists the events that were looked at. -/
inductive Schedule (discipline : Discipline) (start : System) : List (Nat × Event) → System → Prop where
  | start : Schedule discipline start [] start
  | step (before : Schedule discipline start history system) (step : Step discipline system handled after) :
      Schedule discipline start (history ++ handled) after

namespace Schedule

theorem single (step : Step discipline before handled after) : Schedule discipline before handled after := by
  have run := Schedule.start.step step
  rwa [List.nil_append] at run

theorem trans (first : Schedule discipline before history middle) (second : Schedule discipline middle history' after) :
    Schedule discipline before (history ++ history') after := by
  induction second with
  | start =>
    rw [List.append_nil]
    exact first
  | step _ step ih =>
    rw [← List.append_assoc]
    exact ih.step step

theorem silently (first : Schedule discipline before [] middle) (second : Schedule discipline middle history after) :
    Schedule discipline before history after := by
  have run := first.trans second
  rwa [List.nil_append] at run

end Schedule

/-! ### What actions leave alone -/

theorem undisturbed_beginFetch (workspace : Workspace) (written : String) (ticket : Option Ticket) :
    workspace.Undisturbed (workspace.beginFetch written ticket).2 := by
  unfold Workspace.beginFetch
  split
  · exact ⟨rfl, rfl, rfl⟩
  · split
    · exact ⟨rfl, rfl, rfl⟩
    · split <;> exact ⟨rfl, rfl, rfl⟩

theorem undisturbed_endFetch (workspace : Workspace) (written : String) (ticket : Option Ticket) :
    workspace.Undisturbed (workspace.endFetch written ticket).2 := by
  unfold Workspace.endFetch
  split
  · exact ⟨rfl, rfl, rfl⟩
  · split
    · exact ⟨rfl, rfl, rfl⟩
    · split
      · exact ⟨rfl, rfl, rfl⟩
      · split <;> exact ⟨rfl, rfl, rfl⟩

theorem undisturbed_start (quiet : action.isQuiet) (workspace : Workspace) :
    workspace.Undisturbed (workspace.start action).2 := by
  cases action with
  | enterGate | leaveGate | publish => cases quiet
  | fetch written ticket => exact undisturbed_beginFetch workspace written ticket
  | log level message =>
    refine ⟨rfl, rfl, ?_⟩
    simp [Workspace.start, Workspace.tell, Workspace.publications, Notice.publication?]
  | _ => exact ⟨rfl, rfl, rfl⟩

theorem undisturbed_complete (quiet : action.isQuiet) (workspace : Workspace) :
    workspace.Undisturbed (workspace.complete action).2 := by
  cases action with
  | enterGate | leaveGate | publish => cases quiet
  | fetch written ticket => exact undisturbed_endFetch workspace written ticket
  | _ => exact ⟨rfl, rfl, rfl⟩

theorem start_enterGate (workspace : Workspace) : workspace.start .enterGate =
    if workspace.occupied then (.atGate, workspace) else (.finished (), { workspace with occupied := true }) := rfl

end SqlLens
