import SqlLens.Workspace.System

/-!
How jobs in the background use the gate.

A run diagnoses its document outside the gate. It goes in, looks whether its ticket was cancelled meanwhile, publishes
if it was not, and leaves. Clearing the diagnostics of a document does the same without looking. `Follows` states this
for what is left of a job: in which phase it is, and that it does nothing a job in this phase may not.
-/

namespace SqlLens

def Action.isQuiet : Action → Bool
  | .enterGate | .leaveGate | .publish .. => false
  | _ => true

def Action.takesTime : Action → Bool
  | .fetch .. | .publish .. | .sleep _ => true
  | _ => false

inductive Job.Quiet : Job α → Prop where
  | done (value : α) : Quiet (.done value)
  | act {next : action.Result → Job α} (quiet : action.isQuiet = true) (rest : ∀ result, Quiet (next result)) :
      Quiet (.act action next)

inductive Errand where
  | request
  | run (turn : Nat) (uri : Uri)
  | clear (turn : Nat) (uri : Uri)

inductive Phase where
  | outside
  | entered
  | cleared
  | leaving
  | finished

def Phase.isInside : Phase → Bool
  | entered | cleared | leaving => true
  | outside | finished => false

namespace Errand

/-- Where a job is when it has gone in. Only a run has a ticket to look at, and a request has nothing to publish. -/
def inside : Errand → Phase
  | request => .leaving
  | run .. => .entered
  | clear .. => .cleared

/-- The number and the document a job publishes under. -/
def publication? : Errand → Option (Nat × Uri)
  | request => none
  | run turn uri | clear turn uri => some (turn, uri)

theorem isInside_inside (errand : Errand) : errand.inside.isInside := by cases errand <;> rfl

end Errand

/-- What is left of a job does what it may do in its phase. -/
inductive Follows : Errand → Phase → Job Unit → Prop where
  | done (away : phase.isInside = false) : Follows errand phase (.done ())
  | quiet {next : action.Result → Job Unit} (quiet : action.isQuiet = true)
      (rest : ∀ result, Follows errand .outside (next result)) : Follows errand .outside (.act action next)
  | enter {next : Unit → Job Unit} (rest : Follows errand errand.inside (next ())) :
      Follows errand .outside (.act .enterGate next)
  | check {next : Bool → Job Unit} (stop : Follows (.run turn uri) .leaving (next true))
      (go : Follows (.run turn uri) .cleared (next false)) :
      Follows (.run turn uri) .entered (.act (.isCancelled (some ⟨turn⟩)) next)
  | publish {next : Unit → Job Unit} (own : errand.publication? = some (turn, uri))
      (rest : Follows errand .leaving (next ())) : Follows errand .cleared (.act (.publish turn uri markers) next)
  | leave {next : Unit → Job Unit} (rest : Follows errand .finished (next ())) :
      Follows errand .leaving (.act .leaveGate next)

/-! ### Quiet jobs -/

theorem Job.Quiet.bind {job : Job α} {f : α → Job β} (first : job.Quiet) (second : ∀ value, (f value).Quiet) :
    (job.bind f).Quiet := by
  induction first with
  | done value => exact second value
  | act quiet rest ih => exact .act quiet ih

theorem Job.Quiet.perform (quiet : action.isQuiet) : (Job.perform action).Quiet :=
  .act quiet fun result => .done result

def Attempt.Quiet (attempt : Attempt α) : Prop := attempt.run.Quiet

namespace Attempt.Quiet

theorem pure (value : α) : Quiet (Pure.pure value : Attempt α) := .done _

theorem throw (error : WorkspaceError) : Quiet (throw error : Attempt α) := .done _

theorem bind {attempt : Attempt α} {f : α → Attempt β} (first : attempt.Quiet) (second : ∀ value, (f value).Quiet) :
    Quiet (attempt >>= f) := by
  refine Job.Quiet.bind first fun outcome => ?_
  cases outcome with
  | error error => exact .done _
  | ok value => exact second value

theorem perform {action : Action} (quiet : action.isQuiet) : Quiet (Attempt.perform action) :=
  Job.Quiet.bind (Job.Quiet.perform quiet) fun _ => .done _

end Attempt.Quiet

theorem quiet_gather (ticket : Option Ticket) (supply : Supply) (paths : List (String × Span)) :
    (gather ticket supply paths).Quiet := by
  induction paths generalizing supply with
  | nil => exact .pure _
  | cons path rest ih =>
    refine .bind (.perform rfl) fun outcome => ?_
    split
    · exact ih _
    · exact .throw _

theorem quiet_buildFile (document : Document) (ticket : Option Ticket) : (buildFile document ticket).Quiet := by
  refine .bind (quiet_gather _ _ _) fun supply => ?_
  split
  · exact .bind (.perform rfl) fun _ => .pure _
  · exact .pure _

theorem quiet_parseFile (uri : Uri) (ticket : Option Ticket) : (parseFile uri ticket).Quiet := by
  refine .bind (.perform rfl) fun found => ?_
  cases found with
  | none => exact .throw _
  | some document =>
    refine .bind (.perform rfl) fun kept => ?_
    cases kept with
    | none => exact quiet_buildFile _ _
    | some kept =>
      dsimp only
      split
      · exact .pure _
      · exact quiet_buildFile _ _

theorem quiet_diagnose (uri : Uri) (ticket : Option Ticket) : (diagnose uri ticket).Quiet := by
  refine .bind (quiet_parseFile _ _) fun file => .bind (.perform rfl) fun cancelled => ?_
  split
  · exact .throw _
  · exact .pure _

/-! ### Jobs of the coordinator -/

/-- Publishes what a run found, unless the ticket was cancelled before the gate was entered. -/
def announce (uri : Uri) (ticket : Ticket) (markers : List Editor.Marker) : Job Unit := do
  Job.perform .enterGate
  if ← Job.perform (.isCancelled (some ticket)) then
    Job.perform .leaveGate
  else
    Job.perform (.publish ticket.number uri markers)
    Job.perform .leaveGate

/-- What a run does after it has looked at its ticket inside the gate. -/
def announceUnless (uri : Uri) (turn : Nat) (markers : List Editor.Marker) : Bool → Job Unit
  | true => .act .leaveGate .done
  | false => .act (.publish turn uri markers) fun _ => .act .leaveGate .done

theorem announce_eq (uri : Uri) (turn : Nat) (markers : List Editor.Marker) :
    announce uri ⟨turn⟩ markers =
      .act .enterGate fun _ => .act (.isCancelled (some ⟨turn⟩)) (announceUnless uri turn markers) := by
  refine congrArg (Job.act _) (funext fun _ => congrArg (Job.act _) (funext fun cancelled => ?_))
  cases cancelled <;> rfl

def conclude (uri : Uri) (ticket : Ticket) : Except WorkspaceError (List Editor.Marker) → Job Unit
  | .error _ => return
  | .ok markers => announce uri ticket markers

theorem publishRun_eq (uri : Uri) (ticket : Ticket) :
    publishRun uri ticket = (diagnose uri (some ticket)).run.bind (conclude uri ticket) := by
  refine congrArg (Job.bind _) (funext fun outcome => ?_)
  cases outcome <;> rfl

theorem Job.Quiet.follows {job : Job α} (first : job.Quiet)
    (second : ∀ value, Follows errand .outside (f value)) : Follows errand .outside (job.bind f) := by
  induction first with
  | done value => exact second value
  | act quiet rest ih => exact .quiet quiet ih

theorem Job.Quiet.followsRequest (quiet : job.Quiet) : Follows .request .outside job := by
  induction quiet with
  | done value => exact .done rfl
  | act quiet rest ih => exact .quiet quiet ih

theorem follows_publishRun (turn : Nat) (uri : Uri) : Follows (.run turn uri) .outside (publishRun uri ⟨turn⟩) := by
  refine Job.Quiet.follows (quiet_diagnose uri (some ⟨turn⟩)) fun outcome => ?_
  cases outcome with
  | error error => exact .done rfl
  | ok markers => exact .enter (.check (.leave (.done rfl)) (.publish rfl (.leave (.done rfl))))

theorem follows_clearRun (turn : Nat) (uri : Uri) : Follows (.clear turn uri) .outside (clearRun uri turn) :=
  .enter (.publish rfl (.leave (.done rfl)))

end SqlLens
