import SqlLens.Proofs.Workspace.Faithful
import SqlLens.Proofs.Workspace.Supersession
import SqlLens.Server.Basic

/-!
Edits and calls side by side.

In a `Course` any number of jobs edit documents, parse them and look at them at the same time; each edit is followed by
its event, and the store may change at any moment. A `Call` is a job in the foreground of a course; its trace lists what
it did and what it found. `Move` says once what can happen in a course to what is shared and to the jobs.
-/

namespace SqlLens

open List hiding after

/-- What is asked of a workspace: to take over one of the texts of a document and have it diagnosed, to parse a
document, or to show something about it. -/
inductive Asked (texts : Texts) : Job Unit → Prop where
  | edit (given : texts document.uri document.text) : Asked texts (Server.takeText true document)
  | parse (uri : Uri) (ticket : Option Ticket) : Asked texts ((parseFile uri ticket).run.bind fun _ => .done ())
  | hover (uri : Uri) (position : Position) : Asked texts ((Hover.at? uri position).run.bind fun _ => .done ())

/-- What does not come from the jobs and the coordinator: a workspace that is replaced, and a job that is new. -/
inductive Outside (system : System) : System → Prop where
  | change : Outside system { system with workspace := workspace, clock := clock, longest := longest }
  | request : Outside system (system.spawn job)

/-- One thing happens among edits and calls. The list holds the event that was looked at, if that is what happened. -/
inductive Happens (texts : Texts) (system : System) : List (Nat × Event) → System → Prop where
  /-- Time passes, and the store becomes any other one. -/
  | drift : Happens texts system [] { system with
      workspace := { system.workspace with files := files, store := store, now := now }
      clock := clock, longest := longest }
  | ask (asked : Asked texts job) : Happens texts system [] (system.spawn job)
  /-- A job or the coordinator goes on. -/
  | go (step : Step .free system handled after) (inside : ¬ Outside system after) : Happens texts system handled after

/-- Any number of things happen among edits and calls; the history lists the events that were looked at. -/
inductive Course (texts : Texts) (start : System) : List (Nat × Event) → System → Prop where
  | start : Course texts start [] start
  | step (before : Course texts start history system) (happens : Happens texts system handled after) :
      Course texts start (history ++ handled) after

/-- A job in the foreground of a course ends with a value. Others go on before each of its actions, and while it waits
for an action to end. The trace lists its actions with what each gave. -/
inductive Call (texts : Texts) : Job α → System → List (Sigma Action.Result) → α → System → Prop where
  | done : Call texts (.done value) system [] value system
  | act {next : action.Result → Job α} {result : action.Result} (others : Course texts system history middle)
      (started : middle.workspace.start action = (.finished result, workspace))
      (rest : Call texts (next result) { middle with workspace := workspace } trace value after) :
      Call texts (.act action next) system (⟨action, result⟩ :: trace) value after
  | wait {next : action.Result → Job α} {result : action.Result} (others : Course texts system history middle)
      (started : middle.workspace.start action = (.after milliseconds, workspace))
      (meanwhile : Course texts { middle with workspace := workspace } history' later)
      (completed : later.workspace.complete action = (result, workspace'))
      (rest : Call texts (next result) { later with workspace := workspace' } trace value after) :
      Call texts (.act action next) system (⟨action, result⟩ :: trace) value after

variable {texts : Texts} {later : List Ready} {start : System}

theorem quiet_hover (uri : Uri) (position : Position) : (Hover.at? uri position).Quiet := by
  refine .bind (quiet_parseFile _ _) fun file => ?_
  split
  · exact .throw _
  · split
    next target _ =>
      cases target with
      | table written => exact .bind (Job.Quiet.perform rfl) fun _ => .pure _
      | call function => exact .pure _
      | field type => exact .pure _
      | column column => exact .bind (.perform rfl) fun _ => .pure _
    next => exact .pure _

theorem quiet_takeText (enabled : Bool) (document : Document) : (Server.takeText enabled document).Quiet := by
  refine .bind (.bind (.perform rfl) fun _ => .perform rfl) fun _ => ?_
  split
  · exact .perform rfl
  · exact .done _

theorem Asked.quiet (asked : Asked texts job) : job.Quiet := by
  cases asked with
  | edit given => exact quiet_takeText true _
  | parse uri ticket => exact Job.Quiet.bind (quiet_parseFile uri ticket) fun _ => .done ()
  | hover uri position => exact Job.Quiet.bind (quiet_hover uri position) fun _ => .done ()

theorem Happens.step (happens : Happens texts system handled after) : Step .free system handled after := by
  cases happens with
  | drift => exact .change ⟨rfl, rfl, rfl⟩
  | ask asked => exact .request asked.quiet
  | go step => exact step

/-! ### What is left of jobs -/

def Paused.left (paused : Paused Unit) : Job Unit := .act paused.action paused.next

def Ready.left? : Ready → Option (Job Unit)
  | .coordinator => none
  | .job left => some left
  | .paused waiter => some waiter.left

def System.left (system : System) : List (Job Unit) :=
  system.ready.filterMap Ready.left? ++ system.waiting.map Paused.left

/-- All jobs have ended, and all events were looked at. -/
def System.Finished (system : System) : Prop := system.left = [] ∧ system.workspace.events = []

theorem filterMap_left_jobsOf (ready : List Ready) :
    (jobsOf ready).filterMap Ready.left? = ready.filterMap Ready.left? := by
  rw [jobsOf, filterMap_filter]
  refine congrArg (filterMap · ready) (funext fun entry => ?_)
  cases entry <;> rfl

theorem filterMap_left_paused (waiting : List (Paused Unit)) :
    (waiting.map Ready.paused).filterMap Ready.left? = waiting.map Paused.left := by
  rw [filterMap_map]
  exact congrFun filterMap_eq_map' waiting

namespace System

variable {system : System}

theorem left_perm_middle (ready : system.ready = earlier ++ entry :: later) (own : entry.left? = some job) :
    system.left.Perm (job :: { system with ready := earlier ++ later }.left) := by
  simp only [left, ready, filterMap_append, filterMap_cons, own, append_assoc, cons_append]
  exact perm_middle

theorem mem_left (member : .job job ∈ system.ready) : job ∈ system.left :=
  mem_append_left _ (mem_filterMap.mpr ⟨_, member, rfl⟩)

theorem left_wake (system : System) (test : Paused Unit → Bool) : (system.wake test).left.Perm system.left := by
  simp only [left, wake, filterMap_append, filterMap_left_paused, append_assoc, ← map_append]
  exact ((filter_append_perm test system.waiting).map Paused.left).append_left _

theorem left_supersede (system : System) (uri : Uri) : (system.supersede uri).left.Perm system.left := by
  unfold supersede
  split
  · exact left_wake _ _
  · exact .refl _

theorem left_spawn (system : System) (job : Job Unit) : (system.spawn job).left.Perm (job :: system.left) := by
  have apart : (system.spawn job).left.Perm (job :: { system with ready := system.ready ++ [] }.left) :=
    left_perm_middle rfl rfl
  rwa [append_nil] at apart

end System

/-! ### What actions do to what is shared -/

structure Holdings where
  documents : Documents
  artifacts : Artifacts
  events : List Event
  notices : List Notice

def Workspace.holdings (workspace : Workspace) : Holdings :=
  ⟨workspace.documents, workspace.artifacts, workspace.events, workspace.notices⟩

def Holdings.after (holdings : Holdings) : Action → Holdings
  | .putDocument document => { holdings with documents := holdings.documents.insert document }
  | .dropDocument uri => { holdings with documents := holdings.documents.erase uri }
  | .keepArtifact uri artifact => { holdings with artifacts := holdings.artifacts.insert uri artifact }
  | .dropArtifact uri => { holdings with artifacts := holdings.artifacts.erase uri }
  | .publish turn uri markers => { holdings with notices := holdings.notices ++ [.published turn uri markers] }
  | .log level message => { holdings with notices := holdings.notices ++ [.logged level message] }
  | .emit event => { holdings with events := holdings.events ++ [event] }
  | .readDocument _ | .readArtifact _ | .fetch .. | .isCancelled _ | .enterGate | .leaveGate | .sleep _ => holdings

def Workspace.Finds (workspace : Workspace) : (action : Action) → action.Result → Prop
  | .readDocument uri, found => found = workspace.documents.find? uri
  | .readArtifact uri, found => found = workspace.artifacts.find? uri
  | .fetch _ ticket, outcome => Fetched ticket outcome
  | .isCancelled ticket, cancelled => cancelled = workspace.isCancelled ticket
  | _, _ => True

theorem Fetched.metadata (ticket : Option Ticket) (cause : FetchError) : Fetched ticket (.error (.metadata cause)) := by
  rintro _ ⟨⟩
  exact .inl ⟨cause, rfl⟩

theorem Fetched.cancelled {workspace : Workspace} (cancelled : workspace.isCancelled ticket) :
    Fetched ticket (.error .cancelled) := by
  rintro _ ⟨⟩
  refine .inr ⟨rfl, ?_⟩
  rintro rfl
  cases cancelled

theorem holdings_beginFetch (workspace : Workspace) (written : String) (ticket : Option Ticket) :
    (workspace.beginFetch written ticket).2.holdings = workspace.holdings := by
  unfold Workspace.beginFetch
  split
  · rfl
  · split
    · rfl
    · split <;> rfl

theorem holdings_endFetch (workspace : Workspace) (written : String) (ticket : Option Ticket) :
    (workspace.endFetch written ticket).2.holdings = workspace.holdings := by
  unfold Workspace.endFetch
  split
  · rfl
  · split
    · rfl
    · split
      · rfl
      · split <;> rfl

theorem fetched_beginFetch {workspace : Workspace}
    (began : workspace.beginFetch written ticket = (.finished outcome, after)) : Fetched ticket outcome := by
  unfold Workspace.beginFetch at began
  split at began
  · cases began
    exact .metadata _ _
  · split at began
    · rename_i cancelled
      cases began
      exact .cancelled cancelled
    · split at began
      · cases began
        nofun
      · cases began

theorem fetched_endFetch (workspace : Workspace) (written : String) (ticket : Option Ticket) :
    Fetched ticket (workspace.endFetch written ticket).1 := by
  unfold Workspace.endFetch
  split
  · exact .metadata _ _
  · split
    · rename_i cancelled
      exact .cancelled cancelled
    · split
      · exact .metadata _ _
      · split
        · nofun
        · exact .metadata _ _

section Actions

variable {workspace after : Workspace} {action : Action} {result : action.Result}

theorem finds_of_start (started : workspace.start action = (.finished result, after)) :
    workspace.Finds action result := by
  cases action with
  | fetch written ticket => exact fetched_beginFetch started
  | readDocument | readArtifact | isCancelled =>
    cases started
    rfl
  | _ => trivial

theorem finds_of_complete (completed : workspace.complete action = (result, after)) :
    workspace.Finds action result := by
  obtain rfl : (workspace.complete action).1 = result := congrArg Prod.fst completed
  cases action with
  | fetch written ticket => exact fetched_endFetch workspace written ticket
  | readDocument | readArtifact | isCancelled => rfl
  | _ => trivial

theorem Workspace.Finds.of_same (finds : after.Finds action result)
    (holdings : after.holdings = workspace.holdings) (cancelled : after.cancelled = workspace.cancelled) :
    workspace.Finds action result := by
  cases action with
  | readDocument uri => exact finds.trans (congrArg (fun held => held.documents.find? uri) holdings)
  | readArtifact uri => exact finds.trans (congrArg (fun held => held.artifacts.find? uri) holdings)
  | isCancelled ticket =>
    cases ticket with
    | none => exact finds
    | some ticket =>
      unfold Workspace.Finds Workspace.isCancelled at finds ⊢
      rwa [cancelled] at finds
  | fetch => exact finds
  | _ => trivial

theorem holdings_of_finished (started : workspace.start action = (.finished result, after)) :
    after.holdings = workspace.holdings.after action := by
  obtain rfl : (workspace.start action).2 = after := congrArg Prod.snd started
  cases action with
  | fetch written ticket => exact holdings_beginFetch workspace written ticket
  | enterGate =>
    rw [start_enterGate]
    split <;> rfl
  | publish => cases started
  | _ => rfl

theorem holdings_of_unfinished (started : workspace.start action = (progress, after))
    (unfinished : ∀ result, progress ≠ .finished result) : after.holdings = workspace.holdings := by
  obtain rfl : (workspace.start action).2 = after := congrArg Prod.snd started
  cases action with
  | fetch written ticket => exact holdings_beginFetch workspace written ticket
  | enterGate =>
    rw [start_enterGate]
    split <;> rfl
  | publish | sleep => rfl
  | _ =>
    cases started
    exact absurd rfl (unfinished _)

theorem holdings_of_after (started : workspace.start action = (.after milliseconds, after)) :
    after.holdings = workspace.holdings := holdings_of_unfinished started nofun

theorem holdings_of_atGate (started : workspace.start action = (.atGate, after)) :
    after.holdings = workspace.holdings := holdings_of_unfinished started nofun

theorem holdings_of_complete (completed : workspace.complete action = (result, after))
    (waits : action.takesTime = true ∨ action = .enterGate) : after.holdings = workspace.holdings.after action := by
  obtain rfl : (workspace.complete action).2 = after := congrArg Prod.snd completed
  cases action with
  | fetch written ticket => exact holdings_endFetch workspace written ticket
  | enterGate | publish | sleep => rfl
  | _ => rcases waits with ⟨⟨⟩⟩ | ⟨⟨⟩⟩

theorem Workspace.Acts.does (acts : workspace.Acts action result after) :
    workspace.Finds action result ∧ after.holdings = workspace.holdings.after action := by
  cases acts with
  | atOnce started => exact ⟨finds_of_start started, holdings_of_finished started⟩
  | inTime started completed =>
    have begun := holdings_of_after started
    have ended := holdings_of_complete completed (.inl (takesTime_of_start started))
    rw [begun] at ended
    exact ⟨(finds_of_complete completed).of_same begun (cancelled_of_start started), ended⟩

end Actions

/-! ### Moves -/

def Event.job (turn : Nat) : Event → Job Unit
  | .changed uri => publishRun uri ⟨turn⟩
  | .closed uri => clearRun uri turn

/-- What can happen in a course to what is shared and to what is left of the jobs. -/
inductive Move (texts : Texts) (system : System) : List (Nat × Event) → System → Prop where
  | rest (holdings : after.workspace.holdings = system.workspace.holdings) (left : after.left.Perm system.left) :
      Move texts system [] after
  | join (asked : Asked texts job) (holdings : after.workspace.holdings = system.workspace.holdings)
      (left : after.left.Perm (job :: system.left)) : Move texts system [] after
  | finish (holdings : after.workspace.holdings = system.workspace.holdings)
      (left : system.left.Perm (.done () :: after.left)) : Move texts system [] after
  | handle (events : system.workspace.events = event :: rest)
      (holdings : after.workspace.holdings = { system.workspace.holdings with events := rest })
      (left : after.left.Perm (event.job system.turn :: system.left)) : Move texts system [(system.turn, event)] after
  | act {next : action.Result → Job Unit} {result : action.Result} (finds : system.workspace.Finds action result)
      (holdings : after.workspace.holdings = system.workspace.holdings.after action)
      (before : system.left.Perm (.act action next :: others)) (left : after.left.Perm (next result :: others)) :
      Move texts system [] after

theorem holdings_supersede (system : System) (uri : Uri) :
    (system.supersede uri).workspace.holdings = system.workspace.holdings := by
  unfold System.supersede
  split <;> rfl

theorem holdings_handle (system : System) (event : Event) :
    (system.handle event).workspace.holdings = system.workspace.holdings := by
  cases event with
  | changed uri | closed uri => exact holdings_supersede { system with turn := system.turn + 1 } uri

theorem left_handle (system : System) (event : Event) :
    (system.handle event).left.Perm (event.job system.turn :: system.left) := by
  cases event with
  | changed uri | closed uri =>
    refine (System.left_spawn ({ system with turn := system.turn + 1 }.supersede uri) _).trans (.cons _ ?_)
    exact System.left_supersede { system with turn := system.turn + 1 } uri

theorem Safe.waits (safe : Safe history system) (ready : system.ready = earlier ++ .paused paused :: later) :
    paused.action.takesTime = true ∨ paused.action = .enterGate := by
  obtain ⟨_, _, _, does, -⟩ := safe.manned.split (ready ▸ tasksOf_ready rfl)
  cases does with
  | woken follows elsewhere => exact .inl elsewhere
  | admitted follows inside => exact .inr rfl

theorem move_act {next : action.Result → Job Unit}
    (ready : system.ready = earlier ++ entry :: later) (own : entry.left? = some (.act action next))
    (finds : system.workspace.Finds action result)
    (holdings : workspace.holdings = system.workspace.holdings.after action) :
    Move texts system [] { system with workspace := workspace, ready := earlier ++ .job (next result) :: later } :=
  .act finds holdings (System.left_perm_middle ready own) (System.left_perm_middle rfl rfl)

theorem move_wait {next : action.Result → Job Unit}
    (ready : system.ready = earlier ++ .job (.act action next) :: later)
    (holdings : workspace.holdings = system.workspace.holdings) (due : Option Nat) : Move texts system [] { system with
      workspace := workspace, ready := earlier ++ later, waiting := system.waiting ++ [⟨action, next, due⟩] } := by
  refine .rest holdings (.trans ?_ (System.left_perm_middle ready rfl).symm)
  simp only [System.left, map_append, map_cons, map_nil, ← append_assoc]
  exact perm_append_singleton _ _

theorem move_ready {system : System} {earlier later : List (Paused Unit)}
    (waiting : system.waiting = earlier ++ paused :: later)
    (holdings : workspace.holdings = system.workspace.holdings) :
    Move texts system [] { system with
      workspace := workspace, ready := system.ready ++ [.paused paused], waiting := earlier ++ later } := by
  have woken : [Ready.paused paused].filterMap Ready.left? = [paused.left] := rfl
  refine .rest holdings ?_
  simp only [System.left, waiting, woken, filterMap_append, map_append, map_cons, append_assoc,
    singleton_append]
  exact .append_left _ perm_middle.symm

theorem Happens.move {system : System} (happens : Happens texts system handled after) (safe : Safe history system) :
    Move texts system handled after := by
  cases happens with
  | drift => exact .rest rfl (.refl _)
  | ask asked => exact .join asked rfl (System.left_spawn system _)
  | go step inside =>
    cases step with
    | change => exact absurd .change inside
    | request => exact absurd .request inside
    | spend => exact .rest rfl (System.left_wake _ _)
    | handle events =>
      refine .handle events ?_ (left_handle _ _)
      rw [holdings_handle]
      rfl
    | @coordinator _ ready jobs =>
      refine .rest rfl (.of_eq ?_)
      have same := congrArg (filterMap Ready.left?) jobs
      simp only [System.jobs, filterMap_left_jobsOf] at same
      rw [System.left, System.left, same]
    | act order ready started =>
      obtain ⟨finds, holdings⟩ := (Workspace.Acts.atOnce started).does
      exact move_act ready rfl finds holdings
    | instant order ready started completed =>
      obtain ⟨finds, holdings⟩ := (Workspace.Acts.inTime started completed).does
      exact move_act ready rfl finds holdings
    | pause order ready started => exact move_wait ready (holdings_of_after started) _
    | block order ready started => exact move_wait ready (holdings_of_atGate started) _
    | finish order ready => exact .finish rfl (System.left_perm_middle ready rfl)
    | wake waiting due => exact move_ready waiting rfl
    | letIn order free waiting due => exact move_ready waiting rfl
    | resume order ready completed =>
      exact move_act ready rfl (finds_of_complete completed) (holdings_of_complete completed (safe.waits ready))

/-- What each thing that happens preserves, a course preserves; and everything stays in order. -/
theorem Course.preserves {P : List (Nat × Event) → System → Prop} (course : Course texts start history' system)
    (safe : Safe history start) (holds : P history start)
    (step : ∀ {history before handled after}, Safe history before → Happens texts before handled after →
      P history before → P (history ++ handled) after) :
    Safe (history ++ history') system ∧ P (history ++ history') system := by
  induction course with
  | start =>
    rw [append_nil]
    exact ⟨safe, holds⟩
  | step _ happens ih =>
    rw [← append_assoc]
    exact ⟨ih.1.step happens.step, step ih.1 happens ih.2⟩

theorem Course.trans (first : Course texts start history middle) (second : Course texts middle history' system) :
    Course texts start (history ++ history') system := by
  induction second with
  | start =>
    rw [append_nil]
    exact first
  | step _ happens ih =>
    rw [← append_assoc]
    exact ih.step happens

/-! ### Jobs alone -/

theorem Job.next_ne (next : action.Result → Job α) (result : action.Result) : next result ≠ .act action next := by
  intro same
  generalize whole : Job.act action next = job at same
  induction job generalizing action with
  | done value => cases whole
  | act action' next' ih =>
    cases whole
    exact ih result next' result same.symm rfl

theorem Job.bind_done (job : Job α) : job.bind .done = job := by
  induction job with
  | done value => rfl
  | act action next ih => exact congrArg (Job.act action) (funext ih)

theorem inside_of_ready (moved : after.ready ≠ system.ready) (fewer : after.ready.length ≤ system.ready.length) :
    ¬ Outside system after := by
  intro outside
  cases outside with
  | change => exact moved rfl
  | request =>
    simp only [System.spawn, length_append, length_singleton] at fewer
    omega

theorem inside_of_turn (moved : after.turn ≠ system.turn) : ¬ Outside system after := by
  intro outside
  cases outside <;> exact moved rfl

theorem Course.alone {job : Job α} (alone : job.Alone workspace value workspace') (earlier later : List Ready)
    (same : system.workspace = workspace) (ready : system.ready = earlier ++ .job (job.bind f) :: later) :
    Course texts system [] { system with workspace := workspace', ready := earlier ++ .job (f value) :: later } := by
  induction alone generalizing system with
  | done =>
    subst same
    rw [Job.bind] at ready
    rw [← ready]
    exact .start
  | @act _ _ action next result _ middle acts rest ih =>
    subst same
    let after : System := { system with workspace := middle, ready := earlier ++ .job ((next result).bind f) :: later }
    have step : Step .free system [] after := by
      cases acts with
      | atOnce started => exact .act (by nofun) ready started
      | inTime started completed => exact .instant (by nofun) ready started completed
    have moved : after.ready ≠ system.ready := by
      intro unmoved
      rw [ready] at unmoved
      have unmoved := append_cancel_left unmoved
      injection unmoved with unmoved
      injection unmoved with unmoved
      exact Job.next_ne (fun result => (next result).bind f) result unmoved
    have fewer : after.ready.length ≤ system.ready.length := by simp [after, ready]
    have first : Course texts system [] after := Course.start.step (.go step (inside_of_ready moved fewer))
    exact first.trans (ih rfl rfl)

theorem Course.ended {job : Job Unit} (alone : job.Alone system.workspace () workspace) (earlier later : List Ready)
    (ready : system.ready = earlier ++ .job job :: later) :
    Course texts system [] { system with workspace := workspace, ready := earlier ++ later } := by
  rw [← Job.bind_done job] at ready
  have ran : Course texts system [] _ := Course.alone alone earlier later rfl ready
  refine ran.trans (Course.start.step (.go (.finish (by nofun) rfl) (inside_of_ready ?_ ?_)))
  · intro unmoved
    have lengths := congrArg length unmoved
    simp at lengths
  · simp

theorem Job.Alone.call (alone : job.Alone workspace value workspace') (same : system.workspace = workspace) :
    ∃ trace, Call texts job system trace value { system with workspace := workspace' } := by
  induction alone generalizing system with
  | done =>
    subst same
    exact ⟨[], .done⟩
  | @act _ _ _ _ _ _ middle acts _ ih =>
    subst same
    obtain ⟨trace, rest⟩ := @ih { system with workspace := middle } rfl
    cases acts with
    | atOnce started => exact ⟨_, .act .start started rest⟩
    | inTime started completed => exact ⟨_, .wait .start started .start completed rest⟩

end SqlLens
