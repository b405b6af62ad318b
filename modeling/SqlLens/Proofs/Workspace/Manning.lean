import Mathlib.Data.List.Perm.Basic
import SqlLens.Proofs.Workspace.Gate

/-!
The jobs of a system at the gate.

Every job in the background, whether it can go on or waits, does what a job with its errand may do in its phase
(`Task.Does`), and the phases agree with the gate (`System.Manned`). Each step changes one task, but cancelling a ticket
wakes some.
-/

namespace SqlLens

open List hiding after

variable {action : Action}

inductive Task where
  | ready (entry : Ready)
  | waiting (paused : Paused Unit)

/-- The task does what a job with its errand may do in its phase. If it waited at the gate it is inside from the moment
it was let in. -/
inductive Task.Does : Task → Errand × Phase → Prop where
  | job {left : Job Unit} (follows : Follows errand phase left) : Does (.ready (.job left)) (errand, phase)
  | woken {paused : Paused Unit} (follows : Follows errand phase (.act paused.action paused.next))
      (elsewhere : paused.action.takesTime = true) : Does (.ready (.paused paused)) (errand, phase)
  | admitted {next : Unit → Job Unit} (follows : Follows errand phase (next ())) (inside : phase.isInside = true) :
      Does (.ready (.paused ⟨.enterGate, next, due⟩)) (errand, phase)
  | waiting {paused : Paused Unit} (follows : Follows errand phase (.act paused.action paused.next))
      (atGate : paused.due = none → paused.action = .enterGate)
      (elsewhere : paused.due.isSome = true → paused.action.takesTime = true) : Does (.waiting paused) (errand, phase)

def tasksOf (ready : List Ready) (waiting : List (Paused Unit)) : List Task :=
  (jobsOf ready).map .ready ++ waiting.map .waiting

def System.Manned (history : List (Nat × Event)) (system : System) : Prop :=
  ∃ jobs, Forall₂ Task.Does (tasksOf system.ready system.waiting) jobs ∧
    Guarded history system.workspace.occupied system.workspace.publications jobs

/-! ### Single actions -/

theorem cancelled_of_start {workspace : Workspace} (started : workspace.start action = (progress, after)) :
    after.cancelled = workspace.cancelled := by
  obtain rfl : (workspace.start action).2 = after := congrArg Prod.snd started
  by_cases quiet : action.isQuiet = true
  · exact (undisturbed_start quiet workspace).cancelled
  · cases action with
    | enterGate => simp only [Workspace.start]; split <;> rfl
    | leaveGate | publish => rfl
    | _ => exact absurd rfl quiet

theorem cancelled_of_complete {workspace : Workspace} (completed : workspace.complete action = (result, after)) :
    after.cancelled = workspace.cancelled := by
  obtain rfl : (workspace.complete action).2 = after := congrArg Prod.snd completed
  by_cases quiet : action.isQuiet = true
  · exact (undisturbed_complete quiet workspace).cancelled
  · cases action with
    | enterGate | leaveGate | publish => rfl
    | _ => exact absurd rfl quiet

theorem takesTime_of_start {workspace : Workspace} (started : workspace.start action = (.after milliseconds, after)) :
    action.takesTime := by
  cases action with
  | fetch | publish | sleep => rfl
  | enterGate =>
    rw [start_enterGate] at started
    split at started <;> cases started
  | _ => cases started

theorem enterGate_of_start {workspace : Workspace} (started : workspace.start action = (.atGate, after)) :
    action = .enterGate := by
  cases action with
  | enterGate => rfl
  | fetch written ticket =>
    simp only [Workspace.start, Workspace.beginFetch] at started
    split at started
    · cases started
    · split at started
      · cases started
      · split at started <;> cases started
  | _ => cases started

theorem takesTime_of_listensTo {paused : Paused Unit} (listens : paused.listensTo ticket) :
    paused.action.takesTime := by
  unfold Paused.listensTo at listens
  split at listens
  next own => rw [own]; rfl
  next => cases listens

theorem undisturbed_of_start {workspace : Workspace} (started : workspace.start action = (progress, after))
    (unfinished : ∀ result, progress ≠ .finished result) : workspace.Undisturbed after := by
  by_cases quiet : action.isQuiet = true
  · have undisturbed := undisturbed_start quiet workspace
    rwa [started] at undisturbed
  · cases action with
    | enterGate =>
      rw [start_enterGate] at started
      split at started
      next =>
        cases started
        exact ⟨rfl, rfl, rfl⟩
      next =>
        cases started
        exact absurd rfl (unfinished ())
    | leaveGate =>
      cases started
      exact absurd rfl (unfinished ())
    | publish =>
      cases started
      exact ⟨rfl, rfl, rfl⟩
    | _ => exact absurd rfl quiet

theorem publications_tell (workspace : Workspace) (turn : Nat) (uri : Uri) (markers : List Editor.Marker) :
    (workspace.tell (.published turn uri markers)).publications = workspace.publications ++ [(turn, uri)] := by
  simp [Workspace.publications, Workspace.tell, Notice.publication?]

/-! ### One task among the others -/

section

variable {earlier later ready : List Ready} {entry : Ready} {waiting : List (Paused Unit)} {paused : Paused Unit}

theorem tasksOf_ready (job : entry.isCoordinator = false) :
    (tasksOf (earlier ++ entry :: later) waiting).Perm (.ready entry :: tasksOf (earlier ++ later) waiting) := by
  simp only [tasksOf, jobsOf_append, jobsOf_cons job, map_append, map_cons, append_assoc, cons_append]
  exact perm_middle

theorem tasksOf_spawn (job : entry.isCoordinator = false) :
    (tasksOf (ready ++ [entry]) waiting).Perm (.ready entry :: tasksOf ready waiting) := by
  have apart : (tasksOf (ready ++ [entry]) waiting).Perm (.ready entry :: tasksOf (ready ++ []) waiting) :=
    tasksOf_ready job
  rwa [append_nil] at apart

theorem tasksOf_waiting :
    (tasksOf ready (sooner ++ paused :: behind)).Perm (.waiting paused :: tasksOf ready (sooner ++ behind)) := by
  simp only [tasksOf, map_append, map_cons, ← append_assoc]
  exact perm_middle

theorem tasksOf_pause : (tasksOf ready (waiting ++ [paused])).Perm (.waiting paused :: tasksOf ready waiting) := by
  have apart : (tasksOf ready (waiting ++ [paused])).Perm (.waiting paused :: tasksOf ready (waiting ++ [])) :=
    tasksOf_waiting
  rwa [append_nil] at apart

theorem Task.Does.wake (timed : ∀ paused ∈ waiting, paused.action.takesTime)
    (does : Forall₂ Task.Does (waiting.map .waiting ++ tasks) jobs) :
    Forall₂ Task.Does (waiting.map (fun paused => .ready (.paused paused)) ++ tasks) jobs := by
  induction waiting generalizing jobs with
  | nil => exact does
  | cons paused rest ih =>
    obtain ⟨first, others⟩ := forall_mem_cons.mp timed
    cases does with
    | cons own does =>
      cases own with
      | waiting follows => exact .cons (.woken follows first) (ih others does)

end

/-! ### Steps -/

theorem Workspace.Undisturbed.guarded {workspace : Workspace} (undisturbed : workspace.Undisturbed after)
    (guarded : Guarded history workspace.occupied workspace.publications jobs) :
    Guarded history after.occupied after.publications jobs := by
  rwa [undisturbed.occupied, undisturbed.publications]

theorem Task.Does.complete {paused : Paused Unit} {result : paused.action.Result} {workspace after : Workspace}
    (does : (Task.ready (.paused paused)).Does (errand, phase)) (booked : Booked history cancelled)
    (guarded : Guarded history workspace.occupied workspace.publications ((errand, phase) :: others))
    (completed : workspace.complete paused.action = (result, after)) :
    ∃ phase', (Task.ready (.job (paused.next result))).Does (errand, phase') ∧
      Guarded history after.occupied after.publications ((errand, phase') :: others) := by
  obtain ⟨action, next, due⟩ := paused
  cases does with
  | woken follows elsewhere =>
    cases follows with
    | quiet quiet rest =>
      have undisturbed := undisturbed_complete quiet workspace
      rw [completed] at undisturbed
      exact ⟨_, .job (rest result), undisturbed.guarded guarded⟩
    | publish own rest =>
      cases completed
      exact ⟨_, .job rest, publications_tell .. ▸ guarded.publish booked own⟩
    | enter | check | leave => cases elsewhere
  | admitted follows inside =>
    cases completed
    exact ⟨_, .job follows, (guarded.alone inside).1 ▸ guarded⟩

namespace System.Manned

variable {system after : System} {workspace : Workspace} {task : Task} {earlier later : List Ready}
  {history : List (Nat × Event)}

theorem same (manned : system.Manned history) (occupied : after.workspace.occupied = system.workspace.occupied)
    (published : after.workspace.publications = system.workspace.publications) (jobs : after.jobs = system.jobs)
    (waiting : after.waiting = system.waiting) : after.Manned history := by
  obtain ⟨labels, does, guarded⟩ := manned
  refine ⟨labels, ?_, by rwa [occupied, published]⟩
  rwa [tasksOf, waiting, show jobsOf after.ready = jobsOf system.ready from jobs]

theorem split (manned : system.Manned history) (apart : (tasksOf system.ready system.waiting).Perm (task :: rest)) :
    ∃ errand phase others, task.Does (errand, phase) ∧ Forall₂ Task.Does rest others ∧
      Guarded history system.workspace.occupied system.workspace.publications ((errand, phase) :: others) := by
  obtain ⟨jobs, does, guarded⟩ := manned
  obtain ⟨_, does, same⟩ := perm_comp_forall₂ apart.symm does
  cases does with
  | cons own does => exact ⟨_, _, _, own, does, guarded.perm same.symm⟩

theorem of_split (apart : (tasksOf after.ready after.waiting).Perm (task :: rest)) (own : task.Does job)
    (does : Forall₂ Task.Does rest others)
    (guarded : Guarded history after.workspace.occupied after.workspace.publications (job :: others)) :
    after.Manned history := by
  obtain ⟨jobs, does, same⟩ := perm_comp_forall₂ apart (.cons own does)
  exact ⟨jobs, does, guarded.perm same.symm⟩

section

variable (manned : system.Manned history)

include manned

theorem change (before : (tasksOf system.ready system.waiting).Perm (task :: rest))
    (moves : ∀ {errand phase others}, task.Does (errand, phase) →
      Guarded history system.workspace.occupied system.workspace.publications ((errand, phase) :: others) →
      ∃ phase', task'.Does (errand, phase') ∧
        Guarded history after.workspace.occupied after.workspace.publications ((errand, phase') :: others))
    (apart : (tasksOf after.ready after.waiting).Perm (task' :: rest)) : after.Manned history := by
  obtain ⟨errand, phase, others, own, does, guarded⟩ := manned.split before
  obtain ⟨phase', own', guarded'⟩ := moves own guarded
  exact of_split apart own' does guarded'

theorem act {next : action.Result → Job Unit} {result : action.Result}
    (booked : Booked history system.workspace.cancelled)
    (ready : system.ready = earlier ++ .job (.act action next) :: later)
    (started : system.workspace.start action = (.finished result, workspace)) :
    Manned history { system with workspace := workspace, ready := earlier ++ .job (next result) :: later } := by
  refine manned.change (ready ▸ tasksOf_ready rfl) (fun own guarded => ?_) (tasksOf_ready rfl)
  obtain ⟨follows⟩ := own
  cases follows with
  | quiet quiet rest =>
    have undisturbed := undisturbed_start quiet system.workspace
    rw [started] at undisturbed
    exact ⟨_, .job (rest result), undisturbed.guarded guarded⟩
  | enter rest =>
    rw [start_enterGate] at started
    split at started
    next => cases started
    next free =>
      cases started
      rw [eq_false_of_ne_true free] at guarded
      exact ⟨_, .job rest, guarded.enter⟩
  | @check turn uri next stop go =>
    cases started
    cases checked : system.workspace.isCancelled (some ⟨turn⟩) with
    | true => exact ⟨_, .job stop, guarded.move _ .leaving rfl nofun⟩
    | false =>
      have valid : ⟨turn⟩ ∉ system.workspace.cancelled := by simpa [Workspace.isCancelled] using checked
      exact ⟨_, .job go, guarded.go booked valid⟩
  | publish => cases started
  | leave rest =>
    cases started
    exact ⟨_, .job rest, guarded.leave⟩

theorem resume (booked : Booked history cancelled) (ready : system.ready = earlier ++ .paused paused :: later)
    (completed : system.workspace.complete paused.action = (result, workspace)) :
    Manned history { system with workspace := workspace, ready := earlier ++ .job (paused.next result) :: later } :=
  manned.change (ready ▸ tasksOf_ready rfl) (fun own guarded => own.complete booked guarded completed)
    (tasksOf_ready rfl)

theorem instant {next : action.Result → Job Unit} {result : action.Result}
    (booked : Booked history cancelled) (ready : system.ready = earlier ++ .job (.act action next) :: later)
    (started : system.workspace.start action = (.after milliseconds, middle))
    (completed : middle.complete action = (result, workspace)) :
    Manned history { system with workspace := workspace, ready := earlier ++ .job (next result) :: later } := by
  refine manned.change (ready ▸ tasksOf_ready rfl) (fun own guarded => ?_) (tasksOf_ready rfl)
  obtain ⟨follows⟩ := own
  have woken : (Task.ready (.paused ⟨action, next, none⟩)).Does (_, _) := .woken follows (takesTime_of_start started)
  exact woken.complete booked ((undisturbed_of_start started nofun).guarded guarded) completed

theorem wait {next : action.Result → Job Unit} (ready : system.ready = earlier ++ .job (.act action next) :: later)
    (started : system.workspace.start action = (progress, workspace))
    (unfinished : ∀ result, progress ≠ .finished result)
    (atGate : due = none → action = .enterGate) (elsewhere : due.isSome → action.takesTime) :
    Manned history { system with
      workspace := workspace, ready := earlier ++ later, waiting := system.waiting ++ [⟨action, next, due⟩] } := by
  refine manned.change (ready ▸ tasksOf_ready rfl) (fun own guarded => ?_) tasksOf_pause
  obtain ⟨follows⟩ := own
  exact ⟨_, .waiting follows atGate elsewhere, (undisturbed_of_start started unfinished).guarded guarded⟩

theorem finish (ready : system.ready = earlier ++ .job (.done ()) :: later) :
    Manned history { system with ready := earlier ++ later } := by
  obtain ⟨errand, phase, others, ⟨follows⟩, does, guarded⟩ := manned.split (ready ▸ tasksOf_ready rfl)
  cases follows with
  | done away => exact ⟨others, does, guarded.finish away⟩

theorem spawn (known : errand.Known history) (follows : Follows errand .outside job) :
    (system.spawn job).Manned history := by
  obtain ⟨jobs, does, guarded⟩ := manned
  exact of_split (tasksOf_spawn rfl) (.job follows) does (guarded.join known)

theorem wake {earlier later : List (Paused Unit)}
    (waiting : system.waiting = earlier ++ paused :: later) (due : paused.due.isSome) :
    Manned history { system with ready := system.ready ++ [.paused paused], waiting := earlier ++ later } := by
  refine manned.change (waiting ▸ tasksOf_waiting) (fun own guarded => ?_) (tasksOf_spawn rfl)
  cases own with
  | waiting follows atGate elsewhere => exact ⟨_, .woken follows (elsewhere due), guarded⟩

theorem letIn {earlier later : List (Paused Unit)} (free : system.workspace.occupied = false)
    (waiting : system.waiting = earlier ++ paused :: later) (due : paused.due = none) : Manned history { system with
      workspace := { system.workspace with occupied := true }
      ready := system.ready ++ [.paused paused]
      waiting := earlier ++ later } := by
  refine manned.change (waiting ▸ tasksOf_waiting) (fun own guarded => ?_) (tasksOf_spawn rfl)
  rw [free] at guarded
  obtain ⟨action, next, time⟩ := paused
  cases own with
  | waiting follows atGate =>
    cases atGate due
    cases follows with
    | quiet quiet => cases quiet
    | enter rest => exact ⟨_, .admitted rest (Errand.isInside_inside _), guarded.enter⟩

theorem cancel (ticket : Ticket) : (system.cancel ticket).Manned history := by
  obtain ⟨jobs, does, guarded⟩ := manned
  let woken := system.waiting.filter (·.listensTo ticket)
  let left := system.waiting.filter fun paused => !paused.listensTo ticket
  have before : (woken.map Task.waiting ++ tasksOf system.ready left).Perm (tasksOf system.ready system.waiting) := by
    refine perm_append_comm_assoc .. |>.trans (Perm.append_left _ ?_)
    rw [← map_append]
    exact (filter_append_perm _ _).map _
  have after : (tasksOf (system.ready ++ woken.map .paused) left).Perm
      (woken.map (fun paused => Task.ready (.paused paused)) ++ tasksOf system.ready left) := by
    have jobs : jobsOf (woken.map .paused) = woken.map .paused :=
      filter_eq_self.mpr (by simp [Ready.isCoordinator])
    rw [tasksOf, jobsOf_append, jobs, map_append, map_map, append_assoc]
    exact perm_append_comm_assoc ..
  obtain ⟨labels, does, same⟩ := perm_comp_forall₂ before does
  have timed : ∀ paused ∈ woken, paused.action.takesTime = true := fun paused listed =>
    takesTime_of_listensTo (mem_filter.mp listed).2
  obtain ⟨labels', does, same'⟩ := perm_comp_forall₂ after (Task.Does.wake timed does)
  exact ⟨labels', does, guarded.perm (same'.trans same).symm⟩

theorem supersede (uri : Uri) : (system.supersede uri).Manned history := by
  unfold System.supersede
  split
  next ticket _ => exact (manned.cancel ticket).same rfl rfl rfl rfl
  next => exact manned

end

end System.Manned

end SqlLens
