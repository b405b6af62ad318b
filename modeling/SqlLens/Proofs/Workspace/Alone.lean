import SqlLens.Proofs.Workspace.Schedule

/-!
Jobs that nobody interrupts.

A job that has the workspace to itself comes to an end unless somebody is inside the gate. For a run this means that it
publishes: an open document can be diagnosed whatever its text is and whatever becomes of the tables it names, unless
the ticket is cancelled.
-/

namespace SqlLens

/-- An action takes place from its beginning to its end. -/
inductive Workspace.Acts (before : Workspace) (action : Action) : action.Result → Workspace → Prop where
  | atOnce (started : before.start action = (.finished result, after)) : Acts before action result after
  | inTime (started : before.start action = (.after milliseconds, middle))
      (completed : middle.complete action = (result, after)) : Acts before action result after

/-- A job takes place with nobody else around. -/
inductive Job.Alone : Job α → Workspace → α → Workspace → Prop where
  | done : Alone (.done value) workspace value workspace
  | act {next : action.Result → Job α} {result : action.Result} {before middle : Workspace}
      (acts : before.Acts action result middle) (rest : Alone (next result) middle value after) :
      Alone (.act action next) before value after

theorem Job.Alone.bind {job : Job α} (first : job.Alone before value middle)
    (second : (f value).Alone middle value' after) : (job.bind f).Alone before value' after := by
  induction first with
  | done => exact second
  | act acts _ ih => exact .act acts (ih second)

theorem schedule_alone (alone : job.Alone before value after) (system : System) (earlier later : List Ready)
    (order : discipline = .queued → earlier = [] ∧ system.atGate = []) :
    Schedule discipline { system with workspace := before, ready := earlier ++ .job job :: later } []
      { system with workspace := after, ready := earlier ++ later } := by
  induction alone with
  | done => exact .single (.finish (fun queued => (order queued).1) rfl)
  | act acts rest ih =>
    refine .silently (.single ?_) ih
    cases acts with
    | atOnce started => exact .act (fun queued => ⟨(order queued).1, fun _ => (order queued).2⟩) rfl started
    | inTime started completed => exact .instant (fun queued => (order queued).1) rfl started completed

/-! ### Diagnosing -/

structure Workspace.Calm (before after : Workspace) : Prop where
  documents : after.documents = before.documents
  cancelled : after.cancelled = before.cancelled
  occupied : after.occupied = before.occupied
  notices : after.notices = before.notices

namespace Workspace.Calm

theorem refl (workspace : Workspace) : workspace.Calm workspace := ⟨rfl, rfl, rfl, rfl⟩

theorem trans {before : Workspace} (first : before.Calm middle) (second : middle.Calm after) : before.Calm after :=
  ⟨second.documents.trans first.documents, second.cancelled.trans first.cancelled,
    second.occupied.trans first.occupied, second.notices.trans first.notices⟩

theorem isCancelled {before : Workspace} (calm : before.Calm after) (ticket : Option Ticket) :
    after.isCancelled ticket = before.isCancelled ticket := by
  cases ticket with
  | none => rfl
  | some ticket => rw [Workspace.isCancelled, Workspace.isCancelled, calm.cancelled]

end Workspace.Calm

/-- The attempt, with nobody else around, succeeds and leaves documents, tickets, gate and notices alone. -/
def Attempt.Succeeds (attempt : Attempt α) (before : Workspace) : Prop :=
  ∃ value after, attempt.run.Alone before (.ok value) after ∧ before.Calm after

namespace Attempt.Succeeds

theorem pure (value : α) (workspace : Workspace) : Succeeds (Pure.pure value) workspace :=
  ⟨value, workspace, .done, .refl _⟩

theorem bind {attempt : Attempt α} {f : α → Attempt β} (first : attempt.Succeeds before)
    (second : ∀ value middle, before.Calm middle → (f value).Succeeds middle) : Succeeds (attempt >>= f) before := by
  obtain ⟨value, middle, alone, calm⟩ := first
  obtain ⟨value', after, alone', calm'⟩ := second value middle calm
  exact ⟨value', after, alone.bind alone', calm.trans calm'⟩

theorem perform {action : Action} {result : action.Result} {f : action.Result → Attempt α}
    (acts : before.Acts action result middle)
    (calm : before.Calm middle) (rest : (f result).Succeeds middle) :
    Succeeds (Attempt.perform action >>= f) before := by
  obtain ⟨value, after, alone, calm'⟩ := rest
  exact ⟨value, after, .act acts alone, calm.trans calm'⟩

end Attempt.Succeeds

theorem note_metadata (supply : Supply) (path : String) (span : Span) (error : FetchError) :
    ∃ supply', supply.note path span (.error (.metadata error)) = .ok supply' := by
  unfold Supply.note
  dsimp only
  split
  · exact ⟨_, rfl⟩
  · exact ⟨_, rfl⟩

theorem acts_fetch {workspace : Workspace} (valid : workspace.isCancelled ticket = false) (supply : Supply)
    (path : String) (span : Span) :
    ∃ outcome after, workspace.Acts (.fetch path ticket) outcome after ∧ workspace.Calm after ∧
      ∃ supply', supply.note path span outcome = .ok supply' := by
  have begins : workspace.start (.fetch path ticket) = workspace.beginFetch path ticket := rfl
  rw [Workspace.beginFetch] at begins
  split at begins
  next error unreadable => exact ⟨_, _, .atOnce begins, .refl _, note_metadata ..⟩
  next place parsed =>
    rw [valid, if_neg Bool.false_ne_true] at begins
    split at begins
    next table store asked => exact ⟨_, _, .atOnce begins, ⟨rfl, rfl, rfl, rfl⟩, _, rfl⟩
    next store asked =>
      have ends : Workspace.complete { workspace with store := store } (.fetch path ticket) =
        Workspace.endFetch { workspace with store := store } path ticket := rfl
      have valid' : Workspace.isCancelled { workspace with store := store } ticket = false := valid
      rw [Workspace.endFetch, parsed] at ends
      dsimp only at ends
      rw [valid', if_neg Bool.false_ne_true] at ends
      split at ends
      · exact ⟨_, _, .inTime begins ends, ⟨rfl, rfl, rfl, rfl⟩, note_metadata ..⟩
      · split at ends
        · exact ⟨_, _, .inTime begins ends, ⟨rfl, rfl, rfl, rfl⟩, _, rfl⟩
        · exact ⟨_, _, .inTime begins ends, ⟨rfl, rfl, rfl, rfl⟩, note_metadata ..⟩

theorem gather_succeeds {workspace : Workspace} (valid : workspace.isCancelled ticket = false) (supply : Supply)
    (paths : List (String × Span)) : (gather ticket supply paths).Succeeds workspace := by
  induction paths generalizing supply workspace with
  | nil => exact .pure _ _
  | cons path rest ih =>
    obtain ⟨outcome, after, acts, calm, supply', noted⟩ := acts_fetch valid supply path.1 path.2
    refine .perform acts calm ?_
    rw [noted]
    exact ih ((calm.isCancelled ticket).trans valid) supply'

theorem buildFile_succeeds {workspace : Workspace} (valid : workspace.isCancelled ticket = false)
    (document : Document) :
    (buildFile document ticket).Succeeds workspace := by
  refine .bind (gather_succeeds valid _ _) fun supply middle _ => ?_
  split
  · exact .perform (.atOnce rfl) ⟨rfl, rfl, rfl, rfl⟩ (.pure _ _)
  · exact .pure _ _

theorem parseFile_succeeds {workspace : Workspace} (found : workspace.documents.find? uri = some document)
    (valid : workspace.isCancelled ticket = false) : (parseFile uri ticket).Succeeds workspace := by
  refine .perform (.atOnce rfl) (.refl _) ?_
  rw [found]
  refine .perform (.atOnce rfl) (.refl _) ?_
  split
  next kept _ =>
    split
    · exact .pure _ _
    · exact buildFile_succeeds valid document
  next => exact buildFile_succeeds valid document

theorem diagnose_succeeds {workspace : Workspace} (found : workspace.documents.find? uri = some document)
    (valid : workspace.isCancelled ticket = false) : (diagnose uri ticket).Succeeds workspace := by
  refine .bind (parseFile_succeeds found valid) fun file middle calm => .perform (.atOnce rfl) (.refl _) ?_
  rw [calm.isCancelled, valid]
  exact .pure _ _

/-! ### Publishing -/

structure Workspace.Tells (before : Workspace) (notice : Notice) (after : Workspace) : Prop where
  documents : after.documents = before.documents
  cancelled : after.cancelled = before.cancelled
  free : after.occupied = false
  notices : after.notices = before.notices ++ [notice]

theorem acts_enterGate {workspace : Workspace} (free : workspace.occupied = false) :
    workspace.Acts .enterGate () { workspace with occupied := true } :=
  .atOnce (by simp [Workspace.start, free])

theorem announce_alone {workspace : Workspace} (valid : workspace.isCancelled (some ticket) = false)
    (free : workspace.occupied = false) (uri : Uri) (markers : List Editor.Marker) :
    ∃ after, (announce uri ticket markers).Alone workspace () after ∧
      workspace.Tells (.published ticket.number uri markers) after := by
  obtain ⟨turn⟩ := ticket
  let after : Workspace := { workspace.tell (.published turn uri markers) with occupied := false }
  have still : Workspace.isCancelled { workspace with occupied := true } (some ⟨turn⟩) = false := valid
  rw [announce_eq]
  refine ⟨after, .act (acts_enterGate free) (.act (.atOnce rfl) ?_), rfl, rfl, rfl, rfl⟩
  rw [still]
  exact .act (.inTime rfl rfl) (.act (.atOnce rfl) .done)

theorem publishRun_alone {workspace : Workspace} (found : workspace.documents.find? uri = some document)
    (valid : ticket ∉ workspace.cancelled) (free : workspace.occupied = false) :
    ∃ markers after, (publishRun uri ticket).Alone workspace () after ∧
      workspace.Tells (.published ticket.number uri markers) after := by
  have unspent : workspace.isCancelled (some ticket) = false := by simpa [Workspace.isCancelled] using valid
  obtain ⟨markers, middle, diagnosed, calm⟩ := diagnose_succeeds found unspent
  obtain ⟨after, announced, tells⟩ :=
    announce_alone ((calm.isCancelled (some ticket)).trans unspent) (calm.occupied.trans free) uri markers
  have ran : (publishRun uri ticket).Alone workspace () after := by
    rw [publishRun_eq]
    exact diagnosed.bind announced
  refine ⟨markers, after, ran, tells.documents.trans calm.documents,
    tells.cancelled.trans calm.cancelled, tells.free, ?_⟩
  rw [tells.notices, calm.notices]

theorem clearRun_alone (free : workspace.occupied = false) (uri : Uri) (turn : Nat) :
    ∃ after, (clearRun uri turn).Alone workspace () after ∧ workspace.Tells (.published turn uri []) after :=
  ⟨_, .act (acts_enterGate free) (.act (.inTime rfl rfl) (.act (.atOnce rfl) .done)), rfl, rfl, rfl, rfl⟩

end SqlLens
