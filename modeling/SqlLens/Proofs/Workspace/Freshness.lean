import SqlLens.Proofs.Workspace.Course

/-!
What is known about a document belongs to its text.

An edit puts a text in place before it emits its event. So when a run has read a document and the document gets another
text, there is a later event for it, or there will be one: the run is `Overtaken`. `Honest` says that every document has
one of its texts, that artifacts were made from texts of their documents, and that what runs publish about a document
was made from its text unless they are overtaken. So a file that was parsed was
made from the text that was read (`Call.parsed`).
-/

namespace SqlLens

open List

variable {texts : Texts} {uri : Uri} {history handled : List (Nat × Event)} {system after : System}
  {workspace : Workspace}

/-! ### Later events -/

inductive Overtaken (uri : Uri) (history : List (Nat × Event)) (system : System) (turn : Nat) : Prop where
  | handled (later : turn < number) (happened : (number, .changed uri) ∈ history)
  | waiting (event : .changed uri ∈ system.workspace.holdings.events)
  | coming {next : Unit → Job Unit} (left : .act (.emit (.changed uri)) next ∈ system.left)

theorem Holdings.events_subset (holdings : Holdings) (action : Action) :
    holdings.events ⊆ (holdings.after action).events := by
  cases action with
  | emit event => exact subset_append_left _ _
  | _ => exact Subset.refl _

theorem Overtaken.moved (overtaken : Overtaken uri history system turn) (numbered : turn < system.turn)
    (move : Move texts system handled after) : Overtaken uri (history ++ handled) after turn := by
  cases overtaken with
  | handled later happened => exact .handled later (mem_append_left _ happened)
  | waiting event =>
    cases move with
    | rest holdings | join _ holdings | finish holdings =>
      rw [← holdings] at event
      exact .waiting event
    | handle events holdings =>
      have event : .changed uri ∈ system.workspace.events := event
      rw [events] at event
      rcases mem_cons.mp event with rfl | waiting
      · exact .handled numbered (mem_append_right _ (mem_singleton_self _))
      · refine .waiting ?_
        rw [holdings]
        exact waiting
    | act _ holdings =>
      refine .waiting ?_
      rw [holdings]
      exact Holdings.events_subset _ _ event
  | coming emits =>
    cases move with
    | rest _ left => exact .coming (left.mem_iff.mpr emits)
    | join _ _ left | handle _ _ left => exact .coming (left.mem_iff.mpr (mem_cons_of_mem _ emits))
    | finish _ left =>
      rcases mem_cons.mp (left.mem_iff.mp emits) with ⟨⟨⟩⟩ | others
      exact .coming others
    | act _ holdings before left =>
      rcases mem_cons.mp (before.mem_iff.mp emits) with own | others
      · cases own
        refine .waiting ?_
        rw [holdings]
        exact mem_append_right _ (mem_singleton_self _)
      · exact .coming (left.mem_iff.mpr (mem_cons_of_mem _ others))

/-- The document is the one that is open, unless the run with the number is overtaken. -/
def Current (uri : Uri) (history : List (Nat × Event)) (system : System) (turn : Nat) (document : Document) : Prop :=
  system.workspace.holdings.documents.find? uri = some document ∨ Overtaken uri history system turn

/-- The markers are what the run with the number may publish: they were made from the text of the document. -/
structure Reports (uri : Uri) (history : List (Nat × Event)) (system : System) (turn : Nat)
    (markers : List Editor.Marker) : Prop where
  known : (turn, .changed uri) ∈ history
  current : ∃ document, Current uri history system turn document ∧ DiagnosedFrom document.text markers

def Allows (uri : Uri) (history : List (Nat × Event)) (system : System) : Licence :=
  fun turn about markers => about = uri → Reports uri history system turn markers

/-! ### Jobs -/

inductive Edits (texts : Texts) : Job Unit → Prop where
  | drop (given : texts document.uri document.text) : Edits texts (.act (.dropArtifact document.uri) fun _ =>
      .act (.putDocument document) fun _ => .act (.emit (.changed document.uri)) .done)
  | put (given : texts document.uri document.text) :
      Edits texts (.act (.putDocument document) fun _ => .act (.emit (.changed document.uri)) .done)
  | emit (uri : Uri) : Edits texts (.act (.emit (.changed uri)) .done)

/-- What is left of a job is in order. -/
inductive Proper (texts : Texts) (uri : Uri) (history : List (Nat × Event)) (system : System)
    (job : Job Unit) : Prop where
  | edit (edits : Edits texts job)
  /-- A run that has not read the document yet. -/
  | fresh (known : (turn, .changed uri) ∈ history) (same : job = publishRun uri ⟨turn⟩)
  | ensured (ensures : job.Ensures texts (Allows uri history system) fun _ => True)

structure Holdings.Genuine (texts : Texts) (holdings : Holdings) : Prop where
  documents : ∀ document ∈ holdings.documents.entries, texts document.uri document.text
  artifacts : ∀ entry ∈ holdings.artifacts.entries, texts.Genuine entry.1 entry.2

/-- Documents, artifacts, publications and what is left of the jobs are in order. -/
structure Honest (texts : Texts) (uri : Uri) (history : List (Nat × Event)) (system : System) : Prop where
  genuine : system.workspace.holdings.Genuine texts
  events : ∀ event ∈ system.workspace.holdings.events, ∃ about, event = .changed about
  notices : ∀ turn markers, .published turn uri markers ∈ system.workspace.holdings.notices →
    Reports uri history system turn markers
  jobs : ∀ job ∈ system.left, Proper texts uri history system job

theorem Asked.proper (asked : Asked texts job) : Proper texts uri history system job := by
  cases asked with
  | edit given => exact .edit (.drop given)
  | parse about ticket =>
    exact .ensured (Job.Ensures.bind (ensures_parseFile about ticket) fun _ _ => .done trivial)
  | hover about position =>
    exact .ensured (Job.Ensures.bind (ensures_hover about position) fun _ _ => .done trivial)

theorem proper_publishRun (known : (turn, .changed about) ∈ history) :
    Proper texts uri history system (publishRun about ⟨turn⟩) := by
  by_cases own : about = uri
  · subst own
    exact .fresh known rfl
  · exact .ensured (ensures_publishRun fun _ same => absurd same own)

/-! ### Actions -/

theorem Documents.has_of_find? {documents : Documents}
    (given : ∀ document ∈ documents.entries, texts document.uri document.text)
    (found : documents.find? uri = some document) : texts.Has uri document := by
  have own : document.uri = uri := by simpa using find?_some found
  exact ⟨own, own ▸ given document (mem_of_find?_eq_some found)⟩

theorem Documents.find?_insert_self (documents : Documents) (document : Document) :
    (documents.insert document).find? document.uri = some document := by
  simp [Documents.insert, Documents.find?]

theorem Documents.find?_insert_of_ne {documents : Documents} (other : document.uri ≠ uri) :
    (documents.insert document).find? uri = documents.find? uri := by
  simp only [Documents.insert, Documents.find?, Documents.erase]
  rw [find?_cons_of_neg (by simpa using other), find?_filter]
  congr 1
  funext candidate
  by_cases same : candidate.uri = uri
  · simp [same, other.symm]
  · simp [same]

theorem Artifacts.genuine_of_find? {artifacts : Artifacts}
    (given : ∀ entry ∈ artifacts.entries, texts.Genuine entry.1 entry.2) (found : artifacts.find? uri = some artifact) :
    texts.Genuine uri artifact := by
  obtain ⟨earlier, later, entries, -⟩ := lookup_eq_some_iff.mp found
  exact given (uri, artifact) (entries ▸ mem_append_right _ mem_cons_self)

structure Holdings.Grows (texts : Texts) (may : Licence) (before after : Holdings) : Prop where
  documents : after.documents = before.documents
  events : after.events = before.events
  artifacts : ∀ entry ∈ after.artifacts.entries, entry ∈ before.artifacts.entries ∨ texts.Genuine entry.1 entry.2
  notices : ∀ turn uri markers, .published turn uri markers ∈ after.notices →
    .published turn uri markers ∈ before.notices ∨ may turn uri markers

theorem Holdings.Grows.refl (holdings : Holdings) : holdings.Grows texts may holdings :=
  ⟨rfl, rfl, fun _ => .inl, fun _ _ _ => .inl⟩

theorem Holdings.Grows.genuine {before after : Holdings} (grows : before.Grows texts may after)
    (genuine : before.Genuine texts) : after.Genuine texts where
  documents := grows.documents ▸ genuine.documents
  artifacts entry member := (grows.artifacts entry member).elim (genuine.artifacts entry) id

theorem Job.Ensures.act {next : action.Result → Job α} {may : Licence}
    (ensures : (Job.act action next).Ensures texts may post)
    (genuine : workspace.holdings.Genuine texts) (finds : workspace.Finds action result) :
    (next result).Ensures texts may post ∧ workspace.holdings.Grows texts may (workspace.holdings.after action) := by
  cases ensures with
  | readDocument rest =>
    refine ⟨rest result fun document found => ?_, .refl _⟩
    exact Documents.has_of_find? genuine.documents (finds.symm.trans found)
  | readArtifact rest =>
    refine ⟨rest result fun kept found => ?_, .refl _⟩
    exact Artifacts.genuine_of_find? genuine.artifacts (finds.symm.trans found)
  | keepArtifact kept rest =>
    refine ⟨rest, rfl, rfl, fun entry member => ?_, fun _ _ _ => .inl⟩
    rcases mem_cons.mp member with rfl | old
    · exact .inr kept
    · exact .inl (mem_of_mem_filter old)
  | fetch rest => exact ⟨rest result finds, .refl _⟩
  | publish allowed rest =>
    refine ⟨rest, rfl, rfl, fun _ => .inl, fun turn uri markers member => ?_⟩
    rcases mem_append.mp member with old | new
    · exact .inl old
    · cases mem_singleton.mp new
      exact .inr allowed
  | plain plain rest =>
    refine ⟨rest result, ?_⟩
    cases action with
    | log level message =>
      refine ⟨rfl, rfl, fun _ => .inl, fun turn uri markers member => .inl ?_⟩
      rcases mem_append.mp member with old | new
      · exact old
      · cases mem_singleton.mp new
    | isCancelled | enterGate | leaveGate | sleep => exact .refl _
    | _ => cases plain

/-- What an action of a job that is in order does to what is shared, and what is left of the job. -/
structure Behaves (texts : Texts) (uri : Uri) (history : List (Nat × Event)) (system : System) (action : Action)
    (job : Job Unit) : Prop where
  rest : Proper texts uri history system job
  genuine : (system.workspace.holdings.after action).Genuine texts
  /-- Who puts a document in place emits the event next. -/
  documents : (system.workspace.holdings.after action).documents = system.workspace.holdings.documents ∨
    ∃ document, action = .putDocument document ∧ job = .act (.emit (.changed document.uri)) .done
  events : ∀ event ∈ (system.workspace.holdings.after action).events,
    event ∈ system.workspace.holdings.events ∨ ∃ about, event = .changed about
  notices : ∀ turn markers, .published turn uri markers ∈ (system.workspace.holdings.after action).notices →
    .published turn uri markers ∈ system.workspace.holdings.notices ∨ Reports uri history system turn markers

theorem Holdings.Grows.behaves {job : Job Unit}
    (grows : system.workspace.holdings.Grows texts (Allows uri history system) (system.workspace.holdings.after action))
    (honest : Honest texts uri history system) (rest : Proper texts uri history system job) :
    Behaves texts uri history system action job where
  rest := rest
  genuine := grows.genuine honest.genuine
  documents := .inl grows.documents
  events _ member := .inl (grows.events ▸ member)
  notices turn markers member := (grows.notices turn uri markers member).imp_right fun allowed => allowed rfl

theorem Edits.behaves {next : action.Result → Job Unit} (edits : Edits texts (.act action next))
    (honest : Honest texts uri history system) (result : action.Result) :
    Behaves texts uri history system action (next result) := by
  obtain ⟨⟨documents, artifacts⟩, -⟩ := honest
  cases edits with
  | drop given =>
    refine ⟨.edit (.put given), ⟨documents, fun entry member => ?_⟩, .inl rfl, fun _ => .inl, fun _ _ => .inl⟩
    exact artifacts entry (mem_of_mem_filter member)
  | put given =>
    refine ⟨.edit (.emit _), ⟨fun other member => ?_, artifacts⟩, .inr ⟨_, rfl, rfl⟩, fun _ => .inl, fun _ _ => .inl⟩
    rcases mem_cons.mp member with rfl | old
    · exact given
    · exact documents other (mem_of_mem_filter old)
  | emit about =>
    refine ⟨.ensured (.done trivial), ⟨documents, artifacts⟩, .inl rfl, fun event member => ?_, fun _ _ => .inl⟩
    exact (mem_append.mp member).imp_right fun new => ⟨about, mem_singleton.mp new⟩

theorem Proper.read (honest : Honest texts uri history system) (distinct : texts.Distinct uri)
    (known : (turn, .changed uri) ∈ history) (found : system.workspace.documents.find? uri = some document) :
    Proper texts uri history system
      ((diagnoseDocument uri document (some ⟨turn⟩)).run.bind (conclude uri ⟨turn⟩)) := by
  have given : texts.Has uri document := Documents.has_of_find? honest.genuine.documents found
  refine .ensured (ensures_report given fun markers diagnosed _ => ?_)
  exact ⟨known, document, .inl found, diagnosed distinct⟩

theorem Proper.act {next : action.Result → Job Unit}
    (proper : Proper texts uri history system (.act action next)) (honest : Honest texts uri history system)
    (distinct : texts.Distinct uri) (finds : system.workspace.Finds action result) :
    Behaves texts uri history system action (next result) := by
  cases proper with
  | edit edits => exact edits.behaves honest result
  | fresh known same =>
    rw [publishRun_act] at same
    cases same
    refine (Holdings.Grows.refl _).behaves honest ?_
    cases result with
    | none => exact .ensured (.done trivial)
    | some document => exact .read honest distinct known finds.symm
  | ensured ensures =>
    obtain ⟨rest, grows⟩ := ensures.act honest.genuine finds
    exact grows.behaves honest (.ensured rest)

/-! ### Moves -/

section Moves

variable (honest : Honest texts uri history system) (distinct : texts.Distinct uri)
  (numbered : ∀ entry ∈ history, entry.1 < system.turn) (move : Move texts system handled after)

include honest distinct numbered move

theorem Current.moved (known : (turn, .changed uri) ∈ history) (current : Current uri history system turn document) :
    Current uri (history ++ handled) after turn document := by
  rcases current with found | overtaken
  · cases move with
    | rest holdings | join _ holdings | finish holdings | handle _ holdings =>
      refine .inl ?_
      rw [holdings]
      exact found
    | act finds holdings before left =>
      have behaves := (honest.jobs _ (before.mem_iff.mpr mem_cons_self)).act honest distinct finds
      rcases behaves.documents with same | ⟨other, rfl, emits⟩
      · refine .inl ?_
        rw [holdings, same]
        exact found
      -- Another text for the document is in place, and its event comes next.
      · by_cases own : other.uri = uri
        · subst own
          rw [emits] at left
          exact .inr (.coming (left.mem_iff.mpr mem_cons_self))
        · refine .inl ?_
          rw [holdings]
          exact (Documents.find?_insert_of_ne own).trans found
  · exact .inr (overtaken.moved (numbered _ known) move)

theorem Reports.moved (reports : Reports uri history system turn markers) :
    Reports uri (history ++ handled) after turn markers := by
  obtain ⟨known, document, current, diagnosed⟩ := reports
  exact ⟨mem_append_left _ known, document, current.moved honest distinct numbered move known, diagnosed⟩

theorem Proper.moved (proper : Proper texts uri history system job) :
    Proper texts uri (history ++ handled) after job := by
  cases proper with
  | edit edits => exact .edit edits
  | fresh known same => exact .fresh (mem_append_left _ known) same
  | ensured ensures =>
    refine .ensured (ensures.mono (fun turn about markers allowed own => ?_) fun _ => id)
    exact (allowed own).moved honest distinct numbered move

theorem Honest.moved : Honest texts uri (history ++ handled) after := by
  have reports : ∀ {turn markers}, Reports uri history system turn markers →
      Reports uri (history ++ handled) after turn markers := fun reports => reports.moved honest distinct numbered move
  have proper : ∀ {job}, Proper texts uri history system job → Proper texts uri (history ++ handled) after job :=
    fun proper => proper.moved honest distinct numbered move
  have ⟨genuine, events, notices, jobs⟩ := honest
  cases move with
  | rest holdings left =>
    rw [← holdings] at genuine events notices
    exact ⟨genuine, events, fun _ _ told => reports (notices _ _ told),
      fun job member => proper (jobs job (left.mem_iff.mp member))⟩
  | join asked holdings left =>
    rw [← holdings] at genuine events notices
    refine ⟨genuine, events, fun _ _ told => reports (notices _ _ told), fun job member => ?_⟩
    rcases mem_cons.mp (left.mem_iff.mp member) with rfl | old
    · exact asked.proper
    · exact proper (jobs job old)
  | finish holdings left =>
    rw [← holdings] at genuine events notices
    exact ⟨genuine, events, fun _ _ told => reports (notices _ _ told),
      fun job member => proper (jobs job (left.mem_iff.mpr (mem_cons_of_mem _ member)))⟩
  | @handle event rest _ taken holdings left =>
    have event_mem : event ∈ system.workspace.events := taken ▸ mem_cons_self
    refine ⟨?_, fun other waiting => ?_, fun _ _ told => ?_, fun job member => ?_⟩
    · rw [holdings]
      exact ⟨genuine.documents, genuine.artifacts⟩
    · rw [holdings] at waiting
      have other_mem : other ∈ system.workspace.events := taken ▸ mem_cons_of_mem _ waiting
      exact events other other_mem
    · rw [holdings] at told
      exact reports (notices _ _ told)
    · rcases mem_cons.mp (left.mem_iff.mp member) with rfl | old
      · obtain ⟨about, rfl⟩ := events event event_mem
        exact proper_publishRun (mem_append_right _ (mem_singleton_self _))
      · exact proper (jobs job old)
  | act finds holdings before left =>
    have behaves := (jobs _ (before.mem_iff.mpr mem_cons_self)).act honest distinct finds
    refine ⟨holdings ▸ behaves.genuine, fun event waiting => ?_, fun turn markers told => ?_, fun job member => ?_⟩
    · rw [holdings] at waiting
      exact (behaves.events event waiting).elim (events event) id
    · rw [holdings] at told
      exact reports ((behaves.notices turn markers told).elim (notices turn markers) id)
    · rcases mem_cons.mp (left.mem_iff.mp member) with rfl | old
      · exact proper behaves.rest
      · exact proper (jobs job (before.mem_iff.mpr (mem_cons_of_mem _ old)))

end Moves

theorem Honest.of_empty (texts : Texts) (uri : Uri) (settings : Settings) (files : Files)
    (store : Store) (delay : Nat) :
    Honest texts uri [] (System.of (.empty settings files store delay)) where
  genuine := ⟨nofun, nofun⟩
  events := nofun
  notices := nofun
  jobs := nofun

theorem Honest.course (honest : Honest texts uri history system) (safe : Safe history system)
    (distinct : texts.Distinct uri) (course : Course texts system history' after) :
    Safe (history ++ history') after ∧ Honest texts uri (history ++ history') after :=
  course.preserves safe honest fun safe happens honest => honest.moved distinct safe.books.numbered (happens.move safe)

/-! ### Calls -/

theorem Honest.grow (honest : Honest texts uri history system)
    (grows : system.workspace.holdings.Grows texts (fun _ _ _ => False) workspace.holdings) :
    Honest texts uri history { system with workspace := workspace } := by
  have overtaken : ∀ {turn}, Overtaken uri history system turn →
      Overtaken uri history { system with workspace := workspace } turn := by
    intro turn overtaken
    cases overtaken with
    | handled later happened => exact .handled later happened
    | waiting event => exact .waiting (grows.events ▸ event)
    | coming left => exact .coming left
  have reports : ∀ {turn markers}, Reports uri history system turn markers →
      Reports uri history { system with workspace := workspace } turn markers := by
    rintro turn markers ⟨known, document, current, diagnosed⟩
    refine ⟨known, document, current.imp (fun found => ?_) overtaken, diagnosed⟩
    rw [grows.documents]
    exact found
  refine ⟨grows.genuine honest.genuine, grows.events ▸ honest.events, fun turn markers told => ?_, fun job left => ?_⟩
  · exact reports (honest.notices turn markers ((grows.notices turn uri markers told).resolve_right id))
  · cases honest.jobs job left with
    | edit edits => exact .edit edits
    | fresh known same => exact .fresh known same
    | ensured ensures => exact .ensured (ensures.mono (fun _ _ _ allowed own => reports (allowed own)) fun _ => id)

theorem Honest.foreground (honest : Honest texts uri history system)
    (safe : Safe history system) (undisturbed : system.workspace.Undisturbed workspace)
    (grows : system.workspace.holdings.Grows texts (fun _ _ _ => False) workspace.holdings) :
    Safe history { system with workspace := workspace } ∧
      Honest texts uri history { system with workspace := workspace } := by
  have step : Step .free system [] { system with workspace := workspace } := .change undisturbed
  have safe := safe.step step
  rw [append_nil] at safe
  exact ⟨safe, honest.grow grows⟩

theorem undisturbed_of_started {after : Workspace} (quiet : action.isQuiet)
    (started : workspace.start action = (progress, after)) : workspace.Undisturbed after := by
  have undisturbed := undisturbed_start quiet workspace
  rwa [started] at undisturbed

theorem undisturbed_of_completed {after : Workspace} (quiet : action.isQuiet)
    (completed : workspace.complete action = (result, after)) : workspace.Undisturbed after := by
  have undisturbed := undisturbed_complete quiet workspace
  rwa [completed] at undisturbed

theorem Call.ensures {job : Job α} (call : Call texts job system trace value after) (distinct : texts.Distinct uri)
    (quiet : job.Quiet) (ensures : job.Ensures texts (fun _ _ _ => False) post) (safe : Safe history system)
    (honest : Honest texts uri history system) : post value := by
  induction call generalizing history with
  | done =>
    cases ensures with
    | done holds => exact holds
  | act others started _ ih =>
    obtain ⟨-⟩ | ⟨own, rest⟩ := quiet
    obtain ⟨safe, honest⟩ := honest.course safe distinct others
    obtain ⟨ensures, grows⟩ := ensures.act honest.genuine (finds_of_start started)
    rw [← holdings_of_finished started] at grows
    obtain ⟨safe, honest⟩ := honest.foreground safe (undisturbed_of_started own started) grows
    exact ih (rest _) ensures safe honest
  | wait others started meanwhile completed _ ih =>
    obtain ⟨-⟩ | ⟨own, rest⟩ := quiet
    obtain ⟨safe, honest⟩ := honest.course safe distinct others
    have begun := holdings_of_after started
    obtain ⟨safe, honest⟩ := honest.foreground safe (undisturbed_of_started own started) (begun ▸ .refl _)
    obtain ⟨safe, honest⟩ := honest.course safe distinct meanwhile
    obtain ⟨ensures, grows⟩ := ensures.act honest.genuine (finds_of_complete completed)
    rw [← holdings_of_complete completed (.inl (takesTime_of_start started))] at grows
    obtain ⟨safe, honest⟩ := honest.foreground safe (undisturbed_of_completed own completed) grows
    exact ih (rest _) ensures safe honest

/-- What parsing gives: an artifact of the text that was read first. There is none if the document is not open, or if
the work was given up. -/
def Parsed (uri : Uri) (ticket : Option Ticket) (trace : List (Sigma Action.Result))
    (outcome : Except WorkspaceError Artifact) : Prop :=
  ∃ (found : Option Document) (rest : List (Sigma Action.Result)), trace = ⟨.readDocument uri, found⟩ :: rest ∧
    match found, outcome with
    | some document, .ok artifact => artifact.BuiltFrom document.text
    | some _, .error error => GivenUp ticket error
    | none, .ok _ => False
    | none, .error error => error = .documentNotFound uri

theorem Call.parsed (call : Call texts (parseFile uri ticket).run system trace outcome after)
    (distinct : texts.Distinct uri) (safe : Safe history system) (honest : Honest texts uri history system) :
    Parsed uri ticket trace outcome := by
  have quiet : (parseFile uri ticket).run.Quiet := quiet_parseFile uri ticket
  rw [parseFile_run] at call quiet
  obtain ⟨-⟩ | ⟨-, quiet⟩ := quiet
  cases call with
  | wait _ started => cases started
  | act others started rest =>
    rename_i found
    obtain ⟨safe, honest⟩ := honest.course safe distinct others
    have given : ∀ document ∈ found, texts.Has uri document := fun document member =>
      Documents.has_of_find? honest.genuine.documents ((finds_of_start started).symm.trans member)
    have same := holdings_of_finished started
    obtain ⟨safe, honest⟩ := honest.foreground safe (undisturbed_of_started rfl started) (same ▸ .refl _)
    refine ⟨found, _, rfl, ?_⟩
    cases found with
    | none =>
      cases rest
      rfl
    | some document =>
      have parsed :=
        rest.ensures distinct (quiet (some document)) (ensures_parseDocument (given document rfl) ticket) safe
        honest
      cases outcome with
      | error error => exact parsed
      | ok artifact => exact parsed distinct

end SqlLens
