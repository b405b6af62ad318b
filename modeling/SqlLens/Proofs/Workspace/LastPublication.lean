import SqlLens.Proofs.Workspace.Freshness

/-!
The last publication is about the last text.

A ticket is cancelled only because of a later event for the same document (`Spent`). So a run for the last event that
has found what to publish publishes it (`Delivered`). No other run for the document publishes after it, and what it
publishes was made from the text that the document has in the end.
-/

namespace SqlLens

open List

variable {texts : Texts} {uri : Uri} {history handled : List (Nat × Event)} {system after : System}

/-! ### Tickets -/

structure Spent (history : List (Nat × Event)) (system : System) : Prop where
  pending : ∀ entry ∈ system.pending, (entry.2.number, .changed entry.1) ∈ history
  numbered : ∀ ticket ∈ system.workspace.cancelled, ticket.number < system.turn
  late : ∀ turn uri, (turn, .changed uri) ∈ history → ⟨turn⟩ ∈ system.workspace.cancelled →
    ∃ later event, turn < later ∧ event.uri = uri ∧ (later, event) ∈ history

theorem pending_supersede (system : System) (uri : Uri) : (system.supersede uri).pending ⊆ system.pending := by
  unfold System.supersede
  split
  · exact filter_subset_self _
  · exact Subset.refl _

theorem cancelled_supersede (cancelled : ticket ∈ (system.supersede uri).workspace.cancelled) :
    ticket ∈ system.workspace.cancelled ∨ (uri, ticket) ∈ system.pending := by
  unfold System.supersede at cancelled
  split at cancelled
  · rename_i found
    rcases mem_cons.mp cancelled with rfl | old
    · obtain ⟨earlier, later, pending, -⟩ := lookup_eq_some_iff.mp found
      exact .inr (pending ▸ mem_append_right _ mem_cons_self)
    · exact .inl old
  · exact .inl cancelled

namespace Spent

theorem same (spent : Spent history system) (turn : after.turn = system.turn) (pending : after.pending = system.pending)
    (cancelled : after.workspace.cancelled = system.workspace.cancelled) : Spent history after where
  pending := pending ▸ spent.pending
  numbered := by
    rw [cancelled, turn]
    exact spent.numbered
  late := cancelled ▸ spent.late

theorem looked (spent : Spent history system) (books : Books history system) (turn : after.turn = system.turn + 1)
    (pending : ∀ entry ∈ after.pending,
      entry ∈ system.pending ∨ (entry.2.number, Event.changed entry.1) = (system.turn, event))
    (cancelled : ∀ ticket ∈ after.workspace.cancelled,
      ticket ∈ system.workspace.cancelled ∨ (event.uri, ticket) ∈ system.pending) :
    Spent (history ++ [(system.turn, event)]) after := by
  have earlier : ∀ ticket ∈ after.workspace.cancelled, ticket.number < system.turn := by
    intro ticket member
    rcases cancelled ticket member with old | own
    · exact spent.numbered ticket old
    · exact books.numbered _ (spent.pending _ own)
  refine ⟨fun entry member => ?_, fun ticket member => ?_, fun number uri changed member => ?_⟩
  · rcases pending entry member with old | own
    · exact mem_append_left _ (spent.pending entry old)
    · exact mem_append_right _ (mem_singleton.mpr own)
  · have := earlier ticket member
    omega
  · have before : number < system.turn := earlier _ member
    rcases mem_append.mp changed with known | new
    · rcases cancelled _ member with old | own
      · obtain ⟨later, event', less, same, happened⟩ := spent.late number uri known old
        exact ⟨later, event', less, same, mem_append_left _ happened⟩
      · cases books.unique known (spent.pending _ own)
        exact ⟨system.turn, event, before, rfl, mem_append_right _ (mem_singleton_self _)⟩
    · cases mem_singleton.mp new
      exact absurd before (Nat.lt_irrefl _)

theorem handle (spent : Spent history system) (books : Books history system) (event : Event) :
    Spent (history ++ [(system.turn, event)]) (system.handle event) := by
  have superseded := supersede_superseded { system with turn := system.turn + 1 } event.uri
  have kept := pending_supersede { system with turn := system.turn + 1 } event.uri
  cases event with
  | changed uri =>
    refine spent.looked books superseded.turn (fun entry member => ?_) fun _ => cancelled_supersede
    rcases mem_cons.mp member with rfl | old
    · exact .inr rfl
    · exact .inl (kept old)
  | closed uri =>
    exact spent.looked books superseded.turn (fun _ member => .inl (kept member)) fun _ => cancelled_supersede

theorem spend (spent : Spent history system) (books : Books history system) : Spent history system.spentTicket.2 where
  pending := spent.pending
  numbered ticket member := by
    rcases mem_cons.mp member with rfl | old
    · exact Nat.lt_succ_self _
    · exact Nat.lt_succ_of_lt (spent.numbered ticket old)
  late turn uri changed member := by
    rcases mem_cons.mp member with same | old
    · cases same
      exact absurd (books.numbered _ changed) (Nat.lt_irrefl _)
    · exact spent.late turn uri changed old

theorem step (spent : Spent history system) (books : Books history system) (step : Step .free system handled after) :
    Spent (history ++ handled) after := by
  cases step with
  | @handle event rest _ events =>
    have books : Books history (system.expecting rest) := books.grow (Nat.le_refl _) rfl (Subset.refl _)
    have spent : Spent history (system.expecting rest) := spent.same rfl rfl rfl
    exact spent.handle books event
  | spend =>
    rw [append_nil]
    exact spent.spend books
  | change undisturbed =>
    rw [append_nil]
    exact spent.same rfl rfl undisturbed.cancelled
  | request | coordinator | finish | wake | letIn =>
    rw [append_nil]
    exact spent.same rfl rfl rfl
  | act _ _ started | pause _ _ started | block _ _ started =>
    rw [append_nil]
    exact spent.same rfl rfl (cancelled_of_start started)
  | instant _ _ started completed =>
    rw [append_nil]
    exact spent.same rfl rfl ((cancelled_of_complete completed).trans (cancelled_of_start started))
  | resume _ _ completed =>
    rw [append_nil]
    exact spent.same rfl rfl (cancelled_of_complete completed)

theorem of_empty (settings : Settings) (files : Files) (store : Store) (delay : Nat) :
    Spent [] (System.of (.empty settings files store delay)) := ⟨nofun, nofun, nofun⟩

end Spent

/-! ### Publishing -/

/-- What is left of a run that has found what it publishes and has not published it yet. -/
inductive Announcing (uri : Uri) (turn : Nat) (markers : List Editor.Marker) : Job Unit → Prop where
  | enter : Announcing uri turn markers
      (.act .enterGate fun _ => .act (.isCancelled (some ⟨turn⟩)) (announceUnless uri turn markers))
  | look : Announcing uri turn markers (.act (.isCancelled (some ⟨turn⟩)) (announceUnless uri turn markers))
  | publish : Announcing uri turn markers (.act (.publish turn uri markers) fun _ => .act .leaveGate .done)

/-- A run that has found what it publishes is about to publish it or has published it, unless there is a later event. -/
inductive Delivered (uri : Uri) (turn : Nat) (markers : List Editor.Marker) (history : List (Nat × Event))
    (system : System) : Prop where
  | coming (announcing : Announcing uri turn markers job) (left : job ∈ system.left)
  | told (notice : .published turn uri markers ∈ system.workspace.holdings.notices)
  | late (later : turn < number) (same : event.uri = uri) (happened : (number, event) ∈ history)

theorem Holdings.notices_subset (holdings : Holdings) (action : Action) :
    holdings.notices ⊆ (holdings.after action).notices := by
  cases action with
  | publish | log => exact subset_append_left _ _
  | _ => exact Subset.refl _

theorem Announcing.act {next : action.Result → Job Unit}
    (announcing : Announcing uri turn markers (.act action next)) (spent : Spent history system)
    (known : (turn, .changed uri) ∈ history) (finds : system.workspace.Finds action result)
    (holdings : after.workspace.holdings = system.workspace.holdings.after action) (left : next result ∈ after.left) :
    Delivered uri turn markers history after := by
  cases announcing with
  | enter => exact .coming .look left
  | look =>
    cases result with
    | true =>
      have cancelled : ⟨turn⟩ ∈ system.workspace.cancelled := by
        simpa [Workspace.isCancelled] using finds.symm
      obtain ⟨later, event, less, same, happened⟩ := spent.late turn uri known cancelled
      exact .late less same happened
    | false => exact .coming .publish left
  | publish =>
    refine .told ?_
    rw [holdings]
    exact mem_append_right _ (mem_singleton_self _)

theorem Delivered.moved (delivered : Delivered uri turn markers history system) (spent : Spent history system)
    (known : (turn, .changed uri) ∈ history) (move : Move texts system handled after) :
    Delivered uri turn markers (history ++ handled) after := by
  cases delivered with
  | late later same happened => exact .late later same (mem_append_left _ happened)
  | told notice =>
    refine .told ?_
    cases move with
    | rest holdings | join _ holdings | finish holdings | handle _ holdings =>
      rw [holdings]
      exact notice
    | act _ holdings =>
      rw [holdings]
      exact Holdings.notices_subset _ _ notice
  | coming announcing own =>
    cases move with
    | rest _ left => exact .coming announcing (left.mem_iff.mpr own)
    | join _ _ left | handle _ _ left => exact .coming announcing (left.mem_iff.mpr (mem_cons_of_mem _ own))
    | finish _ left =>
      rcases mem_cons.mp (left.mem_iff.mp own) with rfl | others
      · cases announcing
      · exact .coming announcing others
    | act finds holdings before left =>
      rcases mem_cons.mp (before.mem_iff.mp own) with rfl | others
      · rw [append_nil]
        exact announcing.act spent known finds holdings (left.mem_iff.mpr mem_cons_self)
      · exact .coming announcing (left.mem_iff.mpr (mem_cons_of_mem _ others))

theorem Honest.reports (honest : Honest texts uri history system)
    (announced : .job (announce uri ⟨turn⟩ markers) ∈ system.ready) : Reports uri history system turn markers := by
  have proper := honest.jobs _ (System.mem_left announced)
  rw [announce_eq] at proper
  cases proper with
  | edit edits => cases edits
  | fresh known same =>
    rw [publishRun_act] at same
    cases same
  | ensured ensures =>
    cases ensures with
    | plain _ looks =>
      cases looks () with
      | plain _ publishes =>
        cases publishes false with
        | publish allowed _ => exact allowed rfl
        | plain plain _ => cases plain

/-! ### The last publication -/

def Notice.isAbout (uri : Uri) : Notice → Bool
  | .published _ about _ => about = uri
  | .logged .. => false

def Workspace.lastPublished? (workspace : Workspace) (uri : Uri) : Option Notice :=
  (workspace.notices.filter (Notice.isAbout uri)).getLast?

theorem Notice.eq_published {notice : Notice} (about : notice.isAbout uri) :
    ∃ turn markers, notice = .published turn uri markers := by
  cases notice with
  | logged => cases about
  | published turn other markers =>
    have same : other = uri := by simpa [Notice.isAbout] using about
    exact ⟨turn, markers, by rw [same]⟩

/-- Publications of runs about a document come in the order of their events. -/
theorem Safe.published_le (safe : Safe history system) (known : (later, .changed uri) ∈ history)
    (order : [Notice.published turn uri markers, .published later uri markers'].Sublist system.workspace.notices) :
    turn ≤ later := by
  obtain ⟨_, -, guarded⟩ := safe.manned
  have ordered := guarded.ordered.sublist (order.filterMap Notice.publication?)
  exact (pairwise_cons.mp ordered).1 (later, uri) (by simp [Notice.publication?]) rfl known

theorem Honest.lastPublished (honest : Honest texts uri history system) (safe : Safe history system)
    (told : .published turn uri markers ∈ system.workspace.notices)
    (last : ∀ later event, (later, event) ∈ history → event.uri = uri → later ≤ turn) :
    ∃ markers', system.workspace.lastPublished? uri = some (.published turn uri markers') ∧
      Reports uri history system turn markers' := by
  have own : .published turn uri markers ∈ system.workspace.notices.filter (Notice.isAbout uri) :=
    mem_filter.mpr ⟨told, by simp [Notice.isAbout]⟩
  cases final : system.workspace.lastPublished? uri with
  | none => exact absurd own (by rw [getLast?_eq_none_iff.mp final]; exact not_mem_nil)
  | some notice =>
    obtain ⟨earlier, split⟩ := getLast?_eq_some_iff.mp final
    have among : notice ∈ system.workspace.notices.filter (Notice.isAbout uri) := split ▸ mem_concat_self
    obtain ⟨there, about⟩ := mem_filter.mp among
    obtain ⟨number, markers', rfl⟩ := Notice.eq_published about
    have reports := honest.notices number markers' there
    have atMost : number ≤ turn := last number _ reports.known rfl
    have atLeast : turn ≤ number := by
      rw [split] at own
      rcases mem_append.mp own with before | same
      · have order := (singleton_sublist.mpr before).append (.refl [Notice.published number uri markers'])
        rw [← split] at order
        exact safe.published_le reports.known (order.trans filter_sublist)
      · cases mem_singleton.mp same
        exact Nat.le_refl _
    obtain rfl := Nat.le_antisymm atMost atLeast
    exact ⟨markers', rfl, reports⟩

theorem Overtaken.finished (overtaken : Overtaken uri history system turn) (finished : system.Finished) :
    ∃ later, turn < later ∧ (later, .changed uri) ∈ history := by
  obtain ⟨left, events⟩ := finished
  cases overtaken with
  | handled later happened => exact ⟨_, later, happened⟩
  | waiting event =>
    have event : .changed uri ∈ system.workspace.events := event
    rw [events] at event
    cases event
  | coming emits => exact absurd (left ▸ emits) not_mem_nil

theorem Delivered.finished (delivered : Delivered uri turn markers history system) (finished : system.Finished)
    (last : ∀ later event, (later, event) ∈ history → event.uri = uri → later ≤ turn) :
    .published turn uri markers ∈ system.workspace.notices := by
  cases delivered with
  | coming _ left => exact absurd (finished.1 ▸ left) not_mem_nil
  | told notice => exact notice
  | late later same happened => exact absurd (last _ _ happened same) (Nat.not_le_of_lt later)

theorem Course.delivers (course : Course texts system history' after)
    (safe : Safe history system) (honest : Honest texts uri history system) (spent : Spent history system)
    (announced : .job (announce uri ⟨turn⟩ markers) ∈ system.ready) :
    Delivered uri turn markers (history ++ history') after := by
  have coming : Delivered uri turn markers history system :=
    .coming (announce_eq uri turn markers ▸ .enter) (System.mem_left announced)
  have known := (honest.reports announced).known
  have kept := course.preserves (P := fun history system => Spent history system ∧ (turn, Event.changed uri) ∈ history ∧
      Delivered uri turn markers history system) safe ⟨spent, known, coming⟩ fun safe happens
        ⟨spent, known, delivered⟩ =>
    ⟨spent.step safe.books happens.step, mem_append_left _ known, delivered.moved spent known (happens.move safe)⟩
  exact kept.2.2.2

theorem Course.inOrder (course : Course texts (System.of (.empty settings files store delay)) history system)
    (distinct : texts.Distinct uri) :
    Safe history system ∧ Honest texts uri history system ∧ Spent history system :=
  course.preserves (P := fun history system => Honest texts uri history system ∧ Spent history system)
    (Safe.of_empty settings files store delay)
    ⟨Honest.of_empty texts uri settings files store delay, Spent.of_empty settings files store delay⟩
    fun safe happens ⟨honest, spent⟩ =>
      ⟨honest.moved distinct safe.books.numbered (happens.move safe), spent.step safe.books happens.step⟩

/-! ### Edits that nobody interrupts -/

structure System.Idle (system : System) : Prop where
  ready : system.ready = []
  waiting : system.waiting = []
  free : system.workspace.occupied = false
  events : system.workspace.events = []

theorem System.Idle.finished (idle : system.Idle) : system.Finished :=
  ⟨by simp [System.left, idle.ready, idle.waiting], idle.events⟩

theorem Job.Ensures.events_alone {may : Licence} {post : α → Prop} {job : Job α} {before after : Workspace}
    (ensures : job.Ensures texts may post) (alone : job.Alone before value after)
    (genuine : before.holdings.Genuine texts) : after.holdings.events = before.holdings.events := by
  induction alone with
  | done => rfl
  | act acts _ ih =>
    obtain ⟨finds, holdings⟩ := acts.does
    obtain ⟨rest, grows⟩ := ensures.act genuine finds
    rw [← holdings] at grows
    exact (ih rest (grows.genuine genuine)).trans grows.events

theorem supersede_nobody_waits (none : system.waiting = []) (uri : Uri) :
    (system.supersede uri).ready = system.ready ∧ (system.supersede uri).waiting = [] ∧
      (system.supersede uri).workspace.occupied = system.workspace.occupied := by
  unfold System.supersede
  split
  · simp [System.cancel, System.wake, none]
  · exact ⟨rfl, none, rfl⟩

theorem Spent.valid (spent : Spent history system) (books : Books history system)
    (known : (turn, .changed uri) ∈ history) (last : system.turn = turn + 1) :
    system.workspace.isCancelled (some ⟨turn⟩) = false := by
  apply eq_false_of_ne_true
  intro said
  have cancelled : ⟨turn⟩ ∈ system.workspace.cancelled := by simpa [Workspace.isCancelled] using said
  obtain ⟨later, event, less, -, happened⟩ := spent.late turn uri known cancelled
  have numbered : later < system.turn := books.numbered _ happened
  omega

def Workspace.edited (workspace : Workspace) (document : Document) : Workspace :=
  { workspace with
    artifacts := workspace.artifacts.erase document.uri
    documents := workspace.documents.insert document
    events := [.changed document.uri] }

theorem System.Idle.takeText (idle : system.Idle) (given : texts document.uri document.text) :
    Course texts system [] { system with workspace := system.workspace.edited document } := by
  let asked : System := system.spawn (Server.takeText true document)
  have took : (Server.takeText true document).Alone asked.workspace () (system.workspace.edited document) := by
    refine .act (.atOnce rfl) (.act (.atOnce rfl) (.act (.atOnce ?_) .done))
    simp [asked, System.spawn, Workspace.edited, Workspace.start, idle.events]
  have ended : Course texts asked []
      { system with workspace := system.workspace.edited document, ready := system.ready ++ [] } :=
    Course.ended took system.ready [] rfl
  rw [append_nil] at ended
  exact (Course.start.step (.ask (.edit given))).trans ended

theorem System.Idle.started (idle : system.Idle)
    (before : Course texts (System.of (.empty settings files store delay)) history system)
    (distinct : texts.Distinct document.uri) (given : texts document.uri document.text) :
    ∃ started, Course texts system [(system.turn, .changed document.uri)] started ∧
      started.ready = [.job (publishRun document.uri ⟨system.turn⟩)] ∧ started.waiting = [] ∧
        started.workspace.holdings = { (system.workspace.edited document).holdings with events := [] } ∧
        started.workspace.occupied = false ∧ started.workspace.isCancelled (some ⟨system.turn⟩) = false := by
  let looking : System := { system with workspace := system.workspace.edited document }
  let next : System := { looking.expecting [] with turn := system.turn + 1 }
  let started : System := (looking.expecting []).handle (.changed document.uri)
  obtain ⟨ready, waiting, free⟩ := supersede_nobody_waits (show next.waiting = [] from idle.waiting) document.uri
  have turn : started.turn = system.turn + 1 := (supersede_superseded next document.uri).turn
  have handles : Course texts looking [(system.turn, .changed document.uri)] started := by
    refine Course.start.step (.go (.handle rfl) (inside_of_turn ?_))
    rw [turn]
    exact Nat.succ_ne_self _
  have course : Course texts system [(system.turn, .changed document.uri)] started :=
    (idle.takeText given).trans handles
  obtain ⟨safe, -, spent⟩ := (before.trans course).inOrder distinct
  have known : (system.turn, .changed document.uri) ∈ history ++ [(system.turn, .changed document.uri)] :=
    mem_append_right _ (mem_singleton_self _)
  refine ⟨started, course, ?_, waiting, holdings_handle _ _, free.trans idle.free, spent.valid safe.books known turn⟩
  have same : started.ready = (next.supersede document.uri).ready ++ [.job (publishRun document.uri ⟨system.turn⟩)] :=
    rfl
  rw [same, ready]
  exact congrArg (· ++ _) idle.ready

/-- An edit where nobody is at work is published: the run for it finds what to publish, and then publishes it. -/
theorem System.Idle.edit (idle : system.Idle)
    (before : Course texts (System.of (.empty settings files store delay)) history system) (document : Document)
    (distinct : texts.Distinct document.uri) (given : texts document.uri document.text) :
    ∃ markers middle after, Course texts system [(system.turn, .changed document.uri)] middle ∧
      .job (announce document.uri ⟨system.turn⟩ markers) ∈ middle.ready ∧ Course texts middle [] after ∧ after.Idle ∧
        after.workspace.documents.find? document.uri = some document := by
  obtain ⟨started, course, ready, waiting, holdings, free, valid⟩ := idle.started before distinct given
  have opened : started.workspace.documents.find? document.uri = some document := by
    have documents : started.workspace.documents = system.workspace.documents.insert document :=
      congrArg Holdings.documents holdings
    rw [documents]
    exact Documents.find?_insert_self _ _
  obtain ⟨markers, diagnosed, diagnoses, calm⟩ := diagnose_succeeds opened valid
  obtain ⟨published, announces, tells⟩ :=
    announce_alone ((calm.isCancelled _).trans valid) (calm.occupied.trans free) document.uri markers
  let middle : System := { started with
    workspace := diagnosed, ready := [.job (announce document.uri ⟨system.turn⟩ markers)] }
  have found : Course texts started [] middle := by
    rw [publishRun_eq] at ready
    exact Course.alone diagnoses [] [] rfl ready
  have ended : Course texts middle [] { middle with workspace := published, ready := [] } :=
    Course.ended announces [] [] rfl
  have events : published.holdings.events = [] := by
    have ran : (publishRun document.uri ⟨system.turn⟩).Alone started.workspace () published := by
      rw [publishRun_eq]
      exact diagnoses.bind announces
    obtain ⟨-, honest, -⟩ := (before.trans course).inOrder distinct
    have contract : (publishRun document.uri ⟨system.turn⟩).Ensures texts (fun _ _ _ => True) fun _ => True :=
      ensures_publishRun fun _ => trivial
    rw [contract.events_alone ran honest.genuine, holdings]
  refine ⟨markers, middle, _, ?_, mem_singleton_self _, ended, ⟨rfl, waiting, tells.free, events⟩, ?_⟩
  · have whole := course.trans found
    rwa [append_nil] at whole
  · rw [tells.documents, calm.documents]
    exact opened

def twoTexts : Texts := fun _ text => text = "SELECT 1" ∨ text = "SELECT missing FROM t"

theorem distinct_twoTexts (uri : Uri) : twoTexts.Distinct uri := by
  have different : Digest.fingerprint "SELECT 1" ≠ Digest.fingerprint "SELECT missing FROM t" := by decide +kernel
  rintro first second (rfl | rfl) (rfl | rfl) same
  · rfl
  · exact absurd same different
  · exact absurd same.symm different
  · rfl

/-- The last publication about a document reflects its last text. However edits, parsing and hovering take turns, and
whatever the store does meanwhile, if fingerprints tell the texts of the document apart: what parsing gives was made
from the text it has read; and if the run for the last event finds what to publish, then in the end the last publication
is that run's, and it was made from the text that the document has then. -/
theorem last_publication_reflects_last_text (settings : Settings) (files : Files) (store : Store) (delay : Nat)
    (distinct : texts.Distinct uri)
    (before : Course texts (System.of (.empty settings files store delay)) history middle) :
    (∀ ticket trace outcome after, Call texts (parseFile uri ticket).run middle trace outcome after →
      Parsed uri ticket trace outcome) ∧
    ∀ turn markers history' system, .job (announce uri ⟨turn⟩ markers) ∈ middle.ready →
      Course texts middle history' system → system.Finished →
      (∀ later event, (later, event) ∈ history ++ history' → event.uri = uri → later ≤ turn) →
        ∃ (document : Document) (artifact : Artifact), system.workspace.documents.find? uri = some document ∧
          artifact.BuiltFrom document.text ∧ system.workspace.lastPublished? uri =
            some (.published turn uri (artifact.diagnostics.map (Editor.Marker.of document.text))) := by
  obtain ⟨safe, honest, spent⟩ := before.inOrder distinct
  refine ⟨fun ticket trace outcome after call => call.parsed distinct safe honest, ?_⟩
  intro turn markers history' system announced course finished last
  have delivered := course.delivers safe honest spent announced
  obtain ⟨safe, honest⟩ := honest.course safe distinct course
  obtain ⟨markers', final, -, document, current, artifact, built, rfl⟩ :=
    honest.lastPublished safe (delivered.finished finished last) last
  refine ⟨document, artifact, ?_, built, final⟩
  rcases current with found | overtaken
  · exact found
  · obtain ⟨later, less, happened⟩ := overtaken.finished finished
    exact absurd (last later _ happened rfl) (Nat.not_le_of_lt less)

/-- A document is edited twice. In the end the last publication is that of the run for the second edit, it was made from
the second text, and so is what parsing gives. -/
theorem edited_twice_publishes_second_text :
    ∃ (turn : Nat) (system : System) (artifact : Artifact),
      Course twoTexts (System.of (.empty (.default "/work") .empty ⟨.memory .empty, none⟩ 5))
          [(0, .changed ⟨"file:///a.sql"⟩), (turn, .changed ⟨"file:///a.sql"⟩)] system ∧
        artifact.BuiltFrom "SELECT missing FROM t" ∧
        system.workspace.lastPublished? ⟨"file:///a.sql"⟩ = some (.published turn ⟨"file:///a.sql"⟩
          (artifact.diagnostics.map (Editor.Marker.of "SELECT missing FROM t"))) ∧
        ∃ trace file after, Call twoTexts (parseFile ⟨"file:///a.sql"⟩ none).run system trace (.ok file) after ∧
          Parsed ⟨"file:///a.sql"⟩ none trace (.ok file) := by
  generalize Uri.mk "file:///a.sql" = uri
  have distinct := distinct_twoTexts uri
  have idle : (System.of (.empty (.default "/work") .empty ⟨.memory .empty, none⟩ 5)).Idle := ⟨rfl, rfl, rfl, rfl⟩
  obtain ⟨_, _, between, first, -, published, idle, -⟩ := idle.edit .start ⟨uri, "SELECT 1", 1⟩ distinct (.inl rfl)
  have before : Course twoTexts _ [(0, .changed uri)] between := first.trans published
  obtain ⟨markers, middle, system, second, announced, rest, idle, found⟩ :=
    idle.edit before ⟨uri, "SELECT missing FROM t", 2⟩ distinct (.inr rfl)
  have whole : Course twoTexts _ [(0, .changed uri), (between.turn, .changed uri)] middle := before.trans second
  have reached : Course twoTexts _ [(0, .changed uri), (between.turn, .changed uri)] system := whole.trans rest
  have last : ∀ (later : Nat) (event : Event),
      (later, event) ∈ [(0, .changed uri), (between.turn, .changed uri)] ++ [] → event.uri = uri →
          later ≤ between.turn := by
    intro later event happened _
    rcases List.mem_cons.mp happened with one | other
    · cases one
      exact Nat.zero_le _
    · cases List.mem_singleton.mp other
      exact Nat.le_refl _
  obtain ⟨document, artifact, found', built, final⟩ :=
    (last_publication_reflects_last_text _ _ _ _ distinct whole).2 between.turn markers [] system announced rest
      idle.finished last
  cases found.symm.trans found'
  obtain ⟨file, _, parses, -⟩ := parseFile_succeeds found (show system.workspace.isCancelled none = false from rfl)
  obtain ⟨trace, call⟩ := parses.call rfl
  have parsed := (last_publication_reflects_last_text _ _ _ _ distinct reached).1 none trace (.ok file) _ call
  exact ⟨between.turn, system, artifact, reached, built, final, trace, file, _, call, parsed⟩

end SqlLens
