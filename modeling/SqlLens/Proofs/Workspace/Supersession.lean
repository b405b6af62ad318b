import SqlLens.Proofs.Workspace.Alone
import SqlLens.Proofs.Workspace.Manning

/-!
A run that was superseded never publishes late.

`Books` relates the tickets to the history of events: of all runs for a document only the last one can have a ticket
that is not cancelled, and the coordinator still has that ticket. `Safe` adds that the jobs agree with the gate. Every
step preserves it, whatever the discipline is.
-/

namespace SqlLens

open List hiding after

/-! ### Tickets -/

/-- The tickets agree with the events that were looked at. -/
structure Books (history : List (Nat × Event)) (system : System) : Prop
    extends Booked history system.workspace.cancelled where
  numbered : ∀ entry ∈ history, entry.1 < system.turn
  /-- A run whose ticket is not cancelled is the one the coordinator knows of. -/
  live : ∀ turn uri, (turn, .changed uri) ∈ history → ⟨turn⟩ ∉ system.workspace.cancelled →
    system.pending.lookup uri = some ⟨turn⟩

namespace Books

theorem grow (books : Books history before) (turn : before.turn ≤ after.turn) (pending : after.pending = before.pending)
    (cancelled : before.workspace.cancelled ⊆ after.workspace.cancelled) : Books history after where
  numbered entry member := Nat.lt_of_lt_of_le (books.numbered entry member) turn
  increasing := books.increasing
  live turn uri changed valid := pending ▸ books.live turn uri changed fun given => valid (cancelled given)
  superseded turn uri later event changed happened same less :=
    cancelled (books.superseded turn uri later event changed happened same less)

theorem single (books : Books history system) (one : (first, .changed uri) ∈ history)
    (other : (second, .changed uri) ∈ history) (valid : ⟨first⟩ ∉ system.workspace.cancelled)
    (valid' : ⟨second⟩ ∉ system.workspace.cancelled) : first = second := by
  have same := (books.live first uri one valid).symm.trans (books.live second uri other valid')
  cases same
  rfl

end Books

theorem lookup_cons_ne {pending : List (Uri × Ticket)} (different : other ≠ uri) (ticket : Ticket) :
    ((uri, ticket) :: pending).lookup other = pending.lookup other := by
  rw [lookup_cons, beq_eq_false_iff_ne.mpr different]

theorem lookup_filter_ne {pending : List (Uri × Ticket)} (different : other ≠ uri) :
    (pending.filter fun entry => entry.1 ≠ uri).lookup other = pending.lookup other := by
  induction pending with
  | nil => rfl
  | cons entry rest ih =>
    obtain ⟨key, ticket⟩ := entry
    by_cases own : key = uri
    · subst own
      rw [filter_cons_of_neg (by simp), ih, lookup_cons_ne different]
    · rw [filter_cons_of_pos (by simpa using own), lookup_cons, lookup_cons, ih]

structure Superseded (before after : System) (uri : Uri) : Prop where
  turn : after.turn = before.turn
  gone : ∀ ticket, before.pending.lookup uri = some ticket → ticket ∈ after.workspace.cancelled
  cancelled : before.workspace.cancelled ⊆ after.workspace.cancelled
  others : ∀ other, other ≠ uri → after.pending.lookup other = before.pending.lookup other

theorem supersede_superseded (system : System) (uri : Uri) : Superseded system (system.supersede uri) uri := by
  unfold System.supersede
  cases found : system.pending.lookup uri with
  | none => exact ⟨rfl, by simp [found], Subset.refl _, fun _ _ => rfl⟩
  | some ticket =>
    refine ⟨rfl, fun other same => ?_, subset_cons_self _ _, fun other different => lookup_filter_ne different⟩
    rw [found, Option.some_inj] at same
    exact same ▸ mem_cons_self

theorem Books.handled (books : Books history before)
    (superseded : Superseded { before with turn := before.turn + 1 } middle event.uri)
    (turn : after.turn = middle.turn) (cancelled : after.workspace.cancelled = middle.workspace.cancelled)
    (others : ∀ other, other ≠ event.uri → after.pending.lookup other = middle.pending.lookup other)
    (own : ∀ uri, event = .changed uri → after.pending.lookup uri = some ⟨before.turn⟩) :
    Books (history ++ [(before.turn, event)]) after := by
  have next : after.turn = before.turn + 1 := turn.trans superseded.turn
  -- A run for the document of the event can have had a valid ticket only if it was the last one; now that is gone too.
  have gone : ∀ turn, (turn, .changed event.uri) ∈ history → ⟨turn⟩ ∈ after.workspace.cancelled := by
    intro turn changed
    rw [cancelled]
    by_cases valid : ⟨turn⟩ ∈ before.workspace.cancelled
    · exact superseded.cancelled valid
    · exact superseded.gone _ (books.live turn _ changed valid)
  refine ⟨⟨?_, ?_⟩, ?_, ?_⟩
  · refine pairwise_append.mpr ⟨books.increasing, pairwise_singleton _ _, fun first old second new => ?_⟩
    cases mem_singleton.mp new
    exact books.numbered first old
  · intro turn uri later event' changed happened same less
    rcases mem_append.mp changed with old | new
    · rcases mem_append.mp happened with earlier | now
      · rw [cancelled]
        exact superseded.cancelled (books.superseded turn uri later event' old earlier same less)
      · cases mem_singleton.mp now
        exact gone turn (same ▸ old)
    · cases mem_singleton.mp new
      rcases mem_append.mp happened with earlier | now
      · exact absurd (books.numbered _ earlier) (by dsimp only; omega)
      · cases mem_singleton.mp now
        omega
  · intro entry member
    rcases mem_append.mp member with old | new
    · have := books.numbered entry old
      omega
    · cases mem_singleton.mp new
      dsimp only
      omega
  · intro turn uri changed valid
    rcases mem_append.mp changed with old | new
    · by_cases same : uri = event.uri
      · exact absurd (gone turn (same ▸ old)) valid
      · rw [others uri same, superseded.others uri same]
        exact books.live turn uri old fun given => valid (cancelled ▸ superseded.cancelled given)
    · cases mem_singleton.mp new
      exact own uri rfl

/-! ### Steps -/

structure Safe (history : List (Nat × Event)) (system : System) : Prop where
  books : Books history system
  manned : system.Manned history

namespace Safe

variable {history : List (Nat × Event)} {system after : System}

theorem handle (safe : Safe history system) (event : Event) :
    Safe (history ++ [(system.turn, event)]) (system.handle event) := by
  have manned : System.Manned (history ++ [(system.turn, event)]) { system with turn := system.turn + 1 } := by
    obtain ⟨jobs, does, guarded⟩ := safe.manned
    exact ⟨jobs, does, guarded.handled safe.books.numbered⟩
  have manned := manned.supersede event.uri
  have superseded := supersede_superseded { system with turn := system.turn + 1 } event.uri
  have happened := mem_append_right history (mem_singleton_self (system.turn, event))
  cases event with
  | changed uri =>
    refine ⟨safe.books.handled superseded rfl rfl (fun _ different => lookup_cons_ne different _) ?_, ?_⟩
    · rintro _ ⟨⟩
      exact lookup_cons_self
    · have known : (Errand.run system.turn uri).Known (history ++ [(system.turn, .changed uri)]) := happened
      exact (manned.spawn known (follows_publishRun system.turn uri)).same rfl rfl rfl rfl
  | closed uri =>
    have known : (Errand.clear system.turn uri).Known (history ++ [(system.turn, .closed uri)]) := happened
    exact ⟨safe.books.handled superseded rfl rfl (fun _ _ => rfl) nofun,
      manned.spawn known (follows_clearRun system.turn uri)⟩

theorem advance (safe : Safe history system) (cancelled : workspace.cancelled = system.workspace.cancelled)
    (manned : System.Manned history { system with workspace := workspace, ready := ready, waiting := waiting }) :
    Safe history { system with workspace := workspace, ready := ready, waiting := waiting } :=
  ⟨safe.books.grow (Nat.le_refl _) rfl (cancelled ▸ Subset.refl _), manned⟩

theorem step (safe : Safe history system) (step : Step discipline system handled after) :
    Safe (history ++ handled) after := by
  have booked := safe.books.toBooked
  cases step with
  | change undisturbed =>
    rw [append_nil]
    exact ⟨safe.books.grow (Nat.le_refl _) rfl (undisturbed.cancelled ▸ Subset.refl _),
      safe.manned.same undisturbed.occupied undisturbed.publications rfl rfl⟩
  | request quiet =>
    rw [append_nil]
    have known : Errand.request.Known history := trivial
    exact safe.advance rfl (safe.manned.spawn known quiet.followsRequest)
  | spend =>
    rw [append_nil]
    have numbered : System.Manned history { system with turn := system.turn + 1 } := safe.manned.same rfl rfl rfl rfl
    exact ⟨safe.books.grow (Nat.le_succ _) rfl (subset_cons_self _ _), numbered.cancel _⟩
  | @handle event rest _ events =>
    have taken : Safe history (system.expecting rest) :=
      ⟨safe.books.grow (Nat.le_refl _) rfl (Subset.refl _), safe.manned.same rfl rfl rfl rfl⟩
    exact taken.handle event
  | coordinator jobs =>
    rw [append_nil]
    exact safe.advance rfl (safe.manned.same rfl rfl jobs rfl)
  | act order ready started =>
    rw [append_nil]
    exact safe.advance (cancelled_of_start started) (safe.manned.act booked ready started)
  | instant order ready started completed =>
    rw [append_nil]
    exact safe.advance ((cancelled_of_complete completed).trans (cancelled_of_start started))
      (safe.manned.instant booked ready started completed)
  | pause order ready started =>
    rw [append_nil]
    exact safe.advance (cancelled_of_start started)
      (safe.manned.wait ready started nofun nofun fun _ => takesTime_of_start started)
  | block order ready started =>
    rw [append_nil]
    exact safe.advance (cancelled_of_start started)
      (safe.manned.wait ready started nofun (fun _ => enterGate_of_start started) nofun)
  | finish order ready =>
    rw [append_nil]
    exact safe.advance rfl (safe.manned.finish ready)
  | wake waiting due =>
    rw [append_nil]
    exact safe.advance rfl (safe.manned.wake waiting due)
  | letIn order free waiting due =>
    rw [append_nil]
    exact safe.advance rfl (safe.manned.letIn free waiting due)
  | resume order ready completed =>
    rw [append_nil]
    exact safe.advance (cancelled_of_complete completed) (safe.manned.resume booked ready completed)

theorem of_empty (settings : Settings) (files : Files) (store : Store) (delay : Nat) :
    Safe [] (System.of (.empty settings files store delay)) :=
  ⟨⟨⟨.nil, nofun⟩, nofun, nofun⟩, [], .nil, nofun, .nil, nofun, rfl, nofun⟩

theorem schedule (safe : Safe history start) (ran : Schedule discipline start history' system) :
    Safe (history ++ history') system := by
  induction ran with
  | start =>
    rw [append_nil]
    exact safe
  | step _ step ih =>
    rw [← append_assoc]
    exact ih.step step

end Safe

section

variable (workspace : Workspace) (uri : Uri) (ticket : Ticket) (turn : Nat) (ready : List Ready)

include workspace uri ticket turn ready

theorem supersede_only : System.supersede ⟨workspace, 0, turn, [(uri, ticket)], ready, [], 0⟩ uri =
      ⟨{ workspace with cancelled := ticket :: workspace.cancelled }, 0, turn, [], ready, [], 0⟩ := by
  simp [System.supersede, System.cancel, System.wake]

theorem step_changed (rest : List Event) :
    Step .free ⟨{ workspace with events := .changed uri :: rest }, 0, turn, [(uri, ticket)], ready, [], 0⟩
      [(turn, .changed uri)]
      ⟨{ workspace with events := rest, cancelled := ticket :: workspace.cancelled }, 0, turn + 1, [(uri, ⟨turn⟩)],
        ready ++ [.job (publishRun uri ⟨turn⟩)], [], 0⟩ := by
  have handled : Step .free ⟨{ workspace with events := .changed uri :: rest }, 0, turn, [(uri, ticket)], ready, [], 0⟩
    [(turn, .changed uri)] _ := .handle rfl
  simp only [System.handle, System.expecting, supersede_only] at handled
  exact handled

theorem step_closed (rest : List Event) :
    Step .free ⟨{ workspace with events := .closed uri :: rest }, 0, turn, [(uri, ticket)], ready, [], 0⟩
      [(turn, .closed uri)]
      ⟨{ workspace with events := rest, cancelled := ticket :: workspace.cancelled }, 0, turn + 1, [],
        ready ++ [.job (clearRun uri turn)], [], 0⟩ := by
  have handled : Step .free ⟨{ workspace with events := .closed uri :: rest }, 0, turn, [(uri, ticket)], ready, [], 0⟩
    [(turn, .closed uri)] _ := .handle rfl
  simp only [System.handle, System.expecting, supersede_only] at handled
  exact handled

end

/-- A diagnostic run that was superseded never publishes late. However jobs are run: at every moment at most one run for
a document has a ticket that is not cancelled; and what a run publishes comes before whatever later events for the same
document lead to. -/
theorem superseded_run_publishes_first (discipline : Discipline) (settings : Settings) (files : Files) (store : Store)
    (delay : Nat) (ran : Schedule discipline (System.of (.empty settings files store delay)) history system) :
    (∀ uri first second, (first, .changed uri) ∈ history → (second, .changed uri) ∈ history →
      ⟨first⟩ ∉ system.workspace.cancelled → ⟨second⟩ ∉ system.workspace.cancelled → first = second) ∧
    ∀ uri earlier later event markers markers', (earlier, .changed uri) ∈ history → (later, event) ∈ history →
      event.uri = uri → earlier < later →
        ¬ [Notice.published later uri markers',
            Notice.published earlier uri markers].Sublist system.workspace.notices := by
  have safe := (Safe.of_empty settings files store delay).schedule ran
  refine ⟨fun uri first second one other valid valid' => safe.books.single one other valid valid', ?_⟩
  intro uri earlier later event markers markers' changed happened same less late
  obtain ⟨_, -, guarded⟩ := safe.manned
  have order := guarded.ordered.sublist (late.filterMap Notice.publication?)
  have before := (List.pairwise_cons.mp order).1 (earlier, uri) (by simp [Notice.publication?]) rfl changed
  exact absurd less (Nat.not_lt_of_le before)

/-- A document is diagnosed, then changed and closed at once: what was found first is published first. -/
theorem edited_then_closed_publishes_in_order : ∃ (system : System) (markers : List Editor.Marker),
    Schedule .free (System.of (.empty (.default "/work") .empty ⟨.memory .empty, none⟩ 5))
        [(0, .changed ⟨"file:///a.sql"⟩), (1, .changed ⟨"file:///a.sql"⟩), (2, .closed ⟨"file:///a.sql"⟩)] system ∧
      system.workspace.notices = [.published 0 ⟨"file:///a.sql"⟩ markers, .published 2 ⟨"file:///a.sql"⟩ []] ∧
      ¬ [Notice.published 2 ⟨"file:///a.sql"⟩ [], .published 0 ⟨"file:///a.sql"⟩ markers].Sublist
        system.workspace.notices := by
  generalize Uri.mk "file:///a.sql" = uri
  let opened : Workspace := { Workspace.empty (.default "/work") .empty ⟨.memory .empty, none⟩ 5 with
    documents := ⟨[⟨uri, "SELECT missing FROM t", 1⟩]⟩ }
  have found : opened.documents.find? uri = some ⟨uri, "SELECT missing FROM t", 1⟩ := by
    simp [opened, Documents.find?]
  have valid : (⟨0⟩ : Ticket) ∉ opened.cancelled := List.not_mem_nil
  obtain ⟨markers, published, run, told⟩ := publishRun_alone found valid rfl
  let closed : Workspace := { published with events := [], cancelled := ⟨1⟩ :: ⟨0⟩ :: published.cancelled }
  have free : closed.occupied = false := told.free
  obtain ⟨cleared, clear, told'⟩ := clearRun_alone free uri 2
  have ran : Schedule .free (System.of (.empty (.default "/work") .empty ⟨.memory .empty, none⟩ 5))
      [(0, .changed uri), (1, .changed uri), (2, .closed uri)]
      ⟨cleared, 0, 3, [], [.job (publishRun uri ⟨1⟩)], [], 0⟩ := by
    have opens : Step .free (System.of (.empty (.default "/work") .empty ⟨.memory .empty, none⟩ 5)) []
      ((System.of opened).expecting [.changed uri]) := .change ⟨rfl, rfl, rfl⟩
    have first : Step .free ((System.of opened).expecting [.changed uri]) [(0, .changed uri)]
      ⟨opened, 0, 1, [(uri, ⟨0⟩)], [.job (publishRun uri ⟨0⟩)], [], 0⟩ := .handle rfl
    have runs : Schedule .free _ [] _ := schedule_alone run ⟨opened, 0, 1, [(uri, ⟨0⟩)], [], [], 0⟩ [] [] nofun
    -- Both events are there before the coordinator looks at the first.
    have edits : Step .free ⟨published, 0, 1, [(uri, ⟨0⟩)], [], [], 0⟩ []
      ⟨{ published with events := [.changed uri, .closed uri] }, 0, 1, [(uri, ⟨0⟩)], [], [], 0⟩ :=
        .change ⟨rfl, rfl, rfl⟩
    have second := step_changed published uri ⟨0⟩ 1 [] [.closed uri]
    have third := step_closed { published with cancelled := ⟨0⟩ :: published.cancelled } uri ⟨1⟩ 2
      [.job (publishRun uri ⟨1⟩)] []
    have clears : Schedule .free _ [] _ :=
      schedule_alone clear ⟨closed, 0, 3, [], [], [], 0⟩ [.job (publishRun uri ⟨1⟩)] [] nofun
    exact .silently (.single opens) (.trans (.single first) (.silently runs (.silently (.single edits)
      (.trans (.single second) (.trans (.single third) clears)))))
  refine ⟨_, markers, ran, ?_, ?_⟩
  · exact told'.notices.trans (congrArg (· ++ _) told.notices)
  · have safe := superseded_run_publishes_first _ _ _ _ _ ran
    exact safe.2 uri 0 2 (.closed uri) markers [] (by simp) (by simp) rfl (by decide)

end SqlLens
