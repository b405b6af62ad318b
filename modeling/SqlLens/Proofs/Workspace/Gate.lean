import SqlLens.Proofs.Workspace.Schedule

/-!
Who goes through the gate, and when.

`Guarded` is what matters of a system at the gate: what each job is for and where it is, whether somebody is inside, and
what was published. At most one job is inside, and a run that found its ticket valid there publishes before whatever
later events lead to. Nothing that a job can do changes this.
-/

namespace SqlLens

open List

def Errand.Known (history : List (Nat × Event)) : Errand → Prop
  | .request => True
  | .run turn uri => (turn, .changed uri) ∈ history
  | .clear turn uri => (turn, .closed uri) ∈ history

theorem Errand.Known.later {errand : Errand} (known : errand.Known history) : errand.Known (history ++ [entry]) := by
  cases errand with
  | request => trivial
  | run turn uri => exact mem_append_left _ known
  | clear turn uri => exact mem_append_left _ known

/-- The history is numbered, and tickets are cancelled when a later event for the document is looked at. -/
structure Booked (history : List (Nat × Event)) (cancelled : List Ticket) : Prop where
  increasing : history.Pairwise fun first second => first.1 < second.1
  superseded : ∀ turn uri later event, (turn, .changed uri) ∈ history → (later, event) ∈ history → event.uri = uri →
    turn < later → ⟨turn⟩ ∈ cancelled

theorem Booked.unique (booked : Booked history cancelled) (one : (turn, event) ∈ history)
    (other : (turn, event') ∈ history) : event = event' := by
  have pairwise := booked.increasing
  clear booked
  induction history with
  | nil => cases one
  | cons first rest ih =>
    obtain ⟨before, pairwise⟩ := pairwise_cons.mp pairwise
    rcases mem_cons.mp one with rfl | one <;> rcases mem_cons.mp other with same | other
    · exact (Prod.mk.inj same).2.symm
    · exact absurd (before _ other) (Nat.lt_irrefl _)
    · exact absurd (same ▸ before _ one) (Nat.lt_irrefl _)
    · exact ih one other pairwise

/-- The jobs, in any order, agree with the gate, with what was published and with the events that were looked at. -/
structure Guarded (history : List (Nat × Event)) (occupied : Bool) (published : List (Nat × Uri))
    (jobs : List (Errand × Phase)) : Prop where
  told : ∀ entry ∈ published, ∃ event, (entry.1, event) ∈ history ∧ event.uri = entry.2
  /-- A run publishes before whatever later events for its document lead to. -/
  ordered : published.Pairwise fun first second => first.2 = second.2 → (second.1, .changed second.2) ∈ history →
    first.1 ≤ second.1
  known : ∀ job ∈ jobs, job.1.Known history
  single : jobs.countP (·.2.isInside) = if occupied then 1 else 0
  /-- While a run is about to publish, nothing that comes after it has been published. -/
  first : ∀ turn uri, (.run turn uri, .cleared) ∈ jobs → ∀ entry ∈ published, entry.2 = uri → entry.1 ≤ turn

namespace Guarded

theorem perm (guarded : Guarded history occupied published jobs) (same : jobs.Perm jobs') :
    Guarded history occupied published jobs' where
  told := guarded.told
  ordered := guarded.ordered
  known job member := guarded.known job (same.mem_iff.mpr member)
  single := same.countP_eq _ ▸ guarded.single
  first turn uri member := guarded.first turn uri (same.mem_iff.mpr member)

theorem handled (guarded : Guarded history occupied published jobs) (numbered : ∀ entry ∈ history, entry.1 < turn) :
    Guarded (history ++ [(turn, event)]) occupied published jobs where
  told entry member := by
    obtain ⟨event, happened, same⟩ := guarded.told entry member
    exact ⟨event, mem_append_left _ happened, same⟩
  ordered := by
    refine guarded.ordered.imp_of_mem fun {_ second} _ member ordered same changed => ordered same ?_
    -- What was published before is about what was looked at before.
    obtain ⟨_, known, -⟩ := guarded.told second member
    have earlier : second.1 < turn := numbered _ known
    refine (mem_append.mp changed).resolve_right fun new => ?_
    exact absurd (congrArg Prod.fst (mem_singleton.mp new)) (Nat.ne_of_lt earlier)
  known job member := (guarded.known job member).later
  single := guarded.single
  first := guarded.first

theorem join (guarded : Guarded history occupied published jobs) (known : errand.Known history) :
    Guarded history occupied published ((errand, .outside) :: jobs) where
  told := guarded.told
  ordered := guarded.ordered
  known := forall_mem_cons.mpr ⟨known, guarded.known⟩
  single := by rw [countP_cons_of_neg (by simp [Phase.isInside]), guarded.single]
  first turn uri member := guarded.first turn uri (by simpa using member)

theorem finish (guarded : Guarded history occupied published (job :: jobs)) (away : job.2.isInside = false) :
    Guarded history occupied published jobs where
  told := guarded.told
  ordered := guarded.ordered
  known := (forall_mem_cons.mp guarded.known).2
  single := by rw [← guarded.single, countP_cons_of_neg (by simp [away])]
  first turn uri member := guarded.first turn uri (mem_cons_of_mem _ member)

theorem alone (guarded : Guarded history occupied published (job :: jobs)) (inside : job.2.isInside) :
    occupied ∧ ∀ other ∈ jobs, other.2.isInside = false := by
  have single := guarded.single
  rw [countP_cons_of_pos (by simpa using inside)] at single
  cases occupied with
  | false => simp at single
  | true =>
    refine ⟨rfl, fun other member => ?_⟩
    have none : jobs.countP (·.2.isInside) = 0 := by simpa using single
    simpa using countP_eq_zero.mp none other member

theorem move (guarded : Guarded history occupied published ((errand, phase) :: jobs)) (occupied' : Bool)
    (phase' : Phase)
    (counted : (if occupied' then 1 else 0) + (if phase.isInside then 1 else 0) =
      (if occupied then 1 else 0) + if phase'.isInside then 1 else 0)
    (first : ∀ turn uri, errand = .run turn uri → phase' = .cleared →
      ∀ entry ∈ published, entry.2 = uri → entry.1 ≤ turn) :
    Guarded history occupied' published ((errand, phase') :: jobs) where
  told := guarded.told
  ordered := guarded.ordered
  known := forall_mem_cons.mpr (forall_mem_cons.mp guarded.known)
  single := by
    have single := guarded.single
    rw [countP_cons] at single ⊢
    dsimp only at single ⊢
    omega
  first turn uri member := by
    rcases mem_cons.mp member with same | member
    · cases same
      exact first turn uri rfl rfl
    · exact guarded.first turn uri (mem_cons_of_mem _ member)

theorem enter (guarded : Guarded history false published ((errand, .outside) :: jobs)) :
    Guarded history true published ((errand, errand.inside) :: jobs) := by
  refine guarded.move true errand.inside (by rw [errand.isInside_inside]; rfl) ?_
  rintro turn uri rfl wrong
  cases wrong

theorem go (guarded : Guarded history occupied published ((.run turn uri, .entered) :: jobs))
    (booked : Booked history cancelled) (valid : ⟨turn⟩ ∉ cancelled) :
    Guarded history occupied published ((.run turn uri, .cleared) :: jobs) := by
  have known : (turn, .changed uri) ∈ history := guarded.known _ mem_cons_self
  refine guarded.move occupied .cleared rfl ?_
  rintro _ _ ⟨⟩ - entry member same
  obtain ⟨event, happened, own⟩ := guarded.told entry member
  refine Nat.le_of_not_lt fun late => valid ?_
  exact booked.superseded turn uri entry.1 event known happened (own.trans same) late

theorem publish (guarded : Guarded history occupied published ((errand, .cleared) :: jobs))
    (booked : Booked history cancelled) (own : errand.publication? = some entry) :
    Guarded history occupied (published ++ [entry]) ((errand, .leaving) :: jobs) := by
  obtain ⟨-, outside⟩ := guarded.alone rfl
  have left : Guarded history occupied published ((errand, .leaving) :: jobs) :=
    guarded.move occupied .leaving rfl nofun
  have known := guarded.known _ mem_cons_self
  have happened : ∃ event, (entry.1, event) ∈ history ∧ event.uri = entry.2 := by
    cases errand with
    | request => cases own
    | run turn uri =>
      cases own
      exact ⟨_, known, rfl⟩
    | clear turn uri =>
      cases own
      exact ⟨_, known, rfl⟩
  refine ⟨forall_mem_append.mpr ⟨guarded.told, by simpa using happened⟩, ?_, left.known, left.single, ?_⟩
  · refine pairwise_append.mpr ⟨guarded.ordered, pairwise_singleton _ _, fun other old last new => ?_⟩
    cases mem_singleton.mp new
    intro same changed
    cases errand with
    | request => cases own
    | run turn uri =>
      cases own
      exact guarded.first turn uri mem_cons_self other old same
    | clear turn uri =>
      cases own
      cases booked.unique known changed
  · intro turn uri member
    rcases mem_cons.mp member with same | member
    · cases same
    · cases outside _ member

theorem leave (guarded : Guarded history occupied published ((errand, .leaving) :: jobs)) :
    Guarded history false published ((errand, .finished) :: jobs) := by
  obtain ⟨rfl, -⟩ := guarded.alone rfl
  exact guarded.move false .finished rfl nofun

end Guarded

end SqlLens
