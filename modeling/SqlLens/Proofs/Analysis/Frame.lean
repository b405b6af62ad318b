import SqlLens.Proofs.Analysis.Shift
import SqlLens.Proofs.Analysis.Walk

/-!
What the state keeps, however a computation ends.

Resolving a query, a selection, a table or an expression leaves the common tables, the enclosing scopes and the named
windows as they were, never reuses a column number, and only adds to the calls over windows of the current selection
(`Kept`). This holds of failures too, since some of them are recovered from. Within a stage less is kept: what is put
back at its end may change (`keptIn`). That is a law of the analysis (`framing`).
-/

namespace SqlLens.Analysis

open List (Forall₂)
open SqlLens.Resolved (Column NamedColumn Scan TypedExpr Computed)
open SqlLens.Surface (Node)

/-- A relation between the state before and the state after a computation that survives doing nothing and doing one
thing after another. -/
structure Frame where
  Holds : State → State → Prop
  refl : ∀ state, Holds state state
  trans : ∀ {first second third}, Holds first second → Holds second third → Holds first third

namespace Frame

def Around (frame : Frame) (m : Analyze α) : Prop :=
  ∀ tables before, frame.Holds before (m.outcome tables before).2

variable {frame : Frame}

theorem Around.succeeds (around : frame.Around m) (ran : Succeeds tables m before value after) :
    frame.Holds before after := by
  have held := around tables before
  rwa [show m.outcome tables before = _ from ran] at held

theorem around_pure (value : α) : frame.Around (pure value) := fun _ before => frame.refl before

theorem around_bind (first : frame.Around m) (second : ∀ value, frame.Around (f value)) : frame.Around (m >>= f) := by
  intro tables before
  have reached := first tables before
  rw [outcome_bind]
  revert reached
  rcases m.outcome tables before with ⟨_ | value, middle⟩ <;> intro reached
  · exact reached
  · exact frame.trans reached (second value tables middle)

theorem around_each {f : α → Analyze β} (around : ∀ item, frame.Around (f item)) (items : List α) :
    frame.Around (each f items) := by
  induction items with
  | nil => exact around_pure []
  | cons item rest ih => exact around_bind (around item) fun _ => around_bind ih fun _ => around_pure _

/-- What holds of each result when it is found holds of all of them in the end, if the frame preserves it. -/
theorem Around.each_forall {f : α → Analyze β} {P : β → State → Prop} (around : ∀ item, frame.Around (f item))
    (stays : ∀ value {first last}, frame.Holds first last → P value first → P value last)
    (found : ∀ item ∈ items, ∀ {value first last}, Succeeds tables (f item) first value last → P value last)
    (ran : Succeeds tables (each f items) before results after) : ∀ value ∈ results, P value after := by
  induction items generalizing before results with
  | nil =>
    obtain ⟨rfl, -⟩ := succeeds_each_nil.mp ran
    simp
  | cons item rest ih =>
    obtain ⟨value, middle, others, first, ranRest, rfl⟩ := succeeds_each_cons.mp ran
    intro value member
    rcases List.mem_cons.mp member with rfl | member
    · exact stays _ ((around_each around rest).succeeds ranRest) (found item List.mem_cons_self first)
    · exact ih (fun item inside => found item (List.mem_cons_of_mem _ inside)) ranRest value member

end Frame

/-! ### The frames of the analysis -/

/-- What stays of the state around anything that is resolved. -/
structure Kept (before after : State) : Prop where
  counted : before.nextId ≤ after.nextId
  common : after.common = before.common
  outer : after.outer = before.outer
  windows : after.windows = before.windows
  calls : ∃ added, after.analytic = before.analytic.map (· ++ added)

theorem calls_trans {first second third : State}
    (earlier : ∃ added, second.analytic = first.analytic.map (· ++ added))
    (later : ∃ added, third.analytic = second.analytic.map (· ++ added)) :
    ∃ added, third.analytic = first.analytic.map (· ++ added) := by
  obtain ⟨added, same⟩ := earlier
  obtain ⟨more, same'⟩ := later
  refine ⟨added ++ more, ?_⟩
  rw [same', same]
  cases first.analytic <;> simp

theorem Kept.refl (state : State) : Kept state state :=
  ⟨Nat.le_refl _, rfl, rfl, rfl, [], by cases state.analytic <;> simp⟩

theorem Kept.trans (earlier : Kept first second) (later : Kept second third) : Kept first third :=
  ⟨Nat.le_trans earlier.counted later.counted, later.common.trans earlier.common, later.outer.trans earlier.outer,
    later.windows.trans earlier.windows, calls_trans earlier.calls later.calls⟩

/-- What has only been added to is truncated to what it was. -/
theorem truncate_eq {earlier later : List α} : truncate earlier.length later = earlier ↔ earlier <:+ later :=
  eq_comm.trans List.suffix_iff_eq_drop.symm

theorem Kept.mend (kept : Kept before after) (stage : Stage) : Kept before (stage.mend before after) := by
  cases stage with
  | part => exact kept
  | selection => exact ⟨kept.counted, kept.common, kept.outer, rfl, (Kept.refl before).calls⟩
  | query =>
    exact ⟨kept.counted, truncate_eq.mpr (kept.common ▸ List.suffix_rfl), kept.outer, kept.windows, kept.calls⟩
  | statement => exact ⟨kept.counted, rfl, rfl, kept.windows, kept.calls⟩

theorem Kept.trans_mend (stage : Stage) (earlier : Kept first (stage.mend first second))
    (later : Kept second (stage.mend second third)) : Kept first (stage.mend first third) := by
  have counted : first.nextId ≤ third.nextId := by cases stage <;> exact Nat.le_trans earlier.counted later.counted
  cases stage with
  | part => exact earlier.trans later
  | selection =>
    exact ⟨counted, later.common.trans earlier.common, later.outer.trans earlier.outer, rfl, (Kept.refl first).calls⟩
  | query =>
    have common := (truncate_eq.mp earlier.common).trans (truncate_eq.mp later.common)
    exact ⟨counted, truncate_eq.mpr common, later.outer.trans earlier.outer, later.windows.trans earlier.windows,
      calls_trans earlier.calls later.calls⟩
  | statement =>
    exact ⟨counted, rfl, rfl, later.windows.trans earlier.windows, calls_trans earlier.calls later.calls⟩

/-- What stays of the state within a stage: everything but what is put back at its end. -/
def keptIn (stage : Stage) : Frame where
  Holds before after := Kept before (stage.mend before after)
  refl state := (Kept.refl state).mend stage
  trans := Kept.trans_mend stage

abbrev keptByStatement : Frame := keptIn .statement

def KeptByStatement (before after : State) : Prop := keptByStatement.Holds before after

theorem Kept.change {stage : Stage} {change : State → State} (allowed : sameness.Allows stage change change')
    (state : State) : Kept state (stage.mend state (change state)) := by
  have calls := (Kept.refl state).calls
  cases allowed with
  | call => exact ⟨Nat.le_refl _, rfl, rfl, rfl, [_], rfl⟩
  | query => exact ⟨Nat.le_refl _, truncate_eq.mpr (List.suffix_cons _ _), rfl, rfl, calls⟩
  | _ => exact ⟨Nat.le_refl _, rfl, rfl, rfl, calls⟩

/-! ### The law -/

def Keeps (stage : Stage) (R : α → α → Prop) (m : Analyze α) : Prop :=
  (keptIn stage).Around m ∧ ∀ {tables before value after}, Succeeds tables m before value after →
    ∃ value', R value value'

theorem Keeps.around (keeps : Keeps stage R m) : (keptIn stage).Around m :=
  keeps.1

theorem Keeps.succeeds (keeps : Keeps .part R m) (ran : Succeeds tables m before value after) :
    Kept before after := keeps.1.succeeds ran

theorem keeps_bind (first : Keeps stage R m) (rest : ∀ {value value'}, R value value' → Keeps stage S (f value)) :
    Keeps stage S (m >>= f) := by
  constructor
  · intro tables before
    have reached := first.1 tables before
    rw [outcome_bind]
    cases ran : m.outcome tables before with
    | mk result middle =>
      rw [ran] at reached
      cases result with
      | error failure => exact reached
      | ok value =>
        obtain ⟨value', related⟩ := first.2 ran
        exact (keptIn stage).trans reached ((rest related).1 tables middle)
  · intro tables before result after ran
    obtain ⟨value, middle, here, later⟩ := ran.bind
    obtain ⟨value', related⟩ := first.2 here
    exact (rest related).2 later

theorem keeps_fresh (table name : String) (type : SqlType) : Keeps .part Eq (fresh table name type) :=
  ⟨fun _ before => ⟨Nat.le_succ _, rfl, rfl, rfl, (Kept.refl before).calls⟩, fun _ => ⟨_, rfl⟩⟩

theorem keeps_lookup {S : β → β → Prop} {f : Table → Analyze β} {path : String}
    (found : ∀ table, Keeps .part S (f table)) :
    Keeps .part S (read >>= fun store : Lookup =>
      match store path with
      | none => fail (.unknownTable path) span
      | some table => f table) := by
  refine keeps_bind (R := Eq) ⟨fun _ before => Kept.refl before, fun _ => ⟨_, rfl⟩⟩ fun {store _} _ => ?_
  split
  · exact ⟨fun _ before => Kept.refl before, fun ran => (succeeds_fail.mp ran).elim⟩
  · exact found _

theorem keeps_recovered {m : Analyze TypedExpr} {n : Analyze β} (inner : Keeps .part sameness.Exprs m)
    (taken : ∀ {found found'}, sameness.Exprs found found' → S (f found) (f found'))
    (values : Option.Rel S value value')
    (outcome : ∀ tables before, n.outcome tables before = recovered f value (m.outcome tables before)) :
    Keeps .part S n := by
  constructor
  · intro tables before
    have reached := inner.1 tables before
    rw [outcome]
    revert reached
    rcases m.outcome tables before with ⟨failure | found, after⟩ <;> intro reached
    · cases value <;> exact reached
    · exact reached
  · intro tables before result after ran
    rw [show Succeeds .. = (n.outcome ..= _) from rfl, outcome] at ran
    cases here : m.outcome tables before with
    | mk first middle =>
      rw [here] at ran
      cases first with
      | ok found =>
        cases ran
        obtain ⟨found', related⟩ := inner.2 here
        exact ⟨f found', taken related⟩
      | error failure =>
        cases values with
        | none => cases ran
        | some related =>
          cases ran
          exact ⟨_, related⟩

theorem keeps_restoring (inner : Keeps stage R m) : Keeps .part R (restoring stage.mend m) :=
  ⟨inner.1, fun ran => by
    obtain ⟨last, inside, -⟩ := succeeds_restoring.mp ran
    exact inner.2 inside⟩

/-- Around what keeps the enclosing scopes, the one that is taken off at the end is the one that was added. -/
theorem keeps_enclosing (inner : Keeps .part R m) : Keeps .part R (enclosing scope m) := by
  refine ⟨fun tables before => ?_, fun ran => ?_⟩
  · have kept : Kept { before with outer := scope :: before.outer } _ := inner.1 tables _
    exact ⟨kept.counted, kept.common, congrArg List.tail kept.outer, kept.windows, kept.calls⟩
  · obtain ⟨last, inside, -⟩ := succeeds_enclosing.mp ran
    exact inner.2 inside

def framing : Law sameness where
  congruent := same_congruent
  Obeys stage R m _ := Keeps stage R m
  returns holds := ⟨Frame.around_pure _, fun ran => (succeeds_pure.mp ran).1 ▸ ⟨_, holds⟩⟩
  chain := keeps_bind
  fails _ _ := ⟨fun _ => (keptIn _).refl, fun ran => (succeeds_fail.mp ran).elim⟩
  reads rest :=
    ⟨fun tables before => (rest (same_state before)).1 tables before, fun ran => (rest (same_state _)).2 ran⟩
  looksUp _ _ _ _ := keeps_lookup
  makes _ _ := ⟨(keeps_fresh _ _ _).1, fun ran => by
    cases ran
    exact ⟨_, Demand.column_shift _, rfl⟩⟩
  changes allowed := ⟨fun _ => Kept.change allowed, fun _ => ⟨⟨⟩, trivial⟩⟩
  within inner := ⟨fun tables before => Kept.mend (inner.1 tables before) _, inner.2⟩
  mends _ _ := keeps_restoring
  closes := keeps_restoring
  encloses _ := keeps_enclosing
  recovers inner taken values _ outcome _ := keeps_recovered inner taken values outcome

abbrev Resolvers.Keep (r : Resolvers) : Prop := framing.Governs r r

theorem resolvers_keep (height : Nat) : (resolvers height).Keep := governs height

theorem keeps_each {stage : Stage} {R : β → β → Prop} {f : α → Analyze β} (every : ∀ item, Keeps stage R (f item)) :
    Keeps stage (Forall₂ R) (each f items) := by
  have obeys : framing.Obeys stage (Forall₂ R) (each f items) (each f items) :=
    Rules.Obeys.each (P := Eq) (List.forall₂_same.mpr fun _ _ => rfl) fun {item _} _ => every item
  exact obeys

theorem keeps_perhaps {α : Type} {R : β → β → Prop} {f : α → Analyze β} {item : Option α}
    (every : ∀ item, Keeps .part R (f item)) : Keeps .part (Option.Rel R) (perhaps f item) := by
  have obeys : framing.Part (Option.Rel R) (perhaps f item) (perhaps f item) :=
    Rules.Obeys.perhaps (P := Eq) (option_refl fun _ => rfl) fun {item _} _ => every item
  exact obeys

theorem exprs_kept {r : Resolvers} (keep : r.Keep) {scope : Scope} {nodes : List Node}
    (ran : Succeeds tables (each (r.expr scope) nodes) before values after) : Kept before after :=
  Keeps.succeeds (keeps_each fun _ => keep.expr (same_scope scope) same_tree) ran

theorem keptByStatement_statement (node : Node) : keptByStatement.Around (statement node) := by
  have keeps : framing.Obeys .statement sameness.Statements (statement node) (statement node) :=
    Rules.Obeys.statement same_tree.1
  exact keeps.1

theorem statements_kept (tables : Lookup) (state : State) (nodes : List Node) :
    KeptByStatement state (statements tables state nodes).2 := by
  induction nodes generalizing state with
  | nil => exact keptByStatement.refl state
  | cons node rest ih => exact keptByStatement.trans (keptByStatement_statement node tables state) (ih _)

end SqlLens.Analysis
