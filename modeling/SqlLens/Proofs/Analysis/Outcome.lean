import SqlLens.Analysis.Query

/-!
How computations come out, piece by piece.

`Succeeds` relates the state before a computation to its value and the state after it. A computation succeeds exactly
when its parts do (`succeeds_bind`), so a successful run is taken apart by rewriting. What holds however a computation
ends is a `Frame` around it (`Frame.Around`).
-/

namespace SqlLens.Analysis

open SqlLens.Resolved (Column NamedColumn)
open SqlLens.Surface (Node)

variable {tables : Lookup} {before after : State}

/-! ### Successful computations -/

def Succeeds (tables : Lookup) (m : Analyze α) (before : State) (value : α) (after : State) : Prop :=
  m.outcome tables before = (.ok value, after)

theorem succeeds_of_toBool (done : (m.outcome tables before).1.toBool) :
    ∃ value after, Succeeds tables m before value after := by
  cases result : m.outcome tables before with
  | mk outcome after =>
    cases outcome with
    | error failure => rw [result] at done; cases done
    | ok value => exact ⟨value, after, result⟩

theorem succeeds_of_toOption (given : (m.outcome tables before).1.toOption = some value) :
    Succeeds tables m before value (m.outcome tables before).2 := by
  unfold Succeeds
  generalize m.outcome tables before = result at given ⊢
  rcases result with ⟨_ | _, _⟩ <;> cases given
  rfl

theorem outcome_bind (m : Analyze α) (f : α → Analyze β) :
    (m >>= f).outcome tables before =
      match m.outcome tables before with
      | (.ok value, middle) => (f value).outcome tables middle
      | (.error failure, middle) => (.error failure, middle) := by
  have opened : (m >>= f).outcome tables before =
      ExceptT.bindCont (fun value => f value tables) (m.outcome tables before).1 (m.outcome tables before).2 := rfl
  rw [opened]
  rcases m.outcome tables before with ⟨_ | _, _⟩ <;> rfl

theorem outcome_tryCatch (m : Analyze α) (handler : Failure → Analyze α) :
    (tryCatch m handler).outcome tables before =
      match m.outcome tables before with
      | (.ok value, middle) => (.ok value, middle)
      | (.error failure, middle) => (handler failure).outcome tables middle := by
  unfold Analyze.outcome
  simp only [tryCatch, tryCatchThe, MonadExceptOf.tryCatch, ExceptT.tryCatch, ExceptT.run, ExceptT.mk, StateT.run, bind,
    StateT.bind]
  rcases m tables before with ⟨_ | _, _⟩ <;> rfl

@[simp] theorem fail_bind (fault : Fault) (span : Option Span) (f : α → Analyze β) :
    (fail fault span >>= f) = fail fault span := rfl

@[simp] theorem malformed_bind (node : Node) (f : α → Analyze β) : (malformed node >>= f) = malformed node := rfl

@[simp] theorem succeeds_pure {value result : α} :
    Succeeds tables (pure value) before result after ↔ value = result ∧ before = after := by
  change ((Except.ok value : Except Failure α), before) = (.ok result, after) ↔ _
  simp

@[simp] theorem succeeds_bind :
    Succeeds tables (m >>= f) before result after ↔
      ∃ value middle, Succeeds tables m before value middle ∧ Succeeds tables (f value) middle result after := by
  unfold Succeeds
  rw [outcome_bind]
  rcases m.outcome tables before with ⟨_ | value, middle⟩
  · simp
  · constructor
    · intro ran
      exact ⟨value, middle, rfl, ran⟩
    · rintro ⟨_, _, first, ran⟩
      cases first
      exact ran

@[simp] theorem succeeds_fail {fault : Fault} {span : Option Span} {result : α} :
    Succeeds tables (fail fault span) before result after ↔ False := by
  change ((Except.error ⟨fault, span⟩ : Except Failure α), before) = (.ok result, after) ↔ _
  simp

theorem Succeeds.bind (ran : Succeeds tables (m >>= f) before result after) :
    ∃ value middle, Succeeds tables m before value middle ∧ Succeeds tables (f value) middle result after :=
  succeeds_bind.mp ran

@[simp] theorem succeeds_malformed : Succeeds tables (malformed node) before result after ↔ False := succeeds_fail

@[simp] theorem succeeds_need :
    Succeeds tables (need node found) before result after ↔ found = some result ∧ before = after := by
  cases found with
  | none => simp [need]
  | some value => simp [need]

@[simp] theorem succeeds_child :
    Succeeds tables (child node index) before result after ↔
      node.children[index]? = some result ∧ before = after := succeeds_need

theorem succeeds_child_bind :
    Succeeds tables (child node index >>= f) before value after ↔
      ∃ part, node.children[index]? = some part ∧ Succeeds tables (f part) before value after := by
  simp [succeeds_bind, and_assoc]

@[simp] theorem succeeds_get : Succeeds tables get before result after ↔ before = result ∧ before = after := by
  change ((Except.ok before : Except Failure State), before) = (.ok result, after) ↔ _
  simp

@[simp] theorem succeeds_read : Succeeds tables read before result after ↔ tables = result ∧ before = after := by
  change ((Except.ok tables : Except Failure Lookup), before) = (.ok result, after) ↔ _
  simp

@[simp] theorem succeeds_modify : Succeeds tables (modify change) before result after ↔ change before = after := by
  change ((Except.ok () : Except Failure Unit), change before) = (.ok (), after) ↔ _
  simp

@[simp] theorem succeeds_fresh :
    Succeeds tables (fresh table name type) before result after ↔
      (⟨before.nextId, table, name, type⟩ : Column) = result ∧ { before with nextId := before.nextId + 1 } = after := by
  change ((Except.ok ⟨before.nextId, table, name, type⟩ : Except Failure Column),
    { before with nextId := before.nextId + 1 }) = (.ok result, after) ↔ _
  simp

theorem succeeds_restoring :
    Succeeds tables (restoring mend m) before result after ↔
      ∃ middle, Succeeds tables m before result middle ∧ mend before middle = after := by
  change ((m.outcome tables before).1, mend before (m.outcome tables before).2) = (.ok result, after) ↔ _
  unfold Succeeds
  rcases m.outcome tables before with ⟨outcome, middle⟩
  simp only [Prod.mk.injEq]
  constructor
  · rintro ⟨rfl, mended⟩
    exact ⟨middle, ⟨rfl, rfl⟩, mended⟩
  · rintro ⟨_, ⟨same, rfl⟩, mended⟩
    exact ⟨same, mended⟩

theorem succeeds_enclosing :
    Succeeds tables (enclosing scope m) before result after ↔
      ∃ last, Succeeds tables m { before with outer := scope :: before.outer } result last ∧
        { last with outer := last.outer.tail } = after := by
  simp [enclosing, succeeds_restoring, succeeds_bind]

theorem succeeds_each_nil :
    Succeeds tables (each f []) before results after ↔ [] = results ∧ before = after := succeeds_pure

theorem succeeds_each_cons :
    Succeeds tables (each f (item :: rest)) before results after ↔
      ∃ value middle values, Succeeds tables (f item) before value middle ∧
        Succeeds tables (each f rest) middle values after ∧ value :: values = results := by
  simp only [each, succeeds_bind, succeeds_pure]
  constructor
  · rintro ⟨value, middle, first, values, _, others, same, rfl⟩
    exact ⟨value, middle, values, first, others, same⟩
  · rintro ⟨value, middle, values, first, others, same⟩
    exact ⟨value, middle, first, values, after, others, same, rfl⟩

theorem succeeds_perhaps_none :
    Succeeds tables (perhaps f none) before result after ↔ none = result ∧ before = after := succeeds_pure

theorem succeeds_perhaps_some :
    Succeeds tables (perhaps f (some item)) before result after ↔
      ∃ value, Succeeds tables (f item) before value after ∧ some value = result := by
  simp only [perhaps, succeeds_bind, succeeds_pure]
  constructor
  · rintro ⟨value, _, ran, same, rfl⟩
    exact ⟨value, ran, same⟩
  · rintro ⟨value, ran, same⟩
    exact ⟨value, after, ran, same, rfl⟩

/-! ### Recovered failures -/

variable {r : Resolvers} {scope : Scope} {node : Node}

theorem argument_outcome (plain : node.kind ≠ .star) :
    (argument r scope function alone node).outcome tables before =
      match (r.expr scope node).outcome tables before with
      | (.ok value, after) => (.ok [value], after)
      | (.error failure, after) =>
        match (singleName? node).filter Function.isDatePart with
        | some name => (.ok [.literal (Text.upper name) .unknown node.span], after)
        | none => (.error failure, after) := by
  unfold argument
  rw [if_neg plain, outcome_bind, outcome_tryCatch, outcome_bind]
  rcases (r.expr scope node).outcome tables before with ⟨failure | value, after⟩
  · cases single : singleName? node with
    | none => rfl
    | some name =>
      by_cases part : Function.isDatePart name
      · simp only [part, if_true, Option.filter]
        rfl
      · simp only [part, Option.filter]
        rfl
  · rfl

theorem groupExpr_outcome :
    (groupExpr r scope outputs node).outcome tables before =
      match (r.expr scope node).outcome tables before with
      | (.ok value, after) => (.ok value, after)
      | (.error failure, after) =>
        match (singleName? node).bind fun name => outputs.find? fun output => Text.sameName output.name name with
        | some output => (.ok (.column output.column node.span), after)
        | none => (.error failure, after) := by
  unfold groupExpr
  rw [outcome_bind, outcome_tryCatch, outcome_bind]
  rcases (r.expr scope node).outcome tables before with ⟨failure | value, after⟩
  · cases (singleName? node).bind fun name => outputs.find? fun output => Text.sameName output.name name <;> rfl
  · rfl

end SqlLens.Analysis
