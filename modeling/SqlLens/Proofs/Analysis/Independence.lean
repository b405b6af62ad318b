import SqlLens.Proofs.Analysis.Frame
import SqlLens.Proofs.Analysis.Lockstep

/-!
Statements are resolved independently of each other.

Between statements only the number of the next column is left of the state: a statement forgets common tables and
enclosing scopes first, and neither calls over windows nor named windows outlive their selections. So a statement comes
to what it would come to alone, up to a constant in all column numbers.
-/

namespace SqlLens.Analysis

open SqlLens.Surface (Node)

variable {tables : Lookup} {state : State}

theorem statement_outcome (tables : Lookup) (state : State) (node : Node) :
    ((statement node).outcome tables state).1 =
      ((statement node).outcome tables { state with common := [], outer := [] }).1 := by
  unfold statement
  simp only [fail_bind]
  split <;> rfl

theorem KeptByStatement.fresh_eq (kept : KeptByStatement .initial state) :
    { state with common := [], outer := [] } = State.initial.shift (state.nextId - 1) := by
  have started : 1 ≤ state.nextId := kept.counted
  have counted : 1 + (state.nextId - 1) = state.nextId := by omega
  obtain ⟨added, collected⟩ := kept.calls
  have windows := kept.windows
  simp only [State.initial, Option.map_none, Stage.mend] at collected windows
  simp only [State.shift, counted, collected, windows, State.initial, Option.map_none, List.map_nil]

theorem KeptByStatement.statement_outcome (kept : KeptByStatement .initial state) (node : Node) :
    ((statement node).outcome tables state).1 =
      ((statement node).outcome tables .initial).1.map (Resolved.Statement.shift (state.nextId - 1)) := by
  have alike : (Demand.shifted {} (state.nextId - 1)).Lockstep tables tables _ (statement node) (statement node) :=
    statement_lockstep (fun _ _ _ => rfl) trivial
  rw [Analysis.statement_outcome, kept.fresh_eq, ← Demand.result_eq (alike _ _ Demand.initial_shift).1]

/-- Every statement of a script comes to what it comes to when it is the only one, after adding one constant to all its
column numbers; failures are the same. -/
theorem script_statements_independent (tables : Lookup) (root : Node) :
    List.Forall₂ (fun node result =>
        ∃ k, result = ((statement node).outcome tables .initial).1.map (Resolved.Statement.shift k))
      root.children (script tables root) := by
  suffices after : ∀ (nodes : List Node) (state : State), KeptByStatement .initial state →
      List.Forall₂ (fun node result =>
          ∃ k, result = ((statement node).outcome tables .initial).1.map (Resolved.Statement.shift k))
        nodes (statements tables state nodes).1 from
    after root.children .initial (keptByStatement.refl _)
  intro nodes
  induction nodes with
  | nil => exact fun _ _ => .nil
  | cons node rest ih =>
    intro state kept
    refine .cons ⟨state.nextId - 1, kept.statement_outcome node⟩ (ih _ ?_)
    exact keptByStatement.trans kept (keptByStatement_statement node tables state)

end SqlLens.Analysis
