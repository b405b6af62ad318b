import Mathlib.Data.List.Pairwise
import SqlLens.Proofs.Analysis.Tracing
import SqlLens.Proofs.Script.Spans
import SqlLens.Script.Artifact

/-!
The number of a column identifies it.

The statements of a text are resolved one after another and count their columns on, so a number that occurs anywhere in
the artifact of the text stands for one column of one statement, and that statement introduces it.
-/

namespace SqlLens

open SqlLens.Surface (Node)

/-- Columns of an artifact that have the same number are the same column of the same statement, and every column that a
statement refers to is introduced by one of its nodes. -/
theorem Artifact.column_numbers_identify (text : String) (tables : Analysis.Lookup) :
    (∀ first ∈ (analyze text tables).outputs, ∀ second ∈ (analyze text tables).outputs,
      ∀ column ∈ first.columns, ∀ other ∈ second.columns, column.id = other.id → column = other) ∧
    (analyze text tables).outputs.Pairwise (fun first second =>
      ∀ column ∈ first.columns, ∀ other ∈ second.columns, column.id ≠ other.id) ∧
    ∀ output ∈ (analyze text tables).outputs, ∀ entry ∈ output.nodes, ∀ column span,
      entry.2 = .expr (.column column span) → column ∈ output.introduced := by
  have proper : ∀ node ∈ (Script.read text).tree.children, node.Proper := fun _ =>
    (Script.tree_sound text).proper.child
  obtain ⟨apart, own⟩ := @Analysis.statements_traced tables _ proper .initial rfl rfl
  have listed : (analyze text tables).outputs =
      (Analysis.statements tables .initial (Script.read text).tree.children).1.filterMap Except.toOption := by
    simp only [analyze, build, Analysis.script]
    congr 1
    funext result
    cases result <;> rfl
  rw [listed]
  refine ⟨fun first inFirst second inSecond => ?_, apart, ?_⟩
  · -- Numbers of different statements differ, in either order.
    refine List.Pairwise.forall_of_forall_of_flip (R := fun first second : Resolved.Statement =>
      ∀ column ∈ first.columns, ∀ other ∈ second.columns, column.id = other.id → column = other)
      (fun output inside column occurs => (own output inside column occurs).2.2) ?_ ?_ inFirst inSecond
    · exact apart.imp fun differ column occurs other occurs' same => absurd same (differ column occurs other occurs')
    · exact apart.imp fun differ column occurs other occurs' same =>
        absurd same.symm (differ other occurs' column occurs)
  · rintro output inside entry reached column span node
    refine (own output inside column (List.mem_flatMap.mpr ⟨entry, reached, ?_⟩)).2.1
    simp [node, Resolved.Node.columns]

end SqlLens
