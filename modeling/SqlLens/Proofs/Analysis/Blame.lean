import SqlLens.Proofs.Analysis.Lockstep
import SqlLens.Proofs.Surface.TablePaths

/-!
Where failures are blamed.

A failure is blamed at a node, at a name of a path, or at what an expression was resolved from. If all spans of a tree
end before some offset, then so do the spans of the expressions that are resolved from it, and the span of every failure
(`statements_blame`).
-/

namespace SqlLens.Analysis

open SqlLens.Surface (Node)

def EndsBy (limit : Nat) (span : Option Span) : Prop := ∀ own ∈ span, own.stop ≤ limit

def TreeEndsBy (limit : Nat) (node : Node) : Prop := ∀ below ∈ node.preorder, EndsBy limit below.span

variable {limit : Nat} {node : Node}

theorem endsBy_none : EndsBy limit none := by simp [EndsBy]

theorem TreeEndsBy.span (ends : TreeEndsBy limit node) : EndsBy limit node.span :=
  ends node (Node.mem_preorder_self node)

theorem TreeEndsBy.child (ends : TreeEndsBy limit node) (inside : part ∈ node.children) :
    TreeEndsBy limit part := fun below reached => ends below (Node.preorder_subset inside reached)

theorem endsBy_reach (begins : start ≤ limit) (ends : EndsBy limit place) : EndsBy limit (reach start place) := by
  intro own given
  obtain ⟨span, there, rfl⟩ := Option.map_eq_some_iff.mp given
  exact Nat.max_le.mpr ⟨begins, ends span there⟩

theorem pathParts_endsBy (ends : TreeEndsBy limit node) : ∀ part ∈ pathParts node, EndsBy limit part.2 := by
  intro part listed
  obtain ⟨name, inside, given⟩ := List.mem_filterMap.mp listed
  have lies := (ends.child inside).span
  split at given
  · cases given
    exact lies
  · cases given

theorem TreeEndsBy.begins (ends : TreeEndsBy limit node) : (node.span.map Span.start).getD 0 ≤ limit := by
  cases own : node.span with
  | none => exact Nat.zero_le _
  | some span => exact Nat.le_trans span.ordered (ends.span span own)

def placing (limit : Nat) : Demand where
  Tree := TreeEndsBy limit
  Spot := EndsBy limit
  child := TreeEndsBy.child
  spot := TreeEndsBy.span
  nowhere := endsBy_none
  reaches ends part listed :=
    ⟨pathParts_endsBy ends part listed, endsBy_reach ends.begins (pathParts_endsBy ends part listed)⟩

theorem statements_blame {nodes : List Node} (ends : ∀ node ∈ nodes, TreeEndsBy limit node) {tables : Lookup}
    {failure : Failure} (listed : .error failure ∈ (statements tables .initial nodes).1) :
    EndsBy limit failure.span := by
  have agree : ((placing limit).shifted 0).Agree tables tables := fun _ _ _ => rfl
  have alike := (statements_alike ((placing limit).congruent 0) agree
    (List.forall₂_same.mpr fun node inside => ⟨rfl, ends node inside⟩) Demand.initial_shift).1
  refine Demand.holds_left (P := fun result => ∀ failure, result = .error failure → EndsBy limit failure.span) alike
    (fun same => ?_) _ listed failure rfl
  rintro failure rfl
  cases same with
  | error failures => exact failures.spot

end SqlLens.Analysis
