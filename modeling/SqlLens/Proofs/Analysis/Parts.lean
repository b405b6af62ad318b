import SqlLens.Analysis.Query

/-!
Where the parts of queries and selections come from.

Sorting out the children of a node only picks nodes: the clauses of a selection are among its children, and so are the
parts of a query, whose common tables are among the children of one of them.
-/

namespace SqlLens.Analysis

open List
open SqlLens.Surface (Node)

variable {nodes : List Node}

theorem foldlM_preserves {add : β → Node → Option β} {P : β → Prop}
    (start : P first) (step : ∀ node ∈ nodes, ∀ {before after}, P before → add before node = some after → P after)
    (added : nodes.foldlM add first = some result) : P result := by
  induction nodes generalizing first with
  | nil =>
    cases added
    exact start
  | cons node rest ih =>
    obtain ⟨next, addedNode, addedRest⟩ := Option.bind_eq_some_iff.mp added
    exact ih (step node mem_cons_self start addedNode)
      (fun node inside => step node (mem_cons_of_mem _ inside)) addedRest

structure QueryParts.Within (parts : QueryParts) (nodes : List Node) : Prop where
  entries : ∀ entry ∈ parts.entries, ∃ clause ∈ nodes, clause.kind = .withClause ∧ entry ∈ clause.children
  body : ∀ body ∈ parts.body, body ∈ nodes
  order : ∀ clause ∈ parts.order, clause ∈ nodes
  limit : ∀ clause ∈ parts.limit, clause ∈ nodes

theorem QueryParts.Within.add {parts result : QueryParts} (within : parts.Within nodes)
    (inside : node ∈ nodes) (added : parts.add? node = some result) : result.Within nodes := by
  unfold QueryParts.add? at added
  split at added <;> cases added
  · refine ⟨fun entry listed => ?_, within.body, within.order, within.limit⟩
    rcases mem_append.mp listed with old | new
    · exact within.entries entry old
    · exact ⟨node, inside, ‹_›, new⟩
  iterate 3
    · refine ⟨within.entries, fun body same => ?_, within.order, within.limit⟩
      cases same
      exact inside
  · refine ⟨within.entries, within.body, fun clause same => ?_, within.limit⟩
    cases same
    exact inside
  · refine ⟨within.entries, within.body, within.order, fun clause same => ?_⟩
    cases same
    exact inside

theorem QueryParts.within_of {parts : QueryParts} (split : QueryParts.of? nodes = some parts) :
    parts.Within nodes :=
  foldlM_preserves (P := fun parts => parts.Within nodes) ⟨by simp, by simp, by simp, by simp⟩
    (fun _ inside _ _ within added => within.add inside added) split

def SelectParts.clauses (parts : SelectParts) : List Node :=
  [parts.list, parts.tables, parts.filter, parts.groups, parts.having, parts.qualify, parts.windows].filterMap id

theorem SelectParts.clauses_add {parts result : SelectParts} (added : parts.add? node = some result) :
    result.clauses ⊆ node :: parts.clauses := by
  intro clause inside
  simp only [SelectParts.clauses, mem_filterMap, mem_cons, not_mem_nil, or_false, id] at inside ⊢
  unfold SelectParts.add? at added
  split at added <;> cases added <;> grind

theorem SelectParts.clauses_subset {parts : SelectParts} (split : SelectParts.of? nodes = some parts) :
    parts.clauses ⊆ nodes := by
  refine foldlM_preserves (P := fun parts => parts.clauses ⊆ nodes) (by simp [SelectParts.clauses]) ?_ split
  intro node inside before after within added clause listed
  rcases mem_cons.mp (SelectParts.clauses_add added listed) with rfl | old
  · exact inside
  · exact within old

end SqlLens.Analysis
