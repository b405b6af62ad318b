import SqlLens.Proofs.Analysis.Lockstep

/-!
What is resolved is well typed.

Calls over windows and named windows wait in the state until their selection is put together, and stay there when a
failure is recovered from. So the state is well typed however a computation ends, and what it comes to is well typed if
it succeeds. Analyses of the same statements are alike when everything has to be well typed (`typing`), and that asks
nothing of the trees.
-/

namespace SqlLens.Analysis

open SqlLens.Resolved (TypedExpr)
open SqlLens.Surface (Node)

def typing : Demand where
  Typed := True

/-- Whatever statements came before it and however they ended, a statement that is resolved is well typed. -/
theorem statement_wellTyped {tables : Lookup} {earlier : List Node} {resolved : Resolved.Statement} {after : State}
    (ran : Succeeds tables (statement node) (statements tables .initial earlier).2 resolved after) :
    resolved.query.WellTyped := by
  have agree : (typing.shifted 0).Agree tables tables := fun _ _ _ => rfl
  have trees : List.Forall₂ (typing.shifted 0).Trees earlier earlier := List.forall₂_same.mpr fun _ _ => ⟨rfl, trivial⟩
  obtain ⟨-, before⟩ := statements_alike (typing.congruent 0) agree trees Demand.initial_shift
  obtain ⟨results, -⟩ := statement_lockstep agree (show typing.Tree node from trivial) _ _ before
  rw [show (statement node).outcome tables (statements tables .initial earlier).2 = _ from ran] at results
  revert results
  rcases (statement node).outcome tables _ with ⟨other, _⟩
  rintro (values | _)
  exact values.query.scan.2 trivial

def visitsStore : Lookup := fun path =>
  if path = "ds.visits" then
    some (.of "proj:ds.visits" .epoch
      [.mk "id" "INTEGER" none "" [], .mk "page" "RECORD" none "" [.mk "url" "STRING" none "" []],
        .mk "day" "DATE" none "" [], .mk "tags" "STRING" (some .repeated) "" []])
  else none

private def dottedNode (names : List String) : Node :=
  .mk .path none (names.map fun name => .leaf (.identifier name) none)

private def selectionNode (items clauses : List Node) : Node :=
  .mk (.select false) none (.mk .selectList none (items.map fun item => .mk .selectColumn none [item]) :: clauses)

private def callNode (name : String) (arguments : List Node) : Node :=
  .mk (.functionCall false) none (dottedNode [name] :: arguments)

private def visitsClause : Node := .mk .fromClause none [.mk .tablePath none [dottedNode ["ds", "visits"]]]

/-- `WITH v AS (SELECT id, page, day, tags FROM ds.visits UNION ALL SELECT NULL, page, day, ['new'] FROM ds.visits)
SELECT v.page.url, CAST(v.id AS STRING), RANK() OVER (w ORDER BY DATE_TRUNC(v.day, MONTH)),
(SELECT COUNT(*) FROM UNNEST(v.tags)) FROM v JOIN UNNEST(v.tags) AS tag WITH OFFSET ON offset = 0
WHERE v.id NOT IN (SELECT 1) WINDOW w AS (PARTITION BY tag)`. -/
def visitsStatement : Node :=
  .mk .statement none [.mk .query none
    [.mk .withClause none [.mk (.withEntry "v") none [.mk .query none [.mk (.setOperation .union false) none
      [selectionNode [dottedNode ["id"], dottedNode ["page"], dottedNode ["day"], dottedNode ["tags"]] [visitsClause],
        selectionNode [.leaf (.literal .null) none, dottedNode ["page"], dottedNode ["day"],
          .mk .arrayLiteral none [.leaf (.literal (.string "new")) none]] [visitsClause]]]]],
      selectionNode
        [dottedNode ["v", "page", "url"],
          .mk (.cast false) none [dottedNode ["v", "id"], .leaf (.typeName "STRING") none],
          callNode "RANK" [.mk (.windowSpec (some "w")) none [.mk .orderBy none [.mk (.orderingItem false) none
            [callNode "DATE_TRUNC" [dottedNode ["v", "day"], dottedNode ["MONTH"]]]]]],
          .mk (.subquery .scalar) none [.mk .query none [selectionNode [callNode "COUNT" [.leaf .star none]]
            [.mk .fromClause none [.mk .unnest none [dottedNode ["v", "tags"]]]]]]]
        [.mk .fromClause none [.mk (.join .inner) none
            [.mk .tablePath none [dottedNode ["v"]],
              .mk .unnest none [dottedNode ["v", "tags"], .leaf (.aliasName "tag") none, .leaf .withOffset none],
              .mk .onClause none
                [.mk (.binary .equal) none [dottedNode ["offset"], .leaf (.literal (.int "0")) none]]]],
          .mk .whereClause none [.mk (.subquery (.within true)) none [dottedNode ["v", "id"],
            .mk .query none [selectionNode [.leaf (.literal (.int "1")) none] []]]],
          .mk .windowClause none [.mk (.namedWindow "w") none [.mk (.windowSpec none) none
            [.mk .partitionBy none [dottedNode ["tag"]]]]]]]]

theorem visitsStatement_wellTyped :
    ∃ resolved after, Succeeds visitsStore (statement visitsStatement)
      (statements visitsStore .initial [visitsStatement]).2 resolved after ∧ resolved.query.WellTyped := by
  obtain ⟨resolved, after, ran⟩ := succeeds_of_toBool (show ((statement visitsStatement).outcome visitsStore
    (statements visitsStore .initial [visitsStatement]).2).1.toBool = true by decide +kernel)
  exact ⟨resolved, after, ran, statement_wellTyped ran⟩

end SqlLens.Analysis
