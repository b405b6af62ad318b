import Mathlib.Data.List.Forall2
import SqlLens.Proofs.Analysis.Frame
import SqlLens.Proofs.Analysis.Inversion
import SqlLens.Proofs.Analysis.Parts

/-!
Which selection a call over a window is added to.

Resolving a node adds the calls over windows below it to those of the selection around it (`Place.calls`), down to the
selections within it, which keep theirs to themselves. A query within a selection is no such border: what it is sorted
and limited by is resolved when its own selection has already put back the calls of the selection around it. So the
calls there are added to the wrong selection.
-/

namespace SqlLens.Analysis

open List
open SqlLens.Resolved (Column NamedColumn Scan TypedExpr Computed Entry SortKey)
open SqlLens.Surface (Node)

variable {part : Node} {place : Place} {value : TypedExpr} {count : Nat} {nodes : List Node} {met : List Place}

/-! ### The calls below a node -/

inductive Role where
  | expr | query | body | source
deriving DecidableEq

structure Place where
  role : Role
  node : Node

def exprParts (node : Node) : List Place :=
  match node.kind with
  | .functionCall _ => (argumentNodes node ++ (windowNode? node).toList.flatMap windowOperands).map (Place.mk .expr)
  | .subquery (.within _) =>
    (node.children.take 1).map (Place.mk .expr) ++ ((node.children.drop 1).take 1).map (Place.mk .query)
  | .subquery _ => (node.children.take 1).map (Place.mk .query)
  | _ => (operands node).map (Place.mk .expr)

def queryParts (node : Node) : List Place :=
  match QueryParts.of? node.children with
  | some parts =>
    (parts.entries.flatMap (·.children.take 1)).map (Place.mk .query) ++ parts.body.toList.map (Place.mk .body) ++
      (orderNodes parts.order ++ limitNodes parts.limit).map (Place.mk .expr)
  | none => []

/-- What a body is resolved from, as far as the selection around it is concerned: a selection keeps to itself. -/
def bodyParts (node : Node) : List Place :=
  match node.kind with
  | .setOperation _ _ => (node.children.take 2).map (Place.mk .body)
  | .query => queryParts node
  | _ => []

def sourceParts (node : Node) : List Place :=
  match node.kind with
  | .tableSubquery => (node.children.take 1).map (Place.mk .query)
  | .unnest => (node.children.take 1).map (Place.mk .expr)
  | .join _ =>
    (node.children.take 2).map (Place.mk .source) ++
      (conditionNodes (node.childOf? (· = .onClause))).map (Place.mk .expr)
  | _ => []

def Place.parts (place : Place) : List Place :=
  match place.role with
  | .expr => exprParts place.node
  | .query => queryParts place.node
  | .body => bodyParts place.node
  | .source => sourceParts place.node

def Place.isCall (place : Place) : Bool :=
  match place.role, place.node.kind with
  | .expr, .functionCall _ => (windowNode? place.node).isSome
  | _, _ => false

def Place.isQuery (place : Place) : Bool := place.role = .query

theorem sizeOf_child {node : Node} (inside : part ∈ node.children) : sizeOf part < sizeOf node := by
  obtain ⟨kind, span, children⟩ := node
  have below := sizeOf_lt_of_mem inside
  simp only [Node.children] at below
  simp only [Node.mk.sizeOf_spec]
  omega

theorem sizeOf_take {node : Node} (inside : part ∈ node.children.take count) :
    sizeOf part < sizeOf node := sizeOf_child (mem_of_mem_take inside)

theorem sizeOf_clause {node : Node} (inside : clause ∈ node.children) (deeper : part ∈ clause.children.take count) :
    sizeOf part < sizeOf node :=
  Nat.lt_trans (sizeOf_take deeper) (sizeOf_child inside)

theorem sizeOf_windowOperands {spec : Node} (inside : part ∈ windowOperands spec) :
    sizeOf part < sizeOf spec := by
  obtain ⟨clause, listed, inside⟩ := mem_flatMap.mp inside
  unfold partOperands at inside
  split at inside
  · exact Nat.lt_trans (sizeOf_child inside) (sizeOf_child listed)
  · obtain ⟨item, sorted, inside⟩ := mem_flatMap.mp inside
    exact Nat.lt_trans (sizeOf_clause sorted inside) (sizeOf_child listed)
  · cases inside

theorem mem_places {part : Place} (inside : part ∈ nodes.map (Place.mk role)) : part.node ∈ nodes := by
  obtain ⟨node, listed, rfl⟩ := mem_map.mp inside
  exact listed

theorem sizeOf_queryParts {part : Place} (inside : part ∈ queryParts node) : sizeOf part.node < sizeOf node := by
  unfold queryParts at inside
  split at inside
  · rename_i parts split
    have within := QueryParts.within_of split
    rcases mem_append.mp inside with inside | inside
    · rcases mem_append.mp inside with inside | inside
      · obtain ⟨entry, listed, inside⟩ := mem_flatMap.mp (mem_places inside)
        obtain ⟨clause, given, -, listed⟩ := within.entries entry listed
        exact Nat.lt_trans (sizeOf_clause listed inside) (sizeOf_child given)
      · exact sizeOf_child (within.body _ (Option.mem_toList.mp (mem_places inside)))
    · rcases mem_append.mp (mem_places inside) with inside | inside
      · obtain ⟨clause, given, inside⟩ := mem_flatMap.mp inside
        obtain ⟨item, listed, inside⟩ := mem_flatMap.mp inside
        exact Nat.lt_trans (sizeOf_clause listed inside) (sizeOf_child (within.order _ (Option.mem_toList.mp given)))
      · obtain ⟨clause, given, inside⟩ := mem_flatMap.mp inside
        exact sizeOf_clause (within.limit _ (Option.mem_toList.mp given)) inside
  · cases inside

theorem sizeOf_operands {node : Node} (inside : part ∈ operands node) : sizeOf part < sizeOf node := by
  unfold operands at inside
  split at inside
  iterate 6 · exact sizeOf_take inside
  iterate 5 · exact sizeOf_child inside
  · obtain ⟨clause, listed, inside⟩ := mem_flatMap.mp inside
    unfold caseOperands at inside
    split at inside
    · exact sizeOf_clause listed inside
    · exact sizeOf_clause listed inside
    · cases mem_singleton.mp inside
      exact sizeOf_child listed
  · cases inside

theorem sizeOf_exprParts {part : Place} (inside : part ∈ exprParts node) : sizeOf part.node < sizeOf node := by
  unfold exprParts at inside
  split at inside
  · rcases mem_append.mp (mem_places inside) with argument | operand
    · exact sizeOf_child (mem_of_mem_drop (mem_filter.mp argument).1)
    · obtain ⟨spec, windowed, operand⟩ := mem_flatMap.mp operand
      have last := (Option.filter_eq_some_iff.mp (Option.mem_toList.mp windowed)).1
      exact Nat.lt_trans (sizeOf_windowOperands operand) (sizeOf_child (mem_of_getLast? last))
  · rcases mem_append.mp inside with inside | inside
    · exact sizeOf_take (mem_places inside)
    · exact sizeOf_child (mem_of_mem_drop (mem_of_mem_take (mem_places inside)))
  · exact sizeOf_take (mem_places inside)
  · exact sizeOf_operands (mem_places inside)

theorem Place.sizeOf_parts {part : Place} (inside : part ∈ place.parts) : sizeOf part.node < sizeOf place.node := by
  unfold Place.parts at inside
  split at inside
  · exact sizeOf_exprParts inside
  · exact sizeOf_queryParts inside
  · unfold bodyParts at inside
    split at inside
    · exact sizeOf_take (mem_places inside)
    · exact sizeOf_queryParts inside
    · cases inside
  · unfold sourceParts at inside
    split at inside
    · exact sizeOf_take (mem_places inside)
    · exact sizeOf_take (mem_places inside)
    · rcases mem_append.mp inside with inside | inside
      · exact sizeOf_take (mem_places inside)
      · obtain ⟨clause, given, inside⟩ := mem_flatMap.mp (mem_places inside)
        exact sizeOf_clause (mem_of_find?_eq_some (Option.mem_toList.mp given)) inside
    · cases inside

namespace Place

/-- The calls over windows that resolving a place adds to those of the selection around it, in order. -/
def calls (place : Place) : List Node :=
  place.parts.attach.flatMap (fun part => calls part.1) ++ if place.isCall then [place.node] else []
termination_by sizeOf place.node
decreasing_by exact sizeOf_parts part.2

def encounters (place : Place) : List Place :=
  if place.isQuery then [place]
  else place.parts.attach.flatMap (fun part => encounters part.1) ++ if place.isCall then [place] else []
termination_by sizeOf place.node
decreasing_by exact sizeOf_parts part.2

def ownCalls (place : Place) : List Node := (place.encounters.filter isCall).map node

def queries (place : Place) : List Place := place.encounters.filter isQuery

theorem calls_eq (place : Place) :
    place.calls = place.parts.flatMap calls ++ if place.isCall then [place.node] else [] := by
  rw [calls, flatMap_subtype (g := calls) (by simp)]
  simp

theorem encounters_eq (inner : place.isQuery = false) :
    place.encounters = place.parts.flatMap encounters ++ if place.isCall then [place] else [] := by
  rw [encounters, flatMap_subtype (g := encounters) (by simp)]
  simp [inner]

theorem encounters_query (query : place.isQuery) : place.encounters = [place] := by
  rw [encounters, if_pos query]

theorem isCall_of_isQuery (query : place.isQuery) : place.isCall = false := by
  rw [isCall, show place.role = .query from of_decide_eq_true query]

theorem mem_encounters {found : Place} (place : Place) (met : found ∈ place.encounters) :
    found.isQuery = true ∨ found.isCall := by
  cases query : place.isQuery with
  | true =>
    rw [encounters_query query, mem_singleton] at met
    exact .inl (met ▸ query)
  | false =>
    rw [encounters_eq query] at met
    rcases mem_append.mp met with inside | own
    · obtain ⟨part, listed, inside⟩ := mem_flatMap.mp inside
      exact mem_encounters part inside
    · split at own
      · rename_i call
        exact .inr (mem_singleton.mp own ▸ call)
      · cases own
termination_by sizeOf place.node
decreasing_by exact sizeOf_parts listed

theorem calls_eq_encounters (place : Place) :
    place.calls = place.encounters.flatMap fun found => if found.isQuery then found.calls else [found.node] := by
  cases query : place.isQuery with
  | true => simp [encounters_query query, query]
  | false =>
    have parts : place.parts.flatMap calls = place.parts.flatMap fun part =>
        part.encounters.flatMap fun found => if found.isQuery then found.calls else [found.node] :=
      flatMap_congr fun part listed => calls_eq_encounters part
    rw [calls_eq, encounters_eq query, flatMap_append, flatMap_assoc, parts]
    split <;> simp [query]
termination_by sizeOf place.node
decreasing_by exact sizeOf_parts listed

end Place

/-! ### Own calls and stray ones -/

theorem length_found (kinds : ∀ found ∈ met, found.isQuery = true ∨ found.isCall) :
    (met.flatMap fun found => if found.isQuery then found.calls else [found.node]).length =
      (met.filter Place.isCall).length + ((met.filter Place.isQuery).flatMap Place.calls).length := by
  induction met with
  | nil => rfl
  | cons found rest ih =>
    obtain ⟨kind, kinds⟩ := forall_mem_cons.mp kinds
    rw [flatMap_cons, length_append, ih kinds]
    cases query : found.isQuery with
    | true =>
      simp [query, Place.isCall_of_isQuery query]
      omega
    | false =>
      have call : found.isCall = true := by simpa [query] using kind
      simp [query, call]
      omega

theorem found_eq (kinds : ∀ found ∈ met, found.isQuery = true ∨ found.isCall)
    (none : ∀ query ∈ met.filter Place.isQuery, query.calls = []) :
    (met.flatMap fun found => if found.isQuery then found.calls else [found.node]) =
      (met.filter Place.isCall).map Place.node := by
  induction met with
  | nil => rfl
  | cons found rest ih =>
    obtain ⟨kind, kinds⟩ := forall_mem_cons.mp kinds
    rw [flatMap_cons]
    cases query : found.isQuery with
    | true =>
      rw [filter_cons_of_pos query] at none
      obtain ⟨first, none⟩ := forall_mem_cons.mp none
      rw [ih kinds none, filter_cons_of_neg (by simp [Place.isCall_of_isQuery query])]
      simp [first]
    | false =>
      rw [filter_cons_of_neg (by simp [query])] at none
      have call : found.isCall = true := by simpa [query] using kind
      rw [ih kinds none, filter_cons_of_pos call]
      simp

/-- What is computed for all calls of some places is computed for their own calls only if the queries within them have
none. -/
theorem own_iff_no_strays {places : List Place} (computed : Forall₂ R (places.flatMap Place.calls) entries) :
    Forall₂ R (places.flatMap Place.ownCalls) entries ↔ ∀ query ∈ places.flatMap Place.queries, query.calls = [] := by
  have kinds : ∀ found ∈ places.flatMap Place.encounters, found.isQuery = true ∨ found.isCall = true := by
    intro found met
    obtain ⟨place, -, met⟩ := mem_flatMap.mp met
    exact Place.mem_encounters place met
  have all : places.flatMap Place.calls = (places.flatMap Place.encounters).flatMap fun found =>
      if found.isQuery then found.calls else [found.node] := by
    rw [flatMap_assoc]
    exact flatMap_congr fun place _ => place.calls_eq_encounters
  have own :
      places.flatMap Place.ownCalls = ((places.flatMap Place.encounters).filter Place.isCall).map Place.node := by
    rw [filter_flatMap, map_flatMap]
    rfl
  have queries : places.flatMap Place.queries = (places.flatMap Place.encounters).filter Place.isQuery := by
    rw [filter_flatMap]
    rfl
  rw [all] at computed
  rw [own, queries]
  constructor
  · intro computedOwn query stray
    have same := computed.length_eq.trans computedOwn.length_eq.symm
    rw [length_found kinds, length_map, Nat.add_eq_left, length_eq_zero_iff] at same
    exact flatMap_eq_nil_iff.mp same query stray
  · intro none
    rwa [found_eq kinds none] at computed

/-! ### What resolving adds -/

variable {r : Resolvers} {tables : Lookup} {before after : State} {scope : Scope} {node : Node} {scan : Scan}

/-- The column is computed by the call: the function that is called there, over a window. -/
def Computes (call : Node) (entry : Computed) : Prop :=
  ∃ callee function arguments partition order type, call.children[0]? = some callee ∧
    Function.lookup? callee.dotted = some function ∧
      entry.expr = .analyticCall function arguments partition order type call.span

/-- The calls, and nothing else, were added to those of the selection. Where that is not allowed, there are none. -/
structure Collected (calls : List Node) (before after : State) : Prop where
  added : ∃ entries, after.analytic = before.analytic.map (· ++ entries) ∧ Forall₂ Computes calls entries
  allowed : before.analytic = none → calls = []

theorem Collected.nothing (same : after.analytic = before.analytic) : Collected [] before after :=
  ⟨⟨[], by simp [same], .nil⟩, fun _ => rfl⟩

theorem Collected.trans (earlier : Collected first before middle) (later : Collected second middle after) :
    Collected (first ++ second) before after := by
  obtain ⟨⟨entries, added, computed⟩, allowed⟩ := earlier
  obtain ⟨⟨entries', added', computed'⟩, allowed'⟩ := later
  refine ⟨⟨entries ++ entries', ?_, rel_append computed computed'⟩, fun disallowed => ?_⟩
  · rw [added', added]
    cases before.analytic <;> simp
  · rw [allowed disallowed, allowed' (by rw [added, disallowed]; rfl)]
    rfl

theorem Collected.each (one : ∀ item ∈ items, ∀ {value first last}, Succeeds tables (f item) first value last →
      Collected (calls item) first last) (ran : Succeeds tables (each f items) before results after) :
    Collected (items.flatMap calls) before after := by
  induction items generalizing before results with
  | nil =>
    obtain ⟨-, rfl⟩ := succeeds_each_nil.mp ran
    exact .nothing rfl
  | cons item rest ih =>
    obtain ⟨value, middle, others, first, ranRest, rfl⟩ := succeeds_each_cons.mp ran
    exact (one item mem_cons_self first).trans
      (ih (fun item inside => one item (mem_cons_of_mem _ inside)) ranRest)

/-- Nothing but the calls below a node is added when the resolvers resolve it. -/
structure Resolvers.Collect (r : Resolvers) : Prop where
  expr : ∀ {tables scope node before value after}, Succeeds tables (r.expr scope node) before value after →
    Collected (Place.mk .expr node).calls before after
  query : ∀ {tables node before found after}, Succeeds tables (r.query node) before found after →
    Collected (Place.mk .query node).calls before after
  body : ∀ {tables node before found after}, Succeeds tables (r.body node) before found after →
    Collected (Place.mk .body node).calls before after
  source : ∀ {tables node before found after}, Succeeds tables (r.source node) before found after →
    Collected (Place.mk .source node).calls before after
  name : ∀ tables scope node before, node.kind = .path → ((r.expr scope node).outcome tables before).2 = before

theorem exprs_collected (collect : r.Collect) (ran : Succeeds tables (each (r.expr scope) nodes) before values after) :
    Collected ((nodes.map (Place.mk .expr)).flatMap Place.calls) before after := by
  rw [flatMap_map]
  exact Collected.each (fun _ _ _ _ _ ran => collect.expr ran) ran

theorem calls_path (kind : node.kind = .path) : (Place.mk .expr node).calls = [] := by
  rw [Place.calls_eq]
  simp [Place.parts, exprParts, operands, Place.isCall, kind]

theorem path_of_singleName (single : singleName? node = some name) : node.kind = .path := by
  unfold singleName? at single
  split at single
  · assumption
  · cases single

theorem fresh_collected (ran : Succeeds tables (fresh table name type) before column after) :
    Collected [] before after := by
  obtain ⟨-, rfl⟩ := succeeds_fresh.mp ran
  exact .nothing rfl

theorem freshColumns_collected (ran : Succeeds tables (freshColumns table fields) before columns after) :
    Collected [] before after := by
  have all : Collected (fields.flatMap fun _ => []) before after := Collected.each (fun _ _ _ _ _ ran => by
    simp only [succeeds_bind, succeeds_pure] at ran
    obtain ⟨column, _, made, -, rfl⟩ := ran
    exact fresh_collected made) ran
  rwa [flatMap_eq_nil_iff.mpr fun _ _ => rfl] at all

section

variable (collect : r.Collect)

include collect

theorem argument_collected (form : ArgumentForm r tables scope node before values after) :
    Collected (Place.mk .expr node).calls before after := by
  cases form with
  | star kind =>
    have none : (Place.mk .expr node).calls = [] := by
      rw [Place.calls_eq]
      simp [Place.parts, exprParts, operands, Place.isCall, kind]
    rw [none]
    exact .nothing rfl
  | value ran => exact collect.expr ran
  | datePart failed single =>
    have path := path_of_singleName single
    have same := collect.name tables scope node before path
    rw [failed] at same
    rw [calls_path path]
    exact .nothing (congrArg State.analytic same)

theorem call_collected (kind : node.kind = .functionCall distinct)
    (form : CallForm r tables scope node before value after) : Collected (Place.mk .expr node).calls before after := by
  rw [Place.calls_eq]
  simp only [Place.parts, exprParts, Place.isCall, kind, map_append, flatMap_append]
  cases form with
  | plain called known alone ran typed =>
    have arguments := Collected.each (fun _ _ _ _ _ ran => argument_collected collect (succeeds_argument ran)) ran
    simpa [alone, flatMap_map] using arguments
  | @inWindow callee function spec single arguments middle signature type found ready called known windowed
      allowed ran typed
      resolved =>
    obtain ⟨values, ranWindow⟩ := succeeds_window resolved
    have inner := (Collected.each (fun _ _ _ _ _ ran => argument_collected collect (succeeds_argument ran)) ran).trans
      (exprs_collected collect ranWindow)
    have own : Collected [node] ready { ready with
        nextId := ready.nextId + 1
        analytic := ready.analytic.map (· ++ [windowCall ready function arguments.flatten found type node.span]) } := by
      refine ⟨⟨_, rfl, .cons ⟨callee, function, _, _, _, _, called, known, rfl⟩ .nil⟩, fun disallowed => ?_⟩
      obtain ⟨entries, added, -⟩ := inner.added
      rw [disallowed, eq_comm, Option.map_eq_none_iff] at added
      simp [added] at allowed
    simpa [windowed, flatMap_map] using inner.trans own

theorem innerQuery_collected (ran : Succeeds tables (innerQuery r scope node) before found after) :
    Collected (Place.mk .query node).calls before after := by
  obtain ⟨last, ranQuery, rfl⟩ := succeeds_innerQuery ran
  obtain ⟨added, allowed⟩ := collect.query ranQuery
  exact ⟨added, allowed⟩

theorem subquery_collected (kind : node.kind = .subquery asked)
    (form : SubqueryForm r tables scope node before asked value after) :
    Collected (Place.mk .expr node).calls before after := by
  rw [Place.calls_eq]
  cases form with
  | alone plain found ran =>
    have inner := innerQuery_collected collect ran
    cases asked with
    | within negated => exact (plain negated rfl).elim
    | scalar | array | exist =>
      simpa [Place.parts, exprParts, Place.isCall, kind, take_one_of_getElem? found] using inner
  | @within operand inner _ _ _ _ _ _ found found' ranTested ran =>
    have both := (collect.expr ranTested).trans (innerQuery_collected collect ran)
    have second := take_one_of_getElem? (show (node.children.drop 1)[0]? = some inner by simpa using found')
    have parts : exprParts node = [⟨.expr, operand⟩, ⟨.query, inner⟩] := by
      simp only [exprParts, kind, take_one_of_getElem? found, second, map_cons, map_nil, cons_append,
        nil_append]
    simpa [Place.parts, parts, Place.isCall, kind] using both

theorem expr_collected (ran : Succeeds tables (expr r scope node) before value after) :
    Collected (Place.mk .expr node).calls before after := by
  cases succeeds_expr ran with
  | path kind ran =>
    obtain ⟨-, rfl⟩ := succeeds_path ran
    rw [calls_path kind]
    exact .nothing rfl
  | literal kind =>
    rw [Place.calls_eq]
    simpa [Place.parts, exprParts, operands, Place.isCall, kind] using Collected.nothing rfl
  | computed kind ran combined =>
    have parts : exprParts node = (operands node).map (Place.mk .expr) := by
      unfold exprParts
      split <;> simp_all [isComputed]
    have noCall : (Place.mk .expr node).isCall = false := by
      unfold Place.isCall
      split <;> simp_all [isComputed]
    rw [Place.calls_eq, noCall]
    simpa [Place.parts, parts] using exprs_collected collect ran
  | call kind form => exact call_collected collect kind form
  | subquery kind form negation => exact subquery_collected collect kind form

/-! #### Tables -/

theorem arrayValue_collected (isArray : node.kind = .unnest ∨ node.kind = .tablePath)
    (form : ArrayValueForm r tables scope node before array after) :
    Collected (Place.mk .source node).calls before after := by
  rw [Place.calls_eq]
  cases form with
  | path kind ran =>
    obtain ⟨-, rfl⟩ := succeeds_path ran
    simpa [Place.parts, sourceParts, Place.isCall, kind] using Collected.nothing rfl
  | value kind found ran =>
    have unnest : node.kind = .unnest := isArray.resolve_right kind
    simpa [Place.parts, sourceParts, Place.isCall, unnest, take_one_of_getElem? found] using collect.expr ran

theorem array_collected (isArray : node.kind = .unnest ∨ node.kind = .tablePath)
    (form : ArrayForm r tables node input scope joined before scan seen after) :
    Collected ((Place.mk .source node).calls ++ ((conditionNodes (joined.bind fun joined =>
      joined.1.childOf? (· = .onClause))).map (Place.mk .expr)).flatMap Place.calls) before after := by
  obtain ⟨value, typed, elementMade, offsetMade, conditioned, tested⟩ := form
  have valued := (arrayValue_collected collect isArray value).trans (fresh_collected elementMade)
  rename_i offsetNode _ _ _ _ _ named ready
  have offset : Collected [] named ready := by
    cases offsetNode with
    | none =>
      obtain ⟨-, rfl⟩ := succeeds_perhaps_none.mp offsetMade
      exact .nothing rfl
    | some offsetNode =>
      obtain ⟨column, made, -⟩ := succeeds_perhaps_some.mp offsetMade
      exact fresh_collected made
  simpa using (valued.trans offset).trans (exprs_collected collect conditioned)

theorem source_collected (form : SourceForm r tables node before scan seen after) :
    Collected (Place.mk .source node).calls before after := by
  cases form with
  | table kind known made | reference kind known made =>
    rw [Place.calls_eq]
    simpa [Place.parts, sourceParts, Place.isCall, kind] using freshColumns_collected made
  | query kind found ran =>
    rw [Place.calls_eq]
    simpa [Place.parts, sourceParts, Place.isCall, kind, take_one_of_getElem? found] using collect.query ran
  | array kind form => simpa [conditionNodes] using array_collected collect (.inl kind) form
  | arrayJoin kind foundLeft foundRight isArray ranLeft form =>
    have both := (collect.source ranLeft).trans (array_collected collect isArray form)
    rw [Place.calls_eq]
    simpa [Place.parts, sourceParts, Place.isCall, kind, take_two_of_getElem? foundLeft foundRight] using both
  | join kind foundLeft foundRight noArray ranLeft ranRight conditioned tested =>
    have both := ((collect.source ranLeft).trans (collect.source ranRight)).trans (exprs_collected collect conditioned)
    rw [Place.calls_eq]
    simpa [Place.parts, sourceParts, Place.isCall, kind, take_two_of_getElem? foundLeft foundRight] using both

/-! #### Queries -/

theorem order_collected (form : OrderForm r tables outputs scope node before value after) :
    Collected (Place.mk .expr node).calls before after := by
  cases form with
  | output single listed =>
    rw [calls_path (path_of_singleName single)]
    exact .nothing rfl
  | value ran => exact collect.expr ran

theorem nameQuery_collected (ran : Succeeds tables (nameQuery r node) before entry after) :
    Collected (((node.children.take 1).map (Place.mk .query)).flatMap Place.calls) before after := by
  obtain ⟨inner, name, scan, columns, middle, found, ranInner, rfl, rfl⟩ := succeeds_nameQuery ran
  obtain ⟨added, allowed⟩ := collect.query ranInner
  rw [take_one_of_getElem? found]
  simpa using (⟨added, allowed⟩ : Collected _ before { middle with common := ⟨name, columns⟩ :: middle.common })

/-- What a query is sorted and limited by is added to the calls of the selection around it, and so is what its common
tables and its body are sorted and limited by. -/
theorem query_collected (form : QueryForm r tables node before scan outputs after) :
    Collected ((queryParts node).flatMap Place.calls) before after := by
  cases form with
  | @mk parts bodyNode body outputs seen bounds keys rows named bodied sorted last entries split
      ranEntries given ranBody
      ranOrder ranLimit limited =>
    have common := Collected.each (fun _ _ _ _ _ ran => nameQuery_collected collect ran) ranEntries
    have sorting := Collected.each (fun _ _ _ _ _ ran => order_collected collect (succeeds_orderExpr ran)) ranOrder
    obtain ⟨added, allowed⟩ :=
      ((common.trans (collect.body ranBody)).trans sorting).trans (exprs_collected collect ranLimit)
    have whole : Collected _ before { last with common := truncate before.common.length last.common } :=
      ⟨added, allowed⟩
    simpa [queryParts, split, given, map_flatMap, flatMap_assoc, flatMap_map, append_assoc] using whole

end

theorem select_keeps_calls
    (form : SelectForm r tables node before scan outputs seen after) : after.analytic = before.analytic := by
  cases form
  rfl

theorem setColumn_collected {op : SetOp} {span : Option Span}
    (ran : Succeeds tables (setColumn op distinct span entry) before column after) : Collected [] before after := by
  obtain ⟨_, _, _, ranFresh, -⟩ := succeeds_setColumn.mp ran
  obtain ⟨-, rfl⟩ := succeeds_fresh.mp ranFresh
  exact .nothing rfl

theorem body_collected (collect : r.Collect)
    (form : BodyForm r tables node before scan outputs seen after) :
    Collected (Place.mk .body node).calls before after := by
  rw [Place.calls_eq]
  cases form with
  | select kind form =>
    simpa [Place.parts, bodyParts, Place.isCall, kind] using Collected.nothing (select_keeps_calls form)
  | setOperation kind foundLeft foundRight ranLeft ranRight sameLength made =>
    have sides := (collect.body ranLeft).trans (collect.body ranRight)
    have columns := Collected.each (fun _ _ _ _ _ ran => setColumn_collected ran) made
    rw [flatMap_eq_nil_iff.mpr fun _ _ => rfl] at columns
    simpa [Place.parts, bodyParts, Place.isCall, kind,
      take_two_of_getElem? foundLeft foundRight] using sides.trans columns
  | query kind form =>
    simpa [Place.parts, bodyParts, Place.isCall, kind] using query_collected collect form

theorem resolvers_collect (height : Nat) : (resolvers height).Collect := by
  induction height with
  | zero =>
    exact ⟨fun ran => (succeeds_malformed.mp ran).elim, fun ran => (succeeds_malformed.mp ran).elim,
      fun ran => (succeeds_malformed.mp ran).elim, fun ran => (succeeds_malformed.mp ran).elim, fun _ _ _ _ _ => rfl⟩
  | succ height ih =>
    refine ⟨expr_collected ih, fun ran => ?_, fun ran => body_collected ih (succeeds_body ran),
      fun ran => source_collected ih (succeeds_source ran), fun tables scope node before path => ?_⟩
    · rw [Place.calls_eq]
      simpa [Place.parts, Place.isCall] using query_collected ih (succeeds_query ran)
    · obtain ⟨result, ran, -⟩ := inert_path scope node before
      have same : (resolvers (height + 1)).expr scope node = Analysis.path scope node := by
        change Analysis.expr (resolvers height) scope node = _
        rw [Analysis.expr, path]
      rw [same, ran]

/-! ### Selections -/

def SelectParts.windowPlaces (parts : SelectParts) : List Place :=
  (parts.list.toList.flatMap (fun list => list.children.flatMap (·.children.take 1)) ++
    conditionNodes parts.qualify).map
    (Place.mk .expr)

def SelectParts.otherPlaces (parts : SelectParts) : List Place :=
  (conditionNodes parts.tables).map (Place.mk .source) ++ (conditionNodes parts.filter).map (Place.mk .expr) ++
    (((parts.windows.map Node.children).getD []).flatMap fun named =>
      (named.children.take 1).flatMap windowOperands).map (Place.mk .expr) ++
    ((parts.groups.map Node.children).getD []).map (Place.mk .expr) ++
    (conditionNodes parts.having).map (Place.mk .expr)

theorem selectTables_collected (collect : r.Collect)
    (ran : Succeeds tables (selectTables r clause) before found after) :
    Collected (((conditionNodes clause).map (Place.mk .source)).flatMap Place.calls) before after := by
  cases clause with
  | none =>
    obtain ⟨-, rfl⟩ := succeeds_pure.mp ran
    exact .nothing rfl
  | some clause =>
    obtain ⟨inner, given, ran⟩ := succeeds_child_bind.mp ran
    simpa [conditionNodes, take_one_of_getElem? given] using collect.source ran

theorem nameWindow_collected (collect : r.Collect)
    (ran : Succeeds tables (nameWindow r scope node) before result after) :
    Collected
        ((((node.children.take 1).flatMap windowOperands).map (Place.mk .expr)).flatMap Place.calls) before after := by
  obtain ⟨spec, middle, name, resolved, found, ranWindow, rfl⟩ := succeeds_nameWindow ran
  obtain ⟨values, ranWindow⟩ := succeeds_window ranWindow
  obtain ⟨added, allowed⟩ := exprs_collected collect ranWindow
  rw [take_one_of_getElem? found, flatMap_singleton]
  exact ⟨added, allowed⟩

theorem groupItem_collected (collect : r.Collect)
    (ran : Succeeds tables (groupItem r scope outputs entry) before group after) :
    Collected (Place.mk .expr entry.1).calls before after := by
  obtain ⟨value, middle, column, form, -, named⟩ := succeeds_groupItem ran
  have same : after.analytic = middle.analytic := by
    rcases named with ⟨-, rfl⟩ | ⟨name, made⟩
    · rfl
    · obtain ⟨-, rfl⟩ := succeeds_fresh.mp made
      rfl
  have grouped : Collected (Place.mk .expr entry.1).calls before middle := by
    cases form with
    | value ran => exact collect.expr ran
    | output failed single listed =>
      have path := path_of_singleName single
      have unchanged := collect.name tables scope entry.1 before path
      rw [failed] at unchanged
      rw [calls_path path]
      exact .nothing (congrArg State.analytic unchanged)
  simpa using grouped.trans (.nothing same)

theorem flatMap_zipIdx (items : List α) (f : α → List β) :
    (items.zipIdx.flatMap fun entry => f entry.1) = items.flatMap f := by
  conv_rhs => rw [← zipIdx_map_fst 0 items, flatMap_map]

theorem select_elsewhere (collect : r.Collect) (split : SelectParts.of? node.children = some parts)
    (form : SelectForm r tables node before scan outputs seen after) : parts.otherPlaces.flatMap Place.calls = [] := by
  cases form with
  | @mk parts' rows seen units list items groups test havingTest qualify needed sourced tested named listing grouping
      having qualified split' ranTables ranFilter ranWindows listed ranItems ranGroups ranHaving ranQualify boolean _ =>
    obtain rfl : parts' = parts := Option.some_inj.mp (split'.symm.trans split)
    have early := (((selectTables_collected collect ranTables).trans (exprs_collected collect ranFilter)).trans
      (Collected.each (fun _ _ _ _ _ ran => nameWindow_collected collect ran) ranWindows)).allowed rfl
    have late := ((Collected.each (fun _ _ _ _ _ ran => groupItem_collected collect ran) ranGroups).trans
      (exprs_collected collect ranHaving)).allowed rfl
    rw [flatMap_zipIdx _ fun item => (Place.mk .expr item).calls, ← flatMap_map] at late
    rw [← flatMap_assoc, ← map_flatMap] at early
    simp only [SelectParts.otherPlaces, flatMap_append, early, nil_append]
    exact late

theorem item_collected (collect : r.Collect) (form : ItemForm r tables scope item before selected after) :
    Collected (((item.children.take 1).map (Place.mk .expr)).flatMap Place.calls) before after := by
  cases form with
  | star found kind | dotStar found kind =>
    rw [take_one_of_getElem? found, map_singleton, flatMap_singleton, Place.calls_eq]
    simpa [Place.parts, exprParts, operands, Place.isCall, kind] using Collected.nothing rfl
  | column found ran => simpa [take_one_of_getElem? found] using collect.expr ran
  | computed found ran noColumn made =>
    obtain ⟨-, rfl⟩ := succeeds_fresh.mp made
    obtain ⟨added, allowed⟩ := collect.expr ran
    rw [take_one_of_getElem? found, map_singleton, flatMap_singleton]
    exact ⟨added, allowed⟩

/-- A selection computes the calls over windows of its list and its `QUALIFY`, in this order and nothing else. -/
theorem select_collected (collect : r.Collect) (split : SelectParts.of? node.children = some parts)
    (form : SelectForm r tables node before scan outputs seen after) :
    ∃ columns computed rows entries test,
      scan = .project columns computed (filtered node.span (windowed node.span rows entries) test) node.span ∧
        Forall₂ Computes (parts.windowPlaces.flatMap Place.calls) entries := by
  cases form with
  | @mk parts' rows seen units list items groups test havingTest qualify needed sourced tested named listing grouping
      having qualified split' ranTables ranFilter ranWindows listed ranItems ranGroups ranHaving ranQualify boolean _ =>
    obtain rfl : parts' = parts := Option.some_inj.mp (split'.symm.trans split)
    obtain ⟨⟨entries, added, computed⟩, -⟩ :=
      Collected.each (fun _ _ _ _ _ ran => item_collected collect (succeeds_selectItem ran)) ranItems
    obtain ⟨⟨entries', added', computed'⟩, -⟩ := exprs_collected collect ranQualify
    refine ⟨_, _, _, _, _, rfl, ?_⟩
    have all : qualified.analytic.getD [] = entries ++ entries' := by simp [added, added']
    have places : parts'.windowPlaces.flatMap Place.calls =
        (list.children.zipIdx.flatMap fun entry =>
          ((entry.1.children.take 1).map (Place.mk .expr)).flatMap Place.calls) ++
          ((conditionNodes parts'.qualify).map (Place.mk .expr)).flatMap Place.calls := by
      rw [flatMap_zipIdx list.children fun item => ((item.children.take 1).map (Place.mk .expr)).flatMap Place.calls]
      simp [SelectParts.windowPlaces, listed, map_flatMap, flatMap_assoc]
    rw [all, places]
    exact rel_append computed computed'

/-- A query leaves the calls over windows of the selection around it alone exactly if it has none to add. -/
theorem query_keeps_calls_iff (ran : Succeeds tables ((resolvers height).query node) before found after) :
    after.analytic = before.analytic ↔ (Place.mk .query node).calls = [] := by
  obtain ⟨⟨entries, added, computed⟩, allowed⟩ := (resolvers_collect height).query ran
  constructor
  · intro same
    cases analytic : before.analytic with
    | none => exact allowed analytic
    | some calls =>
      rw [same, analytic, Option.map_some, Option.some_inj, self_eq_append_right] at added
      rw [added] at computed
      exact forall₂_nil_right_iff.mp computed
  · intro none
    rw [none] at computed
    rw [added, forall₂_nil_left_iff.mp computed]
    simp

theorem isQuery_of_mem_queries {query : Place} (nested : query ∈ place.queries) : query.role = .query :=
  of_decide_eq_true (mem_filter.mp nested).2

/-- A selection computes the calls over windows of its list and its `QUALIFY`, adds none to the selection around it, and
has none in its other clauses. But what it computes are its own calls alone only if the queries within its list and its
`QUALIFY` have none in what they are sorted and limited by. -/
theorem selection_computes_own_calls_iff {height : Nat} {scan : Scan} {outputs : List NamedColumn} {seen : Scope}
    (ran : Succeeds tables (select (resolvers height) node) before (scan, outputs, seen) after) :
    after.analytic = before.analytic ∧
      ∃ parts columns computed rows entries test, SelectParts.of? node.children = some parts ∧
        scan = .project columns computed (filtered node.span (windowed node.span rows entries) test) node.span ∧
        List.Forall₂ Computes (parts.windowPlaces.flatMap Place.calls) entries ∧
        parts.otherPlaces.flatMap Place.calls = [] ∧
        (List.Forall₂ Computes (parts.windowPlaces.flatMap Place.ownCalls) entries ↔
          ∀ query ∈ parts.windowPlaces.flatMap Place.queries, query.calls = []) ∧
        ∀ query ∈ parts.windowPlaces.flatMap Place.queries, ∀ {depth first found last},
          Succeeds tables ((resolvers depth).query query.node) first found last →
            (last.analytic = first.analytic ↔ query.calls = []) := by
  have form := succeeds_select ran
  have collect := resolvers_collect height
  obtain ⟨parts, split⟩ : ∃ parts, SelectParts.of? node.children = some parts := by
    cases form with
    | mk split => exact ⟨_, split⟩
  obtain ⟨columns, computed, rows, entries, test, made, all⟩ := select_collected collect split form
  refine ⟨select_keeps_calls form, parts, columns, computed, rows, entries, test, split, made, all,
    select_elsewhere collect split form, own_iff_no_strays all, ?_⟩
  rintro ⟨role, query⟩ nested depth first found last ranQuery
  obtain ⟨place, -, nested⟩ := List.mem_flatMap.mp nested
  obtain rfl : role = .query := isQuery_of_mem_queries nested
  exact query_keeps_calls_iff ranQuery

def rowNumberCall : Node :=
  .mk (.functionCall false) none
    [.mk .path none [.leaf (.identifier "ROW_NUMBER") none], .leaf (.windowSpec none) none]

/-- The list of `SELECT (SELECT 1 ORDER BY ROW_NUMBER() OVER ())`: no call of its own, but one in what the query within
it is sorted by. -/
def strayList : Node :=
  .mk .selectList none [.mk .selectColumn none [.mk (.subquery .scalar) none [.mk .query none
    [.mk (.select false) none [.mk .selectList none [.mk .selectColumn none [.leaf (.literal (.int "1")) none]]],
      .mk .orderBy none [.mk (.orderingItem false) none [rowNumberCall]]]]]]

theorem strayList_computes_stray_call :
    ∃ scan outputs seen after columns computed rows entry test,
      Succeeds (fun _ => none) (select (resolvers 9) (.mk (.select false) none [strayList])) .initial
        (scan, outputs, seen) after ∧
      scan = .project columns computed (filtered none (windowed none rows [entry]) test) none ∧
      Computes rowNumberCall entry ∧
      ¬ List.Forall₂ Computes (SelectParts.windowPlaces ⟨some strayList, none, none, none, none, none, none⟩ |>.flatMap
        Place.ownCalls) [entry] := by
  obtain ⟨⟨scan, outputs, seen⟩, after, ran⟩ := succeeds_of_toBool (show ((select (resolvers 9)
    (.mk (.select false) none [strayList])).outcome (fun _ => none) .initial).1.toBool = true by decide +kernel)
  obtain ⟨-, parts, columns, computed, rows, entries, test, split, made, all, -, own, -⟩ :=
    selection_computes_own_calls_iff ran
  obtain rfl : ⟨some strayList, none, none, none, none, none, none⟩ = parts := Option.some_inj.mp split
  have calls : (SelectParts.windowPlaces ⟨some strayList, none, none, none, none, none, none⟩).flatMap Place.calls =
      [rowNumberCall] := by cbv
  have noOwn : (SelectParts.windowPlaces ⟨some strayList, none, none, none, none, none, none⟩).flatMap Place.ownCalls =
      [] := by cbv
  rw [calls] at all
  obtain ⟨entry, rest, computes, none, rfl⟩ := List.forall₂_cons_left_iff.mp all
  cases none
  refine ⟨scan, outputs, seen, after, columns, computed, rows, entry, test, ran, made, computes, ?_⟩
  rw [noOwn]
  intro own
  cases own

end SqlLens.Analysis
