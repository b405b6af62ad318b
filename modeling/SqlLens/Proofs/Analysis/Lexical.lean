import SqlLens.Proofs.Analysis.Frame
import SqlLens.Proofs.Analysis.Inversion
import SqlLens.Proofs.Analysis.Lockstep

/-!
Which common tables a query may name.

The analysis keeps the common tables in its state. A query adds those that it names on top, and at its end as many are
taken off as are on top of those from before. Everything in between leaves what it finds, even if it fails (`Kept`), so
those from before are what is left. The same comes of a list that is handed down the tree (`resolversIn`): a query
that a `WITH` clause names gets those that are named before it, and the rest of the query gets all of them, on top of
what it was handed. So a name stands for the latest table of that name in the nearest query
(`common_tables_scoped_lexically`).
-/

namespace SqlLens.Analysis

open List (Forall₂)
open SqlLens.Resolved (NamedColumn Scan TypedExpr Entry)
open SqlLens.Surface (Node)

/-! ### Handing down the common tables -/

def entriesIn (r : List CommonTable → Resolvers) (common : List CommonTable) :
    List Node → Analyze (List Entry × List CommonTable)
  | [] => return ([], common)
  | node :: rest => do
    let name ← need node node.name?
    let (scan, columns) ← (r common).query (← child node 0)
    modify fun state => { state with common := ⟨name, columns⟩ :: state.common }
    let (entries, common) ← entriesIn r (⟨name, columns⟩ :: common) rest
    return (.mk name scan :: entries, common)

def queryIn (r : List CommonTable → Resolvers) (common : List CommonTable) (node : Node) :
    Analyze (Scan × List NamedColumn) :=
  restoring (Stage.mend .query) do
    let parts ← need node (QueryParts.of? node.children)
    let (entries, common) ← entriesIn r common parts.entries
    queryRest (r common) node parts entries

def bodyIn (r : List CommonTable → Resolvers) (common : List CommonTable) (node : Node) :
    Analyze (Scan × List NamedColumn × Scope) :=
  if node.kind = .query then do
    let (scan, outputs) ← queryIn r common node
    return (scan, outputs, [])
  else body (r common) node

def tableIn (common : List CommonTable) (node : Node) : Analyze (Scan × Scope) :=
  restoring (fun before after => { after with common := before.common }) do
    modify fun state => { state with common := common }
    tableSource node

/-- The resolvers for trees of at most the given height, where the common tables in scope are given. -/
def resolversIn : Nat → List CommonTable → Resolvers
  | 0, _ => resolvers 0
  | height + 1, common =>
    let below := resolversIn height
    ⟨expr (below common), queryIn below common, bodyIn below common, sourceBy (tableIn common) (below common)⟩

/-! ### The same results -/

variable {tables : Lookup} {common : List CommonTable} {node : Node}

theorem outcome_restoring (mend : State → State → State) (m : Analyze α) (before : State) :
    (restoring mend m).outcome tables before = ((m.outcome tables before).1, mend before (m.outcome tables before).2) :=
      rfl

/-- Both states are the same and have the given common tables. -/
def Settled (common : List CommonTable) (state state' : State) : Prop := state' = state ∧ state.common = common

theorem inStep_restoring {stage : Stage} (closed : stage.IsClosed)
    (inner : sameness.InStep (Settled common) tables tables R m m') :
    sameness.InStep (Settled common) tables tables R (restoring stage.mend m) (restoring stage.mend m') := by
  rintro _ before ⟨rfl, same⟩
  obtain ⟨results, states, kept⟩ := inner before before ⟨rfl, same⟩
  refine ⟨results, congrArg (stage.mend before) states, ?_⟩
  cases stage with
  | part | selection => exact kept
  | query | statement => cases closed

def settling (tables : Lookup) (common : List CommonTable) : Rules sameness where
  congruent := same_congruent
  Obeys stage R m m' := stage.IsClosed → sameness.InStep (Settled common) tables tables R m m'
  returns holds _ _ _ states := ⟨.ok holds, states⟩
  chain first rest closed := inStep_bind (first closed) fun values => rest values closed
  fails failures _ _ _ _ states := ⟨.error failures, states⟩
  reads rest closed before before' states := rest (states.1 ▸ same_state before) closed before before' states
  looksUp _ _ _ spot found _ := inStep_lookup spot rfl fun table => found table trivial
  makes {table table' name name' type} tables names _ _ before states := by
    obtain rfl : table' = table := tables
    obtain rfl : name' = name := names
    obtain ⟨rfl, same⟩ := states
    exact ⟨.ok ⟨Demand.column_shift _, rfl⟩, rfl, same⟩
  changes allowed closed _ before states := by
    obtain ⟨rfl, same⟩ := states
    refine ⟨.ok trivial, state_of_same (allowed.states (same_state before)), ?_⟩
    cases allowed <;> first | exact same | cases closed
  within inner _ := inner trivial
  mends _ closed inner _ := inStep_restoring closed (inner closed)
  encloses {_ _ _ _ scope _} scopes inner _ := by
    rintro _ before ⟨rfl, same⟩
    rw [scope_of_same scopes]
    obtain ⟨results, states, kept⟩ := inner trivial { before with outer := scope :: before.outer } _ ⟨rfl, same⟩
    exact ⟨results, congrArg (fun after : State => { after with outer := after.outer.tail }) states, kept⟩
  recovers inner taken values _ outcome outcome' _ := inStep_recovered (inner trivial) taken values outcome outcome'

theorem table_agrees (trees : sameness.Trees node node') (kind : node.kind = .tablePath) :
    (settling tables common).Part sameness.Sources (tableSource node) (tableIn common node') := by
  rintro closed _ before ⟨rfl, same⟩
  have base : (settling tables common).Part sameness.Sources (tableSource node) (tableSource node') :=
    Rules.Obeys.tableSource trees kind
  obtain ⟨results, states, kept⟩ := base closed before before ⟨rfl, same⟩
  have here : (tableIn common node').outcome tables before = (((tableSource node').outcome tables before).1,
      { ((tableSource node').outcome tables before).2 with common := common }) := by
    subst same
    rfl
  rw [here]
  refine ⟨results, ?_, kept⟩
  rw [states, ← kept]

section

variable {r : Resolvers} {r' : List CommonTable → Resolvers}
  (alike : ∀ common, (settling tables common).Governs r (r' common))

include alike

theorem query_outcome_in (node : Node) (same : before.common = common) :
    ((r' common).query node).outcome tables before = (r.query node).outcome tables before ∧
      ((r.query node).outcome tables before).2.common = common := by
  obtain ⟨results, states, kept⟩ := (alike common).query same_tree trivial before before ⟨rfl, same⟩
  exact ⟨Prod.ext (query_of_same results) states, kept⟩

theorem entries_outcome (nodes : List Node) (same : before.common = common) :
    (entriesIn r' common nodes).outcome tables before =
      (do return (← each (nameQuery r) nodes, (← get).common)).outcome tables before ∧
    common <:+ ((each (nameQuery r) nodes).outcome tables before).2.common := by
  induction nodes generalizing common before with
  | nil =>
    subst same
    exact ⟨rfl, List.suffix_rfl⟩
  | cons node rest ih =>
    subst same
    simp only [entriesIn, each, nameQuery, bind_assoc, pure_bind]
    cases node.name? with
    | none => exact ⟨rfl, List.suffix_rfl⟩
    | some name =>
      simp only [need, child, pure_bind]
      cases node.children[0]? with
      | none => exact ⟨rfl, List.suffix_rfl⟩
      | some inner =>
        have ran := query_outcome_in alike inner (rfl : before.common = _)
        rw [pure_bind, pure_bind, pure_bind, outcome_bind, outcome_bind, ran.1, outcome_bind]
        revert ran
        rcases (r.query inner).outcome tables before with ⟨failure | ⟨scan, columns⟩, middle⟩ <;> intro ran
        · exact ⟨rfl, ran.2 ▸ List.suffix_rfl⟩
        · have after : ({ middle with common := ⟨name, columns⟩ :: middle.common } : State).common =
            ⟨name, columns⟩ :: before.common := congrArg _ ran.2
          obtain ⟨later, above⟩ := ih after
          rw [outcome_bind] at later
          change (entriesIn r' _ rest >>= _).outcome tables { middle with common := ⟨name, columns⟩ :: middle.common } =
            (each (nameQuery r) rest >>= _).outcome tables { middle with common := ⟨name, columns⟩ :: middle.common } ∧
            before.common <:+ ((each (nameQuery r) rest >>= _).outcome tables
              { middle with common := ⟨name, columns⟩ :: middle.common }).2.common
          rw [outcome_bind, outcome_bind, outcome_bind, later]
          revert above
          rcases (each (nameQuery r) rest).outcome tables
              { middle with common := ⟨name, columns⟩ :: middle.common } with
            ⟨failure | entries, last⟩ <;> exact fun above => ⟨rfl, (List.suffix_cons _ _).trans above⟩

theorem query_agrees (trees : sameness.Trees node node') :
    (settling tables common).Part sameness.Queries (query r node) (queryIn r' common node') := by
  have clauses := Comparison.QueryClauses.of same_congruent trees
  obtain rfl := trees.1
  rintro - _ before ⟨rfl, same⟩
  have failed (failure : Failure) : sameness.Results sameness.Queries (.error failure) (.error failure) :=
    .error ⟨rfl, trivial, rfl, fun _ => rfl⟩
  unfold query queryIn
  generalize QueryParts.of? node'.children = split at clauses ⊢
  cases clauses with
  | none => exact ⟨failed _, rfl, same ▸ truncate_eq.mpr List.suffix_rfl⟩
  | some clauses =>
    rename_i parts
    obtain ⟨entered, above⟩ := entries_outcome alike parts.entries same
    rw [outcome_bind] at entered
    simp only [outcome_restoring, need, pure_bind]
    rw [outcome_bind, outcome_bind, entered]
    revert above
    rcases (each (nameQuery r) parts.entries).outcome tables before with ⟨failure | entries, middle⟩ <;> intro above
    · exact ⟨failed failure, rfl, same ▸ truncate_eq.mpr (same ▸ above)⟩
    · have named : Forall₂ sameness.Entries entries entries :=
        List.forall₂_same.mpr fun entry _ => ⟨rfl, (Resolved.shift_zero.1 _).symm, False.elim⟩
      have rest := obeys_queryRest (alike middle.common) trees clauses named trivial middle middle ⟨rfl, rfl⟩
      -- The rest leaves the tables that were named on top of the earlier ones, so these are what is left.
      exact ⟨rest.1, congrArg (Stage.mend .query before) rest.2.1, same ▸ truncate_eq.mpr (same ▸ rest.2.2 ▸ above)⟩

theorem body_agrees (trees : sameness.Trees node node') :
    (settling tables common).Part sameness.Bodies (body r node) (bodyIn r' common node') := by
  obtain ⟨rfl, -⟩ := trees
  unfold bodyIn
  split
  · rename_i kind
    simp only [body, kind]
    exact (settling tables common).chain (query_agrees alike same_tree.1) fun queries =>
      (settling tables common).returns ⟨queries, .nil⟩
  · rename_i kind
    exact Rules.Obeys.body (alike common) same_tree.1 fun same => absurd same kind

end

theorem governs_in (height : Nat) (common : List CommonTable) :
    (settling tables common).Governs (resolvers height) (resolversIn height common) := by
  induction height generalizing common with
  | zero => exact governs_zero
  | succ height ih =>
    exact ⟨fun scopes deeper => Rules.Obeys.expr (ih common) scopes deeper.1, fun deeper => query_agrees ih deeper.1,
      fun deeper => body_agrees ih deeper.1,
        fun deeper => Rules.Obeys.source (ih common) deeper.1 (table_agrees deeper.1),
      fun scope _ _ single => resolvesPath_expr single _ _ scope⟩

/-! ### Names of tables -/

theorem freshColumns_fields (ran : Succeeds tables (freshColumns table fields) before columns after) :
    columns.map (fun column => (column.name, column.column.type)) = fields := by
  induction fields generalizing before columns with
  | nil =>
    obtain ⟨rfl, -⟩ := succeeds_each_nil.mp ran
    rfl
  | cons field rest ih =>
    obtain ⟨column, middle, others, first, ranRest, rfl⟩ := succeeds_each_cons.mp ran
    simp only [succeeds_bind, succeeds_fresh, succeeds_pure] at first
    obtain ⟨_, _, ⟨rfl, rfl⟩, rfl, rfl⟩ := first
    simp [ih ranRest]

/-- What the name of a table stands for, if it has no other parts. -/
def Stands (tables : Lookup) (common : List CommonTable) (node path : Node) (name : String)
    (found : Scan × Scope) : Prop :=
  match common.find? fun entry => Text.sameName entry.name name with
  | some entry => ∃ columns aliasName,
    found = (.reference (columns.map NamedColumn.column) entry.name aliasName node.span, [⟨some aliasName, columns⟩]) ∧
      columns.map (fun column => (column.name, column.column.type)) =
        entry.columns.map fun column => (column.name, column.column.type)
  | none => ∃ table columns aliasName, tables path.dotted = some table ∧
    found = (.table path.dotted aliasName (columns.map NamedColumn.column) node.span, [⟨aliasName, columns⟩])

theorem tableIn_stands {path : Node} (named : node.tablePath? = some path) (single : path.names = [name])
    (ran : Succeeds tables (tableIn common node) before found after) : Stands tables common node path name found := by
  obtain ⟨last, ran, -⟩ := succeeds_restoring.mp ran
  simp only [succeeds_bind, succeeds_modify, tableSource, succeeds_need, succeeds_get, named, Option.some.injEq] at ran
  obtain ⟨_, _, rfl, _, _, ⟨rfl, rfl⟩, _, _, ⟨rfl, rfl⟩, ran⟩ := ran
  simp only [single, commonTable?] at ran
  unfold Stands
  cases listed : common.find? fun entry => Text.sameName entry.name name with
  | some entry =>
    simp only [listed, commonReference, succeeds_bind, succeeds_pure] at ran
    obtain ⟨columns, _, made, rfl, -⟩ := ran
    exact ⟨columns, _, rfl, freshColumns_fields made⟩
  | none =>
    simp only [listed, succeeds_bind, succeeds_read] at ran
    obtain ⟨_, _, ⟨rfl, rfl⟩, ran⟩ := ran
    cases known : tables path.dotted with
    | none =>
      rw [known] at ran
      cases ran
    | some table =>
      simp only [known, succeeds_bind, succeeds_pure] at ran
      obtain ⟨columns, _, -, rfl, -⟩ := ran
      exact ⟨table, columns, _, rfl, rfl⟩

/-- Resolving anything leaves the common tables, the enclosing scopes and the named windows as they were, whether it
succeeds or fails, and only adds calls over windows where they are allowed and columns with new numbers. So a query is
resolved as if the common tables were handed down to it, and a single name stands for the first common table of that
name that it is handed. -/
theorem common_tables_scoped_lexically (height : Nat) (tables : Lookup) (before : State) :
    (∀ node scope outputs,
      Kept before ((query (resolvers height) node).outcome tables before).2 ∧
      Kept before ((select (resolvers height) node).outcome tables before).2 ∧
      Kept before ((source (resolvers height) node).outcome tables before).2 ∧
      Kept before ((expr (resolvers height) scope node).outcome tables before).2 ∧
      Kept before ((orderExpr (resolvers height) outputs scope node).outcome tables before).2) ∧
    (∀ node, (query (resolvers height) node).outcome tables before =
      (queryIn (resolversIn height) before.common node).outcome tables before) ∧
    ∀ common node path name found after, node.tablePath? = some path → path.names = [name] →
      Succeeds tables (tableIn common node) before found after → Stands tables common node path name found := by
  have keep := resolvers_keep height
  have keeps := resolvers_keep (height + 1)
  refine ⟨fun node scope outputs => ⟨?_, ?_, ?_, ?_, ?_⟩, fun node => ?_, fun _ _ _ _ _ _ => tableIn_stands⟩
  · exact (keeps.query same_tree).1 tables before
  · exact (obeys_select keep same_tree.1).1 tables before
  · exact (keeps.source same_tree).1 tables before
  · exact (keeps.expr (same_scope scope) same_tree).1 tables before
  · exact (Rules.Obeys.orderExpr keep (same_scope scope) same_tree (same_outputs outputs)).1 tables before
  · exact (query_outcome_in (governs_in (height + 1)) node rfl).1.symm

end SqlLens.Analysis
