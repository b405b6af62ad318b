import SqlLens.Proofs.Analysis.Lockstep
import SqlLens.Proofs.Surface.TablePaths

/-!
What becomes of a statement when there are other tables.

A table is looked up in one place only, under the name that is written there. So statements are resolved alike with
tables that agree under those names (`script_congr`). No failure to find a table is ever recovered from, since only
single names are, and those are no tables. So what could be resolved with some tables is resolved alike with more of
them, and a statement that fails for want of a table names one that is not there (`Persists`).
-/

namespace SqlLens.Analysis

open SqlLens.Resolved (TypedExpr)
open SqlLens.Surface (Node)

/-! ### The same with other tables -/

variable {tables others : Lookup}

def AgreeOn (tables others : Lookup) (node : Node) : Prop :=
  ∀ below ∈ node.preorder, ∀ path ∈ below.sourcePath?, tables path.dotted = others path.dotted

/-- Trees in which all names of tables are the same for both stores. -/
def agreement (tables others : Lookup) : Demand where
  Tree := AgreeOn tables others
  child agree inside below reached := agree below (Node.preorder_subset inside reached)

theorem statements_congr (agree : ∀ node ∈ nodes, AgreeOn tables others node) (state : State) :
    statements others state nodes = statements tables state nodes := by
  have stores : ((agreement tables others).shifted 0).Agree tables others := fun {node _ path} trees kind named =>
    trees.2 node (Node.mem_preorder_self node) path (by rwa [Node.sourcePath?, if_pos kind])
  have start : ((agreement tables others).shifted 0).States state (state.shift 0) :=
    Demand.state_shift (fun _ => trivial) id fun _ _ => trivial
  rw [State.shift_zero] at start
  obtain ⟨results, after⟩ := statements_alike (Demand.congruent _ _) stores
    (List.forall₂_same.mpr fun node inside => ⟨rfl, agree node inside⟩) start
  have same := Demand.eq_map results Demand.result_eq
  refine Prod.ext (same.trans ?_) (by rw [Demand.state_eq after, State.shift_zero])
  simp

theorem script_congr (agree : ∀ path ∈ root.sourcePaths, tables path.dotted = others path.dotted) :
    script tables root = script others root := by
  refine congrArg Prod.fst (statements_congr (fun node inside below reached path given => ?_) .initial).symm
  have listed : below ∈ root.descendants :=
    root.descendants_eq ▸ Node.mem_preorderAll.mpr ⟨node, inside, reached⟩
  exact agree path (List.mem_filterMap.mpr ⟨below, listed, given⟩)

/-! ### More tables -/

theorem Fault.missingTable_of_code {fault : Fault} (code : fault.code = .tableNotFound) :
    ∃ path, fault.missingTable? = some path ∧ fault.message = "Table not found: " ++ path := by
  cases fault with
  | unknownTable path => exact ⟨path, rfl, rfl⟩
  | _ => cases code

def Extends (others tables : Lookup) : Prop := ∀ path table, tables path = some table → others path = some table

/-- What the first computation comes to with some tables is related to what the second comes to with others, in the same
state, and a table for want of which it fails is not there. -/
def Persists (tables others : Lookup) (R : α → α → Prop) (m m' : Analyze α) : Prop :=
  ∀ before, match m.outcome tables before with
    | (.ok value, after) => ∃ value', R value value' ∧ m'.outcome others before = (.ok value', after)
    | (.error failure, _) => ∀ path ∈ failure.fault.missingTable?, tables path = none

/-! ### The law -/

theorem persists_bind (first : Persists tables others R m m')
    (rest : ∀ {value value'}, R value value' → Persists tables others S (f value) (f' value')) :
    Persists tables others S (m >>= f) (m' >>= f') := by
  intro before
  have ran := first before
  rw [outcome_bind, outcome_bind]
  revert ran
  rcases m.outcome tables before with ⟨failure | value, middle⟩
  · exact id
  · rintro ⟨value', related, ran'⟩
    rw [ran']
    exact rest related middle

theorem persists_lookup {S : β → β → Prop} (extended : Extends others tables) {path : String} {f f' : Table → Analyze β}
    (found : ∀ table, Persists tables others S (f table) (f' table)) :
    Persists tables others S
      (read >>= fun store : Lookup =>
        match store path with
        | none => fail (.unknownTable path) span
        | some table => f table)
      (read >>= fun store : Lookup =>
        match store path with
        | none => fail (.unknownTable path) span
        | some table => f' table) := by
  have looked (g : Table → Analyze β) (store : Lookup) (before : State) :
      (read >>= fun store : Lookup => match store path with
        | none => fail (.unknownTable path) span
        | some table => g table : Analyze β).outcome store before =
      (match store path with
        | none => fail (.unknownTable path) span
        | some table => g table : Analyze β).outcome store before := rfl
  intro before
  rw [looked, looked]
  cases here : tables path with
  | none =>
    intro missing same
    cases same
    exact here
  | some table =>
    rw [extended _ _ here]
    exact found table before

theorem persists_restoring {R : α → α → Prop} (inner : Persists tables others R m m') :
    Persists tables others R (restoring mend m) (restoring mend m') := by
  have mended (m : Analyze α) (store : Lookup) (before : State) : (restoring mend m).outcome store before =
    ((m.outcome store before).1, mend before (m.outcome store before).2) := rfl
  intro before
  have ran := inner before
  rw [mended, mended]
  revert ran
  rcases m.outcome tables before with ⟨failure | value, after⟩
  · exact id
  · rintro ⟨value', related, ran'⟩
    rw [ran']
    exact ⟨value', related, rfl⟩

theorem persists_recovered {m m' : Analyze TypedExpr} {n : Analyze β}
    (inner : Persists tables others sameness.Exprs m m')
    (taken : ∀ {found found'}, sameness.Exprs found found' → S (f found) (f found'))
    (values : Option.Rel S value value')
    (named : value ≠ none → ResolvesPath m ∧ m' = m)
    (outcome : ∀ tables before, n.outcome tables before = recovered f value (m.outcome tables before))
    (outcome' : ∀ tables before, n'.outcome tables before = recovered f value' (m'.outcome tables before)) :
    Persists tables others S n n' := by
  intro before
  have ran := inner before
  rw [outcome, outcome']
  have found {result : TypedExpr} {after : State} (here : m.outcome tables before = (.ok result, after)) :
      ∃ result', S (f result) result' ∧ recovered f value' (m'.outcome others before) = (.ok result', after) := by
    rw [here] at ran
    obtain ⟨result', related, ran'⟩ := ran
    exact ⟨f result', taken related, by rw [ran']; rfl⟩
  cases here : m.outcome tables before with
  | mk result after =>
    cases result with
    | ok result => exact found here
    | error failure =>
      cases values with
      | none =>
        rw [here] at ran
        exact ran
      | some related =>
        obtain ⟨resolves, rfl⟩ := named (by simp)
        obtain ⟨result, same, -⟩ := resolves.inert before
        rw [same] at here
        rw [same, here]
        exact ⟨_, related, rfl⟩

def persistence (extended : Extends others tables) : Law sameness where
  congruent := same_congruent
  Obeys _ := Persists tables others
  returns holds _ := ⟨_, holds, rfl⟩
  chain := persists_bind
  fails _ other _ path missing := by simp [other] at missing
  reads rest before := rest (same_state before) before
  looksUp _ _ _ _ := persists_lookup extended
  makes tables names before := by
    cases tables
    cases names
    exact ⟨_, ⟨Demand.column_shift _, rfl⟩, rfl⟩
  changes allowed before :=
    ⟨⟨⟩, trivial, congrArg (Prod.mk _) (state_of_same (allowed.states (same_state before)))⟩
  within := id
  mends _ _ := persists_restoring
  closes := persists_restoring
  encloses scopes inner := by
    rw [scope_of_same scopes]
    exact persists_restoring (persists_bind (R := Eq) (fun _ => ⟨_, rfl, rfl⟩) fun _ => inner)
  recovers inner taken values named := persists_recovered inner taken values fun given =>
    ⟨(named given).1, (named given).2 scope_of_same fun trees => trees.1⟩

/-! ### Statements -/

theorem persists_statement (extended : Extends others tables) (node : Node) :
    Persists tables others Eq (statement node) (statement node) := by
  have persists : (persistence extended).Obeys .statement sameness.Statements (statement node) (statement node) :=
    Rules.Obeys.statement same_tree.1
  intro before
  have ran := persists before
  revert ran
  rcases (statement node).outcome tables before with ⟨failure | value, after⟩
  · exact id
  · rintro ⟨value', alike, ran⟩
    refine ⟨value, rfl, ?_⟩
    rwa [Demand.statement_eq alike, Resolved.Statement.shift_zero] at ran

theorem statements_extends (extended : Extends others tables) (nodes : List Node) (state : State)
    (resolved : ∀ result ∈ (statements tables state nodes).1, result.toBool) :
    statements others state nodes = statements tables state nodes := by
  induction nodes generalizing state with
  | nil => rfl
  | cons node rest ih =>
    have run := persists_statement extended node state
    unfold statements at resolved ⊢
    revert run resolved
    rcases (statement node).outcome tables state with ⟨failure | value, after⟩ <;> intro run resolved
    · have impossible := resolved (.error failure) (by simp)
      cases impossible
    · obtain ⟨_, rfl, same⟩ := run
      dsimp only at resolved ⊢
      rw [same]
      dsimp only
      rw [ih after fun result listed => resolved result (by simp [listed])]

theorem statements_missing (nodes : List Node) (state : State) {failure : Failure} {path : String}
    (failed : .error failure ∈ (statements tables state nodes).1) (missing : path ∈ failure.fault.missingTable?) :
    tables path = none := by
  induction nodes generalizing state with
  | nil => cases failed
  | cons node rest ih =>
    have run := persists_statement (show Extends tables tables from fun _ _ found => found) node state
    unfold statements at failed
    revert run failed
    rcases (statement node).outcome tables state with ⟨other | value, after⟩ <;> intro run failed
    · rcases List.mem_cons.mp failed with here | later
      · cases here
        exact run path missing
      · exact ih after later
    · rcases List.mem_cons.mp failed with here | later
      · cases here
      · exact ih after later

end SqlLens.Analysis
