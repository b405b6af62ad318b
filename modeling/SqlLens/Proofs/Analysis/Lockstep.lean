import SqlLens.Proofs.Analysis.Shift
import SqlLens.Proofs.Analysis.Walk

/-!
Two analyses of alike statements.

If the tables that the trees name are the same, then alike statements come to alike results from alike states, and leave
alike states (`lockstep`, `statements_alike`). Both may fail, but only together and at the same place.
-/

namespace SqlLens.Analysis

open List (Forall₂)
open SqlLens.Resolved (TypedExpr)
open SqlLens.Surface (Node)

inductive Likeness.Results (like : Likeness) (R : α → α → Prop) : Except Failure α → Except Failure α → Prop where
  | ok (values : R value value') : Results like R (.ok value) (.ok value')
  | error {failure failure' : Failure} (failures : like.Failures failure failure') :
    Results like R (.error failure) (.error failure')

/-- Started from related states, both computations come to alike results and related states, each with its own tables.
-/
def Likeness.InStep (like : Likeness) (Q : State → State → Prop) (tables others : Lookup) (R : α → α → Prop)
    (m m' : Analyze α) : Prop :=
  ∀ before before', Q before before' →
    like.Results R (m.outcome tables before).1 (m'.outcome others before').1 ∧
      Q (m.outcome tables before).2 (m'.outcome others before').2

def Likeness.Lockstep (like : Likeness) (tables others : Lookup) (R : α → α → Prop) (m m' : Analyze α) : Prop :=
  like.InStep like.States tables others R m m'

variable {like : Comparison} {tables others : Lookup}

theorem inStep_bind (first : like.InStep Q tables others R m m')
    (rest : ∀ {value value'}, R value value' → like.InStep Q tables others S (f value) (f' value')) :
    like.InStep Q tables others S (m >>= f) (m' >>= f') := by
  intro before before' related
  have ran := first _ _ related
  rw [outcome_bind, outcome_bind]
  revert ran
  rcases m.outcome tables before with ⟨result, middle⟩
  rcases m'.outcome others before' with ⟨result', middle'⟩
  rintro ⟨values | failures, after⟩
  · exact rest values _ _ after
  · exact ⟨.error failures, after⟩

theorem inStep_lookup {S : β → β → Prop} {f f' : Table → Analyze β} {path : String} (spot : like.Spot span)
    (agree : tables path = others path) (found : ∀ table, like.InStep Q tables others S (f table) (f' table)) :
    like.InStep Q tables others S
      (read >>= fun store : Lookup =>
        match store path with
        | none => fail (.unknownTable path) span
        | some table => f table)
      (read >>= fun store : Lookup =>
        match store path with
        | none => fail (.unknownTable path) span
        | some table => f' table) := by
  have step : like.InStep Q tables others S
      (match tables path with
        | none => fail (.unknownTable path) span
        | some table => f table)
      (match others path with
        | none => fail (.unknownTable path) span
        | some table => f' table) := by
    rw [agree]
    split
    · exact fun _ _ states => ⟨.error ⟨rfl, spot, rfl, fun _ => rfl⟩, states⟩
    · exact found _
  exact step

theorem inStep_recovered {m m' : Analyze TypedExpr} {n : Analyze β}
    (inner : like.InStep Q tables others like.Exprs m m')
    (taken : ∀ {found found'}, like.Exprs found found' → S (f found) (f found')) (values : Option.Rel S value value')
    (outcome : ∀ tables before, n.outcome tables before = recovered f value (m.outcome tables before))
    (outcome' : ∀ tables before, n'.outcome tables before = recovered f value' (m'.outcome tables before)) :
    like.InStep Q tables others S n n' := by
  intro before before' related
  have ran := inner _ _ related
  rw [outcome, outcome']
  revert ran
  rcases m.outcome tables before with ⟨result, after⟩
  rcases m'.outcome others before' with ⟨result', after'⟩
  rintro ⟨found | failures, states⟩
  · exact ⟨.ok (taken found), states⟩
  · cases values with
    | none => exact ⟨.error failures, states⟩
    | some values => exact ⟨.ok values, states⟩

theorem inStep_enclosing (scopes : like.Scopes scope scope') (inner : like.Lockstep tables others R m m') :
    like.Lockstep tables others R (enclosing scope m) (enclosing scope' m') := by
  intro before before' states
  have pushed :
      like.States { before with outer := scope :: before.outer } { before' with outer := scope' :: before'.outer } :=
    { states with outer := .cons scopes states.outer }
  obtain ⟨results, after⟩ := inner _ _ pushed
  have popped := List.forall₂_drop 1 after.outer
  rw [List.drop_one, List.drop_one] at popped
  exact ⟨results, { after with outer := popped }⟩

/-- Both stores hold the same under the names of tables in alike trees. -/
def Comparison.Agree (like : Comparison) (tables others : Lookup) : Prop :=
  ∀ {node node' path : Node}, like.Trees node node' → node.kind = .tablePath → node.tablePath? = some path →
    tables path.dotted = others path.dotted

def lockstep (congruent : like.Congruent) (agree : like.Agree tables others) : Law like where
  congruent := congruent
  Obeys _ := like.Lockstep tables others
  returns holds _ _ states := ⟨.ok holds, states⟩
  chain := inStep_bind
  fails failures _ _ _ states := ⟨.error failures, states⟩
  reads rest _ _ states := rest states _ _ states
  looksUp trees kind named spot := inStep_lookup spot (agree trees kind named)
  makes tables names _ _ states :=
    ⟨.ok ⟨⟨states.number, tables, names, rfl⟩, rfl⟩, { states with number := congruent.next states.number }⟩
  changes allowed _ _ states := ⟨.ok trivial, allowed.states states⟩
  within := id
  mends stage _ inner _ _ states := ⟨(inner _ _ states).1, states.mend (inner _ _ states).2 stage⟩
  closes inner _ _ states := ⟨(inner _ _ states).1, states.mend (inner _ _ states).2 .query⟩
  encloses := inStep_enclosing
  recovers inner taken values _ := inStep_recovered inner taken values

theorem statements_alike (congruent : like.Congruent) (agree : like.Agree tables others)
    (trees : Forall₂ like.Trees nodes nodes') (states : like.States state state') :
    Forall₂ (like.Results like.Statements) (statements tables state nodes).1 (statements others state' nodes').1 ∧
      like.States (statements tables state nodes).2 (statements others state' nodes').2 := by
  induction trees generalizing state state' with
  | nil => exact ⟨.nil, states⟩
  | cons first _ ih =>
    have obeys : (lockstep congruent agree).Obeys .statement like.Statements _ _ := Rules.Obeys.statement first
    obtain ⟨results, after⟩ := obeys _ _ states
    obtain ⟨others, last⟩ := ih after
    exact ⟨.cons results others, last⟩

/-! ### The same statements -/

variable {demand : Demand} {k : Nat} {node : Node}

/-- A statement that meets the demands comes to the same from a state with greater column numbers, with greater numbers.
-/
theorem statement_lockstep (agree : (demand.shifted k).Agree tables others) (tree : demand.Tree node) :
    (demand.shifted k).Lockstep tables others (demand.shifted k).Statements (statement node) (statement node) := by
  have obeys : (lockstep (demand.congruent k) agree).Obeys .statement _ (statement node) (statement node) :=
    Rules.Obeys.statement ⟨rfl, tree⟩
  exact obeys

theorem Demand.result_eq (alike : (demand.shifted k).Results (demand.shifted k).Statements result result') :
    result' = result.map (Resolved.Statement.shift k) := by
  cases alike with
  | ok values => rw [statement_eq values]; rfl
  | error failures => rw [failures.same id]; rfl

theorem Likeness.Lockstep.outcome_eq
    (alike : (demand.shifted 0).Lockstep tables others (demand.shifted 0).Statements m m')
    (states : (demand.shifted 0).States before before) : m'.outcome others before = m.outcome tables before := by
  obtain ⟨results, after⟩ := alike _ _ states
  exact Prod.ext (by rw [Demand.result_eq results]; simp) (by rw [Demand.state_eq after, State.shift_zero])

/-! ### Trees of any height -/

theorem height_lt (listed : part ∈ node.children) : part.height < node.height := by
  obtain ⟨_, _, children⟩ := node
  change part ∈ children at listed
  rw [Node.height, Nat.lt_add_one_iff]
  induction children with
  | nil => cases listed
  | cons first rest ih =>
    rw [Node.heightAll]
    rcases List.mem_cons.mp listed with rfl | later
    · exact Nat.le_max_left _ _
    · exact Nat.le_trans (ih later) (Nat.le_max_right _ _)

/-- Trees of at most a height, whose parts are lower. -/
def shallow (height : Nat) : Demand where
  Tree node := node.height ≤ height
  Low node := node.height < height
  child within listed := Nat.le_trans (Nat.le_of_lt (height_lt listed)) within
  low within listed := Nat.lt_of_lt_of_le (height_lt listed) within

theorem governs_shallow (tables : Lookup) (more : height ≤ greater) :
    (@lockstep _ tables tables ((shallow (height + 1)).congruent 0) fun _ _ _ => rfl).Governs (resolvers height)
      (resolvers greater) := by
  induction height generalizing greater with
  | zero =>
    have none {node : Node} (low : node.height < 1) : False := by
      cases node
      exact Nat.not_lt_zero _ (Nat.lt_of_succ_lt_succ low)
    exact ⟨fun _ part => (none part.2).elim, fun part => (none part.2).elim, fun part => (none part.2).elim,
      fun part => (none part.2).elim, fun _ _ low => (none low).elim⟩
  | succ height ih =>
    obtain ⟨greater, rfl⟩ := Nat.exists_eq_add_of_le' more
    have below := ih (Nat.le_add_left height greater)
    have whole {node node' : Node} (part : ((shallow (height + 2)).shifted 0).Parts node node') :
        ((shallow (height + 1)).shifted 0).Trees node node' := ⟨part.1.1, Nat.le_of_lt_succ part.2⟩
    refine ⟨fun scopes part => ?_, fun part => ?_, fun part => ?_, fun part => ?_,
      fun scope _ _ single => resolvesPath_expr single _ _ scope⟩
    · have same := Rules.Obeys.expr below scopes (whole part)
      exact same
    · have same := Rules.Obeys.query below (whole part)
      exact same
    · have same := Rules.Obeys.body below (whole part) fun _ => Rules.Obeys.query below (whole part)
      exact same
    · have same := Rules.Obeys.source below (whole part) (Rules.Obeys.tableSource (whole part))
      rw [sourceBy_tableSource] at same
      exact same

theorem query_of_same (alike : sameness.Results sameness.Queries result result') : result' = result := by
  cases alike with
  | ok queries =>
    have scan := queries.scan.1
    have outputs := Demand.eq_map queries.outputs Demand.output_eq
    exact congrArg Except.ok (Prod.ext (by simpa using scan) (by simpa using outputs))
  | error failures => rw [failures.same id]

theorem query_outcome (within : node.height ≤ height) (tables : Lookup) (before : State) :
    ((resolvers height).query node).outcome tables before =
        ((resolvers node.height).query node).outcome tables before := by
  obtain ⟨results, after⟩ := (governs_shallow tables within).query ⟨⟨rfl, Nat.le_succ _⟩, Nat.lt_succ_self _⟩ _ _
    (same_state before)
  exact Prod.ext (query_of_same results) (state_of_same after)

end SqlLens.Analysis
