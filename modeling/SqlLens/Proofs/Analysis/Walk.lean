import SqlLens.Proofs.Analysis.Likeness

/-!
Laws that every part of the analysis obeys.

A `Law` relates two computations that are put together alike from smaller ones, and says how their values are related.
Whatever has the rules of a law holds of resolving alike statements (`.statement`), with one lemma for each function of
the analysis. The two sides may differ in what a likeness lets differ, and in how the paths of tables are resolved
(`resolversBy`); everywhere else they are the same.

What a law says of the state may depend on the `Stage`: selections, queries and subqueries change the state in ways that
are put back at their end (`Likeness.Allows`, `Stage.mend`), and statements clear it.
-/

namespace SqlLens.Analysis

open Option (Rel)
open List hiding after
open SqlLens.Resolved (Column NamedColumn Scan TypedExpr Computed Unites)
open SqlLens.Surface (Node Kind)

variable {fault : Fault} {span : Option Span} {name name' : String} {outputs outputs' : List NamedColumn}
  {clause clause' : Option Node} {scan scan' : Scan} {base base' : TypedExpr} {arguments arguments' : List TypedExpr}
  {parts parts' : SelectParts} {function : Function} {calls calls' : List Computed}

/-- What becomes of an outcome if there may be a value to use in place of a failure. -/
def recovered (f : α → β) (value : Option β) : Except Failure α × State → Except Failure β × State
  | (.ok found, after) => (.ok (f found), after)
  | (.error failure, after) =>
    match value with
    | some value => (.ok value, after)
    | none => (.error failure, after)

/-- The computation changes nothing, comes to the same whatever tables there are, and does not fail for want of one. -/
def Inert (m : Analyze α) : Prop :=
  ∀ before, ∃ result, (∀ tables, m.outcome tables before = (result, before)) ∧
    ∀ failure, result = .error failure → failure.fault.missingTable? = none

theorem inert_pure (value : α) : Inert (pure value : Analyze α) := fun _ => ⟨.ok value, fun _ => rfl, nofun⟩

theorem inert_fail (other : fault.missingTable? = none) (span : Option Span) :
    Inert (fail fault span : Analyze α) := by
  refine fun before => ⟨_, fun _ => rfl, fun failure same => ?_⟩
  cases same
  exact other

theorem inert_malformed (node : Node) : Inert (malformed node : Analyze α) := inert_fail rfl _

theorem inert_bind (first : Inert m) (rest : ∀ value, Inert (f value)) : Inert (m >>= f) := by
  intro before
  obtain ⟨failure | value, ran, other⟩ := first before
  · refine ⟨.error failure, fun tables => by rw [outcome_bind, ran], fun result same => ?_⟩
    cases same
    exact other failure rfl
  · obtain ⟨result, ranRest, otherRest⟩ := rest value before
    exact ⟨result, fun tables => by rw [outcome_bind, ran]; exact ranRest tables, otherRest⟩

theorem inert_get (rest : ∀ state, Inert (f state)) : Inert (get >>= f) :=
  fun before => rest before before

theorem inert_fieldOf (base : TypedExpr) (name : String) (span nameSpan : Option Span) :
    Inert (fieldOf base name span nameSpan) := by
  unfold fieldOf
  split
  · exact inert_pure _
  · split
    · exact inert_pure _
    · exact inert_fail rfl _
  · exact inert_fail rfl _

theorem inert_fieldsOf (start : Nat) (base : TypedExpr) (names : List (String × Option Span)) :
    Inert (fieldsOf start base names) := by
  induction names generalizing base with
  | nil => exact inert_pure _
  | cons name rest ih => exact inert_bind (inert_fieldOf _ _ _ _) ih

theorem inert_path (scope : Scope) (node : Node) : Inert (path scope node) := by
  refine inert_get fun state => ?_
  split
  · exact inert_malformed node
  · dsimp only
    split
    · split
      · exact inert_fail rfl _
      · split
        · exact inert_fieldsOf _ _ _
        · exact inert_fail rfl _
    · split
      · exact inert_fail rfl _
      · exact inert_fieldsOf _ _ _
      · exact inert_fail rfl _

/-- The computation resolves a path, or fails at once. -/
def ResolvesPath (m : Analyze TypedExpr) : Prop := ∃ scope node, m = path scope node ∨ m = malformed node

theorem ResolvesPath.inert (resolves : ResolvesPath m) : Inert m := by
  obtain ⟨scope, node, rfl | rfl⟩ := resolves
  · exact inert_path scope node
  · exact inert_malformed node

/-- What is being resolved: a part of something, or the steps of a selection, a query or a statement. -/
inductive Stage where
  | part | selection | query | statement

def Stage.IsClosed : Stage → Prop
  | query | statement => False
  | _ => True

def Stage.mend : Stage → State → State → State
  | part, _, after => after
  | selection, before, after => { after with analytic := before.analytic, windows := before.windows }
  | query, before, after => { after with common := truncate before.common.length after.common }
  | statement, before, after => { after with common := before.common, outer := before.outer }

/-- What is done to two states in a stage, besides counting columns. -/
inductive Likeness.Allows (like : Likeness) : Stage → (State → State) → (State → State) → Prop where
  | call (entries : like.Computeds entry entry') :
      Allows like .part (fun state => { state with analytic := state.analytic.map (· ++ [entry]) })
        fun state => { state with analytic := state.analytic.map (· ++ [entry']) }
  | selection {calls calls' : State → Option (List Computed)} {windows windows' : State → List (String × Window)}
      (collected : ∀ {state state'}, like.States state state' →
        Rel (Forall₂ like.Computeds) (calls state) (calls' state'))
      (named : ∀ {state state'}, like.States state state' →
        Forall₂ (fun entry entry' => like.Names entry.1 entry'.1 ∧ like.Windows entry.2 entry'.2) (windows state)
          (windows' state')) :
      Allows like .selection (fun state => { state with analytic := calls state, windows := windows state })
        fun state => { state with analytic := calls' state, windows := windows' state }
  | query (entries : like.Commons entry entry') :
      Allows like .query (fun state => { state with common := entry :: state.common })
        fun state => { state with common := entry' :: state.common }
  | statement : Allows like .statement (fun state => { state with common := [], outer := [] })
      fun state => { state with common := [], outer := [] }

variable {like : Comparison}

theorem Likeness.Allows.states (allowed : like.Allows stage change change') (states : like.States state state') :
    like.States (change state) (change' state') := by
  cases allowed with
  | call entries =>
    exact { states with
      analytic := option_alike states.analytic fun calls => rel_append calls (.cons entries .nil) }
  | selection collected named => exact { states with analytic := collected states, windows := named states }
  | query entries => exact { states with common := .cons entries states.common }
  | statement => exact { states with common := .nil, outer := .nil }

theorem rel_truncate (earlier : Forall₂ R first first') (later : Forall₂ R second second') :
    Forall₂ R (truncate first.length second) (truncate first'.length second') := by
  unfold truncate
  rw [earlier.length_eq, later.length_eq]
  exact forall₂_drop _ later

theorem Likeness.States.mend (earlier : like.States before before') (later : like.States after after') (stage : Stage) :
    like.States (stage.mend before after) (stage.mend before' after') := by
  cases stage with
  | part => exact later
  | selection => exact { later with analytic := earlier.analytic, windows := earlier.windows }
  | query => exact { later with common := rel_truncate earlier.common later.common }
  | statement => exact { later with common := earlier.common, outer := earlier.outer }

/-- Rules by which something is shown of two computations that are put together in the same way, and of the values that
they come to. -/
structure Rules (like : Comparison) extends congruent : like.Congruent where
  Obeys : {α : Type} → Stage → (α → α → Prop) → Analyze α → Analyze α → Prop
  returns : ∀ {α : Type} {stage : Stage} {R : α → α → Prop} {value value' : α}, R value value' →
    Obeys stage R (pure value) (pure value')
  chain : ∀ {α β : Type} {stage : Stage} {R : α → α → Prop} {S : β → β → Prop} {m m' : Analyze α}
    {f f' : α → Analyze β},
    Obeys stage R m m' → (∀ {value value'}, R value value' → Obeys stage S (f value) (f' value')) →
    Obeys stage S (m >>= f) (m' >>= f')
  fails : ∀ {α : Type} {stage : Stage} {R : α → α → Prop} {fault fault' : Fault} {span : Option Span},
    like.Failures ⟨fault, span⟩ ⟨fault', span⟩ → fault.missingTable? = none →
    Obeys stage R (fail fault span) (fail fault' span)
  reads : ∀ {β : Type} {stage : Stage} {S : β → β → Prop} {f f' : State → Analyze β},
    (∀ {state state'}, like.States state state' → Obeys stage S (f state) (f' state')) →
    Obeys stage S (get >>= f) (get >>= f')
  looksUp : ∀ {β : Type} {S : β → β → Prop} {f f' : Table → Analyze β} {node node' path : Node}, like.Trees node node' →
    node.kind = .tablePath → node.tablePath? = some path → like.Spot path.span →
    (∀ table, Obeys .part S (f table) (f' table)) →
    Obeys .part S (read >>= fun store : Lookup =>
        match store path.dotted with
        | none => fail (.unknownTable path.dotted) path.span
        | some table => f table)
      (read >>= fun store : Lookup =>
        match store path.dotted with
        | none => fail (.unknownTable path.dotted) path.span
        | some table => f' table)
  makes : ∀ {table table' name name' : String} {type : SqlType}, like.Names table table' → like.Names name name' →
    Obeys .part (fun column column' => like.Columns column column' ∧ column.type = type) (fresh table name type)
      (fresh table' name' type)
  changes : ∀ {stage : Stage} {change change' : State → State}, like.Allows stage change change' →
    Obeys stage (fun _ _ => True) (modify change) (modify change')
  within : ∀ {α : Type} {stage : Stage} {R : α → α → Prop} {m m' : Analyze α}, Obeys .part R m m' → Obeys stage R m m'
  mends : ∀ {α : Type} {R : α → α → Prop} {m m' : Analyze α} (stage : Stage), stage.IsClosed → Obeys stage R m m' →
    Obeys .part R (restoring stage.mend m) (restoring stage.mend m')
  encloses : ∀ {α : Type} {R : α → α → Prop} {m m' : Analyze α} {scope scope' : Scope}, like.Scopes scope scope' →
    Obeys .part R m m' → Obeys .part R (enclosing scope m) (enclosing scope' m')
  recovers : ∀ {β : Type} {S : β → β → Prop} {m m' : Analyze TypedExpr} {n n' : Analyze β} {f : TypedExpr → β}
    {value value' : Option β}, Obeys .part like.Exprs m m' →
      (∀ {found found'}, like.Exprs found found' → S (f found) (f found')) →
    Rel S value value' →
    (value ≠ none → ResolvesPath m ∧
      ((∀ {a b}, like.Scopes a b → b = a) → (∀ {a b}, like.Trees a b → b = a) → m' = m)) →
    (∀ tables before, n.outcome tables before = recovered f value (m.outcome tables before)) →
    (∀ tables before, n'.outcome tables before = recovered f value' (m'.outcome tables before)) →
    Obeys .part S n n'

structure Law (like : Comparison) extends Rules like where
  closes : ∀ {α : Type} {R : α → α → Prop} {m m' : Analyze α}, Obeys .query R m m' →
    Obeys .part R (restoring (Stage.mend .query) m) (restoring (Stage.mend .query) m')

abbrev Rules.Part (law : Rules like) (R : α → α → Prop) (m m' : Analyze α) : Prop := law.Obeys .part R m m'

variable {law : Rules like} {stage : Stage} {r r' : Resolvers} {scope scope' : Scope} {node node' : Node} {α β : Type}
  {R : α → α → Prop} {S : β → β → Prop}

/-! ### Rules -/

protected theorem Rules.Obeys.fail (spot : like.Spot span)
    (other : fault.missingTable? = none) : law.Obeys stage R (fail fault span) (fail fault span) :=
  law.fails ⟨rfl, spot, rfl, fun _ => rfl⟩ other

protected theorem Rules.Obeys.failNamed (make : String → Fault)
    (named : like.Names name name') (spot : like.Spot span) (other : ∀ name, (make name).missingTable? = none) :
    law.Obeys stage R (fail (make name) span) (fail (make name') span) :=
  law.fails ⟨rfl, spot, (other _).trans (other _).symm, fun literal => by rw [literal named]⟩ (other _)

protected theorem Rules.Obeys.blame (trees : like.Trees node node')
    (other : fault.missingTable? = none) : law.Obeys stage R (fail fault node.span) (fail fault node'.span) := by
  rw [law.span trees]
  exact .fail (law.spot trees) other

protected theorem Rules.Obeys.blameNamed (make : String → Fault) (named : like.Names name name')
    (trees : like.Trees node node') (other : ∀ name, (make name).missingTable? = none) :
    law.Obeys stage R (fail (make name) node.span) (fail (make name') node'.span) := by
  rw [law.span trees]
  exact .failNamed make named (law.spot trees) other

protected theorem Rules.Obeys.blameKind (make : Kind → Fault) (alike : Kind.Alike like.Names kind kind')
    (trees : like.Trees node node')
    (other : ∀ kind, (make kind).missingTable? = none) :
    law.Obeys stage R (fail (make kind) node.span) (fail (make kind') node'.span) := by
  rw [law.span trees]
  refine law.fails ⟨rfl, law.spot trees, (other _).trans (other _).symm, fun literal => ?_⟩ (other _)
  cases alike with
  | same => rfl
  | _ named => rw [literal named]

protected theorem Rules.Obeys.malformed (trees : like.Trees node node') :
    law.Obeys stage R (malformed node) (malformed node') :=
  .blameKind .malformed (law.kind trees) trees fun _ => rfl

protected theorem Rules.Obeys.need
    (trees : like.Trees node node') (alike : Rel R found found')
    (rest : ∀ {value value'}, R value value' → law.Obeys stage S (f value) (f' value')) :
    law.Obeys stage S (need node found >>= f) (need node' found' >>= f') := by
  cases alike with
  | none => exact .malformed trees
  | some first => exact rest first

protected theorem Rules.Obeys.child (trees : like.Trees node node')
    (rest : ∀ {part part'}, like.Parts part part' → law.Obeys stage S (f part) (f' part')) :
    law.Obeys stage S (child node index >>= f) (child node' index >>= f') :=
  .need trees (getElem_alike (law.children trees) index) rest

protected theorem Rules.Obeys.each
    (alike : Forall₂ P items items') (every : ∀ {item item'}, P item item' → law.Obeys stage R (f item) (f' item')) :
    law.Obeys stage (Forall₂ R) (each f items) (each f' items') := by
  induction alike with
  | nil => exact law.returns .nil
  | cons first _ ih =>
    exact law.chain (every first) fun found => law.chain ih fun others => law.returns (.cons found others)

protected theorem Rules.Obeys.perhaps (alike : Rel P item item')
    (every : ∀ {item item'}, P item item' → law.Obeys stage R (f item) (f' item')) :
    law.Obeys stage (Rel R) (perhaps f item) (perhaps f' item') := by
  cases alike with
  | none => exact law.returns .none
  | some first => exact law.chain (every first) fun found => law.returns (.some found)

/-- Two ways to resolve the parts of trees are related by the law. They resolve single names alike, as paths. -/
structure Rules.Governs (law : Rules like) (r r' : Resolvers) : Prop where
  expr : ∀ {scope scope' node node'}, like.Scopes scope scope' → like.Parts node node' →
    law.Part like.Exprs (r.expr scope node) (r'.expr scope' node')
  query : ∀ {node node'}, like.Parts node node' → law.Part like.Queries (r.query node) (r'.query node')
  body : ∀ {node node'}, like.Parts node node' → law.Part like.Bodies (r.body node) (r'.body node')
  source : ∀ {node node'}, like.Parts node node' → law.Part like.Sources (r.source node) (r'.source node')
  name : ∀ scope {node}, like.Low node → (singleName? node).isSome →
    r'.expr scope node = r.expr scope node ∧ ResolvesPath (r.expr scope node)

variable (alike : law.Governs r r') (scopes : like.Scopes scope scope') (trees : like.Trees node node')

/-! ### Names -/

theorem obeys_fieldOf (bases : like.Exprs base base') (named : like.Names name name') (spot : like.Spot span)
    (nameSpot : like.Spot nameSpan) :
    law.Part like.Exprs (fieldOf base name span nameSpan) (fieldOf base' name' span nameSpan) := by
  unfold fieldOf
  rw [law.type bases, ← SqlType.field_congr (law.folded named)]
  split
  · rename_i same
    exact law.returns (law.field bases named (same ▸ .unknown) spot)
  · rename_i fields same
    split
    · rename_i own type found
      rw [same] at found
      exact law.returns (law.field bases named (same ▸ .struct found) spot)
    · exact .failNamed (.unknownField · _) named nameSpot fun _ => rfl
  · exact .failNamed (.fieldOfScalar · _) named nameSpot fun _ => rfl

theorem obeys_fieldsOf (bases : like.Exprs base base')
    (parts : Forall₂ (fun part part' => (like.Spot part.2 ∧ like.Spot (reach start part.2)) ∧
      like.Names part.1 part'.1 ∧ part'.2 = part.2) names names') :
    law.Part like.Exprs (fieldsOf start base names) (fieldsOf start base' names') := by
  induction parts generalizing base base' with
  | nil => exact law.returns bases
  | @cons part part' _ _ first _ ih =>
    obtain ⟨name, place⟩ := part
    obtain ⟨name', place'⟩ := part'
    obtain ⟨⟨spot, reached⟩, named, rfl⟩ := first
    exact law.chain (obeys_fieldOf bases named reached spot) ih

include scopes trees in
theorem obeys_path : law.Part like.Exprs (path scope node) (path scope' node') := by
  have parts := (forall₂_and_left _ _).mpr ⟨law.reaches trees, law.pathParts trees⟩
  have malformed : law.Part like.Exprs (malformed node) (malformed node') := .malformed trees
  refine law.reads fun states => ?_
  rw [law.span trees]
  generalize pathParts node = own, pathParts node' = own' at parts ⊢
  cases parts with
  | nil => exact malformed
  | @cons part part' rest rest' first others =>
    obtain ⟨name, place⟩ := part
    obtain ⟨name', place'⟩ := part'
    obtain ⟨⟨spot, -⟩, named, rfl⟩ := first
    have folded := law.folded named
    have found := law.scopeFor folded scopes states.outer
    dsimp only
    rcases rel_cases (law.relation folded found) with ⟨none, none'⟩ | ⟨relation, relation', given, given', same⟩
    · rw [none, none']
      have columns := law.columnsNamed folded found
      generalize Scope.columnsNamed _ name = seen, Scope.columnsNamed _ name' = seen' at columns ⊢
      cases columns with
      | nil => exact .failNamed .unknownName named spot fun _ => rfl
      | cons output more =>
        cases more with
        | nil => exact obeys_fieldsOf (law.column output.column spot) others
        | cons => exact .failNamed .ambiguousName named spot fun _ => rfl
    · rw [given, given']
      cases others with
      | nil => exact .failNamed .relationAsValue named spot fun _ => rfl
      | @cons part part' rest rest' second others =>
        obtain ⟨own, place⟩ := part
        obtain ⟨own', place'⟩ := part'
        obtain ⟨⟨spot, reached⟩, called, rfl⟩ := second
        dsimp only
        rcases rel_cases (law.output (law.folded called) same.columns) with
          ⟨none, none'⟩ | ⟨output, output', given, given', same⟩
        · rw [Relation.column?, Relation.column?, none, none']
          refine law.fails ⟨rfl, spot, rfl, fun literal => ?_⟩ rfl
          rw [show own' = own from literal called, show name' = name from literal named]
        · rw [Relation.column?, Relation.column?, given, given']
          exact obeys_fieldsOf (law.column same.column reached) others

theorem obeys_expandStar {star star' : Node} (trees : like.Trees star star')
    (outputs : Forall₂ like.Outputs columns columns') :
    law.Part (Forall₂ like.Outputs) (expandStar columns star) (expandStar columns' star') := by
  refine law.chain (R := Forall₂ like.Names) (.each (law.children trees) fun deeper =>
    .need trees (law.nodeName deeper.1) fun named => ?_) fun excluded => law.returns ?_
  · rw [any_alike outputs fun output => law.sameName output.name (law.folded named)]
    split
    · exact law.returns named
    · exact .blameNamed .unknownException named deeper.1 fun _ => rfl
  · exact filter_alike outputs fun output => congrArg (!·) (any_alike excluded fun named =>
      law.sameName output.name (law.folded named))

/-! ### Calls -/

theorem obeys_operation (values : Forall₂ like.Exprs arguments arguments') (trees : like.Trees node node')
    (function : Function) (symbol : String) : law.Part like.Exprs (operation function symbol arguments node.span)
      (operation function symbol arguments' node'.span) := by
  unfold operation
  rw [law.types values]
  split
  · rename_i resolved
    exact law.returns (law.call values (fun _ _ => Function.gives_of_resolve resolved) law.nowhere)
  · exact .blame trees rfl

protected theorem Rules.Obeys.negateIf (values : like.Exprs value value') (trees : like.Trees node node')
    (negated : Bool) : law.Part like.Exprs (negateIf negated value node.span) (negateIf negated value' node'.span) := by
  unfold negateIf
  split
  · exact obeys_operation (.cons values .nil) trees _ _
  · exact law.returns values

theorem obeys_sortKeys (trees : like.Trees node node')
    (every : ∀ {part part'}, like.Parts part part' → law.Part like.Exprs (f part) (f' part')) :
    law.Part (Forall₂ like.Keys) (sortKeys f node.children) (sortKeys f' node'.children) := by
  refine .each (law.children trees) fun {item item'} inside => .child inside.1 fun deeper =>
    law.chain (every deeper) fun values => law.returns ⟨values, ?_⟩
  have descending := law.isKind inside.1 (.orderingItem true) rfl (by simp)
  simp [Resolved.SortKey.descending, isDescending, descending]

include alike scopes trees in
theorem obeys_exprs : law.Part (Forall₂ like.Exprs) (each (r.expr scope) node.children)
    (each (r'.expr scope') node'.children) :=
  .each (law.children trees) (alike.expr scopes)

include alike scopes trees

theorem obeys_windowParts {parts parts' : List Node} (inside : Forall₂ like.Parts parts parts') {base base' : Window}
    (bases : like.Windows base base') :
    law.Part like.Windows (windowParts r scope node parts base) (windowParts r' scope' node' parts' base') := by
  induction inside generalizing base base' with
  | nil => exact law.returns bases
  | @cons part part' _ _ first _ ih =>
    have kind := law.kind first.1
    unfold windowParts
    generalize part.kind = own, part'.kind = own' at kind ⊢
    cases kind with
    | same =>
      split
      · exact law.chain (obeys_exprs alike scopes first.1) fun values => ih { bases with partition := values }
      · exact law.chain (obeys_sortKeys first.1 (alike.expr scopes)) fun keys => ih { bases with order := keys }
      · exact .malformed trees
    | _ => exact .malformed trees

theorem obeys_namedWindow (names : like.Names name name') : law.Part like.Windows
    (get >>= fun state : State => match namedWindow? state.windows name with
      | some base => windowParts r scope node node.children base
      | none => fail (.unknownWindow name) node.span)
    (get >>= fun state : State => match namedWindow? state.windows name' with
      | some base => windowParts r' scope' node' node'.children base
      | none => fail (.unknownWindow name') node'.span) := by
  refine law.reads fun states => ?_
  rcases rel_cases (law.namedWindow (law.folded names) states.windows) with
    ⟨none, none'⟩ | ⟨base, base', given, given', bases⟩
  · rw [none, none']
    exact .blameNamed .unknownWindow names trees fun _ => rfl
  · rw [given, given']
    exact obeys_windowParts alike scopes trees (law.children trees) bases

protected theorem Rules.Obeys.window : law.Part like.Windows (window r scope node) (window r' scope' node') := by
  have kind := law.kind trees
  have malformed : law.Part like.Windows (malformed node) (malformed node') := .malformed trees
  have named {name name'} (names : like.Names name name') := obeys_namedWindow alike scopes trees names
  unfold window
  generalize node.kind = own, node'.kind = own' at kind ⊢
  cases kind with
  | same =>
    split
    · exact obeys_windowParts alike scopes trees (law.children trees) ⟨.nil, .nil⟩
    · exact named (law.refl _)
    · exact malformed
  | windowSpec names => exact named names
  | _ => exact malformed

omit trees alike scopes in
theorem argument_recovered (plain : node.kind ≠ .star) (tables : Lookup) (before : State) :
    (argument r scope function alone node).outcome tables before = recovered (fun value => [value])
      (((singleName? node).filter Function.isDatePart).map fun name => [.literal (Text.upper name) .unknown node.span])
      ((r.expr scope node).outcome tables before) := by
  rw [argument_outcome plain]
  rcases (r.expr scope node).outcome tables before with ⟨failure | value, after⟩
  · cases (singleName? node).filter Function.isDatePart <;> rfl
  · rfl

omit trees

theorem Rules.Governs.recoverable (part : like.Parts node node') (single : singleName? node ≠ none) :
    ResolvesPath (r.expr scope node) ∧ ((∀ {a b}, like.Scopes a b → b = a) → (∀ {a b}, like.Trees a b → b = a) →
      r'.expr scope' node' = r.expr scope node) := by
  obtain ⟨same, resolves⟩ := alike.name scope part.2 (Option.isSome_iff_ne_none.mpr single)
  exact ⟨resolves, fun one other => by rw [one scopes, other part.1, same]⟩

protected theorem Rules.Obeys.argument (part : like.Parts node node') (function : Function) (alone : Bool) :
    law.Part (Forall₂ like.Exprs) (argument r scope function alone node) (argument r' scope' function alone node') := by
  have trees := part.1
  have same := law.isKind trees .star rfl (by simp)
  by_cases star : node.kind = .star
  · unfold argument
    rw [if_pos star, if_pos (same.mpr star)]
    split
    · exact law.returns .nil
    · exact .blame trees rfl
  · refine law.recovers (alike.expr scopes part) (fun values => .cons values .nil) ?_ (fun some => ?_)
      (argument_recovered star) (argument_recovered (mt same.mp star))
    · rw [law.span trees]
      rcases rel_cases (law.singleName trees) with ⟨none, none'⟩ | ⟨name, name', given, given', named⟩
      · rw [none, none']
        exact .none
      · rw [given, given', Option.filter_some, Option.filter_some,
          ← Function.isDatePart_congr (law.folded named)]
        split
        · refine .some (.cons ?_ .nil)
          rw [← Text.upper_congr (law.folded named)]
          exact law.literal (law.spot trees)
        · exact .none
    · exact alike.recoverable scopes part fun none => some (by rw [none]; rfl)

include trees

omit alike scopes in
theorem obeys_checkWindow (function : Function) (specs : Rel like.Parts spec spec') :
    law.Part (fun _ _ => True) (checkWindow function node spec) (checkWindow function node' spec') := by
  cases specs with
  | none =>
    unfold checkWindow
    dsimp only
    split
    · exact .blame trees rfl
    · exact law.returns trivial
  | some spec =>
    unfold checkWindow
    dsimp only
    split
    · exact .blame spec.1 rfl
    · refine law.reads fun states => ?_
      rw [← Option.not_isSome, ← Option.not_isSome, isSome_alike states.analytic]
      split
      · exact .blame trees rfl
      · exact law.returns trivial

omit alike scopes in
theorem obeys_overWindow {window window' : Window} (values : Forall₂ like.Exprs arguments arguments')
    (windows : like.Windows window window') (gives : function.Gives (arguments.map TypedExpr.type) type) :
    law.Part like.Exprs (overWindow function arguments window type node.span)
      (overWindow function arguments' window' type node'.span) := by
  refine law.reads fun {state state'} states => ?_
  have counted : (state'.analytic.getD []).length = (state.analytic.getD []).length :=
    (getD_alike states.analytic .nil).length_eq.symm
  dsimp only
  rw [counted, law.span trees]
  refine law.chain (law.makes (law.refl _) (law.refl _)) fun made => ?_
  have calls := law.analyticCall values windows gives (law.spot trees)
  exact law.chain (law.changes (.call ⟨made.1, calls, fun _ => made.2⟩)) fun _ =>
    law.returns (law.column made.1 law.nowhere)

theorem obeys_functionCall : law.Part like.Exprs (functionCall r scope node) (functionCall r' scope' node') := by
  have inside := law.children trees
  have specs : Rel like.Parts (node.children.getLast?.filter isWindow) (node'.children.getLast?.filter isWindow) := by
    rcases rel_cases (getLast_alike inside) with ⟨none, none'⟩ | ⟨last, last', given, given', deeper⟩
    · rw [none, none']
      exact .none
    · rw [given, given', Option.filter_some, Option.filter_some, law.isWindow deeper.1]
      split
      · exact .some deeper
      · exact .none
  have operands : Forall₂ like.Parts ((node.children.drop 1).filter fun node => !isWindow node)
      ((node'.children.drop 1).filter fun node => !isWindow node) :=
    filter_alike (forall₂_drop 1 inside) fun deeper => congrArg (!·) (law.isWindow deeper.1)
  refine .child trees fun {callee callee'} called => ?_
  simp only [malformed_bind, ne_eq, law.isKind called.1 .path rfl (by simp),
    ← Function.lookup_congr (law.dotted called.1), ← operands.length_eq]
  split
  · exact .malformed trees
  · split
    · rw [law.span called.1]
      refine law.fails ⟨rfl, law.spot called.1, rfl, fun literal => ?_⟩ rfl
      rw [law.dotted_eq called.1 literal]
    · refine law.chain (obeys_checkWindow trees _ specs) fun _ => ?_
      refine law.chain (.each operands fun deeper => .argument alike scopes deeper _ _) fun {values values'} found => ?_
      have arguments : Forall₂ like.Exprs values.flatten values'.flatten := rel_flatten found
      rw [law.types arguments]
      split
      · exact .blame trees rfl
      · rename_i resolved
        have gives := Function.gives_of_resolve resolved
        rcases rel_cases specs with ⟨none, none'⟩ | ⟨spec, spec', given, given', deeper⟩
        · rw [none, none', law.span trees]
          exact law.returns (law.call arguments (fun _ _ => gives) (law.spot trees))
        · rw [given, given']
          exact law.chain (.window alike scopes deeper.1) fun windows => obeys_overWindow trees arguments windows gives

/-! ### Expressions -/

omit trees in
theorem obeys_condition (part : like.Parts node node') (clause : Clause) :
    law.Part like.Tests (condition r clause scope node) (condition r' clause scope' node') := by
  refine law.chain (alike.expr scopes part) fun values => ?_
  rw [law.type values]
  split
  · rename_i same
    exact law.returns ⟨values, .inl same⟩
  · rename_i same
    exact law.returns ⟨values, .inr same⟩
  · exact .blame part.1 rfl

omit alike scopes in
theorem obeys_elementType (type : SqlType) (types : List SqlType) :
    law.Part (fun type type' => type' = type) (elementType node.span type types)
        (elementType node'.span type types) := by
  induction types generalizing type with
  | nil => exact law.returns rfl
  | cons next rest ih =>
    unfold elementType
    split
    · exact ih _
    · exact .blame trees rfl

omit alike scopes trees in
def Likeness.CaseParts (like : Likeness) (part part' : List TypedExpr × List SqlType) : Prop :=
  Forall₂ like.Exprs part.1 part'.1 ∧ part'.2 = part.2

omit trees in
theorem obeys_casePart (part : like.Parts node node') :
    law.Part like.CaseParts (casePart r scope node) (casePart r' scope' node') := by
  have trees := part.1
  have kind := law.kind trees
  have operand : law.Part like.CaseParts (r.expr scope node >>= fun value => pure ([value], []))
      (r'.expr scope' node' >>= fun value => pure ([value], [])) :=
    law.chain (alike.expr scopes part) fun values => law.returns ⟨.cons values .nil, rfl⟩
  unfold casePart
  generalize node.kind = own, node'.kind = own' at kind ⊢
  cases kind with
  | same =>
    split
    · refine .child trees fun tested => law.chain (alike.expr scopes tested) fun tests => ?_
      refine .child trees fun deeper => law.chain (alike.expr scopes deeper) fun results => law.returns ?_
      exact ⟨.cons tests (.cons results .nil), by rw [law.type results]⟩
    · refine .child trees fun deeper => law.chain (alike.expr scopes deeper) fun results => law.returns ?_
      exact ⟨.cons results .nil, by rw [law.type results]⟩
    · exact operand
  | _ => exact operand

theorem obeys_caseExpr : law.Part like.Exprs (caseExpr r scope node) (caseExpr r' scope' node') := by
  refine law.chain (.each (law.children trees) fun deeper => obeys_casePart alike scopes deeper)
    fun {parts parts'} found => ?_
  have arguments : Forall₂ like.Exprs (parts.flatMap Prod.fst) (parts'.flatMap Prod.fst) :=
    rel_flatMap found fun _ _ part => part.1
  have types : parts'.flatMap Prod.snd = parts.flatMap Prod.snd := by
    clear arguments
    induction found with
    | nil => rfl
    | cons first _ ih => rw [flatMap_cons, flatMap_cons, first.2, ih]
  rw [types]
  exact law.returns (law.call arguments (fun other => absurd rfl other) law.nowhere)

omit trees in
protected theorem Rules.Obeys.innerQuery (part : like.Parts node node') :
    law.Part like.Queries (innerQuery r scope node) (innerQuery r' scope' node') :=
  law.encloses scopes (alike.query part)

omit trees in
protected theorem Rules.Obeys.soleQuery (part : like.Parts node node') {above above' : Node}
    (blamed : like.Trees above above')
    (other : fault.missingTable? = none) {f f' : Scan × List NamedColumn → SqlType → Analyze β}
    (rest : ∀ {query query'} (output output' : NamedColumn), like.Scans query query' → query.columns = [output.column] →
      law.Part S (f (query, [output]) output.column.type) (f' (query', [output']) output.column.type)) :
    law.Part S (innerQuery r scope node >>= fun found => soleType fault above.span found.2 >>= f found)
      (innerQuery r' scope' node' >>= fun found => soleType fault above'.span found.2 >>= f' found) := by
  refine law.chain (.innerQuery alike scopes part) fun {found found'} queries => ?_
  have blame : law.Part S (fail fault above.span) (fail fault above'.span) := .blame blamed other
  obtain ⟨query, outputs⟩ := found
  obtain ⟨query', outputs'⟩ := found'
  obtain ⟨scans, columns, same⟩ := queries
  cases columns with
  | nil => exact blame
  | @cons output output' _ _ first others =>
    cases others with
    | nil =>
      have chosen :
          law.Part S (f (query, [output]) output.column.type) (f' (query', [output']) output'.column.type) := by
        rw [first.column.type]
        exact rest output output' scans same.symm
      exact chosen
    | cons => exact blame

theorem obeys_subquery (kind : Surface.SubqueryKind) :
    law.Part like.Exprs (subquery r scope node kind) (subquery r' scope' node' kind) := by
  have spot := law.spot trees
  have span := law.span trees
  cases kind with
  | scalar =>
    refine .child trees fun deeper => .soleQuery alike scopes deeper trees rfl fun _ _ queries columns => ?_
    rw [span]
    exact law.returns (law.subquery queries .none (columns ▸ .scalar) spot)
  | array =>
    refine .child trees fun deeper => .soleQuery alike scopes deeper trees rfl fun _ _ queries columns => ?_
    rw [span]
    exact law.returns (law.subquery queries .none (columns ▸ .array) spot)
  | exist negated =>
    refine .child trees fun deeper => law.chain (.innerQuery alike scopes deeper) fun queries => ?_
    refine .negateIf ?_ trees _
    rw [span]
    exact law.subquery queries.scan .none .exist spot
  | within negated =>
    refine .child trees fun tested => law.chain (alike.expr scopes tested) fun tests => ?_
    refine .child trees fun deeper => .soleQuery alike scopes deeper trees rfl fun _ _ queries columns => ?_
    simp only [fail_bind, law.type tests]
    split
    · exact .blame trees rfl
    · refine .negateIf ?_ trees _
      rw [span]
      exact law.subquery queries (.some tests) (columns ▸ .within) spot

theorem obeys_castExpr (safe : Bool) :
    law.Part like.Exprs (castExpr r scope node safe) (castExpr r' scope' node' safe) := by
  refine .child trees fun deeper => law.chain (alike.expr scopes deeper) fun {base base'} bases => ?_
  refine .child trees fun {target target'} typed => ?_
  have kind := law.kind typed.1
  have malformed : law.Part like.Exprs (malformed node) (malformed node') := .malformed trees
  have named {name name'} (names : like.Names name name') : law.Part like.Exprs
      (if SqlType.ofName name = .unknown then fail (.unknownType name) target.span
        else pure (.cast base (SqlType.ofName name) safe node.span))
      (if SqlType.ofName name' = .unknown then fail (.unknownType name') target'.span
        else pure (.cast base' (SqlType.ofName name') safe node'.span)) := by
    rw [← SqlType.ofName_congr (law.folded names), law.span trees]
    split
    · exact .blameNamed .unknownType names typed.1 fun _ => rfl
    · rename_i known
      exact law.returns (law.cast bases known (law.spot trees))
  simp only [fail_bind]
  generalize target.kind = own, target'.kind = own' at kind ⊢
  cases kind with
  | same =>
    split
    · exact named (law.refl _)
    · exact malformed
  | typeName names => exact named names
  | _ => exact malformed

protected theorem Rules.Obeys.expr : law.Part like.Exprs (expr r scope node) (expr r' scope' node') := by
  have kind := law.kind trees
  have first {f f' : TypedExpr → Analyze TypedExpr}
      (rest : ∀ {value value'}, like.Exprs value value' → law.Part like.Exprs (f value) (f' value')) :
      law.Part like.Exprs (child node 0 >>= fun part => r.expr scope part >>= f)
        (child node' 0 >>= fun part => r'.expr scope' part >>= f') :=
    .child trees fun deeper => law.chain (alike.expr scopes deeper) rest
  have operands := obeys_exprs alike scopes trees
  have operation {values values' : List TypedExpr} (alike : Forall₂ like.Exprs values values') :=
    @obeys_operation values values' like law node node' alike trees
  have negate {value value' : TypedExpr} (alike : like.Exprs value value') :=
    @Rules.Obeys.negateIf like law node node' value value' alike trees
  have interval {unit unit'} (names : like.Names unit unit') : law.Part like.Exprs
      (if !Function.isDatePart unit then fail (.intervalPart unit) node.span else do
        let value ← r.expr scope (← child node 0)
        Analysis.operation Function.interval "INTERVAL" [value] node.span)
      (if !Function.isDatePart unit' then fail (.intervalPart unit') node'.span else do
        let value ← r'.expr scope' (← child node' 0)
        Analysis.operation Function.interval "INTERVAL" [value] node'.span) := by
    rw [← Function.isDatePart_congr (law.folded names)]
    split
    · exact .blameNamed .intervalPart names trees fun _ => rfl
    · exact first fun values => operation (.cons values .nil) _ _
  have unsupported {kind kind'} (alike : Kind.Alike like.Names kind kind') : law.Part like.Exprs
      (fail (.unsupportedExpression kind) node.span) (fail (.unsupportedExpression kind') node'.span) :=
    .blameKind .unsupportedExpression alike trees fun _ => rfl
  unfold expr
  simp only [fail_bind]
  generalize node.kind = own, node'.kind = own' at kind ⊢
  cases kind with
  | same =>
    cases own with
    | path => exact obeys_path scopes trees
    | literal value =>
      rw [law.span trees]
      cases value <;> exact law.returns (law.literal (law.spot trees))
    | binary op =>
      refine first fun left => .child trees fun deeper => law.chain (alike.expr scopes deeper) fun right => ?_
      exact operation (.cons left (.cons right .nil)) _ _
    | unary op => cases op <;> exact first fun values => operation (.cons values .nil) _ _
    | isNull negated =>
      exact first fun values => law.chain (operation (.cons values .nil) _ _) fun called => negate called _
    | inList negated | between negated | inUnnest negated =>
      exact law.chain operands fun values => law.chain (operation values _ _) fun called => negate called _
    | functionCall distinct => exact obeys_functionCall alike scopes trees
    | dotIdentifier =>
      refine first fun values => .child trees fun field => .need trees (law.nodeName field.1) fun named => ?_
      rw [law.span trees, law.span field.1]
      exact obeys_fieldOf values named (law.spot trees) (law.spot field.1)
    | cast safe => exact obeys_castExpr alike scopes trees safe
    | case hasOperand => exact obeys_caseExpr alike scopes trees
    | subquery kind => exact obeys_subquery alike scopes trees kind
    | arrayLiteral =>
      refine law.chain operands fun values => ?_
      rw [law.types values]
      refine law.chain (obeys_elementType trees _ _) fun same => ?_
      rw [same]
      exact law.returns (law.call values (fun _ other => absurd rfl other) law.nowhere)
    | arrayElement position => exact law.chain operands fun values => operation values _ _
    | interval unit => exact interval (law.refl unit)
    | star => exact .blame trees rfl
    | _ => exact unsupported (.same _)
  | interval names => exact interval names
  | identifier names => exact unsupported (.identifier names)
  | aliasName names => exact unsupported (.aliasName names)
  | withEntry names => exact unsupported (.withEntry names)
  | namedWindow names => exact unsupported (.namedWindow names)
  | windowSpec names => exact unsupported (.windowSpec names)
  | typeName names => exact unsupported (.typeName names)

/-! ### Tables -/

omit alike scopes trees

theorem obeys_freshColumns (tables : like.Names table table')
    (same : Forall₂ (fun column column' => like.Names column.1 column'.1 ∧ column'.2 = column.2) columns columns') :
    law.Part (Forall₂ like.Outputs) (freshColumns table columns) (freshColumns table' columns') := by
  refine .each same fun {column column'} alike => ?_
  rw [alike.2]
  exact law.chain (law.makes tables alike.1) fun made => law.returns ⟨alike.1, made.1⟩

theorem Likeness.columns_of_outputs (alike : Forall₂ like.Outputs outputs outputs') :
    Forall₂ like.Columns (outputs.map NamedColumn.column) (outputs'.map NamedColumn.column) :=
  map_alike alike Outputs.column

theorem obeys_commonReference (entries : like.Commons entry entry') (named : like.Names aliasName aliasName')
    (span : Option Span) :
    law.Part like.Sources (commonReference entry aliasName span) (commonReference entry' aliasName' span) := by
  refine law.chain (obeys_freshColumns entries.name (map_alike entries.columns fun output =>
    ⟨output.name, output.column.type⟩)) fun outputs => law.returns ?_
  exact ⟨law.reference (Likeness.columns_of_outputs outputs) entries.name named,
    .cons ⟨.some named, outputs⟩ .nil⟩

protected theorem Rules.Obeys.tableSource (trees : like.Trees node node') (kind : node.kind = .tablePath) :
    law.Part like.Sources (tableSource node) (tableSource node') := by
  refine .need trees (law.tableNames trees kind) fun {path path'} named => law.reads fun states => ?_
  obtain ⟨given, deeper, names⟩ := named
  have aliases := or_alike (law.aliasName trees) (law.lastName deeper)
  rw [show path'.dotted = path.dotted by rw [Node.dotted, Node.dotted, names], names, law.span trees,
    law.span deeper]
  rw [names] at aliases
  rcases rel_cases (law.commonTable states.common path.names) with
    ⟨none, none'⟩ | ⟨entry, entry', found, found', entries⟩
  · rw [none, none']
    refine law.looksUp trees kind given (law.spot deeper) fun table => ?_
    refine law.chain (obeys_freshColumns (law.refl _) (forall₂_same.mpr fun column _ =>
      ⟨law.refl _, rfl⟩)) fun outputs => law.returns ?_
    exact ⟨law.table aliases (Likeness.columns_of_outputs outputs), .cons ⟨aliases, outputs⟩ .nil⟩
  · rw [found, found']
    exact obeys_commonReference entries (getD_alike aliases entries.name) _

theorem obeys_unnestedType (arrays : like.Exprs array array') (trees : like.Trees node node') :
    law.Part (fun type type' => type' = type ∧ array.type.HasElement type) (unnestedType array node.span)
      (unnestedType array' node'.span) := by
  obtain ⟨span, spot⟩ := law.exprSpan arrays
  unfold unnestedType
  rw [law.type arrays, span, law.span trees]
  split
  · rename_i same
    exact law.returns ⟨rfl, same ▸ .array⟩
  · rename_i same
    exact law.returns ⟨rfl, same ▸ .unknown⟩
  · refine .fail ?_ rfl
    revert spot
    cases array.span with
    | none => exact fun _ => law.spot trees
    | some own => exact id

include alike

theorem obeys_joinCondition (scopes : like.Scopes scope scope') (trees : like.Trees node node') :
    law.Part (Rel like.Tests) (joinCondition r scope node) (joinCondition r' scope' node') :=
  .perhaps (law.childOf (fun same => by cases same <;> rfl) trees) fun inside =>
    .child inside.1 fun deeper => obeys_condition alike scopes deeper _

theorem obeys_arrayValue (scopes : like.Scopes scope scope') (trees : like.Trees node node') :
    law.Part (fun found found' => like.Exprs found.1 found'.1 ∧ Rel like.Names found.2.1 found'.2.1 ∧
      Rel like.Parts found.2.2 found'.2.2) (arrayValue r scope node) (arrayValue r' scope' node') := by
  have same := law.isKind trees .tablePath rfl (by simp)
  have aliases := law.aliasName trees
  have offsets : Rel like.Parts (node.childOf? (· = .withOffset)) (node'.childOf? (· = .withOffset)) :=
    law.childOf (fun same => by cases same <;> rfl) trees
  unfold arrayValue
  by_cases kind : node.kind = .tablePath
  · rw [if_pos kind, if_pos (same.mpr kind)]
    refine .need trees (law.tableNames trees kind) fun named => ?_
    exact law.chain (obeys_path scopes named.2.1) fun values =>
      law.returns ⟨values, or_alike aliases (law.lastName named.2.1), .none⟩
  · rw [if_neg kind, if_neg (mt same.mp kind)]
    refine .child trees fun deeper => law.chain (alike.expr scopes deeper) fun values => law.returns ?_
    exact ⟨values, or_alike aliases (law.ownName deeper.1), offsets⟩

theorem obeys_arraySource (trees : like.Trees node node') (inputs : Rel like.Scans input input')
    (scopes : like.Scopes scope scope')
    (joins : Rel (fun join join' => like.Trees join.1 join'.1 ∧ join'.2 = join.2) joined joined') :
    law.Part like.Sources (arraySource r node input scope joined) (arraySource r' node' input' scope' joined') := by
  have before : Forall₂ like.Columns ((input.map Scan.columns).getD []) ((input'.map Scan.columns).getD []) :=
    getD_alike (option_alike inputs law.columns) .nil
  refine law.chain (obeys_arrayValue alike scopes trees) fun {found found'} values => ?_
  obtain ⟨array, name, offsetNode⟩ := found
  obtain ⟨array', name', offsetNode'⟩ := found'
  obtain ⟨arrays, names, offsets⟩ := values
  refine law.chain (obeys_unnestedType arrays trees) fun {type type'} typed => ?_
  rw [typed.1]
  refine law.chain (law.makes (law.refl _) (getD_alike names (law.refl _))) fun {element element'} made => ?_
  refine law.chain (.perhaps offsets fun deeper => law.makes (law.refl _)
    (getD_alike (law.aliasName deeper.1) (law.refl _))) fun {offset offset'} counted => ?_
  have elements : array.type.HasElement element.type := made.2 ▸ typed.2
  have numbers : Rel like.Columns offset offset' ∧ ∀ column ∈ offset, column.type = .int64 := by
    cases counted with
    | none => exact ⟨.none, by simp⟩
    | some column => exact ⟨.some column.1, by simpa using column.2⟩
  have created : Forall₂ like.Columns (element :: offset.toList) (element' :: offset'.toList) := by
    refine .cons made.1 ?_
    cases numbers.1 with
    | none => exact .nil
    | some column => exact .cons column .nil
  have seen : like.Scopes (scope ++ [⟨none, (element :: offset.toList).map fun column => ⟨column.name, column⟩⟩])
      (scope' ++ [⟨none, (element' :: offset'.toList).map fun column => ⟨column.name, column⟩⟩]) :=
    rel_append scopes (.cons ⟨.none, map_alike created fun column => ⟨column.name, column⟩⟩ .nil)
  have columns := rel_append before created
  dsimp only
  cases joins with
  | none =>
    rw [law.span trees]
    exact law.returns ⟨law.array columns inputs arrays made.1 numbers.1 .none elements numbers.2, seen⟩
  | @some join join' joins =>
    obtain ⟨join, kind⟩ := join
    obtain ⟨join', kind'⟩ := join'
    obtain ⟨joins, rfl⟩ := joins
    have outer : law.Part (fun outer outer' => outer' = outer) (isOuter join kind') (isOuter join' kind') := by
      unfold isOuter
      split
      iterate 4 · exact law.returns rfl
      iterate 2 · exact .blame joins rfl
    refine law.chain outer fun same => law.chain (obeys_joinCondition alike seen joins) fun tests => ?_
    rw [same, law.span joins]
    exact law.returns ⟨law.array columns inputs arrays made.1 numbers.1 tests elements numbers.2, seen⟩

theorem obeys_joinSource (trees : like.Trees node node') (kind : Surface.JoinKind) :
    law.Part like.Sources (joinSource r node kind) (joinSource r' node' kind) := by
  refine .child trees fun deeper => law.chain (alike.source deeper) fun lefts => ?_
  refine .child trees fun right => ?_
  dsimp only
  simp only [law.isKind right.1 .unnest rfl (by simp), law.isCorrelated lefts.scope right.1]
  split
  · exact obeys_arraySource alike right.1 (.some lefts.scan) lefts.scope (.some ⟨trees, rfl⟩)
  · refine law.chain (alike.source right) fun rights => ?_
    have scopes := rel_append lefts.scope rights.scope
    refine law.chain (obeys_joinCondition alike scopes trees) fun tests => ?_
    simp only [fail_bind, ← Option.not_isSome, isSome_alike tests, law.span trees]
    split
    · exact .fail (law.spot trees) rfl
    · have columns := rel_append (law.columns lefts.scan) (law.columns rights.scan)
      exact law.returns ⟨law.join columns lefts.scan rights.scan tests, scopes⟩

omit alike in
def sourceBy (table : Node → Analyze (Scan × Scope)) (r : Resolvers) (node : Node) : Analyze (Scan × Scope) :=
  if node.kind = .tablePath then table node else source r node

omit alike in
theorem sourceBy_tableSource (r : Resolvers) : sourceBy tableSource r = source r := by
  funext node
  unfold sourceBy
  split
  · rename_i kind
    rw [source, kind]
  · rfl

protected theorem Rules.Obeys.source (trees : like.Trees node node')
    (named : node.kind = .tablePath → law.Part like.Sources (tableSource node) (table node')) :
    law.Part like.Sources (source r node) (sourceBy table r' node') := by
  have same := law.isKind trees .tablePath rfl (by simp)
  by_cases kind : node.kind = .tablePath
  · rw [sourceBy, if_pos (same.mpr kind), source, kind]
    exact named kind
  · have malformed : law.Part like.Sources (malformed node) (malformed node') := .malformed trees
    have kinds := law.kind trees
    rw [sourceBy, if_neg (mt same.mp kind)]
    unfold source
    revert kind kinds
    generalize node.kind = own
    generalize node'.kind = own'
    intro kind kinds
    cases kinds with
    | same =>
      cases own with
      | tablePath => exact absurd rfl kind
      | tableSubquery =>
        exact .child trees fun deeper => law.chain (alike.query deeper) fun queries => law.returns
          ⟨queries.scan, .cons ⟨law.aliasName trees, queries.outputs⟩ .nil⟩
      | unnest => exact obeys_arraySource alike trees .none .nil .none
      | join joined => exact obeys_joinSource alike trees joined
      | _ => exact malformed
    | _ => exact malformed

/-! ### Selections -/

theorem obeys_selectExpr (scopes : like.Scopes scope scope') (part : like.Parts node node') (index : Nat)
    (aliases : Rel like.Names aliasName aliasName') :
    law.Part like.Selections (selectExpr r scope index aliasName node)
        (selectExpr r' scope' index aliasName' node') := by
  refine law.chain (alike.expr scopes part) fun {value value'} values => ?_
  rcases law.form values with ⟨column, column', span, rfl, rfl, columns⟩ | ⟨other, other'⟩
  · have own : like.Names (if column.table = "$analytic" then placeName index else column.name)
        (if column'.table = "$analytic" then placeName index else column'.name) := by
      simp only [law.analytic columns.table]
      split
      · exact law.refl _
      · exact columns.name
    exact law.returns ⟨.cons ⟨getD_alike aliases own, columns⟩ .nil, .nil, law.hasAggregate values⟩
  · have named : like.Names ((aliasName.or (ownName? node)).getD (placeName index))
        ((aliasName'.or (ownName? node')).getD (placeName index)) :=
      getD_alike (or_alike aliases (law.ownName part.1)) (law.refl _)
    split
    · exact absurd rfl (other _ _)
    · rw [law.type values]
      refine law.chain (law.makes (law.refl _) named) fun made => law.returns ?_
      exact ⟨.cons ⟨named, made.1⟩ .nil, .cons ⟨made.1, values, fun _ => made.2⟩ .nil, law.hasAggregate values⟩

protected theorem Rules.Obeys.selectItem (scopes : like.Scopes scope scope') (trees : like.Trees entry.1 entry'.1)
    (same : entry'.2 = entry.2) :
    law.Part like.Selections (selectItem r scope entry) (selectItem r' scope' entry') := by
  obtain ⟨item, index⟩ := entry
  obtain ⟨item', index'⟩ := entry'
  subst same
  have all : Forall₂ like.Outputs (scope.flatMap Relation.columns) (scope'.flatMap Relation.columns) :=
    rel_flatMap scopes fun _ _ relation => relation.columns
  refine .child trees fun {first first'} deeper => ?_
  have kind := law.kind deeper.1
  have value : law.Part like.Selections (selectExpr r scope index' item.alias? first)
      (selectExpr r' scope' index' item'.alias? first') :=
    obeys_selectExpr alike scopes deeper _ (law.aliasName trees)
  simp only [fail_bind, malformed_bind]
  generalize first.kind = own, first'.kind = own' at kind ⊢
  cases kind with
  | same =>
    split
    · rw [isEmpty_alike scopes]
      split
      · exact .blame deeper.1 rfl
      · exact law.chain (obeys_expandStar deeper.1 all) fun outputs => law.returns ⟨outputs, .nil, rfl⟩
    · refine .child deeper.1 fun {path path'} named => ?_
      simp only [ne_eq, law.isKind named.1 .path rfl (by simp)]
      split
      · exact .malformed deeper.1
      · rcases rel_cases (law.relation (law.dotted named.1) scopes) with
          ⟨none, none'⟩ | ⟨relation, relation', given, given', relations⟩
        · rw [none, none', law.span named.1]
          refine law.fails ⟨rfl, law.spot named.1, rfl, fun literal => ?_⟩ rfl
          rw [law.dotted_eq named.1 literal]
        · rw [given, given']
          exact .child deeper.1 fun star => law.chain (obeys_expandStar star.1 relations.columns) fun outputs =>
            law.returns ⟨outputs, .nil, rfl⟩
    · exact value
  | _ => exact value

theorem obeys_nameWindow (scopes : like.Scopes scope scope') (trees : like.Trees node node') :
    law.Obeys .selection (fun _ _ => True) (nameWindow r scope node) (nameWindow r' scope' node') := by
  refine .need trees (law.nodeName trees) fun named => law.reads fun states => ?_
  simp only [fail_bind, isSome_alike (law.namedWindow (law.folded named) states.windows)]
  split
  · exact .blameNamed .duplicateWindow named trees fun _ => rfl
  · refine .child trees fun deeper => law.chain (law.within (.window alike scopes deeper.1)) fun windows => ?_
    exact law.changes (.selection Likeness.States.analytic fun states =>
      rel_append states.windows (.cons ⟨named, windows⟩ .nil))

omit alike in
theorem groupExpr_recovered (tables : Lookup) (before : State) :
    (groupExpr r scope outputs node).outcome tables before = recovered id
      (((singleName? node).bind fun name => outputs.find? fun output =>
        Text.sameName output.name name).map fun output =>
        .column output.column node.span) ((r.expr scope node).outcome tables before) := by
  rw [groupExpr_outcome]
  rcases (r.expr scope node).outcome tables before with ⟨failure | value, after⟩
  · cases (singleName? node).bind fun name => outputs.find? fun output => Text.sameName output.name name <;> rfl
  · rfl

omit alike in
theorem Comparison.Congruent.named (congruent : like.Congruent) (trees : like.Trees node node')
    (alike : Forall₂ like.Outputs outputs outputs') :
    Rel like.Outputs
      ((singleName? node).bind fun name => outputs.find? fun output => Text.sameName output.name name)
      ((singleName? node').bind fun name => outputs'.find? fun output => Text.sameName output.name name) :=
  bind_alike (congruent.singleName trees) fun named => congruent.output (congruent.folded named) alike

theorem obeys_groupItem (scopes : like.Scopes scope scope') (part : like.Parts entry.1 entry'.1)
    (same : entry'.2 = entry.2) (selected : Forall₂ like.Outputs outputs outputs') :
    law.Part like.Computeds (groupItem r scope outputs entry) (groupItem r' scope' outputs' entry') := by
  have value : law.Part like.Exprs (groupExpr r scope outputs entry.1) (groupExpr r' scope' outputs' entry'.1) := by
    refine law.recovers (alike.expr scopes part) id (option_alike (law.named part.1 selected) fun output => ?_)
      (fun some => alike.recoverable scopes part fun none => some (by rw [none]; rfl)) groupExpr_recovered
      groupExpr_recovered
    rw [law.span part.1]
    exact law.column output.column (law.spot part.1)
  refine law.chain value fun {value value'} values => ?_
  rcases law.form values with ⟨column, column', span, rfl, rfl, columns⟩ | ⟨other, other'⟩
  · exact law.returns ⟨columns, values, fun _ => rfl⟩
  · split
    · exact absurd rfl (other _ _)
    · rw [law.type values, same]
      exact law.chain (law.makes (law.refl _) (law.refl _)) fun made =>
        law.returns ⟨made.1, values, fun _ => made.2⟩

protected theorem Rules.Obeys.clause (scopes : like.Scopes scope scope') (clauses : Rel like.Parts clause clause')
    (kind : Clause) :
    law.Part (Rel like.Tests) (perhaps (clauseCondition r kind scope) clause)
      (perhaps (clauseCondition r' kind scope') clause') :=
  .perhaps clauses fun given => .child given.1 fun deeper => obeys_condition alike scopes deeper _

omit alike in
theorem obeys_collecting (given : Forall₂ like.Computeds calls calls') (inner : law.Part R m m') :
    law.Obeys .selection (fun found found' => R found.1 found'.1 ∧ Forall₂ like.Computeds found.2 found'.2)
      (collecting calls m) (collecting calls' m') := by
  refine law.chain (law.changes (.selection (fun _ => .some given) Likeness.States.windows)) fun _ => ?_
  refine law.chain (law.within inner) fun values => law.reads fun states => ?_
  exact law.chain (law.changes (.selection (fun _ => .none) Likeness.States.windows)) fun _ =>
    law.returns ⟨values, getD_alike states.analytic .nil⟩

theorem obeys_selectTables (clauses : Rel like.Parts clause clause') :
    law.Part like.Sources (selectTables r clause) (selectTables r' clause') := by
  cases clauses with
  | none => exact law.returns ⟨law.singleRow, .nil⟩
  | some given => exact .child given.1 fun deeper => alike.source deeper

omit alike in
theorem foldlM_alike {P : β → β → Prop}
    (trees : Forall₂ like.Parts nodes nodes')
    (step : ∀ {first first' node node'}, P first first' → like.Parts node node' →
      Rel P (add first node) (add first' node'))
    (start : P first first') : Rel P (nodes.foldlM add first) (nodes'.foldlM add first') := by
  induction trees generalizing first first' with
  | nil => exact .some start
  | cons here _ ih => exact bind_alike (step start here) ih

omit alike in
structure Comparison.Clauses (like : Comparison) (left right : SelectParts) : Prop where
  list : Rel like.Parts left.list right.list
  tables : Rel like.Parts left.tables right.tables
  filter : Rel like.Parts left.filter right.filter
  groups : Rel like.Parts left.groups right.groups
  having : Rel like.Parts left.having right.having
  qualify : Rel like.Parts left.qualify right.qualify
  windows : Rel like.Parts left.windows right.windows

omit alike in
theorem Comparison.Clauses.add (congruent : like.Congruent) (clauses : like.Clauses parts parts')
    (trees : like.Parts node node') : Rel like.Clauses (parts.add? node) (parts'.add? node') := by
  have kind := congruent.kind trees.1
  unfold SelectParts.add?
  generalize node.kind = own, node'.kind = own' at kind ⊢
  cases kind with
  | same =>
    split
    · exact .some { clauses with list := .some trees }
    · exact .some { clauses with tables := .some trees }
    · exact .some { clauses with filter := .some trees }
    · exact .some { clauses with groups := .some trees }
    · exact .some { clauses with having := .some trees }
    · exact .some { clauses with qualify := .some trees }
    · exact .some { clauses with windows := .some trees }
    · exact .none
  | _ => exact .none

omit alike in
theorem Comparison.Congruent.filtered (congruent : like.Congruent) (span : Option Span)
    (scans : like.Scans scan scan') (tests : Rel like.Tests test test') :
    like.Scans (filtered span scan test) (filtered span scan' test') := by
  cases tests with
  | none => exact scans
  | some test => exact congruent.filter (congruent.columns scans) scans test

omit alike in
theorem Comparison.Congruent.windowed (congruent : like.Congruent) (scans : like.Scans scan scan')
    (collected : Forall₂ like.Computeds calls calls') :
    like.Scans (windowed span scan calls) (windowed span scan' calls') := by
  have columns : Forall₂ like.Columns (calls.map Computed.column) (calls'.map Computed.column) :=
    map_alike collected Likeness.Computeds.column
  unfold Analysis.windowed
  rw [isEmpty_alike collected]
  split
  · exact scans
  · exact congruent.window (rel_append (congruent.columns scans) columns) scans collected

theorem obeys_selectClauses (trees : like.Trees node node') (clauses : like.Clauses parts parts') :
    law.Obeys .selection like.Bodies (selectClauses r node parts) (selectClauses r' node' parts') := by
  have inside {found found'} (given : Rel like.Parts found found') :
      Forall₂ like.Parts ((found.map Node.children).getD []) ((found'.map Node.children).getD []) :=
    getD_alike (option_alike given fun deeper => law.children deeper.1) .nil
  refine law.chain (law.within (obeys_selectTables alike clauses.tables)) fun {tables tables'} sources => ?_
  have scopes := sources.scope
  refine law.chain (law.within (.clause alike scopes clauses.filter _)) fun tests => ?_
  refine law.chain (.each (inside clauses.windows) fun deeper => obeys_nameWindow alike scopes deeper.1) fun _ => ?_
  refine .need trees clauses.list fun list => ?_
  refine law.chain (obeys_collecting .nil (.each (zipIdx_alike (law.children list.1) 0) fun item =>
    .selectItem alike scopes item.1.1 item.2)) fun {found found'} selected => ?_
  obtain ⟨items, calls⟩ := found
  obtain ⟨items', calls'⟩ := found'
  obtain ⟨selected, collected⟩ := selected
  have outputs : Forall₂ like.Outputs (Selected.join items).outputs (Selected.join items').outputs :=
    rel_flatMap selected fun _ _ item => item.outputs
  have computed : Forall₂ like.Computeds (Selected.join items).computed (Selected.join items').computed :=
    rel_flatMap selected fun _ _ item => item.computed
  have aggregate : (Selected.join items').aggregate = (Selected.join items).aggregate :=
    any_alike selected fun item => item.aggregate
  refine law.chain (law.within (.each (zipIdx_alike (inside clauses.groups) 0) fun item =>
    obeys_groupItem alike scopes item.1 item.2 outputs)) fun {groups groups'} grouping => ?_
  refine law.chain (law.within (.clause alike scopes clauses.having _)) fun havings => ?_
  have seen : like.Scopes (qualifyScope tables.2 (Selected.join items).outputs)
      (qualifyScope tables'.2 (Selected.join items').outputs) :=
    rel_append scopes (.cons ⟨.none, filter_alike outputs fun output =>
      law.columnsNamed_isEmpty (law.folded output.name) scopes⟩ .nil)
  refine law.chain (obeys_collecting collected (.clause alike seen clauses.qualify _)) fun qualified => law.returns ?_
  have columns : Forall₂ like.Columns (groups.map Computed.column) (groups'.map Computed.column) :=
    map_alike grouping Likeness.Computeds.column
  have base := law.filtered node.span sources.scan tests
  rw [law.span trees, aggregate, isSome_alike clauses.groups, isSome_alike clauses.having]
  refine ⟨⟨law.project (Likeness.columns_of_outputs outputs) computed (law.filtered _
    (law.windowed (law.filtered _ ?_ havings) qualified.2) qualified.1), outputs, rfl⟩, scopes⟩
  split
  · exact law.aggregate (rel_append columns (law.columns base)) base grouping
  · exact base

theorem obeys_select (trees : like.Trees node node') : law.Part like.Bodies (select r node) (select r' node') := by
  refine law.mends .selection trivial (law.chain (law.changes (.selection (fun _ => .none) fun _ => .nil)) fun _ => ?_)
  refine .need trees (foldlM_alike (law.children trees)
    (fun clauses deeper => Comparison.Clauses.add law.congruent clauses deeper) ?_) (obeys_selectClauses alike trees)
  constructor <;> exact .none

/-! ### Queries -/

omit alike in
structure Comparison.Named (like : Comparison) (entry entry' : Node) : Prop where
  trees : like.Trees entry entry'
  known : ∀ name ∈ entry.name?, like.Known name

omit alike in
structure Comparison.QueryClauses (like : Comparison) (left right : QueryParts) : Prop where
  entries : Forall₂ like.Named left.entries right.entries
  body : Rel like.Parts left.body right.body
  order : Rel like.Parts left.order right.order
  limit : Rel like.Parts left.limit right.limit

omit alike in
theorem Comparison.QueryClauses.add (congruent : like.Congruent) {parts parts' : QueryParts}
    (clauses : like.QueryClauses parts parts') (trees : like.Parts node node') :
    Rel like.QueryClauses (parts.add? node) (parts'.add? node') := by
  have kind := congruent.kind trees.1
  have named : node.kind = .withClause → Forall₂ like.Named node.children node'.children := fun clause =>
    ((forall₂_and_left _ _).mpr ⟨congruent.known trees.1 clause, congruent.children trees.1⟩).imp fun _ _ entry =>
      ⟨entry.2.1, entry.1⟩
  unfold QueryParts.add?
  revert kind named
  generalize node.kind = own
  generalize node'.kind = own'
  intro kind named
  cases kind with
  | same =>
    split
    · exact .some { clauses with entries := rel_append clauses.entries (named rfl) }
    iterate 3 · exact .some { clauses with body := .some trees }
    · exact .some { clauses with order := .some trees }
    · exact .some { clauses with limit := .some trees }
    · exact .none
  | _ => exact .none

theorem obeys_nameQuery (named : like.Named node node') :
    law.Obeys .query like.Entries (nameQuery r node) (nameQuery r' node') := by
  refine .need (R := fun name name' => like.Known name ∧ like.Names name name') named.trees ?_ fun called => ?_
  · rcases rel_cases (law.nodeName named.trees) with ⟨none, none'⟩ | ⟨name, name', given, given', same⟩
    · rw [none, none']
      exact .none
    · rw [given, given']
      exact .some ⟨named.known name given, same⟩
  · refine .child named.trees fun deeper => law.chain (law.within (alike.query deeper)) fun queries => ?_
    exact law.chain (law.changes (.query ⟨called.1, called.2, queries.outputs⟩)) fun _ =>
      law.returns ⟨called.2, queries.scan⟩

protected theorem Rules.Obeys.orderExpr (scopes : like.Scopes scope scope') (part : like.Parts node node')
    (selected : Forall₂ like.Outputs outputs outputs') :
    law.Part like.Exprs (orderExpr r outputs scope node) (orderExpr r' outputs' scope' node') := by
  unfold orderExpr
  rcases rel_cases (law.named part.1 selected) with ⟨none, none'⟩ | ⟨output, output', given, given', same⟩
  · rw [none, none']
    exact alike.expr scopes part
  · rw [given, given', law.span part.1]
    exact law.returns (law.column same.column (law.spot part.1))

theorem obeys_ordered (scopes : like.Scopes scope scope') (trees : like.Trees node node')
    (queries : like.Queries (scan, outputs) (scan', outputs'))
    (clauses : Rel like.Parts clause clause') :
    law.Part (fun scan scan' => like.Queries (scan, outputs) (scan', outputs'))
      (ordered r node outputs scope scan clause)
      (ordered r' node' outputs' scope' scan' clause') := by
  cases clauses with
  | none => exact law.returns queries
  | some given =>
    refine law.chain
      (obeys_sortKeys given.1 fun deeper => .orderExpr alike scopes deeper queries.outputs) fun keys => ?_
    rw [law.span trees]
    exact law.returns { queries with scan := law.orderBy (law.columns queries.scan) queries.scan keys }

theorem obeys_limited (trees : like.Trees node node') (queries : like.Queries (scan, outputs) (scan', outputs'))
    (clauses : Rel like.Parts clause clause') :
    law.Part (fun scan scan' => like.Queries (scan, outputs) (scan', outputs')) (limited r node scan clause)
      (limited r' node' scan' clause') := by
  cases clauses with
  | none => exact law.returns queries
  | some given =>
    refine .child given.1 fun deeper => law.chain (alike.expr .nil deeper) fun counts => ?_
    refine law.chain (.perhaps (getElem_alike (law.children given.1) 1) (alike.expr .nil)) fun offsets => ?_
    rw [law.span trees]
    exact law.returns
      { queries with scan := law.limit (law.columns queries.scan) queries.scan counts offsets }

omit alike in
theorem Comparison.QueryClauses.of (congruent : like.Congruent) (trees : like.Trees node node') :
    Rel like.QueryClauses (QueryParts.of? node.children) (QueryParts.of? node'.children) :=
  foldlM_alike (congruent.children trees) (fun clauses deeper => Comparison.QueryClauses.add congruent clauses deeper)
    ⟨.nil, .none, .none, .none⟩

def queryRest (r : Resolvers) (node : Node) (parts : QueryParts) (entries : List Resolved.Entry) :
    Analyze (Scan × List NamedColumn) := do
  let (scan, outputs, scope) ← r.body (← need node parts.body)
  let scan ← ordered r node outputs scope scan parts.order
  let scan ← limited r node scan parts.limit
  return (if entries.isEmpty then scan else .common scan.columns entries scan node.span, outputs)

theorem obeys_queryRest (trees : like.Trees node node') {parts parts' : QueryParts}
    (clauses : like.QueryClauses parts parts')
    (named : Forall₂ like.Entries entries entries') :
    law.Part like.Queries (queryRest r node parts entries) (queryRest r' node' parts' entries') := by
  refine .need trees clauses.body fun deeper => law.chain (alike.body deeper) fun bodies => ?_
  refine law.chain (obeys_ordered alike bodies.scope trees bodies.query clauses.order) fun queries => ?_
  refine law.chain (obeys_limited alike trees queries clauses.limit) fun queries => law.returns ?_
  rw [isEmpty_alike named, law.span trees]
  split
  · exact queries
  · exact { queries with scan := law.common (law.columns queries.scan) named queries.scan }

omit alike in
protected theorem Rules.Obeys.query {law : Law like} (alike : law.Governs r r') (trees : like.Trees node node') :
    law.Part like.Queries (query r node) (query r' node') :=
  law.closes (.need trees (Comparison.QueryClauses.of law.congruent trees) fun clauses =>
    law.chain (.each clauses.entries (obeys_nameQuery alike)) fun named =>
      law.within (obeys_queryRest alike trees clauses named))

omit alike in
theorem obeys_setColumn (trees : like.Trees node node') (op : SetOp) (distinct : Bool)
    (entries : (like.Outputs entry.1.1 entry'.1.1 ∧ like.Outputs entry.1.2 entry'.1.2) ∧ entry'.2 = entry.2) :
    law.Part (fun output output' => like.Outputs output output' ∧ entry.1.1.column.type.coercesTo output.column.type ∧
      entry.1.2.column.type.coercesTo output.column.type) (setColumn op distinct node.span entry)
      (setColumn op distinct node'.span entry') := by
  unfold setColumn
  dsimp only
  rw [entries.1.1.column.type, entries.1.2.column.type, entries.2]
  cases found : entry.1.1.column.type.supertype? entry.1.2.column.type with
  | some type =>
    refine law.chain (law.makes (law.refl _) entries.1.1.name) fun made => law.returns ?_
    exact ⟨⟨entries.1.1.name, made.1⟩, made.2 ▸ SqlType.coercesTo_of_supertype found⟩
  | none => exact .blame trees rfl

omit alike in
theorem obeys_setColumns (trees : like.Trees node node') (op : SetOp) (distinct : Bool)
    (left : Forall₂ like.Outputs lefts lefts') (right : Forall₂ like.Outputs rights rights')
    (same : lefts.length = rights.length) (index : Nat) :
    law.Part (fun outputs outputs' => Forall₂ like.Outputs outputs outputs' ∧
        Unites (outputs.map NamedColumn.column) (lefts.map NamedColumn.column) (rights.map NamedColumn.column))
      (each (setColumn op distinct node.span) ((lefts.zip rights).zipIdx index))
      (each (setColumn op distinct node'.span) ((lefts'.zip rights').zipIdx index)) := by
  induction left generalizing rights rights' index with
  | nil =>
    cases right with
    | nil => exact law.returns ⟨.nil, .nil⟩
    | cons => cases same
  | cons first _ ih =>
    cases right with
    | nil => cases same
    | cons second rest =>
      refine law.chain (obeys_setColumn trees op distinct ⟨⟨first, second⟩, rfl⟩) fun made => ?_
      exact law.chain (ih rest (Nat.succ.inj same) _) fun others =>
        law.returns ⟨.cons made.1 others.1, .cons made.2.1 made.2.2 others.2⟩

theorem obeys_setOperation (trees : like.Trees node node') (op : SetOp) (distinct : Bool) :
    law.Part like.Bodies (setOperation r node op distinct) (setOperation r' node' op distinct) := by
  refine .child trees fun deeper => law.chain (alike.body deeper) fun {left left'} lefts => ?_
  refine .child trees fun deeper => law.chain (alike.body deeper) fun {right right'} rights => ?_
  obtain ⟨left, leftOutputs, leftScope⟩ := left
  obtain ⟨right, rightOutputs, rightScope⟩ := right
  have columns := lefts.query.columns
  have columns' := rights.query.columns
  simp only [fail_bind, ← lefts.query.outputs.length_eq, ← rights.query.outputs.length_eq]
  split
  · exact .blame trees rfl
  · rename_i same
    refine law.chain (obeys_setColumns trees op distinct lefts.query.outputs rights.query.outputs
      (Decidable.not_not.mp same) 0) fun made => law.returns ?_
    rw [law.span trees]
    refine ⟨⟨law.setOperation (Likeness.columns_of_outputs made.1) lefts.query.scan rights.query.scan ?_,
      made.1, rfl⟩, .nil⟩
    rw [← columns, ← columns']
    exact made.2

protected theorem Rules.Obeys.body (trees : like.Trees node node')
    (asked : node.kind = .query → law.Part like.Queries (query r node) (query r' node')) :
    law.Part like.Bodies (body r node) (body r' node') := by
  have kind := law.kind trees
  unfold body
  generalize node.kind = own, node'.kind = own' at kind asked ⊢
  cases kind with
  | same =>
    split
    · exact obeys_select alike trees
    · exact obeys_setOperation alike trees _ _
    · exact law.chain (asked rfl) fun queries => law.returns ⟨queries, .nil⟩
    · exact .malformed trees
  | _ => exact .malformed trees

omit alike

/-! ### Statements -/

/-- The resolvers where the paths of tables are resolved in a way of their own. -/
def resolversBy (table : Node → Analyze (Scan × Scope)) : Nat → Resolvers
  | 0 => resolvers 0
  | height + 1 =>
    let below := resolversBy table height
    ⟨expr below, query below, body below, sourceBy table below⟩

def statementBy (table : Node → Analyze (Scan × Scope)) (node : Node) : Analyze Resolved.Statement := do
  if node.kind ≠ .statement then fail (.unsupportedStatement node.kind) node.span
  modify fun state => { state with common := [], outer := [] }
  let queryNode ← child node 0
  let (scan, outputs) ← (resolversBy table queryNode.height).query queryNode
  return ⟨outputs, scan, node.span⟩

theorem resolversBy_tableSource (height : Nat) : resolversBy tableSource height = resolvers height := by
  induction height with
  | zero => rfl
  | succ height ih =>
    simp only [resolversBy, ih, sourceBy_tableSource, resolvers]

theorem statementBy_tableSource (node : Node) : statementBy tableSource node = statement node := by
  simp only [statementBy, resolversBy_tableSource, statement]

theorem resolvesPath_expr (single : (singleName? node).isSome) (r r' : Resolvers) (scope : Scope) :
    expr r' scope node = expr r scope node ∧ ResolvesPath (expr r scope node) := by
  have kind : node.kind = .path := by
    unfold singleName? at single
    split at single
    · assumption
    · cases single
  unfold expr
  rw [kind]
  exact ⟨rfl, scope, node, .inl rfl⟩

theorem governs_zero : law.Governs (resolvers 0) (resolvers 0) :=
  ⟨fun _ deeper => .malformed deeper.1, fun deeper => .malformed deeper.1, fun deeper => .malformed deeper.1,
    fun deeper => .malformed deeper.1, fun scope node _ _ => ⟨rfl, scope, node, .inr rfl⟩⟩

section Statements

variable {law : Law like} {table : Node → Analyze (Scan × Scope)} (named : ∀ {node node'}, like.Trees node node' →
  node.kind = .tablePath → law.Part like.Sources (tableSource node) (table node'))

include named

theorem governs_resolvers (height : Nat) : law.Governs (resolvers height) (resolversBy table height) := by
  induction height with
  | zero => exact governs_zero
  | succ height ih =>
    exact ⟨fun scopes deeper => .expr ih scopes deeper.1, fun deeper => .query ih deeper.1,
      fun deeper => .body ih deeper.1 fun _ => .query ih deeper.1, fun deeper => .source ih deeper.1 (named deeper.1),
      fun scope _ _ single => resolvesPath_expr single _ _ scope⟩

theorem obeys_statementBy (trees : like.Trees node node') :
    law.Obeys .statement like.Statements (statement node) (statementBy table node') := by
  unfold statement statementBy
  simp only [fail_bind, ne_eq, law.isKind trees .statement rfl (by simp)]
  split
  · exact .blameKind .unsupportedStatement (law.kind trees) trees fun _ => rfl
  · refine law.chain (law.changes .statement) fun _ => .child trees fun deeper => ?_
    rw [law.height deeper.1]
    refine law.chain (law.within ((governs_resolvers named _).query deeper)) fun queries => law.returns ?_
    exact ⟨queries, law.span trees⟩

end Statements

theorem governs {law : Law like} (height : Nat) : law.Governs (resolvers height) (resolvers height) := by
  have governs : law.Governs (resolvers height) (resolversBy tableSource height) := governs_resolvers .tableSource _
  rwa [resolversBy_tableSource] at governs

protected theorem Rules.Obeys.statement {law : Law like} (trees : like.Trees node node') :
    law.Obeys .statement like.Statements (statement node) (statement node') := by
  have obeys : law.Obeys .statement like.Statements (statement node) (statementBy tableSource node') :=
    obeys_statementBy .tableSource trees
  rwa [statementBy_tableSource] at obeys

end SqlLens.Analysis
