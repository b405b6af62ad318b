import SqlLens.Proofs.Analysis.Outcome

/-!
What a successful resolution did.

For each function of the analysis, one statement says what must have happened when it succeeds: which nodes were
resolved, in which order and states, and what the result is made of. Properties of resolved trees follow by induction on
the height of the tree; no later proof opens the functions.
-/

namespace SqlLens.Analysis

open SqlLens.Resolved (Column NamedColumn Scan TypedExpr Computed Entry SortKey)
open SqlLens.Surface (Node)

variable {r : Resolvers} {tables : Lookup} {before after : State} {scope : Scope} {node : Node} {children : List Node}
  {clause : Clause} {scan : Scan} {resolved : Resolved.Statement}

theorem succeeds_each_append :
    Succeeds tables (each f (first ++ second)) before results after ↔
      ∃ values middle others, Succeeds tables (each f first) before values middle ∧
        Succeeds tables (each f second) middle others after ∧ values ++ others = results := by
  induction first generalizing before results with
  | nil =>
    constructor
    · intro ran
      exact ⟨[], before, results, succeeds_each_nil.mpr ⟨rfl, rfl⟩, ran, rfl⟩
    · rintro ⟨_, _, _, nothing, ran, rfl⟩
      obtain ⟨rfl, rfl⟩ := succeeds_each_nil.mp nothing
      exact ran
  | cons item rest ih =>
    simp only [List.cons_append, succeeds_each_cons, ih]
    constructor
    · rintro ⟨value, middle, _, first, ⟨values, middle', others, ran, ran', rfl⟩, rfl⟩
      exact ⟨value :: values, middle', others, ⟨value, middle, values, first, ran, rfl⟩, ran', rfl⟩
    · rintro ⟨_, middle', others, ⟨value, middle, values, first, ran, rfl⟩, ran', rfl⟩
      exact ⟨value, middle, values ++ others, first, ⟨values, middle', others, ran, ran', rfl⟩, rfl⟩

theorem succeeds_each_single (ran : Succeeds tables (f item) before value after) :
    Succeeds tables (each f [item]) before [value] after :=
  succeeds_each_cons.mpr ⟨value, after, [], ran, succeeds_each_nil.mpr ⟨rfl, rfl⟩, rfl⟩

theorem each_unchanged (unchanged : ∀ item value first last, Succeeds tables (f item) first value last → first = last)
    (ran : Succeeds tables (each f items) before results after) : before = after := by
  induction items generalizing before results with
  | nil => exact (succeeds_each_nil.mp ran).2
  | cons item rest ih =>
    obtain ⟨value, middle, others, first, ranRest, -⟩ := succeeds_each_cons.mp ran
    exact (unchanged item value before middle first).trans (ih ranRest)

/-! ### Expressions -/

theorem succeeds_operation :
    Succeeds tables (operation function symbol arguments span) before value after ↔
      ∃ signature type, function.resolve? (arguments.map TypedExpr.type) = some (signature, type) ∧
        .call function arguments type none = value ∧ before = after := by
  unfold operation
  cases function.resolve? (arguments.map TypedExpr.type) with
  | none => simp
  | some found =>
    obtain ⟨signature, type⟩ := found
    constructor
    · intro ran
      exact ⟨signature, type, rfl, succeeds_pure.mp ran⟩
    · rintro ⟨_, _, typed, made⟩
      cases typed
      exact succeeds_pure.mpr made

inductive Negated (value : TypedExpr) : TypedExpr → Prop where
  | plain : Negated value value
  | negated (typed : Function.not.resolve? [value.type] = some (signature, type)) :
      Negated value (.call Function.not [value] type none)

theorem succeeds_negateIf (ran : Succeeds tables (negateIf negated value span) before result after) :
    Negated value result ∧ before = after := by
  cases negated with
  | false =>
    cases ran
    exact ⟨.plain, rfl⟩
  | true =>
    obtain ⟨signature, type, typed, rfl, rfl⟩ := succeeds_operation.mp ran
    exact ⟨.negated typed, rfl⟩

/-- The value is the base, or a field of it, or a field of that, and so on. -/
inductive FieldsFrom (base : TypedExpr) : TypedExpr → Prop where
  | here : FieldsFrom base base
  | field (inner : FieldsFrom base value) : FieldsFrom base (.field value name type span)

theorem succeeds_fieldOf (ran : Succeeds tables (fieldOf base name span nameSpan) before value after) :
    (∃ type, .field base name type span = value) ∧ before = after := by
  unfold fieldOf at ran
  split at ran
  · cases ran
    exact ⟨⟨_, rfl⟩, rfl⟩
  · split at ran
    · cases ran
      exact ⟨⟨_, rfl⟩, rfl⟩
    · cases ran
  · cases ran

theorem succeeds_fieldsOf (ran : Succeeds tables (fieldsOf start base names) before value after) :
    FieldsFrom base value ∧ before = after := by
  suffices chain : ∀ inner, FieldsFrom base inner → Succeeds tables (fieldsOf start inner names) before value after →
      FieldsFrom base value ∧ before = after from chain base .here ran
  clear ran
  induction names with
  | nil =>
    intro inner built ran
    cases ran
    exact ⟨built, rfl⟩
  | cons name rest ih =>
    intro inner built ran
    obtain ⟨taken, middle, first, ran⟩ := ran.bind
    obtain ⟨⟨type, rfl⟩, rfl⟩ := succeeds_fieldOf first
    exact ih _ (.field built) ran

def Scope.Shows (scope : Scope) (column : NamedColumn) : Prop := ∃ relation ∈ scope, column ∈ relation.columns

theorem scopeFor_mem (name : String) (scope : Scope) (outer : List Scope) :
    scopeFor name scope outer ∈ scope :: outer := by
  unfold scopeFor
  cases found : (scope :: outer).find? (·.knows name) with
  | none => exact List.mem_cons_self
  | some seen => exact List.mem_of_find?_eq_some found

inductive Scope.Picks (seen : Scope) : List (String × Option Span) → NamedColumn → Prop where
  | qualified (known : seen.relation? first = some relation) (named : relation.column? name = some found) :
      Picks seen ((first, place) :: (name, columnPlace) :: rest) found
  | bare (free : seen.relation? first = none) (only : seen.columnsNamed first = [found]) :
      Picks seen ((first, place) :: rest) found

theorem Scope.Picks.shows {seen : Scope} (picks : seen.Picks parts found) : seen.Shows found := by
  cases picks with
  | qualified known named => exact ⟨_, List.mem_of_find?_eq_some known, List.mem_of_find?_eq_some named⟩
  | bare free only =>
    obtain ⟨relation, known, named⟩ := List.mem_filterMap.mp (only ▸ List.mem_singleton_self found)
    exact ⟨relation, known, List.mem_of_find?_eq_some named⟩

theorem succeeds_path_picks (ran : Succeeds tables (path scope node) before value after) :
    (∃ first place rest, pathParts node = (first, place) :: rest ∧ ∃ found span,
      (scopeFor first scope before.outer).Picks (pathParts node) found ∧ FieldsFrom (.column found.column span) value) ∧
      before = after := by
  unfold path at ran
  simp only [succeeds_bind, succeeds_get] at ran
  obtain ⟨_, _, ⟨rfl, rfl⟩, ran⟩ := ran
  split at ran
  · cases ran
  rename_i first place rest parts
  rw [parts]
  split at ran
  · rename_i relation known
    split at ran
    · cases ran
    split at ran
    · rename_i found named
      obtain ⟨fields, rfl⟩ := succeeds_fieldsOf ran
      exact ⟨⟨_, _, _, rfl, found, _, .qualified known named, fields⟩, rfl⟩
    · cases ran
  · rename_i free
    split at ran
    · cases ran
    · rename_i found only
      obtain ⟨fields, rfl⟩ := succeeds_fieldsOf ran
      exact ⟨⟨_, _, _, rfl, found, _, .bare free only, fields⟩, rfl⟩
    · cases ran

/-- A path that is resolved reads a column of its own scope or of an enclosing one, or fields of such a column. -/
theorem succeeds_path {value : TypedExpr} (ran : Succeeds tables (path scope node) before value after) :
    (∃ seen ∈ scope :: before.outer, ∃ found span, seen.Shows found ∧ FieldsFrom (.column found.column span) value) ∧
      before = after := by
  obtain ⟨⟨first, _, _, -, found, span, picks, fields⟩, same⟩ := succeeds_path_picks ran
  exact ⟨⟨_, scopeFor_mem first scope before.outer, found, span, picks.shows, fields⟩, same⟩

def caseOperands (part : Node) : List Node :=
  match part.kind with
  | .whenClause => part.children.take 2
  | .elseClause => part.children.take 1
  | _ => [part]

/-- The nodes whose values an expression is computed from, calls of functions and subqueries apart. -/
def operands (node : Node) : List Node :=
  match node.kind with
  | .binary _ => node.children.take 2
  | .unary _ | .isNull _ | .interval _ | .dotIdentifier | .cast _ => node.children.take 1
  | .inList _ | .between _ | .inUnnest _ | .arrayElement _ | .arrayLiteral => node.children
  | .case _ => node.children.flatMap caseOperands
  | _ => []

def argumentNodes (node : Node) : List Node := (node.children.drop 1).filter fun node => !isWindow node

def windowNode? (node : Node) : Option Node := node.children.getLast?.filter isWindow

theorem take_one_of_getElem? (found : children[0]? = some first) : children.take 1 = [first] := by
  cases children with
  | nil => simp at found
  | cons head rest => simpa using found

theorem take_two_of_getElem? (found : children[0]? = some first) (found' : children[1]? = some second) :
    children.take 2 = [first, second] := by
  match children with
  | [] => simp at found
  | [_] => simp at found'
  | _ :: _ :: _ => simpa using And.intro (by simpa using found) (by simpa using found')

theorem succeeds_casePart (ran : Succeeds tables (casePart r scope part) before found after) :
    Succeeds tables (each (r.expr scope) (caseOperands part)) before found.1 after := by
  unfold casePart at ran
  split at ran
  · rename_i kind
    simp only [succeeds_bind, succeeds_child, succeeds_pure] at ran
    obtain ⟨first, _, ⟨found, rfl⟩, test, middle, ranTest, second, _, ⟨found', rfl⟩, result, _, ranResult, rfl, rfl⟩ :=
      ran
    rw [caseOperands, kind]
    dsimp only
    rw [take_two_of_getElem? found found']
    exact succeeds_each_cons.mpr ⟨test, middle, _, ranTest, succeeds_each_single ranResult, rfl⟩
  · rename_i kind
    simp only [succeeds_bind, succeeds_child, succeeds_pure] at ran
    obtain ⟨first, _, ⟨found, rfl⟩, result, _, ranResult, rfl, rfl⟩ := ran
    rw [caseOperands, kind]
    dsimp only
    rw [take_one_of_getElem? found]
    exact succeeds_each_single ranResult
  · rename_i notWhen notElse
    simp only [succeeds_bind, succeeds_pure] at ran
    obtain ⟨value, _, ranValue, rfl, rfl⟩ := ran
    have whole : caseOperands part = [part] := by
      unfold caseOperands
      split
      next kind => exact absurd kind notWhen
      next kind => exact absurd kind notElse
      next => rfl
    rw [whole]
    exact succeeds_each_single ranValue

theorem succeeds_caseParts (ran : Succeeds tables (each (casePart r scope) parts) before found after) :
    Succeeds tables (each (r.expr scope) (parts.flatMap caseOperands)) before (found.flatMap Prod.fst) after := by
  induction parts generalizing before found with
  | nil =>
    obtain ⟨rfl, rfl⟩ := succeeds_each_nil.mp ran
    exact succeeds_each_nil.mpr ⟨rfl, rfl⟩
  | cons part rest ih =>
    obtain ⟨first, middle, others, ranFirst, ranRest, rfl⟩ := succeeds_each_cons.mp ran
    exact succeeds_each_append.mpr ⟨_, middle, _, succeeds_casePart ranFirst, ih ranRest, rfl⟩

inductive ArgumentForm (r : Resolvers) (tables : Lookup) (scope : Scope) (node : Node) (before : State) :
    List TypedExpr → State → Prop where
  | star (kind : node.kind = .star) : ArgumentForm r tables scope node before [] before
  | value {after : State} (ran : Succeeds tables (r.expr scope node) before value after) :
      ArgumentForm r tables scope node before [value] after
  | datePart {failure : Failure} {after : State}
      (failed : (r.expr scope node).outcome tables before = (.error failure, after))
      (single : singleName? node = some name) :
      ArgumentForm r tables scope node before [.literal (Text.upper name) .unknown node.span] after

theorem succeeds_argument (ran : Succeeds tables (argument r scope function alone node) before values after) :
    ArgumentForm r tables scope node before values after := by
  by_cases star : node.kind = .star
  · unfold argument at ran
    rw [if_pos star] at ran
    split at ran
    · cases ran
      exact .star star
    · cases ran
  · unfold Succeeds at ran
    rw [argument_outcome star] at ran
    cases result : (r.expr scope node).outcome tables before with
    | mk outcome middle =>
      rw [result] at ran
      cases outcome with
      | ok value =>
        cases ran
        exact .value result
      | error failure =>
        dsimp only at ran
        split at ran
        · rename_i name named
          cases ran
          exact .datePart result (Option.filter_eq_some_iff.mp named).1
        · cases ran

theorem succeeds_checkWindow
    (ran : Succeeds tables (checkWindow function node spec) before result after) :
    (spec.isSome → before.analytic.isSome) ∧ before = after := by
  cases spec with
  | none =>
    unfold checkWindow at ran
    dsimp only at ran
    split at ran
    · cases ran
    · exact ⟨by simp, (succeeds_pure.mp ran).2⟩
  | some spec =>
    unfold checkWindow at ran
    dsimp only at ran
    split at ran
    · cases ran
    · simp only [succeeds_bind, succeeds_get] at ran
      obtain ⟨_, _, ⟨rfl, rfl⟩, ran⟩ := ran
      split at ran
      · cases ran
      · rename_i allowed
        exact ⟨fun _ => by simpa [Option.isSome_iff_ne_none] using allowed, (succeeds_pure.mp ran).2⟩

def windowCall (state : State) (function : Function) (arguments : List TypedExpr) (window : Window) (type : SqlType)
    (span : Option Span) : Computed :=
  .mk ⟨state.nextId, "$analytic", "$analytic" ++ toString ((state.analytic.getD []).length + 1), type⟩
    (.analyticCall function arguments window.partition window.order type span)

theorem succeeds_overWindow {function : Function} {arguments : List TypedExpr} {window : Window} :
    Succeeds tables (overWindow function arguments window type span) before value after ↔
      .column (windowCall before function arguments window type span).column none = value ∧
        { before with
          nextId := before.nextId + 1
          analytic := before.analytic.map (· ++ [windowCall before function arguments window type span]) } = after := by
  simp only [overWindow, succeeds_bind, succeeds_get, succeeds_fresh, succeeds_modify, succeeds_pure]
  constructor
  · rintro ⟨_, _, ⟨rfl, rfl⟩, _, _, ⟨rfl, rfl⟩, _, _, rfl, rfl, rfl⟩
    exact ⟨rfl, rfl⟩
  · rintro ⟨rfl, rfl⟩
    exact ⟨_, _, ⟨rfl, rfl⟩, _, _, ⟨rfl, rfl⟩, ⟨⟩, _, rfl, rfl, rfl⟩

def partOperands (part : Node) : List Node :=
  match part.kind with
  | .partitionBy => part.children
  | .orderBy => part.children.flatMap fun item => item.children.take 1
  | _ => []

def windowOperands (spec : Node) : List Node := spec.children.flatMap partOperands

theorem succeeds_sortKeys (ran : Succeeds tables (sortKeys f items) before keys after) :
    Succeeds tables (each f (items.flatMap fun item => item.children.take 1)) before (keys.map SortKey.expr) after := by
  unfold sortKeys at ran
  induction items generalizing before keys with
  | nil =>
    obtain ⟨rfl, rfl⟩ := succeeds_each_nil.mp ran
    exact succeeds_each_nil.mpr ⟨rfl, rfl⟩
  | cons item rest ih =>
    obtain ⟨key, middle, others, first, ranRest, rfl⟩ := succeeds_each_cons.mp ran
    simp only [succeeds_bind, succeeds_child, succeeds_pure] at first
    obtain ⟨child, _, ⟨found, rfl⟩, value, _, ranValue, rfl, rfl⟩ := first
    rw [List.flatMap_cons, take_one_of_getElem? found]
    exact succeeds_each_append.mpr ⟨[value], _, _, succeeds_each_single ranValue, ih ranRest, rfl⟩

theorem succeeds_windowParts
    (ran : Succeeds tables (windowParts r scope spec parts base) before result after) :
    ∃ values, Succeeds tables (each (r.expr scope) (parts.flatMap partOperands)) before values after := by
  induction parts generalizing before base with
  | nil => exact ⟨[], succeeds_each_nil.mpr ⟨rfl, (succeeds_pure.mp ran).2⟩⟩
  | cons part rest ih =>
    unfold windowParts at ran
    rw [List.flatMap_cons]
    split at ran
    · rename_i kind
      obtain ⟨partition, middle, first, ran⟩ := ran.bind
      obtain ⟨values, ranRest⟩ := ih ran
      have operands : partOperands part = part.children := by rw [partOperands, kind]
      rw [operands]
      exact ⟨_, succeeds_each_append.mpr ⟨_, middle, values, first, ranRest, rfl⟩⟩
    · rename_i kind
      obtain ⟨order, middle, first, ran⟩ := ran.bind
      obtain ⟨values, ranRest⟩ := ih ran
      have operands : partOperands part = part.children.flatMap fun item => item.children.take 1 := by
        rw [partOperands, kind]
      rw [operands]
      exact ⟨_, succeeds_each_append.mpr ⟨_, middle, values, succeeds_sortKeys first, ranRest, rfl⟩⟩
    · cases ran

theorem succeeds_window (ran : Succeeds tables (window r scope spec) before result after) :
    ∃ values, Succeeds tables (each (r.expr scope) (windowOperands spec)) before values after := by
  unfold window at ran
  split at ran
  · exact succeeds_windowParts ran
  · simp only [succeeds_bind, succeeds_get] at ran
    obtain ⟨_, _, ⟨rfl, rfl⟩, ran⟩ := ran
    split at ran
    · exact succeeds_windowParts ran
    · cases ran
  · cases ran

/-- How a call of a function is resolved. Over a window, the call is added to those of the selection. -/
inductive CallForm (r : Resolvers) (tables : Lookup) (scope : Scope) (node : Node) (before : State) :
    TypedExpr → State → Prop where
  | plain {after : State} (called : node.children[0]? = some callee)
      (known : Function.lookup? callee.dotted = some function) (alone : windowNode? node = none)
      (ran : Succeeds tables (each (argument r scope function single) (argumentNodes node)) before arguments after)
      (typed : function.resolve? (arguments.flatten.map TypedExpr.type) = some (signature, type)) :
      CallForm r tables scope node before (.call function arguments.flatten type node.span) after
  | inWindow {ready : State} (called : node.children[0]? = some callee)
      (known : Function.lookup? callee.dotted = some function) (windowed : windowNode? node = some spec)
      (allowed : before.analytic.isSome)
      (ran : Succeeds tables (each (argument r scope function single) (argumentNodes node)) before arguments middle)
      (typed : function.resolve? (arguments.flatten.map TypedExpr.type) = some (signature, type))
      (resolved : Succeeds tables (window r scope spec) middle found ready) :
      CallForm r tables scope node before
        (.column (windowCall ready function arguments.flatten found type node.span).column none)
        { ready with
          nextId := ready.nextId + 1
          analytic := ready.analytic.map (· ++ [windowCall ready function arguments.flatten found type node.span]) }

theorem succeeds_functionCall {value : TypedExpr}
    (ran : Succeeds tables (functionCall r scope node) before value after) :
    CallForm r tables scope node before value after := by
  unfold functionCall at ran
  simp only [malformed_bind] at ran
  obtain ⟨callee, called, ran⟩ := succeeds_child_bind.mp ran
  split at ran
  · cases ran
  split at ran
  · cases ran
  rename_i function known
  obtain ⟨_, _, checked, ran⟩ := ran.bind
  obtain ⟨allowed, rfl⟩ := succeeds_checkWindow checked
  obtain ⟨arguments, middle, ranArguments, ran⟩ := ran.bind
  split at ran
  · cases ran
  rename_i signature type typed
  split at ran
  · rename_i alone
    cases ran
    exact .plain called known alone ranArguments typed
  · rename_i spec windowed
    obtain ⟨found, ready, resolved, ran⟩ := ran.bind
    obtain ⟨rfl, rfl⟩ := succeeds_overWindow.mp ran
    exact .inWindow called known windowed (allowed (by rw [windowed]; rfl)) ranArguments typed resolved

theorem succeeds_innerQuery (ran : Succeeds tables (innerQuery r scope node) before found after) :
    ∃ last, Succeeds tables (r.query node) { before with outer := scope :: before.outer } found last ∧
      { last with outer := last.outer.tail } = after :=
  succeeds_enclosing.mp ran

inductive SubqueryForm (r : Resolvers) (tables : Lookup) (scope : Scope) (node : Node) (before : State) :
    Surface.SubqueryKind → TypedExpr → State → Prop where
  | alone {after : State} (plain : ∀ negated, asked ≠ .within negated) (found : node.children[0]? = some nested)
      (ran : Succeeds tables (innerQuery r scope nested) before (rows, outputs) after) :
      SubqueryForm r tables scope node before asked (.subquery kind rows none type node.span) after
  | within {middle after : State} (found : node.children[0]? = some operand)
      (found' : node.children[1]? = some nested)
      (ranTested : Succeeds tables (r.expr scope operand) before tested middle)
      (ran : Succeeds tables (innerQuery r scope nested) middle (rows, outputs) after) :
      SubqueryForm r tables scope node before (.within negated) (.subquery .within rows (some tested) .bool node.span)
        after

theorem succeeds_soleType (ran : Succeeds tables (soleType fault span outputs) before type after) : before = after := by
  unfold soleType at ran
  split at ran
  · exact (succeeds_pure.mp ran).2
  · cases ran

theorem succeeds_subquery (ran : Succeeds tables (subquery r scope node asked) before result after) :
    ∃ value, SubqueryForm r tables scope node before asked value after ∧ Negated value result := by
  cases asked with
  | scalar | array =>
    obtain ⟨inner, found, ran⟩ := succeeds_child_bind.mp ran
    obtain ⟨⟨scan, outputs⟩, middle, ranQuery, ran⟩ := ran.bind
    obtain ⟨type, _, sole, ran⟩ := ran.bind
    obtain rfl := succeeds_soleType sole
    cases ran
    exact ⟨_, .alone (by simp) found ranQuery, .plain⟩
  | exist negated =>
    obtain ⟨inner, found, ran⟩ := succeeds_child_bind.mp ran
    obtain ⟨⟨scan, outputs⟩, middle, ranQuery, ran⟩ := ran.bind
    obtain ⟨negation, rfl⟩ := succeeds_negateIf ran
    exact ⟨_, .alone (by simp) found ranQuery, negation⟩
  | within negated =>
    obtain ⟨operand, found, ran⟩ := succeeds_child_bind.mp ran
    obtain ⟨tested, middle, ranTested, ran⟩ := ran.bind
    obtain ⟨inner, found', ran⟩ := succeeds_child_bind.mp ran
    obtain ⟨⟨scan, outputs⟩, _, ranQuery, ran⟩ := ran.bind
    obtain ⟨type, _, sole, ran⟩ := ran.bind
    obtain rfl := succeeds_soleType sole
    simp only [fail_bind] at ran
    split at ran
    · cases ran
    · obtain ⟨negation, rfl⟩ := succeeds_negateIf ran
      exact ⟨_, .within found found' ranTested ranQuery, negation⟩

def isComputed : Surface.Kind → Bool
  | .binary _ | .unary _ | .isNull _ | .interval _ | .dotIdentifier | .cast _ | .inList _ | .between _ | .inUnnest _
  | .arrayElement _ | .arrayLiteral | .case _ => true
  | _ => false

inductive Combined : List TypedExpr → TypedExpr → Prop where
  | operator (typed : function.resolve? (arguments.map TypedExpr.type) = some (signature, type))
      (negation : Negated (.call function arguments type none) value) : Combined arguments value
  | array : Combined arguments (.call Function.makeArray arguments (.array type) none)
  | case : Combined arguments (.call Function.case arguments type none)
  | field : Combined [base] (.field base name type span)
  | cast (known : type ≠ .unknown) : Combined [base] (.cast base type safe span)

inductive ExprForm (r : Resolvers) (tables : Lookup) (scope : Scope) (node : Node) (before : State) :
    TypedExpr → State → Prop where
  | path {after : State} (kind : node.kind = .path) (ran : Succeeds tables (path scope node) before value after) :
      ExprForm r tables scope node before value after
  | literal (kind : node.kind = .literal constant) :
      ExprForm r tables scope node before (literal constant node.span) before
  | computed {after : State} (kind : isComputed node.kind)
      (ran : Succeeds tables (each (r.expr scope) (operands node)) before arguments after)
      (combined : Combined arguments value) : ExprForm r tables scope node before value after
  | call {after : State} (kind : node.kind = .functionCall distinct)
      (form : CallForm r tables scope node before value after) : ExprForm r tables scope node before value after
  | subquery {after : State} (kind : node.kind = .subquery asked)
      (form : SubqueryForm r tables scope node before asked unnegated after) (negation : Negated unnegated value) :
      ExprForm r tables scope node before value after

theorem ExprForm.of_operands (ran : Succeeds tables (each (r.expr scope) nodes) before arguments after)
    (combined : Combined arguments value)
    (kind : isComputed node.kind ∧ operands node = nodes := by simp [isComputed, operands, *]) :
    ExprForm r tables scope node before value after :=
  .computed kind.1 (kind.2 ▸ ran) combined

theorem operation_combined (ran : Succeeds tables (operation function symbol arguments span) before value after) :
    Combined arguments value ∧ before = after := by
  obtain ⟨signature, type, typed, rfl, rfl⟩ := succeeds_operation.mp ran
  exact ⟨.operator typed .plain, rfl⟩

theorem negatedOperation_combined
    (ran : Succeeds tables (do negateIf negated (← operation function symbol arguments span) span) before value after) :
    Combined arguments value ∧ before = after := by
  obtain ⟨call, _, first, ran⟩ := ran.bind
  obtain ⟨signature, type, typed, rfl, rfl⟩ := succeeds_operation.mp first
  obtain ⟨negation, rfl⟩ := succeeds_negateIf ran
  exact ⟨.operator typed negation, rfl⟩

theorem first_operand
    (ran : Succeeds tables (child node 0 >>= fun first => r.expr scope first >>= f) before value after) :
    ∃ operand middle, Succeeds tables (each (r.expr scope) (node.children.take 1)) before [operand] middle ∧
      Succeeds tables (f operand) middle value after := by
  obtain ⟨first, found, ran⟩ := succeeds_child_bind.mp ran
  obtain ⟨operand, middle, ranFirst, ran⟩ := ran.bind
  rw [take_one_of_getElem? found]
  exact ⟨operand, middle, succeeds_each_single ranFirst, ran⟩

theorem succeeds_elementType
    (ran : Succeeds tables (elementType span type types) before result after) : before = after := by
  induction types generalizing type with
  | nil => exact (succeeds_pure.mp ran).2
  | cons next rest ih =>
    unfold elementType at ran
    split at ran
    · exact ih ran
    · cases ran

theorem succeeds_expr (ran : Succeeds tables (expr r scope node) before value after) :
    ExprForm r tables scope node before value after := by
  unfold expr at ran
  cases kind : node.kind with
  | path =>
    simp only [kind] at ran
    exact .path kind ran
  | literal constant =>
    simp only [kind] at ran
    cases ran
    exact .literal kind
  | binary op =>
    simp only [kind] at ran
    obtain ⟨left, middle, ranLeft, ran⟩ := first_operand ran
    obtain ⟨second, found, ran⟩ := succeeds_child_bind.mp ran
    obtain ⟨right, _, ranRight, ran⟩ := ran.bind
    obtain ⟨combined, rfl⟩ := operation_combined ran
    refine .computed (by rw [kind]; rfl) ?_ combined
    have both : node.children.take 2 = node.children.take 1 ++ [second] := by
      simp [List.take_add_one, found]
    simp only [operands, kind, both]
    exact succeeds_each_append.mpr ⟨[left], middle, [right], ranLeft, succeeds_each_single ranRight, rfl⟩
  | unary op =>
    cases op <;>
    · simp only [kind] at ran
      obtain ⟨operand, middle, ranOperand, ran⟩ := first_operand ran
      obtain ⟨combined, rfl⟩ := operation_combined ran
      exact .of_operands ranOperand combined
  | isNull negated =>
    simp only [kind] at ran
    obtain ⟨operand, middle, ranOperand, ran⟩ := first_operand ran
    obtain ⟨combined, rfl⟩ := negatedOperation_combined ran
    exact .of_operands ranOperand combined
  | inList negated | between negated | inUnnest negated =>
    simp only [kind] at ran
    obtain ⟨arguments, middle, ranOperands, ran⟩ := ran.bind
    obtain ⟨combined, rfl⟩ := negatedOperation_combined ran
    exact .of_operands ranOperands combined
  | functionCall distinct =>
    simp only [kind] at ran
    exact .call kind (succeeds_functionCall ran)
  | dotIdentifier =>
    simp only [kind] at ran
    obtain ⟨base, middle, ranBase, ran⟩ := first_operand ran
    simp only [succeeds_bind, succeeds_child, succeeds_need] at ran
    obtain ⟨_, _, ⟨-, rfl⟩, name, _, ⟨-, rfl⟩, ran⟩ := ran
    obtain ⟨⟨type, rfl⟩, rfl⟩ := succeeds_fieldOf ran
    exact .of_operands ranBase .field
  | cast safe =>
    simp only [kind] at ran
    obtain ⟨base, middle, ranBase, ran⟩ := first_operand ran
    obtain ⟨typeNode, -, ran⟩ := succeeds_child_bind.mp ran
    split at ran
    · simp only [fail_bind] at ran
      split at ran
      · cases ran
      · rename_i known
        cases ran
        exact .of_operands ranBase (.cast known)
    · cases ran
  | case hasOperand =>
    simp only [kind] at ran
    obtain ⟨parts, middle, ranParts, ran⟩ := ran.bind
    cases ran
    exact .of_operands (succeeds_caseParts ranParts) .case
  | subquery asked =>
    simp only [kind] at ran
    obtain ⟨inner, form, negation⟩ := succeeds_subquery ran
    exact .subquery kind form negation
  | arrayLiteral =>
    simp only [kind] at ran
    obtain ⟨elements, middle, ranElements, ran⟩ := ran.bind
    obtain ⟨type, _, typed, ran⟩ := ran.bind
    obtain rfl := succeeds_elementType typed
    cases ran
    exact .of_operands ranElements .array
  | arrayElement position =>
    simp only [kind] at ran
    obtain ⟨arguments, middle, ranOperands, ran⟩ := ran.bind
    obtain ⟨combined, rfl⟩ := operation_combined ran
    exact .of_operands ranOperands combined
  | interval unit =>
    simp only [kind, fail_bind] at ran
    split at ran
    · cases ran
    · obtain ⟨operand, middle, ranOperand, ran⟩ := first_operand ran
      obtain ⟨combined, rfl⟩ := operation_combined ran
      exact .of_operands ranOperand combined
  | _ =>
    simp only [kind] at ran
    cases ran

theorem succeeds_condition (ran : Succeeds tables (condition r clause scope node) before test after) :
    Succeeds tables (r.expr scope node) before test after ∧ (test.type = .bool ∨ test.type = .unknown) := by
  obtain ⟨value, middle, ranValue, ran⟩ := ran.bind
  split at ran
  · rename_i bool
    cases ran
    exact ⟨ranValue, .inl bool⟩
  · rename_i unknown
    cases ran
    exact ⟨ranValue, .inr unknown⟩
  · cases ran

def conditionNodes (clause : Option Node) : List Node := clause.toList.flatMap fun clause => clause.children.take 1

theorem succeeds_clauseCondition
    (ran : Succeeds tables (perhaps (clauseCondition r clause scope) part) before test after) :
    Succeeds tables (each (r.expr scope) (conditionNodes part)) before test.toList after ∧
      ∀ value ∈ test, value.type = .bool ∨ value.type = .unknown := by
  cases part with
  | none =>
    obtain ⟨rfl, rfl⟩ := succeeds_perhaps_none.mp ran
    exact ⟨succeeds_each_nil.mpr ⟨rfl, rfl⟩, by simp⟩
  | some part =>
    obtain ⟨value, ranPart, rfl⟩ := succeeds_perhaps_some.mp ran
    obtain ⟨inner, found, ranPart⟩ := succeeds_child_bind.mp ranPart
    obtain ⟨ranInner, typed⟩ := succeeds_condition ranPart
    refine ⟨?_, by simpa using typed⟩
    simp only [conditionNodes, Option.toList_some, List.flatMap_singleton, take_one_of_getElem? found]
    exact succeeds_each_single ranInner

/-! ### Tables -/

theorem succeeds_joinCondition (ran : Succeeds tables (joinCondition r scope join) before test after) :
    Succeeds tables (each (r.expr scope) (conditionNodes (join.childOf? (· = .onClause)))) before test.toList after ∧
      ∀ value ∈ test, value.type = .bool ∨ value.type = .unknown := succeeds_clauseCondition ran

inductive ArrayValueForm (r : Resolvers) (tables : Lookup) (scope : Scope) (node : Node) (before : State) :
    TypedExpr → State → Prop where
  | path {after : State} (kind : node.kind = .tablePath)
      (ran : Succeeds tables (path scope names) before array after) :
      ArrayValueForm r tables scope node before array after
  | value {after : State} (kind : node.kind ≠ .tablePath) (found : node.children[0]? = some valueNode)
      (ran : Succeeds tables (r.expr scope valueNode) before array after) :
      ArrayValueForm r tables scope node before array after

theorem succeeds_arrayValue (ran : Succeeds tables (arrayValue r scope node) before found after) :
    ArrayValueForm r tables scope node before found.1 after := by
  unfold arrayValue at ran
  split at ran
  · rename_i kind
    simp only [succeeds_bind, succeeds_need, succeeds_pure] at ran
    obtain ⟨names, _, ⟨-, rfl⟩, array, _, ran, rfl, rfl⟩ := ran
    exact .path kind ran
  · rename_i kind
    simp only [succeeds_bind, succeeds_child, succeeds_pure] at ran
    obtain ⟨inner, _, ⟨found, rfl⟩, array, _, ran, rfl, rfl⟩ := ran
    exact .value kind found ran

theorem succeeds_unnestedType (ran : Succeeds tables (unnestedType array span) before type after) :
    (array.type = .array type ∨ (array.type = .unknown ∧ type = .unknown)) ∧ before = after := by
  unfold unnestedType at ran
  split at ran
  · rename_i element array
    cases ran
    exact ⟨.inl array, rfl⟩
  · rename_i unknown
    cases ran
    exact ⟨.inr ⟨unknown, rfl⟩, rfl⟩
  · cases ran

theorem succeeds_isOuter (ran : Succeeds tables (isOuter join kind) before outer after) : before = after := by
  cases kind <;> simp_all [isOuter]

def arrayRelation (element : Column) (offset : Option Column) : Relation :=
  ⟨none, (element :: offset.toList).map fun column => ⟨column.name, column⟩⟩

/-- How an array after `FROM` is resolved. The condition of its join sees the elements. -/
inductive ArrayForm (r : Resolvers) (tables : Lookup) (node : Node) (input : Option Scan) (scope : Scope)
    (joined : Option (Node × Surface.JoinKind)) (before : State) : Scan → Scope → State → Prop where
  | mk {valued named ready after : State}
      (value : ArrayValueForm r tables scope node before array valued)
      (typed : array.type = .array type ∨ (array.type = .unknown ∧ type = .unknown))
      (elementMade : Succeeds tables (fresh "$array" name type) valued element named)
      (offsetMade : Succeeds tables
        (perhaps (fun (node : Node) =>
          fresh "$array" (node.alias?.getD "offset") .int64) offsetNode) named offset ready)
      (conditioned : Succeeds tables (each (r.expr (scope ++ [arrayRelation element offset]))
        (conditionNodes (joined.bind fun joined => joined.1.childOf? (· = .onClause)))) ready test.toList after)
      (tested : ∀ value ∈ test, value.type = .bool ∨ value.type = .unknown) :
      ArrayForm r tables node input scope joined before
        (.array ((input.map Scan.columns).getD [] ++ element ::
          offset.toList) input array element offset test outer span)
        (scope ++ [arrayRelation element offset]) after

theorem succeeds_arraySource (ran : Succeeds tables (arraySource r node input scope joined) before found after) :
    ArrayForm r tables node input scope joined before found.1 found.2 after := by
  obtain ⟨⟨array, name, offsetNode⟩, valued, ranValue, ran⟩ := ran.bind
  have value := succeeds_arrayValue ranValue
  obtain ⟨type, _, ranType, ran⟩ := ran.bind
  obtain ⟨typed, rfl⟩ := succeeds_unnestedType ranType
  obtain ⟨element, named, elementMade, ran⟩ := ran.bind
  obtain ⟨offset, ready, offsetMade, ran⟩ := ran.bind
  cases joined with
  | none =>
    cases ran
    exact .mk value typed elementMade offsetMade (succeeds_each_nil.mpr ⟨rfl, rfl⟩) (by simp)
  | some joined =>
    obtain ⟨outer, _, ranOuter, ran⟩ := ran.bind
    obtain rfl := succeeds_isOuter ranOuter
    obtain ⟨test, _, ranTest, ran⟩ := ran.bind
    cases ran
    obtain ⟨conditioned, tested⟩ := succeeds_joinCondition ranTest
    exact .mk value typed elementMade offsetMade conditioned tested

inductive SourceForm (r : Resolvers) (tables : Lookup) (node : Node) (before : State) :
    Scan → Scope → State → Prop where
  | table {after : State} (kind : node.kind = .tablePath) (known : tables name = some table)
      (made : Succeeds tables
        (freshColumns name (table.schema.map fun field => (field.name, field.type))) before columns
        after) :
      SourceForm r tables node before (.table name aliasName (columns.map NamedColumn.column) node.span)
        [⟨aliasName, columns⟩] after
  | reference {after : State} (kind : node.kind = .tablePath) (known : entry ∈ before.common)
      (made : Succeeds tables
        (freshColumns entry.name
          (entry.columns.map fun output => (output.name, output.column.type))) before columns after) :
      SourceForm r tables node before (.reference (columns.map NamedColumn.column) entry.name aliasName node.span)
        [⟨some aliasName, columns⟩] after
  | query {after : State} (kind : node.kind = .tableSubquery) (found : node.children[0]? = some nested)
      (ran : Succeeds tables (r.query nested) before (rows, outputs) after) :
      SourceForm r tables node before rows [⟨node.alias?, outputs⟩] after
  | array {after : State} (kind : node.kind = .unnest)
      (form : ArrayForm r tables node none [] none before rows seen after) :
      SourceForm r tables node before rows seen after
  | arrayJoin {middle after : State} (kind : node.kind = .join join) (foundLeft : node.children[0]? = some leftNode)
      (foundRight : node.children[1]? = some rightNode)
      (isArray : rightNode.kind = .unnest ∨ rightNode.kind = .tablePath)
      (ranLeft : Succeeds tables (r.source leftNode) before (left, leftScope) middle)
      (form : ArrayForm r tables rightNode (some left) leftScope (some (node, join)) middle rows seen after) :
      SourceForm r tables node before rows seen after
  | join {middle ready after : State} (kind : node.kind = .join join) (foundLeft : node.children[0]? = some leftNode)
      (foundRight : node.children[1]? = some rightNode) (noArray : rightNode.kind ≠ .unnest)
      (ranLeft : Succeeds tables (r.source leftNode) before (left, leftScope) middle)
      (ranRight : Succeeds tables (r.source rightNode) middle (right, rightScope) ready)
      (conditioned : Succeeds tables
        (each (r.expr (leftScope ++ rightScope))
          (conditionNodes (node.childOf? (· = .onClause)))) ready test.toList after)
      (tested : ∀ value ∈ test, value.type = .bool ∨ value.type = .unknown) :
      SourceForm r tables node before (.join (left.columns ++ right.columns) (joinType join) left right test node.span)
        (leftScope ++ rightScope) after

theorem succeeds_tableSource (kind : node.kind = .tablePath)
    (ran : Succeeds tables (tableSource node) before found after) :
    SourceForm r tables node before found.1 found.2 after := by
  simp only [tableSource, succeeds_bind, succeeds_need, succeeds_get] at ran
  obtain ⟨path, _, ⟨-, rfl⟩, _, _, ⟨rfl, rfl⟩, ran⟩ := ran
  split at ran
  · rename_i entry known
    simp only [commonReference, succeeds_bind, succeeds_pure] at ran
    obtain ⟨columns, _, made, rfl, rfl⟩ := ran
    have listed : entry ∈ before.common := by
      unfold commonTable? at known
      split at known
      · exact List.mem_of_find?_eq_some known
      · cases known
    exact .reference kind listed made
  · simp only [succeeds_bind, succeeds_read] at ran
    obtain ⟨_, _, ⟨rfl, rfl⟩, ran⟩ := ran
    split at ran
    · cases ran
    · rename_i table known
      simp only [succeeds_bind, succeeds_pure] at ran
      obtain ⟨columns, _, made, rfl, rfl⟩ := ran
      exact .table kind known made

theorem tablePath_of_isCorrelated (correlated : isCorrelated scope node) : node.kind = .tablePath := by
  unfold isCorrelated at correlated
  split at correlated
  · assumption
  · cases correlated

theorem succeeds_joinSource (kind : node.kind = .join join)
    (ran : Succeeds tables (joinSource r node join) before found after) :
    SourceForm r tables node before found.1 found.2 after := by
  obtain ⟨leftNode, foundLeft, ran⟩ := succeeds_child_bind.mp ran
  obtain ⟨⟨left, leftScope⟩, middle, ranLeft, ran⟩ := ran.bind
  obtain ⟨rightNode, foundRight, ran⟩ := succeeds_child_bind.mp ran
  split at ran
  · rename_i isArray
    have isArray : rightNode.kind = .unnest ∨ rightNode.kind = .tablePath := by
      rcases (Bool.or_eq_true _ _).mp isArray with unnest | correlated
      · exact .inl (of_decide_eq_true unnest)
      · exact .inr (tablePath_of_isCorrelated correlated)
    exact .arrayJoin kind foundLeft foundRight isArray ranLeft (succeeds_arraySource ran)
  · rename_i isArray
    have noArray : rightNode.kind ≠ .unnest := by
      intro unnest
      simp [unnest] at isArray
    obtain ⟨⟨right, rightScope⟩, ready, ranRight, ran⟩ := ran.bind
    obtain ⟨test, _, ranTest, ran⟩ := ran.bind
    simp only [fail_bind] at ran
    split at ran
    · cases ran
    · cases ran
      obtain ⟨conditioned, tested⟩ := succeeds_joinCondition ranTest
      exact .join kind foundLeft foundRight noArray ranLeft ranRight conditioned tested

theorem succeeds_source (ran : Succeeds tables (source r node) before found after) :
    SourceForm r tables node before found.1 found.2 after := by
  unfold source at ran
  cases kind : node.kind with
  | tablePath =>
    simp only [kind] at ran
    exact succeeds_tableSource kind ran
  | tableSubquery =>
    simp only [kind, succeeds_bind, succeeds_child, succeeds_pure] at ran
    obtain ⟨inner, _, ⟨found, rfl⟩, ⟨scan, outputs⟩, _, ranQuery, rfl, rfl⟩ := ran
    exact .query kind found ranQuery
  | unnest =>
    simp only [kind] at ran
    exact .array kind (succeeds_arraySource ran)
  | join join =>
    simp only [kind] at ran
    exact succeeds_joinSource kind ran
  | _ =>
    simp only [kind] at ran
    cases ran

/-! ### Selections -/

theorem succeeds_expandStar {star : Node}
    (ran : Succeeds tables (expandStar columns star) before result after) :
    (∃ stays : NamedColumn → Bool, columns.filter stays = result) ∧ before = after := by
  obtain ⟨excluded, middle, ranNames, ran⟩ := ran.bind
  cases ran
  refine ⟨⟨_, rfl⟩, each_unchanged (fun name value first last ran => ?_) ranNames⟩
  simp only [succeeds_bind, succeeds_need] at ran
  obtain ⟨_, _, ⟨-, rfl⟩, ran⟩ := ran
  split at ran
  · exact (succeeds_pure.mp ran).2
  · cases ran

/-- How a selected item is resolved: a star lists columns of the scope, a reference to a column stays that column, and
anything else becomes a new column. -/
inductive ItemForm (r : Resolvers) (tables : Lookup) (scope : Scope) (item : Node) (before : State) :
    Selected → State → Prop where
  | star (found : item.children[0]? = some first) (kind : first.kind = .star)
      (listed : (scope.flatMap Relation.columns).filter stays = outputs) :
      ItemForm r tables scope item before ⟨outputs, [], false⟩ before
  | dotStar (found : item.children[0]? = some first) (kind : first.kind = .dotStar) (known : relation ∈ scope)
      (listed : relation.columns.filter stays = outputs) :
      ItemForm r tables scope item before ⟨outputs, [], false⟩ before
  | column {after : State} (found : item.children[0]? = some first)
      (ran : Succeeds tables (r.expr scope first) before (.column column span) after) :
      ItemForm r tables scope item before ⟨[⟨name, column⟩], [], false⟩ after
  | computed {middle after : State} (found : item.children[0]? = some first)
      (ran : Succeeds tables (r.expr scope first) before value middle)
      (noColumn : ∀ column span, value ≠ .column column span)
      (made : Succeeds tables (fresh "$query" name value.type) middle column after) :
      ItemForm r tables scope item before ⟨[⟨name, column⟩], [.mk column value], value.hasAggregate⟩ after

theorem succeeds_selectItem (ran : Succeeds tables (selectItem r scope entry) before selected after) :
    ItemForm r tables scope entry.1 before selected after := by
  obtain ⟨first, found, ran⟩ := succeeds_child_bind.mp ran
  split at ran
  · rename_i kind
    simp only [fail_bind] at ran
    split at ran
    · cases ran
    · obtain ⟨columns, _, ranStar, ran⟩ := ran.bind
      obtain ⟨⟨stays, listed⟩, rfl⟩ := succeeds_expandStar ranStar
      cases ran
      exact .star found kind listed
  · rename_i kind
    obtain ⟨path, -, ran⟩ := succeeds_child_bind.mp ran
    simp only [malformed_bind] at ran
    split at ran
    · cases ran
    split at ran
    · rename_i relation known
      obtain ⟨star, -, ran⟩ := succeeds_child_bind.mp ran
      obtain ⟨columns, _, ranStar, ran⟩ := ran.bind
      obtain ⟨⟨stays, listed⟩, rfl⟩ := succeeds_expandStar ranStar
      cases ran
      exact .dotStar found kind (List.mem_of_find?_eq_some known) listed
    · cases ran
  · obtain ⟨value, middle, ranValue, ran⟩ := ran.bind
    split at ran
    · cases ran
      exact .column found ranValue
    · rename_i noColumn
      obtain ⟨column, _, made, ran⟩ := ran.bind
      cases ran
      exact .computed found ranValue noColumn made

theorem succeeds_collecting :
    Succeeds tables (collecting calls m) before result after ↔
      ∃ middle, Succeeds tables m { before with analytic := some calls } result.1 middle ∧
        middle.analytic.getD [] = result.2 ∧ { middle with analytic := none } = after := by
  simp only [collecting, succeeds_bind, succeeds_modify, succeeds_get, succeeds_pure]
  constructor
  · rintro ⟨_, _, rfl, value, middle, ran, _, _, ⟨rfl, rfl⟩, _, _, rfl, rfl, rfl⟩
    exact ⟨middle, ran, rfl, rfl⟩
  · rintro ⟨middle, ran, collected, rfl⟩
    exact ⟨⟨⟩, _, rfl, result.1, middle, ran, middle, middle, ⟨rfl, rfl⟩, ⟨⟩, _, rfl, by rw [collected], rfl⟩

def groupedRows (span : Option Span) (rows : Scan) (test : Option TypedExpr) (needed : Bool) (groups : List Computed)
    (having : Option TypedExpr) : Scan :=
  filtered span (if needed then grouped span (filtered span rows test) groups else filtered span rows test) having

/-- How a selection is resolved, clause by clause. Calls over windows are collected from the selected items and from
`QUALIFY`, and nowhere else. -/
inductive SelectForm (r : Resolvers) (tables : Lookup) (node : Node) (before : State) :
    Scan → List NamedColumn → Scope → State → Prop where
  | mk {sourced tested named listing grouping having qualified : State}
      (split : SelectParts.of? node.children = some parts)
      (ranTables : Succeeds tables (selectTables r parts.tables) { before with analytic := none, windows := [] }
        (rows, seen) sourced)
      (ranFilter : Succeeds tables (each (r.expr seen) (conditionNodes parts.filter)) sourced test.toList tested)
      (ranWindows : Succeeds tables (each (nameWindow r seen) ((parts.windows.map Node.children).getD [])) tested units
        named)
      (listed : parts.list = some list)
      (ranItems : Succeeds tables (each (selectItem r seen) list.children.zipIdx)
        { named with analytic := some [] } items
        listing)
      (ranGroups : Succeeds tables
        (each (groupItem r seen (Selected.join items).outputs) ((parts.groups.map Node.children).getD []).zipIdx)
        { listing with analytic := none } groups grouping)
      (ranHaving : Succeeds tables (each (r.expr seen) (conditionNodes parts.having)) grouping havingTest.toList having)
      (ranQualify : Succeeds tables
        (each (r.expr (qualifyScope seen (Selected.join items).outputs)) (conditionNodes parts.qualify))
        { having with analytic := some (listing.analytic.getD []) } qualify.toList qualified)
      (boolean : ∀ value, value ∈ test ∨ value ∈ havingTest ∨ value ∈ qualify →
        value.type = .bool ∨ value.type = .unknown)
      (unneeded : needed = false → groups = []) :
      SelectForm r tables node before
        (.project ((Selected.join items).outputs.map NamedColumn.column) (Selected.join items).computed
          (filtered node.span
            (windowed node.span (groupedRows node.span rows test needed groups havingTest) (qualified.analytic.getD []))
            qualify)
          node.span)
        (Selected.join items).outputs seen { qualified with analytic := before.analytic, windows := before.windows }

theorem succeeds_select (ran : Succeeds tables (select r node) before found after) :
    SelectForm r tables node before found.1 found.2.1 found.2.2 after := by
  obtain ⟨last, inside, rfl⟩ := succeeds_restoring.mp ran
  simp only [succeeds_bind, succeeds_modify, succeeds_need] at inside
  obtain ⟨_, _, rfl, parts, _, ⟨split, rfl⟩, ran⟩ := inside
  obtain ⟨⟨rows, seen⟩, sourced, ranTables, ran⟩ := ran.bind
  obtain ⟨test, tested, ranFilter, ran⟩ := ran.bind
  obtain ⟨units, named, ranWindows, ran⟩ := ran.bind
  obtain ⟨list, _, asked, ran⟩ := ran.bind
  obtain ⟨listed, rfl⟩ := succeeds_need.mp asked
  obtain ⟨⟨items, calls⟩, _, collected, ran⟩ := ran.bind
  obtain ⟨listing, ranItems, rfl, rfl⟩ := succeeds_collecting.mp collected
  obtain ⟨groups, grouping, ranGroups, ran⟩ := ran.bind
  obtain ⟨havingTest, having, ranHaving, ran⟩ := ran.bind
  obtain ⟨⟨qualify, calls⟩, _, collected, ran⟩ := ran.bind
  obtain ⟨qualified, ranQualify, rfl, rfl⟩ := succeeds_collecting.mp collected
  cases ran
  obtain ⟨ranFilter, testBoolean⟩ := succeeds_clauseCondition ranFilter
  obtain ⟨ranHaving, havingBoolean⟩ := succeeds_clauseCondition ranHaving
  obtain ⟨ranQualify, qualifyBoolean⟩ := succeeds_clauseCondition ranQualify
  refine .mk split ranTables ranFilter ranWindows listed ranItems ranGroups ranHaving ranQualify ?_ fun unneeded => ?_
  · rintro value (inTest | inHaving | inQualify)
    · exact testBoolean value inTest
    · exact havingBoolean value inHaving
    · exact qualifyBoolean value inQualify
  · have noGroups : parts.groups = none := by
      simp only [Bool.or_eq_false_iff] at unneeded
      exact Option.isNone_iff_eq_none.mp (by simpa using unneeded.1.1)
    rw [noGroups] at ranGroups
    exact (succeeds_each_nil.mp ranGroups).1.symm

inductive GroupForm (r : Resolvers) (tables : Lookup) (scope : Scope) (outputs : List NamedColumn) (item : Node)
    (before : State) : TypedExpr → State → Prop where
  | value {after : State} (ran : Succeeds tables (r.expr scope item) before value after) :
      GroupForm r tables scope outputs item before value after
  | output {failure : Failure} {after : State}
      (failed : (r.expr scope item).outcome tables before = (.error failure, after))
      (single : singleName? item = some name) (listed : output ∈ outputs) :
      GroupForm r tables scope outputs item before (.column output.column item.span) after

theorem succeeds_groupExpr (ran : Succeeds tables (groupExpr r scope outputs node) before value after) :
    GroupForm r tables scope outputs node before value after := by
  unfold Succeeds at ran
  rw [groupExpr_outcome] at ran
  cases result : (r.expr scope node).outcome tables before with
  | mk outcome middle =>
    rw [result] at ran
    cases outcome with
    | ok value =>
      cases ran
      exact .value result
    | error failure =>
      dsimp only at ran
      split at ran
      · rename_i output named
        cases ran
        obtain ⟨name, single, found⟩ := Option.bind_eq_some_iff.mp named
        exact .output result single (List.mem_of_find?_eq_some found)
      · cases ran

theorem succeeds_groupItem (ran : Succeeds tables (groupItem r scope outputs entry) before group after) :
    ∃ value middle column, GroupForm r tables scope outputs entry.1 before value middle ∧ .mk column value = group ∧
      ((∃ span, .column column span = value) ∧ middle = after ∨
        ∃ name, Succeeds tables (fresh "$groupby" name value.type) middle column after) := by
  obtain ⟨value, middle, ranValue, ran⟩ := ran.bind
  have form := succeeds_groupExpr ranValue
  split at ran
  · cases ran
    exact ⟨_, _, _, form, rfl, .inl ⟨⟨_, rfl⟩, rfl⟩⟩
  · obtain ⟨column, _, made, ran⟩ := ran.bind
    cases ran
    exact ⟨value, middle, column, form, rfl, .inr ⟨_, made⟩⟩

theorem succeeds_nameWindow (ran : Succeeds tables (nameWindow r scope node) before result after) :
    ∃ spec middle name resolved, node.children[0]? = some spec ∧
      Succeeds tables (window r scope spec) before resolved middle ∧
        { middle with windows := middle.windows ++ [(name, resolved)] } = after := by
  simp only [nameWindow, fail_bind, succeeds_bind, succeeds_need, succeeds_get] at ran
  obtain ⟨name, _, ⟨-, rfl⟩, _, _, ⟨rfl, rfl⟩, ran⟩ := ran
  split at ran
  · cases ran
  · simp only [succeeds_bind, succeeds_child, succeeds_modify] at ran
    obtain ⟨spec, _, ⟨found, rfl⟩, resolved, middle, ran, last⟩ := ran
    exact ⟨spec, middle, name, resolved, found, ran, last⟩

/-! ### Queries -/

theorem succeeds_nameQuery (ran : Succeeds tables (nameQuery r node) before entry after) :
    ∃ inner name scan columns middle, node.children[0]? = some inner ∧
      Succeeds tables (r.query inner) before (scan, columns) middle ∧ .mk name scan = entry ∧
        { middle with common := ⟨name, columns⟩ :: middle.common } = after := by
  simp only [nameQuery, succeeds_bind, succeeds_need, succeeds_child, succeeds_modify, succeeds_pure] at ran
  obtain ⟨name, _, ⟨-, rfl⟩, inner, _, ⟨found, rfl⟩, ⟨scan, columns⟩, middle, ran, _, _, rfl, made, rfl⟩ := ran
  exact ⟨inner, name, scan, columns, middle, found, ran, made, rfl⟩

inductive OrderForm (r : Resolvers) (tables : Lookup) (outputs : List NamedColumn) (scope : Scope) (node : Node)
    (before : State) : TypedExpr → State → Prop where
  | output (single : singleName? node = some name) (listed : output ∈ outputs) :
      OrderForm r tables outputs scope node before (.column output.column node.span) before
  | value {after : State} (ran : Succeeds tables (r.expr scope node) before value after) :
      OrderForm r tables outputs scope node before value after

theorem succeeds_orderExpr (ran : Succeeds tables (orderExpr r outputs scope node) before value after) :
    OrderForm r tables outputs scope node before value after := by
  unfold orderExpr at ran
  split at ran
  · rename_i output named
    cases ran
    obtain ⟨name, single, found⟩ := Option.bind_eq_some_iff.mp named
    exact .output single (List.mem_of_find?_eq_some found)
  · exact .value ran

def orderNodes (clause : Option Node) : List Node :=
  clause.toList.flatMap fun clause => clause.children.flatMap fun item => item.children.take 1

def limitNodes (clause : Option Node) : List Node := clause.toList.flatMap fun clause => clause.children.take 2

def orderedRows (span : Option Span) (scan : Scan) (clause : Option Node) (keys : List SortKey) : Scan :=
  match clause with
  | none => scan
  | some _ => .orderBy scan.columns scan keys span

theorem succeeds_ordered {outputs : List NamedColumn} {result : Scan} {clause : Option Node}
    (ran : Succeeds tables (ordered r node outputs scope scan clause) before result after) :
    ∃ keys, Succeeds tables (each (orderExpr r outputs scope) (orderNodes clause)) before
      (keys.map SortKey.expr) after ∧
      orderedRows node.span scan clause keys = result := by
  cases clause with
  | none =>
    cases ran
    exact ⟨[], succeeds_each_nil.mpr ⟨rfl, rfl⟩, rfl⟩
  | some clause =>
    obtain ⟨keys, _, ranKeys, ran⟩ := ran.bind
    cases ran
    refine ⟨keys, ?_, rfl⟩
    simpa only [orderNodes, Option.toList_some, List.flatMap_singleton] using succeeds_sortKeys ranKeys

inductive LimitedRows (span : Option Span) (scan : Scan) : List TypedExpr → Scan → Prop where
  | all : LimitedRows span scan [] scan
  | bounded : LimitedRows span scan (count :: offset.toList) (.limit scan.columns scan count offset span)

theorem succeeds_limited {result : Scan} {clause : Option Node}
    (ran : Succeeds tables (limited r node scan clause) before result after) :
    ∃ bounds, Succeeds tables (each (r.expr []) (limitNodes clause)) before bounds after ∧
      LimitedRows node.span scan bounds result := by
  cases clause with
  | none =>
    cases ran
    exact ⟨[], succeeds_each_nil.mpr ⟨rfl, rfl⟩, .all⟩
  | some clause =>
    obtain ⟨first, found, ran⟩ := succeeds_child_bind.mp ran
    obtain ⟨count, middle, ranCount, ran⟩ := ran.bind
    obtain ⟨offset, _, ranOffset, ran⟩ := ran.bind
    cases ran
    refine ⟨_, ?_, .bounded⟩
    have taken : clause.children.take 2 = first :: clause.children[1]?.toList := by
      rw [List.take_add_one, take_one_of_getElem? found]
      rfl
    simp only [limitNodes, Option.toList_some, List.flatMap_singleton, taken]
    refine succeeds_each_cons.mpr ⟨count, middle, offset.toList, ranCount, ?_, rfl⟩
    cases second : clause.children[1]? with
    | none =>
      rw [second] at ranOffset
      obtain ⟨rfl, rfl⟩ := succeeds_perhaps_none.mp ranOffset
      exact succeeds_each_nil.mpr ⟨rfl, rfl⟩
    | some next =>
      rw [second] at ranOffset
      obtain ⟨value, ranValue, rfl⟩ := succeeds_perhaps_some.mp ranOffset
      exact succeeds_each_single ranValue

inductive QueryForm (r : Resolvers) (tables : Lookup) (node : Node) (before : State) :
    Scan → List NamedColumn → State → Prop where
  | mk {named bodied sorted last : State} {entries : List Entry} (split : QueryParts.of? node.children = some parts)
      (ranEntries : Succeeds tables (each (nameQuery r) parts.entries) before entries named)
      (given : parts.body = some bodyNode)
      (ranBody : Succeeds tables (r.body bodyNode) named (unsorted, outputs, seen) bodied)
      (ranOrder : Succeeds tables (each (orderExpr r outputs seen) (orderNodes parts.order)) bodied
        (keys.map SortKey.expr) sorted)
      (ranLimit : Succeeds tables (each (r.expr []) (limitNodes parts.limit)) sorted bounds last)
      (limited : LimitedRows node.span (orderedRows node.span unsorted parts.order keys) bounds rows) :
      QueryForm r tables node before (if entries.isEmpty then rows else .common rows.columns entries rows node.span)
        outputs { last with common := truncate before.common.length last.common }

theorem succeeds_query (ran : Succeeds tables (query r node) before found after) :
    QueryForm r tables node before found.1 found.2 after := by
  obtain ⟨last, inside, rfl⟩ := succeeds_restoring.mp ran
  obtain ⟨parts, _, asked, ran⟩ := succeeds_bind.mp inside
  obtain ⟨split, rfl⟩ := succeeds_need.mp asked
  obtain ⟨entries, named, ranEntries, ran⟩ := ran.bind
  obtain ⟨bodyNode, _, askedBody, ran⟩ := ran.bind
  obtain ⟨given, rfl⟩ := succeeds_need.mp askedBody
  obtain ⟨⟨scan, outputs, seen⟩, bodied, ranBody, ran⟩ := ran.bind
  obtain ⟨_, sorted, sorting, ran⟩ := ran.bind
  obtain ⟨keys, ranOrder, rfl⟩ := succeeds_ordered sorting
  obtain ⟨rows, _, limiting, ran⟩ := ran.bind
  obtain ⟨bounds, ranLimit, limited⟩ := succeeds_limited limiting
  cases ran
  exact .mk split ranEntries given ranBody ranOrder ranLimit limited

theorem succeeds_setColumn :
    Succeeds tables (setColumn op distinct span entry) before output after ↔
      ∃ type, entry.1.1.column.type.supertype? entry.1.2.column.type = some type ∧ ∃ column,
        Succeeds tables (fresh (setTable op distinct) entry.1.1.name type) before column after ∧
          ⟨entry.1.1.name, column⟩ = output := by
  unfold setColumn
  dsimp only
  split
  · rename_i type common
    simp only [common, succeeds_bind, succeeds_pure]
    grind
  · rename_i none
    simp [none]

/-- How a selection, set operation or query in parentheses is resolved. Only a selection shows what its tables make
visible. -/
inductive BodyForm (r : Resolvers) (tables : Lookup) (node : Node) (before : State) :
    Scan → List NamedColumn → Scope → State → Prop where
  | select {after : State} (kind : node.kind = .select distinct)
      (form : SelectForm r tables node before rows outputs seen after) :
      BodyForm r tables node before rows outputs seen after
  | setOperation {first second after : State} (kind : node.kind = .setOperation op distinct)
      (foundLeft : node.children[0]? = some leftNode) (foundRight : node.children[1]? = some rightNode)
      (ranLeft : Succeeds tables (r.body leftNode) before (left, leftOutputs, leftScope) first)
      (ranRight : Succeeds tables (r.body rightNode) first (right, rightOutputs, rightScope) second)
      (sameLength : leftOutputs.length = rightOutputs.length)
      (made : Succeeds tables
        (each (setColumn op distinct node.span) (leftOutputs.zip rightOutputs).zipIdx) second outputs
        after) :
      BodyForm r tables node before
        (.setOperation (outputs.map NamedColumn.column) op distinct left right node.span) outputs [] after
  | query {after : State} (kind : node.kind = .query) (form : QueryForm r tables node before rows outputs after) :
      BodyForm r tables node before rows outputs [] after

theorem succeeds_body (ran : Succeeds tables (body r node) before found after) :
    BodyForm r tables node before found.1 found.2.1 found.2.2 after := by
  unfold body at ran
  cases kind : node.kind with
  | select distinct =>
    simp only [kind] at ran
    exact .select kind (succeeds_select ran)
  | setOperation op distinct =>
    simp only [kind] at ran
    obtain ⟨leftNode, foundLeft, ran⟩ := succeeds_child_bind.mp ran
    obtain ⟨⟨left, leftOutputs, leftScope⟩, first, ranLeft, ran⟩ := ran.bind
    obtain ⟨rightNode, foundRight, ran⟩ := succeeds_child_bind.mp ran
    obtain ⟨⟨right, rightOutputs, rightScope⟩, second, ranRight, ran⟩ := ran.bind
    simp only [fail_bind] at ran
    split at ran
    · cases ran
    · rename_i sameLength
      obtain ⟨outputs, _, made, ran⟩ := ran.bind
      cases ran
      exact .setOperation kind foundLeft foundRight ranLeft ranRight (Decidable.not_not.mp sameLength) made
  | query =>
    simp only [kind] at ran
    obtain ⟨⟨scan, outputs⟩, _, ranQuery, ran⟩ := ran.bind
    cases ran
    exact .query kind (succeeds_query ranQuery)
  | _ =>
    simp only [kind] at ran
    cases ran

/-- A statement that is resolved stands where its node does. It has a query, which sees no common tables and no
enclosing scopes. -/
theorem succeeds_statement_at (ran : Succeeds tables (statement node) before resolved after) :
    resolved.span = node.span ∧ ∃ queryNode, node.children[0]? = some queryNode ∧
      Succeeds tables ((resolvers queryNode.height).query queryNode) { before with common := [], outer := [] }
        (resolved.query, resolved.outputs) after := by
  unfold statement at ran
  simp only [fail_bind] at ran
  split at ran
  · cases ran
  · simp only [succeeds_bind, succeeds_modify, succeeds_child, succeeds_pure] at ran
    obtain ⟨_, _, rfl, queryNode, _, ⟨found, rfl⟩, ⟨scan, outputs⟩, _, ranQuery, rfl, rfl⟩ := ran
    exact ⟨rfl, queryNode, found, ranQuery⟩

theorem succeeds_statement (ran : Succeeds tables (statement node) before resolved after) :
    ∃ queryNode, node.children[0]? = some queryNode ∧
      Succeeds tables ((resolvers queryNode.height).query queryNode) { before with common := [], outer := [] }
        (resolved.query, resolved.outputs) after := (succeeds_statement_at ran).2

end SqlLens.Analysis
