import SqlLens.Proofs.Analysis.Frame
import SqlLens.Proofs.Analysis.Inversion
import SqlLens.Proofs.Analysis.Lockstep
import SqlLens.Script.Artifact

/-!
What selected columns are called.

A path that is selected without an alias keeps its last name only if something is computed for it, as for a field. A
column is passed on under its own name, whatever it was called where it was selected from. So a renamed column cannot be
selected by its new name through two queries, one within the other, and any other can through any number of them
(`selected_path_named_by_column`).
-/

namespace SqlLens.Analysis

open List hiding after span
open SqlLens.Resolved (Column NamedColumn)
open SqlLens.Surface (Node)

variable {r : Resolvers} {tables : Lookup} {before after : State} {scope : Scope} {name : String} {inner node : Node}
  {outputs : List NamedColumn}

def passedName (index : Nat) (column : Column) : String :=
  if column.table = "$analytic" then placeName index else column.name

/-! ### Selected paths -/

def PathNamed (entry : Node × Nat) (selected : Selected) : Prop :=
  ∀ path last, entry.1.children[0]? = some path → path.kind = .path → path.names.getLast? = some last →
    entry.1.alias? = none →
    ∃ output, selected.outputs = [output] ∧
      output.name = if selected.computed.isEmpty then passedName entry.2 output.column else last

theorem selectItem_named (ran : Succeeds tables (selectItem r scope entry) before selected after) :
    PathNamed entry selected := by
  intro path last found kind named bare
  obtain ⟨first, same, ran⟩ := succeeds_child_bind.mp ran
  cases found.symm.trans same
  simp only [kind] at ran
  obtain ⟨value, _, -, ran⟩ := ran.bind
  split at ran
  · cases ran
    exact ⟨_, rfl, by rw [bare]; rfl⟩
  · obtain ⟨column, _, -, ran⟩ := ran.bind
    cases ran
    exact ⟨_, rfl, by simp [bare, ownName?, kind, named]⟩

theorem selectItems_named (ran : Succeeds tables (each (selectItem r scope) entries) before items after) :
    Forall₂ PathNamed entries items := by
  induction entries generalizing before items with
  | nil =>
    obtain ⟨rfl, -⟩ := succeeds_each_nil.mp ran
    exact .nil
  | cons entry rest ih =>
    obtain ⟨_, _, _, first, others, rfl⟩ := succeeds_each_cons.mp ran
    exact .cons (selectItem_named first) (ih others)

/-! ### A name selected from a query -/

def Yields (tables : Lookup) (node : Node) (before : State) (outputs : List NamedColumn) : Prop :=
  ∃ scan after, Succeeds tables ((resolvers node.height).query node) before (scan, outputs) after

/-- The name stands for the column in what the query is resolved to within another. -/
def Shows (tables : Lookup) (inner : Node) (before : State) (name : String) (column : Column) : Prop :=
  ∃ outputs own, Yields tables inner { before with analytic := none, windows := [] } outputs ∧
    outputs.find? (fun output => Text.sameName output.name name) = some ⟨own, column⟩

theorem shows_unique (shown : Shows tables inner before name first) (again : Shows tables inner before name second) :
    first = second := by
  obtain ⟨_, _, ⟨_, _, ran⟩, found⟩ := shown
  obtain ⟨_, _, ⟨_, _, ranAgain⟩, foundAgain⟩ := again
  cases ran.symm.trans ranAgain
  cases found.symm.trans foundAgain
  rfl

/-- `SELECT name FROM (inner)`, wherever its parts stand. -/
inductive Selects (name : String) (inner : Node) : Node → Prop where
  | mk (kind : inner.kind = .query) : Selects name inner (.mk .query whole [.mk (.select false) selection
      [.mk .selectList list [.mk .selectColumn item [.mk .path names [.mk (.identifier name) place []]]],
        .mk .fromClause clause [.mk .tableSubquery table [inner]]]])

theorem query_select :
    (resolvers (height + 2)).query (.mk .query whole [.mk (.select false) selection parts]) =
      restoring (fun before after => { after with common := truncate before.common.length after.common }) (do
        let (scan, outputs, _) ← select (resolvers height) (.mk (.select false) selection parts)
        return (scan, outputs)) :=
  rfl

theorem succeeds_plain :
    (∃ scan after, Succeeds tables ((resolvers (height + 2)).query (.mk .query whole [.mk (.select false) selection
        [.mk .selectList list [item], .mk .fromClause clause [origin]]])) before (scan, outputs) after) ↔
      ∃ rows seen sourced selected listing,
        Succeeds tables ((resolvers height).source origin) { before with analytic := none, windows := [] } (rows, seen)
          sourced ∧
        Succeeds tables (selectItem (resolvers height) seen (item, 0))
          { sourced with analytic := some [] } selected listing ∧
        selected.outputs = outputs := by
  rw [query_select]
  constructor
  · rintro ⟨scan, _, ran⟩
    obtain ⟨_, ran, -⟩ := succeeds_restoring.mp ran
    obtain ⟨⟨_, _, _⟩, _, ran, same⟩ := ran.bind
    cases same
    cases succeeds_select ran with
    | mk split ranTables ranFilter ranWindows listed ranItems =>
      cases split
      cases listed
      obtain ⟨-, rfl⟩ := succeeds_each_nil.mp ranFilter
      obtain ⟨-, rfl⟩ := succeeds_each_nil.mp ranWindows
      obtain ⟨selected, _, _, ranItem, ranRest, rfl⟩ := succeeds_each_cons.mp ranItems
      obtain ⟨rfl, -⟩ := succeeds_each_nil.mp ranRest
      exact ⟨_, _, _, selected, _, ranTables, ranItem, by simp⟩
  · rintro ⟨rows, seen, sourced, selected, listing, ranSource, ranItem, rfl⟩
    -- There is no other clause, so each of the other steps is resolved to nothing.
    let picked := if [selected].any Selected.aggregate then grouped selection rows [] else rows
    refine ⟨.project (selected.outputs.map NamedColumn.column) selected.computed
      (windowed selection picked (listing.analytic.getD [])) selection, _, succeeds_restoring.mpr ⟨_, succeeds_bind.mpr
      ⟨(_, _, seen), _, succeeds_restoring.mpr ⟨{ listing with analytic := none },
        succeeds_bind.mpr ⟨⟨⟩, _, rfl, succeeds_bind.mpr ⟨_, _, rfl, ?_⟩⟩, rfl⟩, rfl⟩, rfl⟩⟩
    refine succeeds_bind.mpr ⟨_, _, ranSource, succeeds_bind.mpr ⟨none, _, rfl, succeeds_bind.mpr ⟨[], _, rfl, ?_⟩⟩⟩
    refine succeeds_bind.mpr ⟨_, _, rfl, succeeds_bind.mpr ⟨([selected], _), _, succeeds_collecting.mpr
      ⟨listing, succeeds_each_cons.mpr ⟨_, _, [], ranItem, rfl, rfl⟩, rfl, rfl⟩, ?_⟩⟩
    refine succeeds_bind.mpr ⟨[], _, rfl, succeeds_bind.mpr ⟨none, _, rfl, succeeds_bind.mpr ⟨(none, _), _,
      succeeds_collecting.mpr ⟨_, rfl, rfl, rfl⟩, ?_⟩⟩⟩
    simp only [succeeds_pure, Selected.join, flatMap_cons, flatMap_nil, append_nil]
    exact ⟨rfl, trivial⟩

theorem succeeds_path_single (closed : before.outer = []) :
    Succeeds tables (path [⟨none, outputs⟩] (.mk .path names [.mk (.identifier name) place []])) before value after ↔
      ∃ output, outputs.find? (fun output => Text.sameName output.name name) = some output ∧
        .column output.column place = value ∧ before = after := by
  have alone : scopeFor name [⟨none, outputs⟩] [] = [⟨none, outputs⟩] := mem_singleton.mp (scopeFor_mem _ _ _)
  have unnamed : Scope.relation? [⟨none, outputs⟩] name = none := rfl
  have parts : pathParts (.mk .path names [.mk (.identifier name) place []]) = [(name, place)] := rfl
  have columns : Scope.columnsNamed [⟨none, outputs⟩] name =
      (outputs.find? fun output => Text.sameName output.name name).toList := by
    simp only [Scope.columnsNamed, Relation.column?, filterMap_cons, filterMap_nil]
    split <;> simp [*]
  simp only [path, parts, succeeds_bind, succeeds_get]
  cases found : outputs.find? fun output => Text.sameName output.name name <;>
    simp [closed, alone, unnamed, columns, found, fieldsOf]

theorem Selects.height_eq (selects : Selects name inner node) :
    ∃ height, node.height = height + 3 ∧ inner.height ≤ height := by
  cases selects with
  | mk =>
    simp only [Node.height, Node.heightAll]
    exact ⟨max (inner.height + 1) 3, by omega, by omega⟩

theorem yields_selects (selects : Selects name inner node) (closed : before.outer = []) :
    Yields tables node before outputs ↔
      ∃ column, Shows tables inner before name column ∧ [⟨passedName 0 column, column⟩] = outputs := by
  obtain ⟨height, tall, deep⟩ := selects.height_eq
  simp only [Shows, Yields, Succeeds, ← query_outcome deep]
  rw [tall]
  cases selects with
  | @mk whole selection list item names place clause table kind =>
    have unnamed : (Node.mk .tableSubquery table [inner]).alias? = none := by
      simp [Node.alias?, Node.childOf?, Node.children, kind]
    refine succeeds_plain.trans ⟨?_, ?_⟩
    · rintro ⟨rows, seen, sourced, selected, listing, ranSource, ranItem, rfl⟩
      obtain ⟨_, ⟨⟩, ranSource⟩ := succeeds_child_bind.mp ranSource
      obtain ⟨_, _, ranQuery, made⟩ := succeeds_bind.mp ranSource
      have kept := (Keeps.succeeds ((resolvers_keep _).query same_tree) ranQuery).outer
      cases made
      obtain ⟨_, ⟨⟩, ranItem⟩ := succeeds_child_bind.mp ranItem
      obtain ⟨value, _, ranPath, made⟩ := succeeds_bind.mp ranItem
      rw [unnamed] at ranPath
      obtain ⟨output, found, rfl, rfl⟩ := (succeeds_path_single (by exact kept.trans closed)).mp ranPath
      cases made
      exact ⟨output.column, ⟨_, output.name, ⟨_, _, ranQuery⟩, found⟩, rfl⟩
    · rintro ⟨column, ⟨seen, own, ⟨scan, middle, ranQuery⟩, found⟩, rfl⟩
      have kept := (Keeps.succeeds ((resolvers_keep _).query same_tree) ranQuery).outer
      refine ⟨scan, _, middle, ⟨[⟨passedName 0 column, column⟩], [], false⟩, _,
        succeeds_child_bind.mpr ⟨_, rfl, succeeds_bind.mpr ⟨_, _, ranQuery, rfl⟩⟩,
        succeeds_child_bind.mpr ⟨_, rfl, succeeds_bind.mpr
          ⟨.column column place, { middle with analytic := some [] }, ?_, rfl⟩⟩, rfl⟩
      rw [unnamed]
      exact (succeeds_path_single (by exact kept.trans closed)).mpr ⟨_, found, rfl, rfl⟩

/-! ### A name selected through several queries -/

/-- The name is selected from the first query, then from that selection, and so on. -/
inductive Nested (name : String) (first : Node) : Nat → Node → Prop where
  | here : Nested name first 0 first
  | deeper (below : Nested name first depth middle) (selects : Selects name middle upper) : Nested name first
      (depth + 1) upper

theorem yields_nested (nested : Nested name first depth node) (selects : Selects name inner first)
    (closed : before.outer = []) :
    Yields tables node before outputs ↔
      ∃ column, Shows tables inner before name column ∧
        (depth = 0 ∨ Text.sameName (passedName 0 column) name) ∧ [⟨passedName 0 column, column⟩] = outputs := by
  induction nested generalizing before outputs with
  | here => simpa using yields_selects selects closed
  | deeper _ above ih =>
    -- One query further in nothing is pending, so the innermost query is resolved as before.
    have below {seen} := @ih { before with analytic := none, windows := [] } seen closed
    rw [yields_selects above closed]
    constructor
    · rintro ⟨_, ⟨_, _, yielded, found⟩, rfl⟩
      obtain ⟨_, shown, -, rfl⟩ := below.mp yielded
      rw [find?_singleton] at found
      split at found
      · rename_i same
        cases found
        exact ⟨_, shown, .inr same, rfl⟩
      · cases found
    · rintro ⟨column, shown, kept, rfl⟩
      have same := kept.resolve_left (Nat.succ_ne_zero _)
      exact ⟨column, ⟨_, passedName 0 column, below.mpr ⟨column, shown, .inr same, rfl⟩, by simp [same]⟩, rfl⟩

theorem yields_statement :
    (∃ resolved after, Succeeds tables (statement (.mk .statement span [node])) before resolved after ∧
        resolved.outputs = outputs) ↔
      Yields tables node { before with common := [], outer := [] } outputs := by
  constructor
  · rintro ⟨resolved, after, ran, rfl⟩
    obtain ⟨_, ⟨⟩, ran⟩ := succeeds_statement ran
    exact ⟨_, _, ran⟩
  · rintro ⟨scan, after, ran⟩
    exact ⟨⟨outputs, scan, span⟩, after, succeeds_bind.mpr ⟨⟨⟩, _, rfl, succeeds_bind.mpr ⟨_, _, rfl,
      succeeds_bind.mpr ⟨_, _, ran, rfl⟩⟩⟩, rfl⟩

/-- A path that is selected without an alias gets its last name, unless it stands for a column: then it gets the own
name of the column. A name can be selected from a query, from that selection and so on, just if it is the own name of
the column that it stands for, and then it stands for that column throughout. -/
theorem selected_path_named_by_column (tables : Lookup) :
    (∀ {height node before scan outputs seen after},
      Succeeds tables (select (resolvers height) node) before (scan, outputs, seen) after →
      ∃ parts list items, SelectParts.of? node.children = some parts ∧ parts.list = some list ∧
        Forall₂ PathNamed list.children.zipIdx items ∧ outputs = items.flatMap Selected.outputs) ∧
    ∀ {name inner first span before resolved after}, Selects name inner first →
      Succeeds tables (statement (.mk .statement span [first])) before resolved after →
      ∃ column, resolved.outputs = [⟨passedName 0 column, column⟩] ∧
        ∀ {depth node span}, Nested name first depth node →
          ((∃ resolved after, Succeeds tables (statement (.mk .statement span [node])) before resolved after) ↔
            depth = 0 ∨ Text.sameName (passedName 0 column) name = true) ∧
          ∀ {resolved after}, Succeeds tables (statement (.mk .statement span [node])) before resolved after →
            resolved.outputs = [⟨passedName 0 column, column⟩] := by
  refine ⟨?_, ?_⟩
  · intro _ _ _ _ _ _ _ ran
    cases succeeds_select ran with
    | mk split _ _ _ listed ranItems => exact ⟨_, _, _, split, listed, selectItems_named ranItems, rfl⟩
  · intro name inner first span before resolved after selects ran
    obtain ⟨column, shown, -, same⟩ :=
      (yields_nested .here selects rfl).mp (yields_statement.mp ⟨resolved, after, ran, rfl⟩)
    have named {depth node span outputs} (nested : Nested name first depth node) :
        (∃ resolved after, Succeeds tables (statement (.mk .statement span [node])) before resolved after ∧
          resolved.outputs = outputs) ↔
        (depth = 0 ∨ Text.sameName (passedName 0 column) name = true) ∧ [⟨passedName 0 column, column⟩] = outputs := by
      rw [yields_statement, yields_nested nested selects rfl]
      exact ⟨fun ⟨_, again, rest⟩ => shows_unique shown again ▸ rest, fun rest => ⟨column, shown, rest⟩⟩
    refine ⟨column, same.symm, fun nested => ⟨⟨?_, fun kept => ?_⟩, fun ran => ?_⟩⟩
    · rintro ⟨resolved, after, ran⟩
      exact ((named nested).mp ⟨resolved, after, ran, rfl⟩).1
    · obtain ⟨resolved, after, ran, -⟩ := (named nested).mpr ⟨kept, rfl⟩
      exact ⟨resolved, after, ran⟩
    · exact ((named nested).mp ⟨_, _, ran, rfl⟩).2.symm

private def namedRows : Lookup := fun _ => some (.of "t" .epoch [.mk "name" "STRING" none "" []])

private def renamedRows : Node :=
  .mk .query none [.mk (.select false) none [.mk .selectList none [.mk .selectColumn none
    [.mk .path none [.leaf (.identifier "name") none], .leaf (.aliasName "id") none]],
    .mk .fromClause none [.mk .tablePath none [.mk .path none [.leaf (.identifier "t") none]]]]]

private def idItem : Node :=
  .mk .selectColumn none [.mk .path none [.mk (.identifier "id") none []]]

private def idSelection (inner : Node) : Node :=
  .mk (.select false) none [.mk .selectList none [idItem], .mk .fromClause none [.mk .tableSubquery none [inner]]]

private def idQuery (inner : Node) : Node :=
  .mk .query none [idSelection inner]

theorem renamedRows_named :
    (∃ scan outputs seen after items,
      Succeeds namedRows (select (resolvers 9) (idSelection renamedRows)) .initial (scan, outputs, seen) after ∧
      Forall₂ PathNamed [(idItem, 0)] items ∧ outputs = items.flatMap Selected.outputs) ∧
    ∃ resolved after column,
      Succeeds namedRows (statement (.mk .statement none [idQuery renamedRows])) .initial resolved after ∧
      resolved.outputs = [⟨passedName 0 column, column⟩] ∧
      ((∃ resolved after,
        Succeeds namedRows (statement (.mk .statement none [idQuery (idQuery renamedRows)])) .initial resolved after) ↔
          1 = 0 ∨ Text.sameName (passedName 0 column) "id" = true) := by
  constructor
  · obtain ⟨⟨scan, outputs, seen⟩, after, ran⟩ := succeeds_of_toBool (show ((select (resolvers 9)
      (idSelection renamedRows)).outcome namedRows .initial).1.toBool = true by decide +kernel)
    obtain ⟨_, _, items, ⟨⟩, ⟨⟩, named, same⟩ := (selected_path_named_by_column namedRows).1 ran
    exact ⟨scan, outputs, seen, after, items, ran, named, same⟩
  · obtain ⟨resolved, after, ran⟩ := succeeds_of_toBool (show ((statement
      (.mk .statement none [idQuery renamedRows])).outcome namedRows .initial).1.toBool = true by decide +kernel)
    obtain ⟨column, same, nested⟩ := (selected_path_named_by_column namedRows).2 (.mk rfl) ran
    exact ⟨resolved, after, column, ran, same, (nested (.deeper .here (.mk rfl))).1⟩

/-- A renamed column is selected under the name it had before, and its new name is not known one query further out. -/
theorem renamed_column_loses_name :
    (Artifact.analyze "SELECT id FROM (SELECT name AS id FROM t)" namedRows).outputs.map
        (fun output => output.outputs.map NamedColumn.name) = [["name"]] ∧
      (Artifact.analyze "SELECT id FROM (SELECT id FROM (SELECT name AS id FROM t))" namedRows).outputs.length = 0 := by
  decide +kernel

end SqlLens.Analysis
