import SqlLens.Hover.Target
import SqlLens.Proofs.Workspace.Unavailable

/-!
What is taken for a table where it is pointed at, and what is resolved to one.

Where a path after `FROM` is pointed at, only the text decides whether it names a table: a single name does not if some
`WITH` clause of the statement has it. The analysis goes by the common tables that are visible, by the tables in front
of the path, and by the tables there are. A check after each table (`checked`) is never found wrong
(`checked_statement`). Only arrays are told from tables by what stands in front of them (`correlated_names_table`).
-/

namespace SqlLens

open List hiding after
open Analysis
open Resolved (Scan)
open Surface (Kind Node)

namespace Hover

variable {place : Surface.Place} {table statement : Node}

/-! ### Paths that name tables -/

/-- A path stands in the path of a table and is not the name of a common table of its statement. -/
def NamesTable (place : Surface.Place) : Prop :=
  (∃ table, place.ancestor? Kind.isTablePath = some table) ∧
    ∀ name, place.node.names = [name] → ∀ common ∈ commonNames place, Text.sameName common name = false

theorem tableReference_eq_some :
    tableReference? place = some written ↔ NamesTable place ∧ written = place.node.dotted := by
  unfold tableReference? NamesTable
  cases place.ancestor? Kind.isTablePath with
  | none => simp
  | some table =>
    dsimp only
    split
    · rename_i name single
      split
      · rename_i common
        obtain ⟨other, listed, same⟩ := any_eq_true.mp common
        refine iff_of_false (by simp) ?_
        rintro ⟨⟨-, apart⟩, -⟩
        simp [apart name single other listed] at same
      · rename_i apart
        simp only [any_eq_true, not_exists, not_and, Bool.not_eq_true] at apart
        simp only [Option.some.injEq, exists_eq', true_and]
        refine ⟨fun same => ⟨fun other single' => ?_, same.symm⟩, fun given => given.2.symm⟩
        cases single.symm.trans single'
        exact apart
    · rename_i several
      simp only [Option.some.injEq, exists_eq', true_and]
      exact ⟨fun same => ⟨fun name single => absurd single (several name), same.symm⟩, fun given => given.2.symm⟩

theorem tableReference_eq_none (single : place.node.names = [name]) (listed : common ∈ commonNames place)
    (same : Text.sameName common name) : tableReference? place = none := by
  cases reference : tableReference? place with
  | none => rfl
  | some written =>
    have apart := (tableReference_eq_some.mp reference).1.2 name single common listed
    simp [apart] at same

/-- An array that belongs to a table in front of it is always taken for a table: its path has several names. -/
theorem correlated_names_table (correlated : isCorrelated scope table)
    (path : table.tablePath? = some place.node) (above : place.ancestor? Kind.isTablePath = some table) :
    tableReference? place = some place.node.dotted := by
  refine tableReference_eq_some.mpr ⟨⟨⟨table, above⟩, fun name single => ?_⟩, rfl⟩
  simp [isCorrelated, path, single] at correlated

/-! ### The check -/

/-- What the path of a table is taken for is what the table was resolved to. A common table is not taken for a table; a
table is taken for itself, unless a common table somewhere in the statement has its only name. -/
def Agrees (statement table : Node) (scan : Scan) : Prop :=
  ∀ place : Surface.Place, table.tablePath? = some place.node → place.ancestor? Kind.isTablePath = some table →
    (place.node :: place.above).find? (·.kind == .statement) = some statement →
    match scan with
    | .reference .. => tableReference? place = none
    | .table name .. => name = place.node.dotted ∧ (tableReference? place = some name ∨
        ∃ own, place.node.names = [own] ∧ ∃ common ∈ statement.commonNames, Text.sameName common own = true)
    | _ => False

open Classical in
/-- Resolves the path of a table, and does something else if it was not resolved to what it is taken for. -/
noncomputable def checked (statement : Node) (alarm : Analyze (Scan × Scope)) (table : Node) : Analyze
    (Scan × Scope) := do
  let found ← tableSource table
  if Agrees statement table found.1 then return found else alarm

def Known (names : List String) (state : State) : Prop := ∀ entry ∈ state.common, entry.name ∈ names

theorem commonNames_eq (within : (place.node :: place.above).find? (·.kind == .statement) = some statement) :
    commonNames place = statement.commonNames := by
  rw [commonNames, within]

theorem agrees_tableSource (known : Known statement.commonNames before)
    (ran : Succeeds tables (tableSource table) before found after) : Agrees statement table found.1 := by
  simp only [tableSource, succeeds_bind, succeeds_need, succeeds_get] at ran
  obtain ⟨path, _, ⟨named, rfl⟩, _, _, ⟨rfl, rfl⟩, ran⟩ := ran
  intro place own above within
  obtain rfl : path = place.node := Option.some.inj (named.symm.trans own)
  split at ran
  · rename_i entry visible
    simp only [commonReference, succeeds_bind, succeeds_pure] at ran
    obtain ⟨columns, _, -, rfl, -⟩ := ran
    unfold commonTable? at visible
    split at visible
    · rename_i name single
      have listed : entry.name ∈ commonNames place := by
        rw [commonNames_eq within]
        exact known entry (mem_of_find?_eq_some visible)
      exact tableReference_eq_none single listed (by simpa using find?_some visible)
    · cases visible
  · simp only [succeeds_bind, succeeds_read] at ran
    obtain ⟨_, _, ⟨rfl, rfl⟩, ran⟩ := ran
    split at ran
    · exact (succeeds_fail.mp ran).elim
    · simp only [succeeds_bind, succeeds_pure] at ran
      obtain ⟨columns, _, -, rfl, -⟩ := ran
      refine ⟨rfl, ?_⟩
      by_cases shadowed : ∃ own, place.node.names = [own] ∧
          ∃ common ∈ statement.commonNames, Text.sameName common own = true
      · exact .inr shadowed
      · refine .inl (tableReference_eq_some.mpr ⟨⟨⟨table, above⟩, fun name single common listed => ?_⟩, rfl⟩)
        rw [commonNames_eq within] at listed
        exact eq_false_of_ne_true fun same => shadowed ⟨name, single, common, listed, same⟩

/-! ### The law -/

def WithNames (names : List String) (node : Node) : Prop :=
  ∀ clause ∈ node.preorder, clause.kind = .withClause → ∀ entry ∈ clause.children, ∀ name ∈ entry.name?, name ∈ names

variable {names : List String}

/-- The common tables of a statement are named in it. -/
def naming (names : List String) : Demand where
  Tree := WithNames names
  Known name := name ∈ names
  child covered inside clause reached := covered clause (Node.preorder_subset inside reached)
  known covered := covered _ (Node.mem_preorder_self _)

theorem naming_agree (names : List String) (tables : Lookup) : ((naming names).shifted 0).Agree tables tables :=
  fun _ _ _ => rfl

theorem checked_alike (covered : WithNames statement.commonNames table)
    (kind : table.kind = .tablePath) (alarm : Analyze (Scan × Scope)) (tables : Lookup) :
    ((naming statement.commonNames).shifted 0).Lockstep tables tables ((naming statement.commonNames).shifted 0).Sources
      (tableSource table) (checked statement alarm table) := by
  have own : (lockstep ((naming statement.commonNames).congruent 0) (naming_agree _ tables)).Part _
      (tableSource table) (tableSource table) := Rules.Obeys.tableSource ⟨rfl, covered⟩ kind
  intro before before' states
  have known : Known statement.commonNames before := Demand.holds_left states.common (·.known)
  have same := Demand.state_eq states
  rw [State.shift_zero] at same
  subst same
  have checked : (checked statement alarm table).outcome tables before' =
      (tableSource table).outcome tables before' := by
    rw [checked, outcome_bind]
    cases ran : (tableSource table).outcome tables before' with
    | mk result after =>
      cases result with
      | error failure => rfl
      | ok found =>
        dsimp only
        rw [if_pos (agrees_tableSource known ran)]
        rfl
  rw [checked]
  exact own _ _ states

/-! ### Statements -/

theorem mem_commonNames (inside : entry ∈ statement.descendants) (kind : entry.kind = .withEntry name) :
    name ∈ statement.commonNames := by
  refine mem_filterMap.mpr ⟨entry, inside, ?_⟩
  obtain ⟨own, span, children⟩ := entry
  cases kind
  rfl

theorem withNames_of_proper (proper : statement.Proper) :
    WithNames statement.commonNames statement := by
  intro clause reached kind entry inside name named
  obtain ⟨own, isEntry⟩ := (proper clause reached).entries kind entry inside
  have same : own = name := by simpa [Node.name?, isEntry, Kind.name?] using named
  subst same
  refine mem_commonNames ?_ isEntry
  rw [Node.descendants_eq]
  obtain ⟨top, span, children⟩ := statement
  rcases mem_cons.mp reached with rfl | deeper
  · exact Node.mem_preorderAll.mpr ⟨entry, inside, Node.mem_preorder_self entry⟩
  · exact Node.preorderAll_trans children deeper (Node.preorder_subset inside (Node.mem_preorder_self entry))

theorem checked_statement (proper : statement.Proper) (alarm : Analyze (Scan × Scope)) (tables : Lookup)
    (before : State) : (Analysis.statementBy (checked statement alarm) statement).outcome tables before =
      (Analysis.statement statement).outcome tables before := by
  have alike :
      (Analysis.lockstep ((naming statement.commonNames).congruent 0) (naming_agree _ tables)).Obeys .statement _
      (Analysis.statement statement) (Analysis.statementBy (checked statement alarm) statement) :=
    Analysis.obeys_statementBy (by rintro table _ ⟨rfl, covered⟩ kind; exact checked_alike covered kind alarm tables)
      ⟨rfl, withNames_of_proper proper⟩
  by_cases kind : statement.kind = .statement
  · -- A statement starts without common tables, whatever there were before.
    have afresh (table : Node → Analyze (Scan × Scope)) : (Analysis.statementBy table statement).outcome tables before =
        (Analysis.statementBy table statement).outcome tables { before with common := [] } := by
      simp only [Analysis.statementBy, kind]
      rfl
    have start : ((naming statement.commonNames).shifted 0).States { before with common := [] }
        (State.shift 0 { before with common := [] }) := Demand.state_shift (fun _ => trivial) id (by simp)
    rw [State.shift_zero] at start
    rw [← Analysis.statementBy_tableSource, afresh, afresh, Analysis.statementBy_tableSource]
    exact alike.outcome_eq start
  · simp [Analysis.statementBy, Analysis.statement, kind, Analysis.fail_bind]

end Hover

open Hover in
/-- In the statements of a text, the path of a table after `FROM` is taken for what it is resolved to: a check after
each of them changes nothing, whatever is done if it fails. Only a table whose single name some `WITH` clause of the
statement gives to a query is taken for that query. An array of a table in front of it, however, is always taken for a
table. -/
theorem hover_agrees_on_tables (text : String) (tables : Lookup) (statement : Node)
    (listed : statement ∈ (Script.read text).tree.children) :
    (∀ alarm before, (Analysis.statementBy (checked statement alarm) statement).outcome tables before =
      (Analysis.statement statement).outcome tables before) ∧
    ∀ (scope : Scope) (table : Node) (place : Surface.Place), Analysis.isCorrelated scope table = true →
      table.tablePath? = some place.node → place.ancestor? Kind.isTablePath = some table →
        tableReference? place = some place.node.dotted := by
  have proper : statement.Proper := (Script.tree_sound text).proper.child listed
  exact ⟨fun alarm before => checked_statement proper alarm tables before, fun _ _ _ => correlated_names_table⟩

private def usersLookup : Lookup := fun path =>
  if path = "ds.users" then some (.of "proj:ds.users" .epoch [.mk "id" "INTEGER" none "" []]) else none

private def sharedName : String := "WITH users AS (SELECT id FROM ds.users) SELECT u.id FROM users AS u, ds.users AS v"

/-- In it the check is made at three tables, one of which is a common table, and the statement is resolved. -/
theorem sharedName_agrees :
    ∃ statement ∈ (Script.read sharedName).tree.children,
      ((Analysis.statement statement).outcome usersLookup .initial).1.toBool = true ∧
      ∀ alarm before, (Analysis.statementBy (Hover.checked statement alarm) statement).outcome usersLookup before =
        (Analysis.statement statement).outcome usersLookup before := by
  have resolved : (Script.read sharedName).tree.children.any (fun statement =>
      ((Analysis.statement statement).outcome usersLookup .initial).1.toBool) = true := by decide +kernel
  obtain ⟨statement, listed, found⟩ := List.any_eq_true.mp resolved
  exact ⟨statement, listed, found, (hover_agrees_on_tables sharedName usersLookup statement listed).1⟩

private def isTable (name : String) : Resolved.Node → Bool
  | .scan (.table own ..) => own == name
  | _ => false

/-- The path of an array is taken for a table although the statement has no table of that name: what is pointed at in
`SELECT t FROM proj.ds.users AS u, u.tags AS t` at `u.tags` is a table, but it was resolved to an array. -/
theorem correlated_array_taken_for_table :
    ∃ output ∈ taggedUsers.report.outputs, ∃ place ∈ taggedUsers.report.tree.places,
      output.contains 36 = true ∧ place.covers 36 = true ∧ Hover.tableReference? place = some "u.tags" ∧
      ∀ entry ∈ output.nodes, ∀ aliasName columns span, entry.2 ≠ .scan (.table "u.tags" aliasName columns span) := by
  have found : taggedUsers.report.outputs.any (fun output => output.contains 36 &&
      (taggedUsers.report.tree.places.any fun place =>
        place.covers 36 && Hover.tableReference? place == some "u.tags") &&
      output.nodes.all fun entry => !isTable "u.tags" entry.2) = true := by decide +kernel
  obtain ⟨output, listed, holds⟩ := List.any_eq_true.mp found
  simp only [Bool.and_eq_true, List.any_eq_true, List.all_eq_true, beq_iff_eq] at holds
  obtain ⟨⟨inside, place, among, covers, named⟩, others⟩ := holds
  refine ⟨output, listed, place, among, inside, covers, named, fun entry given aliasName columns span same => ?_⟩
  have other := others entry given
  rw [same] at other
  simp [isTable] at other

end SqlLens
