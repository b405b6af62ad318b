import SqlLens.Proofs.Analysis.MoreTables
import SqlLens.Proofs.Script.Spans
import SqlLens.Schema.Catalog
import SqlLens.Script.Artifact

/-!
Which tables a text needs.

Before a text is resolved, the tables under `Node.tablePaths` are fetched. Names of one part are not always among them,
and neither are paths whose place is not known: the name of a table may be written as a string, which has no token of a
name to be found at. All other tables do not matter (`fetched_tables_suffice`), but one whose name is a string may
(`quoted_table_not_fetched`).
-/

namespace SqlLens

open SqlLens.Surface (Node)

theorem Script.dotless_of_mem_sourcePaths (named : path ∈ (read text).tree.sourcePaths)
    (onePart : path.names.length = 1) :
    '.' ∉ path.dotted.toList := by
  obtain ⟨below, inside, given⟩ := List.mem_filterMap.mp named
  obtain ⟨name, alone⟩ := List.length_eq_one_iff.mp onePart
  have reached : below ∈ (read text).tree.preorder := by
    cases tree : (read text).tree with
    | mk kind span children =>
      rw [tree, Node.descendants_eq] at inside
      exact List.mem_cons_of_mem _ inside
  have plain := ((tree_sound text).proper below reached).name path given name (by simp [alone])
  simpa [Node.dotted, alone, Text.join] using plain

/-- Two stores have the same under the paths that are fetched for a tree, under all names of one part, and under the
paths of the tree that have no place. -/
structure AgreeFor (tree : Node) (tables others : Analysis.Lookup) : Prop where
  fetched : ∀ path ∈ tree.tablePaths, tables path.1 = others path.1
  onePart : ∀ name : String, '.' ∉ name.toList → tables name = others name
  unplaced : ∀ path ∈ tree.sourcePaths, path.span = none → tables path.dotted = others path.dotted

/-- Stores that agree for the tree of a text have the same under every path that the text names a table by. -/
theorem AgreeFor.sourcePaths (agree : AgreeFor (Script.read text).tree tables others) :
    ∀ path ∈ (Script.read text).tree.sourcePaths, tables path.dotted = others path.dotted := by
  intro path named
  by_cases onePart : path.names.length = 1
  · exact agree.onePart _ (Script.dotless_of_mem_sourcePaths named onePart)
  · by_cases placed : ∀ other ∈ (Script.read text).tree.sourcePaths, other.dotted = path.dotted → other.span.isSome
    · obtain ⟨entry, listed, same⟩ := List.mem_map.mp (Node.dotted_mem_tablePaths named onePart placed)
      rw [← same]
      exact agree.fetched entry listed
    · -- Some path with the same name has no place.
      simp only [Classical.not_forall, exists_prop] at placed
      obtain ⟨other, listed, same, missing⟩ := placed
      rw [← same]
      exact agree.unplaced other listed (Option.not_isSome_iff_eq_none.mp missing)

namespace Catalog

theorem lookup_removed {entries : List (String × Table)} {path name : String} (other : name ≠ path) :
    (entries.filter fun entry => entry.1 ≠ path).lookup name = entries.lookup name := by
  induction entries with
  | nil => rfl
  | cons entry rest ih =>
    obtain ⟨key, table⟩ := entry
    by_cases removed : key = path
    · subst removed
      simpa [List.lookup_cons, beq_false_of_ne other] using ih
    · by_cases found : name = key
      · simp [removed, found]
      · simpa [List.lookup_cons, removed, beq_false_of_ne found] using ih

theorem find_insert (catalog : Catalog) (path name : String) (table : Table) :
    (catalog.insert path table).find? name = if name = path then some table else catalog.find? name := by
  unfold insert find?
  by_cases same : name = path
  · simp [same]
  · rw [if_neg same, List.lookup_cons, beq_false_of_ne same]
    exact lookup_removed same

def fetched (store : Analysis.Lookup) (paths : List (String × Span)) : Catalog :=
  paths.foldl (fun catalog path => ((store path.1).map (catalog.insert path.1)).getD catalog) .empty

theorem find_fetched (store : Analysis.Lookup) (paths : List (String × Span)) (name : String) :
    (fetched store paths).find? name = if name ∈ paths.map Prod.fst then store name else none := by
  suffices onward : ∀ (paths : List (String × Span)) (catalog : Catalog),
      (paths.foldl (fun catalog path => ((store path.1).map (catalog.insert path.1)).getD catalog) catalog).find? name =
        if name ∈ paths.map Prod.fst then (store name).or (catalog.find? name) else catalog.find? name by
    have start := onward paths .empty
    simpa [fetched, empty, find?] using start
  intro paths
  induction paths with
  | nil => simp
  | cons path rest ih =>
    intro catalog
    rw [List.foldl_cons, ih]
    cases found : store path.1 with
    | none => grind
    | some table => grind [find_insert]

end Catalog

/-- What a text comes to depends on a store only through the tables that are fetched for it, tables with a name of one
part, and tables whose path has no place. So it makes no difference whether all tables of a store are there or only
those that were fetched, if the store has no other ones of these two kinds. -/
theorem fetched_tables_suffice (text : String) (extra : List Diagnostic) :
    (∀ tables others, AgreeFor (Script.read text).tree tables others →
      Artifact.build text (Script.read text) tables extra = Artifact.build text (Script.read text) others extra) ∧
    ∀ store : Analysis.Lookup, (∀ name : String, '.' ∉ name.toList → store name = none) →
      (∀ path ∈ (Script.read text).tree.sourcePaths, path.span = none → store path.dotted = none) →
      Artifact.build text (Script.read text) (Catalog.fetched store (Script.read text).tree.tablePaths).find? extra =
        Artifact.build text (Script.read text) store extra := by
  have suffices_agree : ∀ tables others, AgreeFor (Script.read text).tree tables others →
      Artifact.build text (Script.read text) tables extra = Artifact.build text (Script.read text) others extra := by
    intro tables others agree
    have same : Analysis.script tables (Script.read text).tree = Analysis.script others (Script.read text).tree :=
      Analysis.script_congr agree.sourcePaths
    simp only [Artifact.build, same]
  refine ⟨suffices_agree, fun store noOnePart noUnplaced => suffices_agree _ _ ⟨?_, ?_, ?_⟩⟩
  · intro path listed
    rw [Catalog.find_fetched, if_pos (List.mem_map_of_mem listed)]
  · intro name plain
    rw [Catalog.find_fetched, noOnePart name plain, ite_self]
  · intro path named missing
    rw [Catalog.find_fetched, noUnplaced path named missing, ite_self]

def usersStore : Analysis.Lookup := fun path =>
  if path = "ds.users" then some (.of "proj:ds.users" .epoch [.mk "id" "INTEGER" none "" []]) else none

theorem usersStore_onePart (name : String) (plain : '.' ∉ name.toList) : usersStore name = none := by
  unfold usersStore
  split
  · rename_i same
    subst same
    exact absurd (by decide) plain
  · rfl

/-- Where the name of a table is written as a path, the table is fetched. -/
theorem written_table_fetched :
    (∀ path ∈ (Script.read "SELECT id FROM ds.users").tree.sourcePaths, path.span = none →
      usersStore path.dotted = none) ∧
    Artifact.build "SELECT id FROM ds.users" (Script.read "SELECT id FROM ds.users")
        (Catalog.fetched usersStore (Script.read "SELECT id FROM ds.users").tree.tablePaths).find? [] =
      Artifact.build "SELECT id FROM ds.users" (Script.read "SELECT id FROM ds.users") usersStore [] := by
  have placed : ∀ path ∈ (Script.read "SELECT id FROM ds.users").tree.sourcePaths, path.span = none →
      usersStore path.dotted = none := by
    intro path named missing
    have all : (Script.read "SELECT id FROM ds.users").tree.sourcePaths.all (·.span.isSome) = true := by decide +kernel
    have some := List.all_eq_true.mp all path named
    simp [missing] at some
  exact ⟨placed, (fetched_tables_suffice _ _).2 usersStore usersStore_onePart placed⟩

/-- Where the name of a table is written as a string, the table is not fetched, and the query is refused that could be
resolved if it were. -/
theorem quoted_table_not_fetched :
    (Script.read "SELECT id FROM 'ds.users'").tree.tablePaths = [] ∧
    (∀ name : String, '.' ∉ name.toList → usersStore name = none) ∧
    (Artifact.build "SELECT id FROM 'ds.users'" (Script.read "SELECT id FROM 'ds.users'")
      (Catalog.fetched usersStore (Script.read "SELECT id FROM 'ds.users'").tree.tablePaths).find? []).outputs.length =
        0 ∧
    (Artifact.build "SELECT id FROM 'ds.users'" (Script.read "SELECT id FROM 'ds.users'") usersStore
      []).outputs.length = 1 :=
  ⟨by decide +kernel, usersStore_onePart, by decide +kernel, by decide +kernel⟩

end SqlLens
