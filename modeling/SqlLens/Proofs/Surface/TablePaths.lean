import SqlLens.Surface.Basic

/-!
The tables a tree refers to.

A table is named by the path of a node after `FROM`. `Node.tablePaths` gives every such name of several parts, provided
that the place of every path with that name is known (`dotted_mem_tablePaths`). Names of one part may stand for a common
table and be left out. No name is given twice (`tablePaths_nodup`), and each where it comes first (`tablePaths_first`).
-/

namespace SqlLens.Surface.Node

open List

variable {below node path : Node} {common seen : List String} {paths : List Node} {entry : String × Span}

theorem mem_preorder_self (node : Node) : node ∈ node.preorder := by
  cases node
  simp [preorder]

theorem mem_preorderAll : below ∈ preorderAll nodes ↔ ∃ node ∈ nodes, below ∈ node.preorder := by
  induction nodes with
  | nil => simp [preorderAll]
  | cons node rest ih => simp [preorderAll, ih]

theorem forall_preorder {P : Node → Prop} (here : P (.mk own place parts))
    (deeper : ∀ child ∈ parts, ∀ below ∈ child.preorder, P below) :
    ∀ below ∈ (mk own place parts).preorder, P below := by
  intro below reached
  rcases mem_cons.mp reached with rfl | reached
  · exact here
  · obtain ⟨child, inside, reached⟩ := mem_preorderAll.mp reached
    exact deeper child inside below reached

theorem preorder_subset (inside : child ∈ node.children) : child.preorder ⊆ node.preorder := by
  intro below reached
  cases node with
  | mk kind span children => exact mem_cons_of_mem _ (mem_preorderAll.mpr ⟨child, inside, reached⟩)

mutual
theorem preorder_trans : (node : Node) → below ∈ node.preorder → below.preorder ⊆ node.preorder
  | .mk kind span children, reached => by
    rcases mem_cons.mp reached with rfl | deeper
    · exact Subset.refl _
    · exact subset_cons_of_subset _ (preorderAll_trans children deeper)

theorem preorderAll_trans : (nodes : List Node) → below ∈ preorderAll nodes → below.preorder ⊆ preorderAll nodes
  | [], reached => by cases reached
  | node :: rest, reached => by
    rcases mem_append.mp reached with here | later
    · exact subset_append_of_subset_left _ (preorder_trans node here)
    · exact subset_append_of_subset_right _ (preorderAll_trans rest later)
end

/-- The path by which a node names a table, or an array that stands in its place. -/
def sourcePath? (node : Node) : Option Node := if node.kind = .tablePath then node.tablePath? else none

def sourcePaths (node : Node) : List Node := node.descendants.filterMap sourcePath?

theorem tableReference_of_sourcePath (named : node.sourcePath? = some path) (several : path.names.length ≠ 1) :
    tableReference? common node = some path := by
  unfold sourcePath? at named
  split at named
  · rename_i kind
    unfold tableReference?
    simp only [kind, named]
    cases names : path.names with
    | nil => rfl
    | cons first rest =>
      cases rest with
      | nil => simp [names] at several
      | cons second rest => rfl
  · cases named

theorem sourcePath_of_tableReference (named : tableReference? common node = some path) :
    node.sourcePath? = some path := by
  unfold tableReference? at named
  split at named
  · rename_i kind
    split at named
    · rename_i found given
      have same : found = path := by
        split at named
        · split at named
          · cases named
          · exact Option.some.inj named
        · exact Option.some.inj named
      rw [sourcePath?, if_pos kind, given, same]
    · cases named
  · cases named

/-- A path that was not seen before is kept, or another one with its name, if the place of each is known. -/
theorem dotted_mem_firstOfEach (listed : path ∈ paths) (unseen : path.dotted ∉ seen)
    (placed : ∀ other ∈ paths, other.dotted = path.dotted → other.span.isSome) :
    path.dotted ∈ (firstOfEach seen paths).map Prod.fst := by
  induction paths generalizing seen with
  | nil => cases listed
  | cons first rest ih =>
    have placedRest : ∀ other ∈ rest, other.dotted = path.dotted → other.span.isSome :=
      fun other inside => placed other (mem_cons_of_mem _ inside)
    have inRest (different : path.dotted ≠ first.dotted) : path ∈ rest := by
      rcases mem_cons.mp listed with rfl | inside
      · exact absurd rfl different
      · exact inside
    unfold firstOfEach
    by_cases known : first.dotted ∈ seen
    · rw [if_pos known]
      have different : path.dotted ≠ first.dotted := fun same => unseen (same ▸ known)
      exact ih (inRest different) unseen placedRest
    · rw [if_neg known]
      by_cases same : path.dotted = first.dotted
      · obtain ⟨span, given⟩ := Option.isSome_iff_exists.mp (placed first mem_cons_self same.symm)
        simp [given, same]
      · have unseen' : path.dotted ∉ first.dotted :: seen := by simp [same, unseen]
        have kept := ih (inRest same) unseen' placedRest
        cases first.span with
        | none => exact kept
        | some span => exact mem_cons_of_mem _ kept

/-- Every name of several parts is among the tables the tree refers to, if its place is known wherever it is written. -/
theorem dotted_mem_tablePaths (named : path ∈ node.sourcePaths) (several : path.names.length ≠ 1)
    (placed : ∀ other ∈ node.sourcePaths, other.dotted = path.dotted → other.span.isSome) :
    path.dotted ∈ node.tablePaths.map Prod.fst := by
  obtain ⟨below, inside, given⟩ := mem_filterMap.mp named
  refine dotted_mem_firstOfEach (mem_filterMap.mpr ⟨below, inside, tableReference_of_sourcePath given several⟩)
    not_mem_nil fun other listed => ?_
  obtain ⟨below, inside, given⟩ := mem_filterMap.mp listed
  exact placed other (mem_filterMap.mpr ⟨below, inside, sourcePath_of_tableReference given⟩)

def tableReferences (node : Node) : List Node := node.descendants.filterMap (tableReference? node.commonNames)

theorem first_of_mem_firstOfEach (kept : entry ∈ firstOfEach seen paths) :
    entry.1 ∉ seen ∧ (paths.find? (·.dotted = entry.1)).bind span = some entry.2 := by
  induction paths generalizing seen with
  | nil => cases kept
  | cons first rest ih =>
    -- A path that was seen before, or is now, is not the one that was kept.
    have later {seen} (kept : entry ∈ firstOfEach seen rest) (known : first.dotted ∈ seen) :
        entry.1 ∉ seen ∧ ((first :: rest).find? (·.dotted = entry.1)).bind span = some entry.2 := by
      obtain ⟨unseen, placed⟩ := ih kept
      have different : first.dotted ≠ entry.1 := fun same => unseen (same ▸ known)
      simpa [find?_cons, different] using ⟨unseen, placed⟩
    unfold firstOfEach at kept
    by_cases known : first.dotted ∈ seen
    · rw [if_pos known] at kept
      exact later kept known
    · rw [if_neg known] at kept
      cases given : first.span with
      | none =>
        rw [given] at kept
        obtain ⟨unseen, placed⟩ := later kept mem_cons_self
        exact ⟨fun member => unseen (mem_cons_of_mem _ member), placed⟩
      | some place =>
        rw [given] at kept
        rcases mem_cons.mp kept with rfl | rest
        · exact ⟨known, by simp [given]⟩
        · obtain ⟨unseen, placed⟩ := later rest mem_cons_self
          exact ⟨fun member => unseen (mem_cons_of_mem _ member), placed⟩

theorem firstOfEach_nodup (seen : List String) (paths : List Node) :
    ((firstOfEach seen paths).map Prod.fst).Nodup := by
  induction paths generalizing seen with
  | nil => simp [firstOfEach]
  | cons first rest ih =>
    unfold firstOfEach
    split
    · exact ih seen
    · cases first.span with
      | none => exact ih _
      | some place =>
        refine nodup_cons.mpr ⟨fun listed => ?_, ih _⟩
        obtain ⟨entry, kept, same⟩ := mem_map.mp listed
        exact (first_of_mem_firstOfEach kept).1 (same ▸ mem_cons_self)

theorem tablePaths_nodup (node : Node) : (node.tablePaths.map Prod.fst).Nodup := firstOfEach_nodup _ _

theorem tablePaths_first (listed : entry ∈ node.tablePaths) :
    (node.tableReferences.find? (·.dotted = entry.1)).bind span = some entry.2 :=
  (first_of_mem_firstOfEach listed).2

end SqlLens.Surface.Node
