import Mathlib.Data.Set.Insert
import SqlLens.Resolved.Node

/-!
The columns of a resolved query.

A scan holds the columns it produces and those it computes, and a reference holds the column it reads. Some nodes
introduce what they hold (`Node.introduced`); the others pass on columns from elsewhere. `Node.held` and `Node.brought`
gather both over all nodes of a tree, and depend only on a node's own columns and on its children (`Node.mem_gathered`).

Trees are traced (`Traced`) if every column that occurs in them was known before or is new, and was visible before or is
introduced by one of them. Trees that are built one after the other are traced together: the later ones may see what
occurs in the earlier ones.
-/

namespace SqlLens.Resolved

open List

def Node.columns : Node → List Column
  | .statement s => s.outputs.map NamedColumn.column
  | .scan (.project columns computed _ _) => columns ++ computed.map Computed.column
  | .scan (.aggregate columns _ groups _) => columns ++ groups.map Computed.column
  | .scan (.analytic columns _ calls _) => columns ++ calls.map Computed.column
  | .scan (.array columns _ _ element offset _ _ _) => columns ++ element :: offset.toList
  | .scan s => s.columns
  | .expr (.column column _) => [column]
  | .expr _ => []

/-- The columns that a node introduces: the rows of tables, arrays and set operations, and what is computed. -/
def Node.introduced : Node → List Column
  | .scan (.table _ _ columns _) | .scan (.reference columns _ _ _) | .scan (.array columns _ _ _ _ _ _ _)
  | .scan (.setOperation columns _ _ _ _ _) => columns
  | .scan (.project _ computed _ _) | .scan (.aggregate _ _ computed _) | .scan (.analytic _ _ computed _) =>
    computed.map Computed.column
  | _ => []

def Statement.columns (statement : Statement) : List Column := statement.nodes.flatMap fun entry => entry.2.columns

def Statement.introduced (statement : Statement) : List Column :=
  statement.nodes.flatMap fun entry => entry.2.introduced

namespace Node

theorem introduced_subset (node : Node) : node.introduced ⊆ node.columns := by
  rcases node with statement | scan | expr
  · simp [introduced]
  · cases scan <;> simp [introduced, columns, Scan.columns]
  · simp [introduced]

/-! ### Gathering columns -/

variable {own : Node → List Column} {column : Column} {trees : List Node}

inductive Has (own : Node → List Column) (column : Column) : Node → Prop
  | here (inside : column ∈ own node) : Has own column node
  | inner (part : child ∈ node.children) (inside : Has own column child) : Has own column node

def gathered (own : Node → List Column) (node : Node) : Set Column := {column | Has own column node}

def gatheredBy (own : Node → List Column) (trees : List Node) : Set Column :=
  {column | ∃ tree ∈ trees, column ∈ tree.gathered own}

abbrev held : Node → Set Column := gathered columns

abbrev brought : Node → Set Column := gathered introduced

abbrev heldBy : List Node → Set Column := gatheredBy columns

abbrev broughtBy : List Node → Set Column := gatheredBy introduced

theorem mem_gathered : column ∈ gathered own node ↔ column ∈ own node ∨ column ∈ gatheredBy own node.children := by
  constructor
  · rintro (inside | ⟨part, inside⟩)
    · exact .inl inside
    · exact .inr ⟨_, part, inside⟩
  · rintro (inside | ⟨child, part, inside⟩)
    · exact .here inside
    · exact .inner part inside

@[simp] theorem mem_gatheredBy_nil : column ∉ gatheredBy own [] := by simp [gatheredBy]

@[simp] theorem mem_gatheredBy_cons :
    column ∈ gatheredBy own (tree :: trees) ↔ column ∈ tree.gathered own ∨ column ∈ gatheredBy own trees := by
  simp [gatheredBy]

@[simp] theorem mem_gatheredBy_append :
    column ∈ gatheredBy own (first ++ second) ↔ column ∈ gatheredBy own first ∨ column ∈ gatheredBy own second := by
  simp [gatheredBy, or_and_right, exists_or]

theorem mem_gatheredBy_flatMap {trees : α → List Node} {items : List α} :
    column ∈ gatheredBy own (items.flatMap trees) ↔ ∃ item ∈ items, column ∈ gatheredBy own (trees item) := by
  constructor
  · rintro ⟨tree, member, has⟩
    obtain ⟨item, listed, inside⟩ := mem_flatMap.mp member
    exact ⟨item, listed, tree, inside, has⟩
  · rintro ⟨item, listed, tree, inside, has⟩
    exact ⟨tree, mem_flatMap.mpr ⟨item, listed, inside⟩, has⟩

theorem gatheredBy_mono (inside : first ⊆ second) : gatheredBy own first ⊆ gatheredBy own second := by
  rintro column ⟨tree, listed, has⟩
  exact ⟨tree, inside listed, has⟩

theorem broughtBy_subset (trees : List Node) : broughtBy trees ⊆ heldBy trees := by
  rintro column ⟨tree, listed, brings⟩
  refine ⟨tree, listed, ?_⟩
  clear listed
  induction brings with
  | here inside => exact .here (introduced_subset _ inside)
  | inner part _ ih => exact .inner part ih

theorem mem_held_of_mem_columns {scan : Scan} (listed : column ∈ scan.columns) : column ∈ (Node.scan scan).held :=
  .here (by cases scan <;> simp_all [columns, Scan.columns])

@[simp] theorem mem_held_column {other : Column} {span : Option Span} :
    column ∈ (Node.expr (.column other span)).held ↔ column = other := by
  rw [mem_gathered]
  simp [columns, children]

@[simp] theorem mem_brought_column {other : Column} {span : Option Span} :
    column ∉ (Node.expr (.column other span)).brought := by
  rw [mem_gathered]
  simp [introduced, children]

/-- A tree that does nothing but introduce columns. -/
def introducing (columns : List Column) : Node := .scan (.table "" none columns none)

@[simp] theorem mem_held_introducing {columns : List Column} :
    column ∈ (introducing columns).held ↔ column ∈ columns := by
  rw [mem_gathered]
  simp [introducing, Node.columns, Scan.columns, children]

@[simp] theorem mem_brought_introducing {columns : List Column} :
    column ∈ (introducing columns).brought ↔ column ∈ columns := by
  rw [mem_gathered]
  simp [introducing, introduced, children]

def computing (computed : List Computed) : List Node :=
  introducing (computed.map Computed.column) :: computed.map fun entry => .expr entry.expr

theorem mem_held_computing {computed : List Computed} : column ∈ heldBy (computing computed) ↔
    ∃ entry ∈ computed, column = entry.column ∨ column ∈ (Node.expr entry.expr).held := by
  simp [computing, gatheredBy, and_or_left, exists_or, eq_comm]

theorem mem_brought_computing {computed : List Computed} : column ∈ broughtBy (computing computed) ↔
    ∃ entry ∈ computed, column = entry.column ∨ column ∈ (Node.expr entry.expr).brought := by
  simp [computing, gatheredBy, and_or_left, exists_or, eq_comm]

@[simp] theorem mem_held_computing_append : column ∈ heldBy (computing (computed ++ others)) ↔
    column ∈ heldBy (computing computed) ∨ column ∈ heldBy (computing others) := by
  simp [mem_held_computing, or_and_right, exists_or]

@[simp] theorem mem_brought_computing_append :
    column ∈ broughtBy (computing (computed ++ others)) ↔
      column ∈ broughtBy (computing computed) ∨ column ∈ broughtBy (computing others) := by
  simp [mem_brought_computing, or_and_right, exists_or]

variable {listed : List Column} {computed : List Computed} {input : Scan} {span : Option Span}

@[simp] theorem mem_held_singleRow : column ∉ (Node.scan .singleRow).held := by
  rw [mem_gathered]
  simp [columns, Scan.columns, children]

@[simp] theorem mem_brought_singleRow : column ∉ (Node.scan .singleRow).brought := by
  rw [mem_gathered]
  simp [introduced, children]

@[simp] theorem mem_held_project : column ∈ (Node.scan (.project listed computed input span)).held ↔
    column ∈ listed ∨ column ∈ heldBy (computing computed) ∨ column ∈ (Node.scan input).held := by
  rw [mem_gathered]
  simp [columns, children, computing, or_assoc]

@[simp] theorem mem_brought_project : column ∈ (Node.scan (.project listed computed input span)).brought ↔
    column ∈ broughtBy (computing computed) ∨ column ∈ (Node.scan input).brought := by
  rw [mem_gathered]
  simp [introduced, children, computing, or_assoc]

/-! ### Listing nodes -/

theorem mem_gathered_iff_nodes (depth : Nat) (node : Node) :
    column ∈ gathered own node ↔ ∃ entry ∈ node.nodes depth, column ∈ own entry.2 := by
  induction node using of_children generalizing depth with
  | step node ih =>
    rw [mem_gathered, nodes_eq]
    simp only [mem_cons, mem_flatMap, exists_eq_or_imp]
    refine or_congr_right ⟨?_, ?_⟩
    · rintro ⟨child, part, inside⟩
      obtain ⟨entry, listed, inside⟩ := (ih child part (depth + 1)).mp inside
      exact ⟨entry, ⟨child, part, listed⟩, inside⟩
    · rintro ⟨entry, ⟨child, part, listed⟩, inside⟩
      exact ⟨child, part, (ih child part (depth + 1)).mpr ⟨entry, listed, inside⟩⟩

end Node

/-! ### Where columns come from -/

open Node (heldBy broughtBy)

/-- New columns have numbers of their own within a range. -/
structure Fresh (low high : Nat) (made : Set Column) : Prop where
  le : low ≤ high
  within : ∀ column ∈ made, low ≤ column.id ∧ column.id < high
  unique : ∀ column ∈ made, ∀ other ∈ made, column.id = other.id → column = other

theorem Fresh.none (number : Nat) : Fresh number number ∅ := ⟨Nat.le_refl _, by simp, by simp⟩

theorem Fresh.one (column : Column) : Fresh column.id (column.id + 1) {column} := ⟨Nat.le_succ _, by simp, by simp⟩

theorem Fresh.union (first : Fresh low middle made) (second : Fresh middle high later) :
    Fresh low high (made ∪ later) := by
  refine ⟨Nat.le_trans first.le second.le, ?_, ?_⟩
  · rintro column (early | late)
    · exact ⟨(first.within column early).1, Nat.lt_of_lt_of_le (first.within column early).2 second.le⟩
    · exact ⟨Nat.le_trans first.le (second.within column late).1, (second.within column late).2⟩
  · rintro column (early | late) other (early' | late') same
    · exact first.unique column early other early' same
    · have := (first.within column early).2
      have := (second.within other late').1
      omega
    · have := (first.within other early').2
      have := (second.within column late).1
      omega
    · exact second.unique column late other late' same

/-- Each column in the trees is known or new, and each is visible or introduced by one of the trees. -/
structure Traced (known visible made : Set Column) (trees : List Node) : Prop where
  known : heldBy trees ⊆ known ∪ made
  introduced : heldBy trees ⊆ visible ∪ broughtBy trees

namespace Traced

variable {known visible made : Set Column} {trees : List Node}

theorem congr (traced : Traced known visible made trees) (held : heldBy second ⊆ heldBy trees)
    (brought : broughtBy trees ⊆ broughtBy second) : Traced known visible made second := by
  refine ⟨held.trans traced.known, fun column inside => ?_⟩
  exact (traced.introduced (held inside)).imp_right fun brings => brought brings

theorem mono (traced : Traced known visible made trees) (knownMore : known ∪ made ⊆ known' ∪ made')
    (visibleMore : visible ⊆ visible') : Traced known' visible' made' trees :=
  ⟨traced.known.trans knownMore, traced.introduced.trans (Set.union_subset_union_left _ visibleMore)⟩

theorem append (earlier : Traced known visible made first) (later : Traced known' visible' made' second)
    (knownMore : known' ⊆ known ∪ made) (visibleMore : visible' ⊆ visible ∪ heldBy first) :
    Traced known visible (made ∪ made') (first ++ second) := by
  constructor
  · intro column inside
    rcases Node.mem_gatheredBy_append.mp inside with inside | inside
    · exact (earlier.known inside).imp_right .inl
    · rcases later.known inside with old | new
      · exact (knownMore old).imp_right .inl
      · exact .inr (.inr new)
  · have fromFirst : heldBy first ⊆ visible ∪ broughtBy (first ++ second) := fun column inside =>
      (earlier.introduced inside).imp_right fun brings => Node.mem_gatheredBy_append.mpr (.inl brings)
    intro column inside
    rcases Node.mem_gatheredBy_append.mp inside with inside | inside
    · exact fromFirst inside
    · rcases later.introduced inside with seen | brings
      · exact (visibleMore seen).elim .inl fun held => fromFirst held
      · exact .inr (Node.mem_gatheredBy_append.mpr (.inr brings))

theorem chain (earlier : Traced known visible made first)
    (later : Traced (known ∪ made) (visible ∪ heldBy first) made' second) :
    Traced known visible (made ∪ made') (first ++ second) :=
      earlier.append later (Set.Subset.refl _) (Set.Subset.refl _)

/-- A node on top of trees: its own columns are visible or occur below, and what it does not keep it introduces itself.
-/
theorem wrap (top : Node) (traced : Traced known visible made (front ++ (top.children ++ extra)))
    (own : ∀ column ∈ top.columns, column ∈ known ∧ column ∈ visible ∨ column ∈ heldBy (top.children ++ extra))
    (gives : ∀ column ∈ broughtBy extra, column ∈ top.introduced) : Traced known visible made (front ++ [top]) := by
  have brings : broughtBy (front ++ (top.children ++ extra)) ⊆ broughtBy (front ++ [top]) := by
    intro column inside
    simp only [Node.mem_gatheredBy_append, Node.mem_gatheredBy_cons, Node.mem_gathered] at inside ⊢
    rcases inside with before | below | beside
    · exact .inl before
    · exact .inr (.inl (.inr below))
    · exact .inr (.inl (.inl (gives column beside)))
  have held : ∀ column ∈ heldBy (front ++ [top]),
      column ∈ known ∧ column ∈ visible ∨ column ∈ heldBy (front ++ (top.children ++ extra)) := by
    intro column inside
    simp only [Node.mem_gatheredBy_append, Node.mem_gatheredBy_cons, Node.mem_gatheredBy_nil, or_false] at inside ⊢
    rcases inside with before | inside
    · exact .inr (.inl before)
    rcases Node.mem_gathered.mp inside with listed | below
    · exact (own column listed).imp_right fun held => .inr (Node.mem_gatheredBy_append.mp held)
    · exact .inr (.inr (.inl below))
  constructor
  · intro column inside
    exact (held column inside).elim (fun seen => .inl seen.1) fun inside => traced.known inside
  · intro column inside
    rcases held column inside with seen | inside
    · exact .inl seen.2
    · exact (traced.introduced inside).imp_right fun brought => brings brought

end Traced

theorem Statement.mem_columns : column ∈ statement.columns ↔ column ∈ (Node.statement statement).held := by
  rw [columns, mem_flatMap, Node.mem_gathered_iff_nodes 0]
  rfl

theorem Statement.mem_introduced : column ∈ statement.introduced ↔ column ∈ (Node.statement statement).brought := by
  rw [introduced, mem_flatMap, Node.mem_gathered_iff_nodes 0]
  rfl

end SqlLens.Resolved
