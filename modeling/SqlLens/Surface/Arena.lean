import SqlLens.Surface.Basic

/-!
Arenas: nodes by number.

Nodes are numbered in the order in which they are put into an arena, children before their parent, and know their parent
and their children by number. If a statement turns out to have no tree, the arena is cut back to the size it had before
(`Arena.rollback`). `Arena.nodes` gives the tree below each node, and a `SyntaxTree` is an arena with a node for its
root.
-/

namespace SqlLens.Surface

structure Entry where
  kind : Kind
  span : Option Span
  parent : Option Nat
  children : List Nat

def Entry.under (parent : Nat) (entry : Entry) : Entry := { entry with parent := some parent }

/-- The parent of each entry comes after it. -/
def Rising (entries : Array Entry) : Prop :=
  ∀ number parent, entries[number]?.bind Entry.parent = some parent → number < parent

structure Arena where
  entries : Array Entry
  rising : Rising entries

namespace Arena

def empty : Arena := ⟨#[], fun _ _ found => by cases found⟩

variable (arena : Arena)

def size : Nat := arena.entries.size

def adopt (parent : Nat) (children : List Nat) (entries : Array Entry) : Array Entry :=
  children.foldl (fun entries child => entries.modify child (.under parent)) entries

@[simp] theorem size_adopt (parent : Nat) (children : List Nat) (entries : Array Entry) :
    (adopt parent children entries).size = entries.size := by
  induction children generalizing entries with
  | nil => rfl
  | cons child rest ih =>
    rw [adopt, List.foldl_cons, ← adopt, ih, Array.size_modify]

theorem rising_adopt {entries : Array Entry} (rising : Rising entries) (inside : entries.size ≤ parent) :
    Rising (adopt parent children entries) := by
  induction children generalizing entries with
  | nil => exact rising
  | cons child rest ih =>
    rw [adopt, List.foldl_cons, ← adopt]
    refine ih (fun number above found => ?_) (by rwa [Array.size_modify])
    rw [Array.getElem?_modify] at found
    split at found
    · rename_i same
      subst same
      obtain ⟨_, here, given⟩ := Option.bind_eq_some_iff.mp found
      obtain ⟨old, there, rfl⟩ := Option.map_eq_some_iff.mp here
      cases given
      exact Nat.lt_of_lt_of_le (Array.getElem?_eq_some_iff.mp there).1 inside
    · exact rising _ _ found

def put (kind : Kind) (span : Option Span) (children : List Nat) : Nat × Arena where
  fst := arena.size
  snd.entries := (adopt arena.size children arena.entries).push ⟨kind, span, none, children⟩
  snd.rising := by
    intro number parent found
    rw [Array.getElem?_push] at found
    split at found
    · cases found
    · exact rising_adopt arena.rising (Nat.le_refl _) _ _ found

def span? (number : Nat) : Option Span := arena.entries[number]?.bind Entry.span

def parent? (number : Nat) : Option Nat := arena.entries[number]?.bind Entry.parent

def children (number : Nat) : List Nat := (arena.entries[number]?.map Entry.children).getD []

def rollback (size : Nat) : Arena where
  entries := arena.entries.take size
  rising number parent found := by
    rw [Array.take_eq_extract, Array.getElem?_extract] at found
    split at found
    · rw [Nat.zero_add] at found
      exact arena.rising _ _ found
    · cases found

/-- The nearest node above one whose kind passes a test. The way up ends since parents come after their children. -/
def lookup? (test : Kind → Bool) (number : Nat) : Option Nat :=
  match _above : arena.parent? number with
  | none => none
  | some parent =>
    if (arena.entries[parent]?.map Entry.kind).any test then some parent else lookup? test parent
termination_by arena.size - number
decreasing_by
  have := arena.rising _ _ _above
  obtain ⟨_, here, -⟩ := Option.bind_eq_some_iff.mp _above
  have := (Array.getElem?_eq_some_iff.mp here).1
  have : arena.size = arena.entries.size := rfl
  omega

def grow (trees : Array Node) (entry : Entry) : Array Node :=
  trees.push (.mk entry.kind entry.span (entry.children.filterMap (trees[·]?)))

def nodes : Array Node := arena.entries.foldl grow #[]

theorem size_nodes : arena.nodes.size = arena.size := by
  have grown (entries : List Entry) (trees : Array Node) :
      (entries.foldl grow trees).size = trees.size + entries.length := by
    induction entries generalizing trees with
    | nil => rfl
    | cons entry rest ih =>
      rw [List.foldl_cons, ih, List.length_cons, grow, Array.size_push]
      omega
  rw [nodes, ← Array.foldl_toList, grown]
  simp [size]

mutual
def store (arena : Arena) : Node → Nat × Arena
  | .mk kind span children =>
    let (numbers, arena) := storeAll arena children
    arena.put kind span numbers

def storeAll (arena : Arena) : List Node → List Nat × Arena
  | [] => ([], arena)
  | node :: rest =>
    let (number, arena) := store arena node
    let (numbers, arena) := storeAll arena rest
    (number :: numbers, arena)
end

end Arena

def Node.arena (root : Node) : Arena := (Arena.empty.store root).2

structure SyntaxTree where
  arena : Arena
  root : Nat
  rooted : root < arena.size

def Arena.finish (arena : Arena) (kind : Kind) (span : Option Span) (children : List Nat) : SyntaxTree where
  arena := (arena.put kind span children).2
  root := (arena.put kind span children).1
  rooted := by simp [put, size]

def SyntaxTree.node (tree : SyntaxTree) : Node :=
  have inside : tree.root < tree.arena.nodes.size := tree.arena.size_nodes ▸ tree.rooted
  tree.arena.nodes[tree.root]

end SqlLens.Surface
