import SqlLens.Surface.Arena

/-!
Nodes of a surface tree at their places.

A place is a node together with the nodes above it and the arena of the whole tree. `places` lists the places of a tree,
a parent before its children; `deepest?` finds the last of them that passes a test and covers an offset, which is the
innermost one, and `ancestor?` goes up from a place.
-/

namespace SqlLens.Surface

structure Place where
  arena : Arena
  /-- The number of the first node at or below the node. -/
  first : Nat
  node : Node
  above : List Node

namespace Place

/-- The number of the node when children are counted before their parent. -/
def number (place : Place) : Nat := place.first + Node.sizeAll place.node.children

def row (arena : Arena) (above : List Node) : Nat → List Node → List Place
  | _, [] => []
  | first, node :: rest => ⟨arena, first, node, above⟩ :: row arena above (first + node.size) rest

def children (place : Place) : List Place :=
  row place.arena (place.node :: place.above) place.first place.node.children

theorem total_row (arena : Arena) (above : List Node) (first : Nat) (nodes : List Node) :
    total (·.node.size) (row arena above first nodes) = total Node.size nodes := by
  induction nodes generalizing first with
  | nil => rfl
  | cons node rest ih => rw [row, total, ih, total]

instance : Branching Place where
  children := children
  size place := place.node.size
  smaller place := by
    rw [children, total_row]
    exact Branching.smaller place.node

def covers (offset : Nat) (place : Place) : Bool := place.node.span.any (·.contains offset)

def covering (offset : Nat) (test : Kind → Bool) (places : List Place) : List Place :=
  places.filter fun place => test place.node.kind && place.covers offset

def deepest? (offset : Nat) (test : Kind → Bool) (places : List Place) : Option Place :=
  (covering offset test places).getLast?

def ancestor? (test : Kind → Bool) (place : Place) : Option Node :=
  (place.arena.lookup? test place.number).bind (place.arena.nodes[·]?)

end Place

def Node.places (root : Node) : List Place := walk [⟨root.arena, 0, root, []⟩]

def Kind.isPath (kind : Kind) : Bool := kind = .path

def Kind.isTablePath (kind : Kind) : Bool := kind = .tablePath

def Kind.isSelectColumn (kind : Kind) : Bool := kind = .selectColumn

def Node.numbered? (root : Node) (number : Nat) : Option Node := root.postorder[number]?

def Node.selected? (node : Node) : Option Node := node.children.head?

end SqlLens.Surface
