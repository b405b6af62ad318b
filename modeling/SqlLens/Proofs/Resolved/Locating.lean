import SqlLens.Proofs.Script.Trees
import SqlLens.Resolved.Locate
import SqlLens.Surface.Place

/-!
Nodes at an offset.

A path of child numbers leads from a node down to another one (`descend`). The lists of nodes have what stands at each
path once, in the order of the paths (`Visits`), and so have the nodes at an offset. The last of these is the innermost
one. The numbers of parents in an arena lead up from a place through the nodes above it (`Climbs`), so that the nearest
one of a kind is found (`located_node_innermost`).
-/

namespace SqlLens

open List

/-- The node at the end of a path, and the nodes that are passed on the way, the nearest first. -/
def descend (children : ν → List ν) (above : List ν) (node : ν) : List Nat → Option (ν × List ν)
  | [] => some (node, above)
  | index :: path => (children node)[index]?.bind fun child => descend children (node :: above) child path

/-- What is found at any path is listed, once and in the order of the paths: a parent before its children, and all below
a child before the next one. -/
def Visits (at? : List Nat → Option β) (listed : List β) : Prop :=
  ∃ found : List (List Nat × β), found.map Prod.snd = listed ∧ found.Pairwise (·.1 < ·.1) ∧
    ∀ path value, (path, value) ∈ found ↔ at? path = some value

/-- The last that is found at any path, so that nothing is found below it. -/
def IsInnermost (at? : List Nat → Option β) : Option β → Prop
  | none => ∀ path, at? path = none
  | some value => ∃ path, at? path = some value ∧ (∀ later, path < later → at? later = none) ∧
    ∀ index rest, at? (path ++ index :: rest) = none

variable {at? : List Nat → Option β} {find : ν → List Nat → Option β}

theorem Visits.filterMap (visits : Visits at? listed) (g : β → Option γ) :
    Visits (fun path => (at? path).bind g) (listed.filterMap g) := by
  obtain ⟨found, rfl, ordered, all⟩ := visits
  refine ⟨found.filterMap fun entry => (g entry.2).map (entry.1, ·), ?_, ?_, fun path value => ?_⟩
  · simp [map_filterMap, filterMap_map, Function.comp_def]
  · refine ordered.filterMap _ fun left right less one first other second => ?_
    obtain ⟨_, -, rfl⟩ := Option.map_eq_some_iff.mp first
    obtain ⟨_, -, rfl⟩ := Option.map_eq_some_iff.mp second
    exact less
  · simp [Option.bind_eq_some_iff, ← all]

theorem lt_append_cons (path : List Nat) (index : Nat) (rest : List Nat) : path < path ++ index :: rest := by
  induction path with
  | nil => exact nil_lt_cons _ _
  | cons first path ih => exact cons_lt_cons_iff.mpr (.inr ⟨rfl, ih⟩)

theorem Visits.innermost (visits : Visits at? listed) : IsInnermost at? listed.getLast? := by
  obtain ⟨found, rfl, ordered, all⟩ := visits
  rw [getLast?_map]
  cases last : found.getLast? with
  | none =>
    intro path
    rw [getLast?_eq_none_iff.mp last] at all
    simpa [Option.eq_none_iff_forall_ne_some] using all path
  | some entry =>
    obtain ⟨front, rfl⟩ := getLast?_eq_some_iff.mp last
    have latest (later : List Nat) (less : entry.1 < later) : at? later = none := by
      refine Option.eq_none_iff_forall_ne_some.mpr fun value there => ?_
      rcases mem_append.mp ((all later value).mpr there) with early | same
      · exact List.lt_asymm less ((pairwise_append.mp ordered).2.2 _ early entry mem_cons_self)
      · cases mem_singleton.mp same
        exact List.lt_irrefl _ less
    exact ⟨entry.1, (all _ _).mp (by simp), latest, fun index rest => latest _ (lt_append_cons ..)⟩

/-! ### Lists of nodes -/

def VisitsBelow (find : ν → List Nat → Option β) (children : List ν) (listed : List β) : Prop :=
  ∃ found : List (Nat × List Nat × β), found.map (·.2.2) = listed ∧
    found.Pairwise (fun left right => left.1 :: left.2.1 < right.1 :: right.2.1) ∧
      ∀ index path value, (index, path, value) ∈ found ↔ children[index]?.bind (find · path) = some value

theorem VisitsBelow.nil : VisitsBelow find [] [] := ⟨[], rfl, .nil, by simp⟩

theorem VisitsBelow.cons (first : Visits (find child) listed) (rest : VisitsBelow find children others) :
    VisitsBelow find (child :: children) (listed ++ others) := by
  obtain ⟨found, rfl, ordered, all⟩ := first
  obtain ⟨found', rfl, ordered', all'⟩ := rest
  refine ⟨found.map (0, ·) ++ found'.map fun entry => (entry.1 + 1, entry.2),
    by simp [Function.comp_def], pairwise_append.mpr ⟨?_, ?_, ?_⟩, ?_⟩
  · simpa [pairwise_map, cons_lt_cons_iff] using ordered
  · simpa [pairwise_map, cons_lt_cons_iff] using ordered'
  · intro left early right late
    obtain ⟨_, -, rfl⟩ := mem_map.mp early
    obtain ⟨_, -, rfl⟩ := mem_map.mp late
    exact cons_lt_cons_iff.mpr (.inl (Nat.succ_pos _))
  · rintro (_ | index) path value
    · simpa using all path value
    · simpa using all' index path value

theorem VisitsBelow.visits (deeper : VisitsBelow find children listed) (here : at? [] = some own)
    (there : ∀ index path, at? (index :: path) = children[index]?.bind (find · path)) : Visits at? (own :: listed) := by
  obtain ⟨found, rfl, ordered, all⟩ := deeper
  refine ⟨([], own) :: found.map fun entry => (entry.1 :: entry.2.1, entry.2.2), by simp [Function.comp_def],
    pairwise_cons.mpr ⟨fun later inside => ?_, pairwise_map.mpr ordered⟩, ?_⟩
  · obtain ⟨_, -, rfl⟩ := mem_map.mp inside
    exact nil_lt_cons _ _
  · rintro (_ | ⟨index, path⟩) value
    · simp [here, eq_comm]
    · simpa [there] using all index path value

theorem VisitsBelow.of_each (each : ∀ child ∈ children, Visits (find child) (f child)) :
    VisitsBelow find children (children.flatMap f) := by
  induction children with
  | nil => exact .nil
  | cons child rest ih =>
      exact .cons (each child mem_cons_self) (ih fun child inside => each child (mem_cons_of_mem _ inside))

namespace Surface

/-! ### Places -/

mutual
def placesFrom (arena : Arena) (first : Nat) (above : List Node) : Node → List Place
  | .mk kind span children =>
    ⟨arena, first, .mk kind span children, above⟩ :: placesOfAll arena first (.mk kind span children :: above) children

def placesOfAll (arena : Arena) (first : Nat) (above : List Node) : List Node → List Place
  | [] => []
  | node :: rest => placesFrom arena first above node ++ placesOfAll arena (first + node.size) above rest
end

section

variable (arena : Arena) (first : Nat) (above : List Node)

theorem placesFrom_eq (node : Node) : placesFrom arena first above node =
    ⟨arena, first, node, above⟩ :: placesOfAll arena first (node :: above) node.children := by
  cases node
  rfl

theorem placesOfAll_eq (nodes : List Node) : placesOfAll arena first above nodes =
    (Place.row arena above first nodes).flatMap fun place =>
      placesFrom place.arena place.first place.above place.node := by
  induction nodes generalizing first with
  | nil => rfl
  | cons node rest ih => rw [placesOfAll, ih, Place.row, flatMap_cons]

theorem places_eq (root : Node) : root.places = placesFrom root.arena 0 [] root := by
  have step (place : Place) : placesFrom place.arena place.first place.above place.node =
      place :: (Branching.children place).flatMap fun place =>
        placesFrom place.arena place.first place.above place.node := by
    rw [placesFrom_eq, placesOfAll_eq]
    rfl
  rw [Node.places, walk_eq_flatMap step]
  exact flatMap_singleton ..

mutual
theorem map_node_placesFrom (first : Nat) (above : List Node) : (node : Node) →
    (placesFrom arena first above node).map Place.node = node.preorder
  | .mk _ _ children => congrArg _ (map_node_placesOfAll first _ children)

theorem map_node_placesOfAll (first : Nat) (above : List Node) : (nodes : List Node) →
    (placesOfAll arena first above nodes).map Place.node = Node.preorderAll nodes
  | [] => rfl
  | node :: rest => by
    rw [placesOfAll, map_append, map_node_placesFrom, map_node_placesOfAll _ _ rest, Node.preorderAll]
end

def Place.spot (place : Place) : Node × List Node := (place.node, place.above)

mutual
theorem visits_placesFrom (first : Nat) (above : List Node) : (node : Node) →
    Visits (descend Node.children above node) ((placesFrom arena first above node).map Place.spot)
  | .mk _ _ children => (visitsBelow_placesOfAll first _ children).visits rfl fun _ _ => rfl

theorem visitsBelow_placesOfAll (first : Nat) (above : List Node) : (nodes : List Node) →
    VisitsBelow (descend Node.children above) nodes ((placesOfAll arena first above nodes).map Place.spot)
  | [] => .nil
  | node :: rest => by
    rw [placesOfAll, map_append]
    exact .cons (visits_placesFrom first above node) (visitsBelow_placesOfAll _ above rest)
end

end

/-- The node at a path, if it is looked for. -/
def Node.foundAt? (root : Node) (offset : Nat) (test : Kind → Bool) (path : List Nat) : Option (Node × List Node) :=
  (descend Node.children [] root path).filter fun found => test found.1.kind && found.1.span.any (·.contains offset)

theorem visits_covering (root : Node) (offset : Nat) (test : Kind → Bool) :
    Visits (root.foundAt? offset test) ((Place.covering offset test root.places).map Place.spot) := by
  have visits := (visits_placesFrom root.arena 0 [] root).filterMap
    (Option.guard fun found => test found.1.kind && found.1.span.any (·.contains offset))
  rw [filterMap_eq_filter, filter_map] at visits
  simp only [Option.bind_guard] at visits
  rw [places_eq]
  exact visits

/-! ### The way up -/

/-- Trees lie in an arena from a number on, under a parent. -/
def LiesFrom (arena : Arena) (first : Nat) (parent : Option Nat) (nodes : List Node) : Prop :=
  ∃ before after trees others,
    arena.entries.toList = before ++ (Node.entriesAll first parent nodes ++ after) ∧ before.length = first ∧
      arena.nodes.toList = trees ++ (Node.postorderAll nodes ++ others) ∧ trees.length = first

/-- From a number on, the numbers of parents lead through nodes up to a root. -/
inductive Climbs (arena : Arena) : Option Nat → List Node → Prop
  | top : Climbs arena none []
  | step {number : Nat} {node : Node} {above : List Node}
      (kind : arena.entries[number]?.map Entry.kind = some node.kind)
      (tree : arena.nodes[number]? = some node)
      (higher : Climbs arena (arena.parent? number) above) : Climbs arena (some number) (node :: above)

section

variable {arena : Arena} {first : Nat} {parent : Option Nat} {above : List Node} {node : Node} {others : List Node}

theorem lies_arena (root : Node) : LiesFrom root.arena 0 none [root] :=
  ⟨[], [], [], [], by rw [append_nil]; exact Arena.holds_arena root, rfl,
    by rw [append_nil]; exact (Arena.holds_arena root).toList_nodes, rfl⟩

theorem LiesFrom.entry (lies : LiesFrom arena first parent (node :: others)) : arena.entries[node.root first]? =
    some ⟨node.kind, node.span, parent, Node.roots first node.children⟩ := by
  obtain ⟨before, after, -, -, entries, rfl, -, -⟩ := lies
  obtain ⟨below, length, split⟩ :=
    Node.entries_split before (Node.entriesAll (before.length + node.size) parent others ++ after) node
  rw [← Array.getElem?_toList, entries, Node.entriesAll, append_assoc, split, ← length]
  simp

theorem LiesFrom.tree (lies : LiesFrom arena first parent (node :: others)) :
    arena.nodes[node.root first]? = some node := by
  obtain ⟨-, -, trees, _, -, -, nodes, rfl⟩ := lies
  rw [← Array.getElem?_toList, nodes, Node.postorderAll, Node.postorder_eq, Node.root, ← Node.length_postorderAll]
  simp

theorem LiesFrom.children (lies : LiesFrom arena first parent (node :: others)) :
    LiesFrom arena first (some (node.root first)) node.children := by
  obtain ⟨before, _, trees, _, entries, length, nodes, same⟩ := lies
  rw [Node.entriesAll, Node.entries_eq, append_assoc, append_assoc] at entries
  rw [Node.postorderAll, Node.postorder_eq, append_assoc, append_assoc] at nodes
  exact ⟨before, _, trees, _, entries, length, nodes, same⟩

theorem LiesFrom.behind (lies : LiesFrom arena first parent (node :: others)) :
    LiesFrom arena (first + node.size) parent others := by
  obtain ⟨before, after, trees, later, entries, length, nodes, same⟩ := lies
  rw [Node.entriesAll, append_assoc, ← append_assoc] at entries
  rw [Node.postorderAll, append_assoc, ← append_assoc] at nodes
  refine ⟨_, after, _, later, entries, ?_, nodes, ?_⟩
  · rw [length_append, Node.length_entries, length]
  · rw [length_append, Node.length_postorder, same]

theorem climbs_placesOfAll (lies : LiesFrom arena first parent nodes) (climbs : Climbs arena parent above) :
    ∀ place ∈ placesOfAll arena first above nodes,
      place.arena = arena ∧ Climbs arena (some place.number) (place.node :: place.above) := by
  induction nodes using Node.forest_induction generalizing first parent above with
  | nil => simp [placesOfAll]
  | cons node rest below behind =>
    have own : Climbs arena (some (node.root first)) (node :: above) :=
      .step (by rw [lies.entry]; rfl) lies.tree (by rw [Arena.parent?, lies.entry]; exact climbs)
    intro place listed
    rw [placesOfAll, placesFrom_eq] at listed
    rcases mem_append.mp listed with here | later
    · rcases mem_cons.mp here with rfl | deeper
      · exact ⟨rfl, own⟩
      · exact below lies.children own place deeper
    · exact behind lies.behind climbs place later

theorem Climbs.lookup (climbs : Climbs arena (arena.parent? number) above) (test : Kind → Bool) :
    (arena.lookup? test number).bind (arena.nodes[·]?) = above.find? (test ·.kind) := by
  generalize link : arena.parent? number = parent at climbs
  induction climbs generalizing number with
  | top =>
    rw [Arena.lookup?]
    split
    · rfl
    · rename_i parent above
      rw [link] at above
      cases above
  | step kind tree higher ih =>
    rw [Arena.lookup?]
    split
    · rename_i none
      rw [link] at none
      cases none
    · rename_i parent above
      cases link.symm.trans above
      rw [kind, find?_cons, Option.any_some]
      split
      · rename_i passes
        rw [passes, Option.bind_some, tree]
      · rename_i fails
        rw [Bool.eq_false_iff.mpr fails]
        exact ih rfl

theorem ancestor?_eq {root : Node} {place : Place} (listed : place ∈ root.places) (test : Kind → Bool) :
    place.ancestor? test = place.above.find? (test ·.kind) := by
  rw [places_eq, ← append_nil (placesFrom ..)] at listed
  obtain ⟨same, climbs⟩ := climbs_placesOfAll (lies_arena root) .top place listed
  cases climbs with
  | step kind tree higher =>
    rw [Place.ancestor?, same]
    exact higher.lookup test

end

end Surface

namespace Resolved

theorem visits_nodes (depth : Nat) (above : List Node) (node : Node) :
    Visits (fun path => (descend Node.children above node path).map Prod.fst) ((node.nodes depth).map Prod.snd) := by
  induction node using Node.of_children generalizing depth above with
  | step node ih =>
    have deeper : VisitsBelow (fun child path => (descend Node.children (node :: above) child path).map Prod.fst)
        node.children (node.children.flatMap fun child => (child.nodes (depth + 1)).map Prod.snd) :=
      .of_each fun child inside => ih child inside _ _
    rw [Node.nodes_eq, map_cons, map_flatMap]
    exact deeper.visits rfl fun _ _ => Option.map_bind ..

def Statement.foundAt? (statement : Statement) (offset : Nat) (pick : Node → Option α) (path : List Nat) :
    Option (α × Option Span) :=
  ((descend Node.children [] (.statement statement) path).map Prod.fst).bind fun node =>
    if node.span.any (·.contains offset) then (pick node).map fun value => (value, node.span) else none

theorem visits_covering (statement : Statement) (offset : Nat) (pick : Node → Option α) :
    Visits (statement.foundAt? offset pick) (statement.covering offset pick) := by
  have visits := (visits_nodes 0 [] (.statement statement)).filterMap fun node =>
    if node.span.any (·.contains offset) then (pick node).map fun value => (value, node.span) else none
  rw [Statement.covering, walk_eq_nodes]
  exact visits

end Resolved

open Surface (Place) in
/-- Walking down from a node with a stack gives the nodes that a recursion lists: all nodes of the tree, each once and
before those below it. Those that are looked for at an offset come in the same order, and the last of them is the
innermost one. On the way up from a place, along the numbers of parents in the arena of the tree, which for a script is
the one that its statements were built in, the nearest node of a kind is found. -/
theorem located_node_innermost :
    (∀ root : Surface.Node,
      walk [root] = root.preorder ∧ root.descendants = Surface.Node.preorderAll root.children ∧
      root.places = Surface.placesFrom root.arena 0 [] root ∧
      root.places.map Place.node = root :: root.descendants ∧
      Visits (descend Surface.Node.children [] root) (root.places.map Place.spot) ∧
      ∀ offset test,
        Visits (root.foundAt? offset test) ((Place.covering offset test root.places).map Place.spot) ∧
        IsInnermost (root.foundAt? offset test) ((Place.deepest? offset test root.places).map Place.spot)) ∧
    (∀ root : Surface.Node, ∀ place ∈ root.places, ∀ test,
      place.ancestor? test = place.above.find? (test ·.kind) ∧
      (place.ancestor? test = none ↔ ∀ node ∈ place.above, test node.kind = false) ∧
      ∀ node, place.ancestor? test = some node ↔ test node.kind = true ∧
        ∃ nearer farther, place.above = nearer ++ node :: farther ∧ ∀ other ∈ nearer, test other.kind = false) ∧
    (∀ text, (Script.read text).tree.arena = (Script.read text).syntaxTree.arena) ∧
    ∀ statement : Resolved.Statement,
      walk [.statement statement] = statement.nodes.map Prod.snd ∧
      Visits (fun path => (descend Resolved.Node.children [] (.statement statement) path).map Prod.fst)
        (statement.nodes.map Prod.snd) ∧
      ∀ {α : Type} offset (pick : Resolved.Node → Option α),
        Visits (statement.foundAt? offset pick) (statement.covering offset pick) ∧
        IsInnermost (statement.foundAt? offset pick) (statement.deepest? offset pick) := by
  refine ⟨fun root => ⟨?_, root.descendants_eq, Surface.places_eq root, ?_, ?_, fun offset test => ?_⟩,
    fun root place listed test => ?_, fun text => ?_, fun statement => ⟨Resolved.walk_eq_nodes statement,
      Resolved.visits_nodes 0 [] (.statement statement), fun offset pick => ?_⟩⟩
  · rw [Surface.Node.walk_eq_preorder]
    exact flatMap_singleton ..
  · rw [Surface.places_eq, Surface.map_node_placesFrom, Surface.Node.descendants_eq]
    cases root
    rfl
  · rw [Surface.places_eq]
    exact Surface.visits_placesFrom _ 0 [] root
  · have visits := Surface.visits_covering root offset test
    have last := visits.innermost
    rw [getLast?_map] at last
    exact ⟨visits, last⟩
  · rw [Surface.ancestor?_eq listed]
    exact ⟨rfl, by simp, fun node => by simp [find?_eq_some_iff_append]⟩
  · have whole := (Script.arena_holds text).1
    rw [← Script.tree_eq] at whole
    exact (Surface.Arena.holds_arena _).unique whole
  · have visits := Resolved.visits_covering statement offset pick
    exact ⟨visits, visits.innermost⟩

end SqlLens
