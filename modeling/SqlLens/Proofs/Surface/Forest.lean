import Mathlib.Data.List.Basic
import Mathlib.Logic.Relation
import SqlLens.Surface.Arena

/-!
Trees in an arena.

Trees that are put into an arena children first lie there one behind the other, each in the order of `Node.postorder`
(`Node.entriesAll`), and the roots that have no parent yet are the next to be given one. Putting a node on top of the
last of them makes one tree of these (`Arena.Holds.put`). In the arena of a tree, links lead from parents to children
and back (`mem_children_iff`), and reading the tree from the arena gives it again (`Arena.Holds.nodes`).
-/

namespace SqlLens.Surface

open Node
open List

namespace Node

variable {base : Nat} {parent : Option Nat}

theorem sizeAll_append (nodes others : List Node) : sizeAll (nodes ++ others) = sizeAll nodes + sizeAll others := by
  induction nodes with
  | nil => simp [sizeAll]
  | cons node rest ih =>
    simp only [cons_append, sizeAll, ih]
    omega

/-- What holds of a list of trees, given that it holds of the children of the first and of the others, holds of all. -/
theorem forest_induction {motive : List Node → Prop} (nil : motive [])
    (cons : ∀ node rest, motive node.children → motive rest → motive (node :: rest)) :
    (nodes : List Node) → motive nodes
  | [] => nil
  | mk kind span children :: rest =>
    cons (mk kind span children) rest (forest_induction nil cons children) (forest_induction nil cons rest)

mutual
theorem length_preorder : (node : Node) → node.preorder.length = node.size
  | mk _ _ children => by simp [preorder, size, length_preorderAll children]

theorem length_preorderAll : (nodes : List Node) → (preorderAll nodes).length = sizeAll nodes
  | [] => rfl
  | node :: rest => by simp [preorderAll, sizeAll, length_preorder node, length_preorderAll rest]
end

def root (base : Nat) (node : Node) : Nat := base + sizeAll node.children

def roots (base : Nat) : List Node → List Nat
  | [] => []
  | node :: rest => node.root base :: roots (base + node.size) rest

theorem roots_append (base : Nat) (nodes others : List Node) :
    roots base (nodes ++ others) = roots base nodes ++ roots (base + sizeAll nodes) others := by
  induction nodes generalizing base with
  | nil => simp [roots, sizeAll]
  | cons node rest ih => simp [roots, sizeAll, ih, Nat.add_assoc]

mutual
def entries (base : Nat) (parent : Option Nat) : Node → List Entry
  | mk kind span children =>
    entriesAll base (some (base + sizeAll children)) children ++ [⟨kind, span, parent, roots base children⟩]

def entriesAll (base : Nat) (parent : Option Nat) : List Node → List Entry
  | [] => []
  | node :: rest => node.entries base parent ++ entriesAll (base + node.size) parent rest
end

theorem entries_eq (base : Nat) (parent : Option Nat) (node : Node) : node.entries base parent =
    entriesAll base (some (node.root base)) node.children ++
        [⟨node.kind, node.span, parent, roots base node.children⟩] := by
  cases node
  rfl

mutual
@[simp] theorem length_entries (base : Nat) (parent : Option Nat) :
    (node : Node) → (node.entries base parent).length = node.size
  | mk _ _ children => by simp [entries, size, length_entriesAll base _ children]

@[simp] theorem length_entriesAll (base : Nat) (parent : Option Nat) :
    (nodes : List Node) → (entriesAll base parent nodes).length = sizeAll nodes
  | [] => rfl
  | node :: rest => by
    simp [entriesAll, sizeAll, length_entries base parent node, length_entriesAll (base + node.size) parent rest]
end

theorem entriesAll_append (base : Nat) (parent : Option Nat) (nodes others : List Node) :
    entriesAll base parent (nodes ++ others) =
      entriesAll base parent nodes ++ entriesAll (base + sizeAll nodes) parent others := by
  induction nodes generalizing base with
  | nil => simp [entriesAll, sizeAll]
  | cons node rest ih => simp [entriesAll, sizeAll, ih, Nat.add_assoc]

/-! ### Links -/

def numbered (base : Nat) (parent : Option Nat) (nodes : List Node) : List (Entry × Nat) :=
  (entriesAll base parent nodes).zipIdx base

theorem numbered_cons (base : Nat) (parent : Option Nat) (node : Node) (rest : List Node) :
    numbered base parent (node :: rest) =
      numbered base (some (node.root base)) node.children ++
        (⟨node.kind, node.span, parent, roots base node.children⟩, node.root base) ::
          numbered (base + node.size) parent rest := by
  simp [numbered, entriesAll, entries_eq, zipIdx_append, root, size_eq, Nat.add_assoc]

theorem lt_of_mem_roots (listed : number ∈ roots base nodes) : number < base + sizeAll nodes := by
  induction nodes generalizing base with
  | nil => cases listed
  | cons node rest ih =>
    simp only [sizeAll]
    rcases mem_cons.mp listed with rfl | later
    · simp only [root, size_eq]
      omega
    · have := ih later
      omega

theorem parent_of_mem_roots (listed : number ∈ roots base nodes) :
    ∃ entry, (entry, number) ∈ numbered base parent nodes ∧ entry.parent = parent := by
  induction nodes generalizing base with
  | nil => cases listed
  | cons node rest ih =>
    rw [numbered_cons]
    rcases mem_cons.mp listed with rfl | later
    · exact ⟨_, mem_append_right _ mem_cons_self, rfl⟩
    · obtain ⟨entry, there, same⟩ := ih later
      exact ⟨entry, mem_append_right _ (mem_cons_of_mem _ there), same⟩

theorem lt_of_mem_children {number : Nat} (listed : (entry, number) ∈ numbered base parent nodes) :
    ∀ child ∈ entry.children, child < number := by
  induction nodes using forest_induction generalizing base parent with
  | nil => cases listed
  | cons node rest below behind =>
    rw [numbered_cons] at listed
    rcases mem_append.mp listed with inside | outside
    · exact below inside
    · rcases mem_cons.mp outside with same | later
      · cases same
        exact fun child => lt_of_mem_roots
      · exact behind later

theorem parent_of_mem_children {number : Nat} (listed : (entry, number) ∈ numbered base parent nodes)
    (given : child ∈ entry.children) :
    ∃ below, (below, child) ∈ numbered base parent nodes ∧ below.parent = some number := by
  induction nodes using forest_induction generalizing base parent with
  | nil => cases listed
  | cons node rest below behind =>
    rw [numbered_cons] at listed ⊢
    rcases mem_append.mp listed with inside | outside
    · obtain ⟨lower, there, same⟩ := below inside
      exact ⟨lower, mem_append_left _ there, same⟩
    · rcases mem_cons.mp outside with same | later
      · cases same
        obtain ⟨lower, there, same⟩ := parent_of_mem_roots given
        exact ⟨lower, mem_append_left _ there, same⟩
      · obtain ⟨lower, there, same⟩ := behind later
        exact ⟨lower, mem_append_right _ (mem_cons_of_mem _ there), same⟩

theorem mem_roots_or_children {number : Nat} (listed : (entry, number) ∈ numbered base parent nodes) :
    (number ∈ roots base nodes ∧ entry.parent = parent) ∨
      ∃ above, ∃ higher, (higher, above) ∈ numbered base parent nodes ∧ number ∈ higher.children ∧
        entry.parent = some above := by
  induction nodes using forest_induction generalizing base parent with
  | nil => cases listed
  | cons node rest below behind =>
    rw [numbered_cons] at listed ⊢
    rcases mem_append.mp listed with inside | outside
    · right
      rcases below inside with ⟨top, same⟩ | ⟨above, higher, there, child, same⟩
      · exact ⟨_, _, mem_append_right _ mem_cons_self, top, same⟩
      · exact ⟨above, higher, mem_append_left _ there, child, same⟩
    · rcases mem_cons.mp outside with same | later
      · cases same
        exact .inl ⟨mem_cons_self, rfl⟩
      · rcases behind later with ⟨top, same⟩ | ⟨above, higher, there, child, same⟩
        · exact .inl ⟨mem_cons_of_mem _ top, same⟩
        · exact .inr ⟨above, higher, mem_append_right _ (mem_cons_of_mem _ there), child, same⟩

/-! ### Roots -/

theorem postorder_eq (node : Node) : node.postorder = postorderAll node.children ++ [node] := by
  cases node
  rfl

theorem length_postorderAll (nodes : List Node) : (postorderAll nodes).length = sizeAll nodes := by
  induction nodes using forest_induction with
  | nil => rfl
  | cons node rest below behind =>
    simp only [postorderAll, postorder_eq, length_append, below, behind, sizeAll, size_eq, length_singleton]

theorem length_postorder (node : Node) : node.postorder.length = node.size := by
  rw [postorder_eq, length_append, length_postorderAll, size_eq, length_singleton]

theorem roots_of_postorderAll (before nodes : List Node) :
    (roots before.length nodes).filterMap ((before ++ postorderAll nodes)[·]?) = nodes := by
  induction nodes generalizing before with
  | nil => rfl
  | cons node rest ih =>
    have own : (before ++ (node.postorder ++ postorderAll rest))[node.root before.length]? = some node := by
      simp [postorder_eq, root, ← length_postorderAll]
    have later := ih (before ++ node.postorder)
    rw [length_append, length_postorder, append_assoc] at later
    rw [roots, postorderAll, filterMap_cons_some own, later]

theorem entries_split (before others : List Entry) (node : Node) :
    ∃ below, below.length = node.root before.length ∧
      ∀ parent, before ++ (node.entries before.length parent ++ others) =
        below ++ ⟨node.kind, node.span, parent, roots before.length node.children⟩ :: others := by
  refine ⟨before ++ entriesAll before.length (some (node.root before.length)) node.children, ?_, fun parent => ?_⟩
  · simp [root]
  · simp [entries_eq]

theorem span_roots (before : List Entry) (parent : Option Nat) (nodes : List Node) :
    (roots before.length nodes).map (fun number =>
      (before ++ entriesAll before.length parent nodes)[number]?.bind Entry.span) = nodes.map span := by
  induction nodes generalizing before with
  | nil => rfl
  | cons node rest ih =>
    have own : (before ++ entriesAll before.length parent (node :: rest))[node.root before.length]?.bind Entry.span =
        node.span := by
      obtain ⟨below, length, split⟩ := entries_split before (entriesAll (before.length + node.size) parent rest) node
      rw [entriesAll, split, ← length]
      simp
    have later := ih (before ++ node.entries before.length parent)
    rw [length_append, length_entries, append_assoc] at later
    rw [roots, map_cons, own, map_cons, entriesAll, later]

theorem adopt_roots (before : List Entry) (parent : Nat) (nodes : List Node) :
    (roots before.length nodes).foldl (fun entries child => entries.modify child (.under parent))
      (before ++ entriesAll before.length none nodes) = before ++ entriesAll before.length (some parent) nodes := by
  induction nodes generalizing before with
  | nil => rfl
  | cons node rest ih =>
    have own (others : List Entry) : (before ++ (node.entries before.length none ++ others)).modify
        (node.root before.length) (.under parent) = before ++ (node.entries before.length (some parent) ++ others) := by
      obtain ⟨below, length, split⟩ := entries_split before others node
      rw [split, split, ← length, modify_eq_take_drop, take_left, drop_left, modifyHead_cons]
      rfl
    have later := ih (before ++ node.entries before.length (some parent))
    rw [length_append, length_entries, append_assoc, append_assoc] at later
    rw [roots, foldl_cons, entriesAll, own, later, entriesAll]

end Node

namespace Arena

/-- Trees lie behind other entries; their roots have no parent. -/
def Holds (arena : Arena) (before : List Entry) (nodes : List Node) : Prop :=
  arena.entries.toList = before ++ entriesAll before.length none nodes

theorem toList_adopt (parent : Nat) (children : List Nat) (entries : Array Entry) :
    (adopt parent children entries).toList =
      children.foldl (fun entries child => entries.modify child (.under parent)) entries.toList := by
  induction children generalizing entries with
  | nil => rfl
  | cons child rest ih => rw [adopt, foldl_cons, ← adopt, ih, Array.toList_modify, foldl_cons]

variable {arena : Arena} {before : List Entry} {nodes children : List Node}

theorem Holds.size (holds : arena.Holds before nodes) : arena.size = before.length + sizeAll nodes := by
  rw [Arena.size, ← Array.length_toList, holds, length_append, length_entriesAll]

theorem Holds.put (holds : arena.Holds before (nodes ++ children)) (kind : Kind) (span : Option Span) :
    let base := before.length + Node.sizeAll nodes
    let made := Node.mk kind span children
    ∃ after, arena.put kind span (Node.roots base children) = (made.root base, after) ∧
      after.Holds before (nodes ++ [made]) := by
  intro base made
  have number : arena.size = made.root base := by
    rw [holds.size, Node.sizeAll_append, ← Nat.add_assoc]
    rfl
  refine ⟨_, Prod.ext number rfl, ?_⟩
  have split : arena.entries.toList = (before ++ Node.entriesAll before.length none nodes) ++
      Node.entriesAll base none children := by
    rw [holds, Node.entriesAll_append, append_assoc]
  have length : (before ++ Node.entriesAll before.length none nodes).length = base := by simp [base]
  have adopted := Node.adopt_roots (before ++ Node.entriesAll before.length none nodes) arena.size children
  rw [length] at adopted
  rw [Holds, Arena.put, Array.toList_push, toList_adopt, split, adopted, number, Node.entriesAll_append]
  simp [Node.entriesAll, Node.entries_eq, made, base, Node.children, Node.kind, Node.span]

mutual
theorem Holds.store {arena : Arena} {nodes : List Node} (holds : arena.Holds before nodes) :
    (node : Node) → ∃ after, arena.store node = (node.root (before.length + sizeAll nodes), after) ∧
      after.Holds before (nodes ++ [node])
  | .mk kind bytes children => by
    obtain ⟨lower, stored, holds⟩ := holds.storeAll children
    obtain ⟨after, put, holds⟩ := holds.put kind bytes
    exact ⟨after, by rw [Arena.store, stored]; exact put, holds⟩

theorem Holds.storeAll {arena : Arena} {nodes : List Node} (holds : arena.Holds before nodes) :
    (children : List Node) → ∃ after,
      arena.storeAll children = (roots (before.length + sizeAll nodes) children, after) ∧
        after.Holds before (nodes ++ children)
  | [] => ⟨arena, rfl, by rwa [append_nil]⟩
  | node :: rest => by
    obtain ⟨lower, stored, holds⟩ := holds.store node
    obtain ⟨after, others, holds⟩ := holds.storeAll rest
    refine ⟨after, ?_, by rwa [append_assoc] at holds⟩
    rw [sizeAll_append, ← Nat.add_assoc] at others
    rw [Arena.storeAll, stored]
    simp only [others]
    rfl
end

theorem Holds.unique {other : Arena} (one : arena.Holds before nodes) (two : other.Holds before nodes) :
    arena = other := by
  obtain ⟨entries, _⟩ := arena
  obtain ⟨others, _⟩ := other
  obtain rfl : entries = others := Array.toList_inj.mp (one.trans two.symm)
  rfl

theorem Holds.spans (holds : arena.Holds before (nodes ++ children)) :
    (Node.roots (before.length + Node.sizeAll nodes) children).map arena.span? = children.map Node.span := by
  have spans := span_roots (before ++ entriesAll before.length none nodes) none children
  rw [length_append, length_entriesAll, append_assoc, ← entriesAll_append, ← holds] at spans
  simp only [Array.getElem?_toList] at spans
  exact spans

theorem Holds.rollback (holds : arena.Holds before nodes) : (arena.rollback before.length).Holds before [] := by
  change (arena.entries.take before.length).toList = _
  rw [Array.take_eq_extract, Array.toList_extract, holds, extract_eq_take_drop, drop_zero,
    Nat.sub_zero, take_left, entriesAll, append_nil]

theorem holds_append : arena.Holds before (nodes ++ children) ↔
    arena.Holds (before ++ entriesAll before.length none nodes) children := by
  simp [Holds, entriesAll_append, append_assoc]

theorem toList_grow (trees : Array Node) (parent : Option Nat) (nodes : List Node) :
    ((entriesAll trees.size parent nodes).foldl grow trees).toList = trees.toList ++ postorderAll nodes := by
  induction nodes using forest_induction generalizing trees parent with
  | nil => simp [entriesAll, postorderAll]
  | cons node rest below behind =>
    rw [entriesAll, entries_eq, foldl_append, foldl_append]
    generalize grown : (entriesAll trees.size (some (node.root trees.size)) node.children).foldl grow trees = lower
    have inner : lower.toList = trees.toList ++ postorderAll node.children := by rw [← grown, below]
    have again : grow lower ⟨node.kind, node.span, parent, roots trees.size node.children⟩ = lower.push node := by
      have found := roots_of_postorderAll trees.toList node.children
      simp only [← inner, Array.getElem?_toList, Array.length_toList] at found
      rw [grow, found]
      cases node
      rfl
    have size : (lower.push node).size = trees.size + node.size := by
      rw [Array.size_push, ← Array.length_toList, inner, length_append, length_postorderAll,
        Array.length_toList, size_eq, Nat.add_assoc]
    rw [foldl_cons, foldl_nil, again, ← size, behind, Array.toList_push, inner, postorderAll,
      postorder_eq]
    simp

theorem Holds.toList_nodes (holds : arena.Holds [] nodes) : arena.nodes.toList = postorderAll nodes := by
  rw [Arena.nodes, ← Array.foldl_toList, holds]
  exact toList_grow #[] none nodes

theorem holds_empty : empty.Holds [] [] := rfl

theorem holds_arena (root : Node) : root.arena.Holds [] [root] := by
  obtain ⟨after, stored, holds⟩ := holds_empty.store root
  rw [Node.arena, stored]
  exact holds

/-! ### The arena of one tree -/

variable {node : Node} {number child : Nat}

theorem Holds.getElem?_nodes (whole : arena.Holds [] [node]) : arena.nodes[node.root 0]? = some node := by
  rw [← Array.getElem?_toList, whole.toList_nodes, postorderAll, postorder_eq, root,
    ← length_postorderAll]
  simp [postorderAll]

theorem Holds.entry_iff (holds : arena.Holds [] nodes) :
    arena.entries[number]? = some entry ↔ (entry, number) ∈ numbered 0 none nodes := by
  rw [← Array.getElem?_toList, holds, numbered, mem_zipIdx_iff_getElem?]
  rfl

theorem Holds.mem_children_iff (whole : arena.Holds [] [node]) :
    child ∈ arena.children number ↔ arena.parent? child = some number := by
  constructor
  · intro listed
    cases found : arena.entries[number]? with
    | none => simp [children, found] at listed
    | some entry =>
      have given : child ∈ entry.children := by simpa [children, found] using listed
      obtain ⟨below, there, same⟩ := parent_of_mem_children (whole.entry_iff.mp found) given
      rw [parent?, whole.entry_iff.mpr there, Option.bind_some, same]
  · intro linked
    obtain ⟨entry, found, same⟩ := Option.bind_eq_some_iff.mp linked
    rcases mem_roots_or_children (whole.entry_iff.mp found) with ⟨-, none⟩ | ⟨above, higher, there, listed, up⟩
    · rw [same] at none
      cases none
    · obtain rfl : number = above := Option.some.inj (same.symm.trans up)
      simpa [children, whole.entry_iff.mpr there] using listed

theorem Holds.child_lt (whole : arena.Holds [] [node]) (listed : child ∈ arena.children number) : child < number := by
  cases found : arena.entries[number]? with
  | none => simp [children, found] at listed
  | some entry =>
    have given : child ∈ entry.children := by simpa [children, found] using listed
    exact lt_of_mem_children (whole.entry_iff.mp found) child given

theorem Holds.size_eq (whole : arena.Holds [] [node]) : arena.size = node.root 0 + 1 := by
  rw [whole.size, Node.sizeAll, Node.sizeAll, Node.size_eq, Node.root]
  simp

theorem Holds.exists_parent (whole : arena.Holds [] [node]) (inside : number < arena.size)
    (below : number ≠ node.root 0) :
    ∃ above < arena.size, number ∈ arena.children above := by
  have found : arena.entries[number]? = some arena.entries[number] := Array.getElem?_eq_getElem inside
  rcases mem_roots_or_children (whole.entry_iff.mp found) with ⟨top, -⟩ | ⟨above, higher, there, listed, -⟩
  · exact absurd (mem_singleton.mp top) below
  · have placed := whole.entry_iff.mpr there
    exact ⟨above, (Array.getElem?_eq_some_iff.mp placed).1, by simpa [children, placed] using listed⟩

theorem Holds.parent_eq_none_iff (whole : arena.Holds [] [node]) (inside : number < arena.size) :
    arena.parent? number = none ↔ number = node.root 0 := by
  constructor
  · intro top
    by_contra below
    obtain ⟨above, -, listed⟩ := whole.exists_parent inside below
    rw [whole.mem_children_iff.mp listed] at top
    cases top
  · rintro rfl
    by_contra linked
    obtain ⟨above, linked⟩ := Option.ne_none_iff_exists'.mp linked
    have listed := whole.mem_children_iff.mpr linked
    have above_lt : above < arena.size := by
      by_contra outside
      have missing : arena.entries[above]? = none := Array.getElem?_eq_none (Nat.le_of_not_lt outside)
      simp [children, missing] at listed
    have := whole.child_lt listed
    have := whole.size_eq
    omega

theorem Holds.reaches (whole : arena.Holds [] [node]) (inside : number < arena.size) :
    Relation.ReflTransGen (fun above below => below ∈ arena.children above) (node.root 0) number := by
  -- The number of a parent is greater, so the way up ends at the root.
  induction rest : arena.size - number using Nat.strongRecOn generalizing number with
  | ind rest ih =>
    by_cases top : number = node.root 0
    · exact top ▸ .refl
    · obtain ⟨above, aboveInside, listed⟩ := whole.exists_parent inside top
      have := whole.child_lt listed
      exact (ih (arena.size - above) (by omega) aboveInside rfl).tail listed

end Arena

/-- The links of an arena make one tree, whose root is the last node. -/
structure Arena.IsTree (arena : Arena) (root : Nat) : Prop where
  linked : ∀ child parent, child ∈ arena.children parent ↔ arena.parent? child = some parent
  rising : ∀ parent, ∀ child ∈ arena.children parent, child < parent
  last : root + 1 = arena.size
  only : ∀ number < arena.size, arena.parent? number = none ↔ number = root
  reached : ∀ number < arena.size,
    Relation.ReflTransGen (fun parent child => child ∈ arena.children parent) root number

theorem Arena.Holds.isTree {arena : Arena} (whole : arena.Holds [] [node]) :
    arena.IsTree (node.root 0) where
  linked _ _ := whole.mem_children_iff
  rising _ _ := whole.child_lt
  last := whole.size_eq.symm
  only _ := whole.parent_eq_none_iff
  reached _ := whole.reaches

theorem Arena.Holds.finish {arena : Arena} {nodes : List Node} (holds : arena.Holds [] nodes) (kind : Kind)
    (span : Option Span) :
    (arena.finish kind span (roots 0 nodes)).arena.Holds [] [.mk kind span nodes] ∧
      (arena.finish kind span (Node.roots 0 nodes)).root = (Node.mk kind span nodes).root 0 := by
  obtain ⟨after, put, lies⟩ := @Arena.Holds.put arena [] [] nodes holds kind span
  simp only [Arena.finish, sizeAll, length_nil, Nat.add_zero] at put ⊢
  rw [put]
  exact ⟨lies, rfl⟩

theorem SyntaxTree.node_eq {tree : SyntaxTree} {node : Node} (whole : tree.arena.Holds [] [node])
    (top : tree.root = node.root 0) : tree.node = node := by
  have found := whole.getElem?_nodes
  rw [← top] at found
  exact (Array.getElem?_eq_some_iff.mp found).2

end SqlLens.Surface
