import SqlLens.Surface.Kind
import SqlLens.Tree

/-!
Surface trees: a script as it is written.

A node has a kind, the bytes it covers where they are known, and its children. `Node.preorder` lists a node and all
nodes below it, a parent before its children; the number of a node is its place among all nodes of the tree when
children come before their parent (`Node.postorder`).
-/

namespace SqlLens.Surface

inductive Node where
  | mk (kind : Kind) (span : Option Span) (children : List Node)

namespace Node

def kind : Node → Kind
  | mk kind _ _ => kind

def span : Node → Option Span
  | mk _ span _ => span

def children : Node → List Node
  | mk _ _ children => children

def leaf (kind : Kind) (span : Option Span) : Node := mk kind span []

def covering (kind : Kind) (children : List Node) (spans : List (Option Span)) : Node :=
  mk kind (Span.coverAll ((children.map span ++ spans).filterMap id)) children

mutual
def preorder : Node → List Node
  | mk kind span children => mk kind span children :: preorderAll children

def preorderAll : List Node → List Node
  | [] => []
  | node :: rest => node.preorder ++ preorderAll rest
end

mutual
def postorder : Node → List Node
  | mk kind span children => postorderAll children ++ [mk kind span children]

def postorderAll : List Node → List Node
  | [] => []
  | node :: rest => node.postorder ++ postorderAll rest
end

mutual
def size : Node → Nat
  | mk _ _ children => sizeAll children + 1

def sizeAll : List Node → Nat
  | [] => 0
  | node :: rest => node.size + sizeAll rest
end

mutual
def height : Node → Nat
  | mk _ _ children => heightAll children + 1

def heightAll : List Node → Nat
  | [] => 0
  | node :: rest => max node.height (heightAll rest)
end

theorem total_size (nodes : List Node) : total size nodes = sizeAll nodes := by
  induction nodes with
  | nil => rfl
  | cons node rest ih => rw [total, ih, sizeAll]

theorem size_eq (node : Node) : node.size = sizeAll node.children + 1 := by
  cases node
  rfl

instance : Branching Node where
  children := children
  size := size
  smaller node := by
    rw [total_size, size_eq]
    exact Nat.lt_succ_self _

variable (node : Node)

def descendants : List Node := walk node.children.reverse

theorem preorderAll_eq (nodes : List Node) : preorderAll nodes = nodes.flatMap preorder := by
  induction nodes with
  | nil => rfl
  | cons node rest ih => rw [preorderAll, ih, List.flatMap_cons]

theorem walk_eq_preorder (stack : List Node) : walk stack = stack.reverse.flatMap preorder :=
  walk_eq_flatMap (fun node => by cases node; exact congrArg _ (preorderAll_eq _)) stack

theorem descendants_eq : node.descendants = preorderAll node.children := by
  rw [descendants, walk_eq_preorder, List.reverse_reverse, preorderAll_eq]

def childOf? (test : Kind → Bool) : Option Node := node.children.find? fun child => test child.kind

def name? : Option String := node.kind.name?

def alias? : Option String :=
  (node.childOf? fun | .aliasName _ => true | _ => false).bind name?

def names : List String := node.children.filterMap name?

def dotted : String := Text.join "." node.names

def tablePath? : Option Node := node.childOf? (· == .path)

def commonNames : List String :=
  node.descendants.filterMap fun
    | .mk (.withEntry name) _ _ => some name
    | _ => none

def tableReference? (common : List String) (node : Node) : Option Node :=
  match node.kind with
  | .tablePath =>
    match node.tablePath? with
    | some path =>
      match path.names with
      | [name] => if common.any (Text.sameName · name) then none else some path
      | _ => some path
    | none => none
  | _ => none

/-- Keeps the first of the paths with the same dotted name, where it has a span. -/
def firstOfEach (seen : List String) : List Node → List (String × Span)
  | [] => []
  | path :: rest =>
    if path.dotted ∈ seen then firstOfEach seen rest
    else
      match path.span with
      | some span => (path.dotted, span) :: firstOfEach (path.dotted :: seen) rest
      | none => firstOfEach (path.dotted :: seen) rest

def tablePaths : List (String × Span) :=
  firstOfEach [] (node.descendants.filterMap (tableReference? node.commonNames))

end Node

end SqlLens.Surface
