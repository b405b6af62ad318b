/-!
Walks over trees.

A walk keeps what is still to be visited on a stack. It ends since that gets smaller with each node that is taken off,
and comes to the nodes of a tree in the order in which a recursion lists them (`walk_eq_flatMap`).
-/

namespace SqlLens

def total (size : ν → Nat) : List ν → Nat
  | [] => 0
  | node :: rest => size node + total size rest

theorem total_append (size : ν → Nat) (nodes others : List ν) :
    total size (nodes ++ others) = total size nodes + total size others := by
  induction nodes with
  | nil => simp [total]
  | cons node rest ih => simp [total, ih, Nat.add_assoc]

theorem total_reverse (size : ν → Nat) (nodes : List ν) : total size nodes.reverse = total size nodes := by
  induction nodes with
  | nil => rfl
  | cons node rest ih => simp [total, total_append, ih, Nat.add_comm]

theorem length_flatMap_eq_total (list : ν → List α) (nodes : List ν) :
    (nodes.flatMap list).length = total (fun node => (list node).length) nodes := by
  induction nodes with
  | nil => rfl
  | cons node rest ih => rw [List.flatMap_cons, List.length_append, ih, total]

/-- Nodes that are larger than all nodes just below them together. -/
class Branching (ν : Type) where
  children : ν → List ν
  size : ν → Nat
  smaller : ∀ node, total size (children node) < size node

/-- Visits what is on a stack, whose top is its end, and all that is below. Each node that is taken off the top is
followed by its children, which are put on in reverse. -/
def walk [Branching ν] (stack : List ν) : List ν :=
  match _top : stack.getLast? with
  | none => []
  | some node => node :: walk (stack.dropLast ++ (Branching.children node).reverse)
termination_by total Branching.size stack
decreasing_by
  obtain ⟨front, rfl⟩ := List.getLast?_eq_some_iff.mp _top
  have := Branching.smaller node
  simp only [List.dropLast_concat, total_append, total_reverse, total]
  omega

theorem walk_eq_flatMap [Branching ν] {list : ν → List ν}
    (step : ∀ node, list node = node :: (Branching.children node).flatMap list) (stack : List ν) :
    walk stack = stack.reverse.flatMap list := by
  fun_induction walk stack with
  | case1 stack empty => simp [List.getLast?_eq_none_iff.mp empty]
  | case2 stack node top ih =>
    obtain ⟨front, rfl⟩ := List.getLast?_eq_some_iff.mp top
    rw [ih]
    simp [step node]

end SqlLens
