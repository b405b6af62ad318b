import SqlLens.Resolved.Basic
import SqlLens.Tree

/-!
The nodes of a resolved query.

`Node.children` gives the nodes just below one, in the order in which they are listed, and `Statement.nodes` all nodes
of a statement with their depth, a parent before its children.
-/

namespace SqlLens.Resolved

inductive Node where
  | statement (statement : Statement)
  | scan (scan : Scan)
  | expr (expr : TypedExpr)

namespace Node

def span : Node → Option Span
  | statement s => s.span
  | scan s => s.span
  | expr e => e.span

def label : Node → String
  | statement _ => "Statement"
  | scan s => s.label
  | expr e => e.label

def children : Node → List Node
  | statement s => [scan s.query]
  | scan (.table ..) => []
  | scan (.project _ computed input _) => computed.map (fun c => expr c.expr) ++ [scan input]
  | scan (.filter _ input condition _) => [scan input, expr condition]
  | scan (.join _ _ left right condition _) => [scan left, scan right] ++ condition.toList.map expr
  | scan (.aggregate _ input groups _) => scan input :: groups.map fun c => expr c.expr
  | scan (.orderBy _ input items _) => scan input :: items.map fun i => expr i.expr
  | scan (.limit _ input count offset _) => [scan input, expr count] ++ offset.toList.map expr
  | scan (.common _ entries query _) => entries.map (fun e => scan e.query) ++ [scan query]
  | scan (.reference ..) => []
  | scan .singleRow => []
  | scan (.setOperation _ _ _ left right _) => [scan left, scan right]
  | scan (.array _ input array _ _ condition _ _) =>
    input.toList.map scan ++ [expr array] ++ condition.toList.map expr
  | scan (.analytic _ input calls _) => scan input :: calls.map fun c => expr c.expr
  | expr (.literal ..) => []
  | expr (.column ..) => []
  | expr (.call _ arguments _ _) => arguments.map expr
  | expr (.analyticCall _ arguments partition order _ _) =>
    arguments.map expr ++ partition.map expr ++ order.map fun i => expr i.expr
  | expr (.field base _ _ _) => [expr base]
  | expr (.cast base _ _ _) => [expr base]
  | expr (.subquery _ query tested _ _) => tested.toList.map expr ++ [scan query]

end Node

mutual
def Scan.nodes (depth : Nat) : Scan → List (Nat × Node)
  | .table name aliasName columns span => [(depth, .scan (.table name aliasName columns span))]
  | .project columns computed input span =>
    (depth, .scan (.project columns computed input span)) ::
      (computedNodes (depth + 1) computed ++ input.nodes (depth + 1))
  | .filter columns input condition span =>
    (depth, .scan (.filter columns input condition span)) ::
      (input.nodes (depth + 1) ++ condition.nodes (depth + 1))
  | .join columns type left right condition span =>
    (depth, .scan (.join columns type left right condition span)) ::
      (left.nodes (depth + 1) ++ right.nodes (depth + 1) ++ optionalNodes (depth + 1) condition)
  | .aggregate columns input groups span =>
    (depth, .scan (.aggregate columns input groups span)) ::
      (input.nodes (depth + 1) ++ computedNodes (depth + 1) groups)
  | .orderBy columns input items span =>
    (depth, .scan (.orderBy columns input items span)) ::
      (input.nodes (depth + 1) ++ sortKeyNodes (depth + 1) items)
  | .limit columns input count offset span =>
    (depth, .scan (.limit columns input count offset span)) ::
      (input.nodes (depth + 1) ++ count.nodes (depth + 1) ++ optionalNodes (depth + 1) offset)
  | .common columns entries query span =>
    (depth, .scan (.common columns entries query span)) ::
      (entryNodes (depth + 1) entries ++ query.nodes (depth + 1))
  | .reference columns entry aliasName span => [(depth, .scan (.reference columns entry aliasName span))]
  | .singleRow => [(depth, .scan .singleRow)]
  | .setOperation columns op distinct left right span =>
    (depth, .scan (.setOperation columns op distinct left right span)) ::
      (left.nodes (depth + 1) ++ right.nodes (depth + 1))
  | .array columns input array element offset condition outer span =>
    (depth, .scan (.array columns input array element offset condition outer span)) ::
      (optionalScanNodes (depth + 1) input ++ array.nodes (depth + 1) ++ optionalNodes (depth + 1) condition)
  | .analytic columns input calls span =>
    (depth, .scan (.analytic columns input calls span)) ::
      (input.nodes (depth + 1) ++ computedNodes (depth + 1) calls)

def TypedExpr.nodes (depth : Nat) : TypedExpr → List (Nat × Node)
  | .literal text type span => [(depth, .expr (.literal text type span))]
  | .column column span => [(depth, .expr (.column column span))]
  | .call function arguments type span =>
    (depth, .expr (.call function arguments type span)) :: exprNodes (depth + 1) arguments
  | .analyticCall function arguments partition order type span =>
    (depth, .expr (.analyticCall function arguments partition order type span)) ::
      (exprNodes (depth + 1) arguments ++ exprNodes (depth + 1) partition ++ sortKeyNodes (depth + 1) order)
  | .field base name type span => (depth, .expr (.field base name type span)) :: base.nodes (depth + 1)
  | .cast base type safe span => (depth, .expr (.cast base type safe span)) :: base.nodes (depth + 1)
  | .subquery kind query tested type span =>
    (depth, .expr (.subquery kind query tested type span)) ::
      (optionalNodes (depth + 1) tested ++ query.nodes (depth + 1))

def exprNodes (depth : Nat) : List TypedExpr → List (Nat × Node)
  | [] => []
  | expr :: rest => expr.nodes depth ++ exprNodes depth rest

def optionalNodes (depth : Nat) : Option TypedExpr → List (Nat × Node)
  | none => []
  | some expr => expr.nodes depth

def optionalScanNodes (depth : Nat) : Option Scan → List (Nat × Node)
  | none => []
  | some scan => scan.nodes depth

def computedNodes (depth : Nat) : List Computed → List (Nat × Node)
  | [] => []
  | .mk _ expr :: rest => expr.nodes depth ++ computedNodes depth rest

def sortKeyNodes (depth : Nat) : List SortKey → List (Nat × Node)
  | [] => []
  | .mk expr _ :: rest => expr.nodes depth ++ sortKeyNodes depth rest

def entryNodes (depth : Nat) : List Entry → List (Nat × Node)
  | [] => []
  | .mk _ query :: rest => query.nodes depth ++ entryNodes depth rest
end

def Statement.nodes (statement : Statement) : List (Nat × Node) :=
  (0, .statement statement) :: statement.query.nodes 1

namespace Node

variable (depth : Nat)

/-- A node and all nodes below it with their depths, a parent before its children. -/
def nodes : Node → List (Nat × Node)
  | .statement s => (depth, .statement s) :: s.query.nodes (depth + 1)
  | .scan s => s.nodes depth
  | .expr e => e.nodes depth

theorem exprNodes_eq (exprs : List TypedExpr) :
    exprNodes depth exprs = exprs.flatMap fun expr => expr.nodes depth := by
  induction exprs <;> simp_all [exprNodes]

theorem computedNodes_eq (computed : List Computed) :
    computedNodes depth computed = computed.flatMap fun entry => entry.expr.nodes depth := by
  induction computed with
  | nil => rfl
  | cons entry rest ih => cases entry; simp [computedNodes, Computed.expr, ih]

theorem sortKeyNodes_eq (keys : List SortKey) :
    sortKeyNodes depth keys = keys.flatMap fun key => key.expr.nodes depth := by
  induction keys with
  | nil => rfl
  | cons key rest ih => cases key; simp [sortKeyNodes, SortKey.expr, ih]

theorem entryNodes_eq (entries : List Entry) :
    entryNodes depth entries = entries.flatMap fun entry => entry.query.nodes depth := by
  induction entries with
  | nil => rfl
  | cons entry rest ih => cases entry; simp [entryNodes, Entry.query, ih]

theorem optionalNodes_eq (expr : Option TypedExpr) :
    optionalNodes depth expr = expr.toList.flatMap fun expr => expr.nodes depth := by
  cases expr <;> simp [optionalNodes]

theorem optionalScanNodes_eq (scan : Option Scan) :
    optionalScanNodes depth scan = scan.toList.flatMap fun scan => scan.nodes depth := by
  cases scan <;> simp [optionalScanNodes]

theorem nodes_eq (node : Node) :
    node.nodes depth = (depth, node) :: node.children.flatMap fun child => child.nodes (depth + 1) := by
  rcases node with statement | scan | expr
  · simp [nodes, children]
  · cases scan <;>
      simp [nodes, Scan.nodes, children, List.flatMap_map, computedNodes_eq, sortKeyNodes_eq, entryNodes_eq,
      optionalNodes_eq, optionalScanNodes_eq]
  · cases expr <;> simp [nodes, TypedExpr.nodes, children, List.flatMap_map, exprNodes_eq, sortKeyNodes_eq,
      optionalNodes_eq]

theorem of_children {P : Node → Prop} (step : ∀ node, (∀ child ∈ node.children, P child) → P node) (node : Node) :
    P node := by
  -- Every child has fewer nodes below it, which the list of nodes shows.
  have every (length depth : Nat) (node : Node) (size : (node.nodes depth).length = length) : P node := by
    induction length using Nat.strongRecOn generalizing depth node with
    | _ length ih =>
      refine step node fun child part => ih _ ?_ (depth + 1) child rfl
      obtain ⟨front, back, split⟩ := List.append_of_mem part
      rw [← size, nodes_eq depth node, split]
      simp only [List.flatMap_append, List.flatMap_cons, List.length_cons, List.length_append]
      omega
  exact every _ 0 node rfl

theorem map_nodes (node : Node) : (node.nodes depth).map Prod.snd = (node.nodes 0).map Prod.snd := by
  induction node using of_children generalizing depth with
  | step node ih =>
    rw [nodes_eq, nodes_eq 0, List.map_cons, List.map_cons, List.map_flatMap, List.map_flatMap]
    refine congrArg (node :: ·.flatten) (List.map_congr_left fun child part => ?_)
    rw [ih child part, ih child part (0 + 1)]

theorem map_nodes_eq (node : Node) : (node.nodes 0).map Prod.snd =
    node :: node.children.flatMap fun child => (child.nodes 0).map Prod.snd := by
  rw [nodes_eq, List.map_cons, List.map_flatMap]
  simp only [map_nodes (0 + 1)]

instance : Branching Node where
  children := children
  size node := ((node.nodes 0).map Prod.snd).length
  smaller node := by
    rw [map_nodes_eq, List.length_cons, length_flatMap_eq_total]
    exact Nat.lt_succ_self _

end Node

theorem walk_eq_nodes (statement : Statement) : walk [.statement statement] = statement.nodes.map Prod.snd :=
  (walk_eq_flatMap Node.map_nodes_eq _).trans (List.flatMap_singleton ..)

end SqlLens.Resolved
