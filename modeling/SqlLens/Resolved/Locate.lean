import SqlLens.Resolved.Node

/-!
Nodes of a resolved query at an offset.
-/

namespace SqlLens.Resolved

/-- What a node of interest is, with the bytes it was resolved from: its kind is chosen by `pick`. -/
def Statement.covering (statement : Statement) (offset : Nat) (pick : Node → Option α) : List (α × Option Span) :=
  (walk [Node.statement statement]).filterMap fun node =>
    if node.span.any (·.contains offset) then (pick node).map fun value => (value, node.span) else none

def Statement.deepest? (statement : Statement) (offset : Nat) (pick : Node → Option α) : Option (α × Option Span) :=
  (statement.covering offset pick).getLast?

namespace Node

def call? : Node → Option Function
  | expr (.call function _ _ _) => some function
  | _ => none

def analyticCall? : Node → Option Function
  | expr (.analyticCall function ..) => some function
  | _ => none

def field? : Node → Option (String × SqlType)
  | expr (.field _ name type _) => some (name, type)
  | _ => none

def column? : Node → Option Column
  | expr (.column column _) => some column
  | _ => none

def expr? : Node → Option TypedExpr
  | expr e => some e
  | _ => none

def scan? : Node → Option Scan
  | scan s => some s
  | _ => none

end Node

def Statement.contains (statement : Statement) (offset : Nat) : Bool := statement.span.any (·.contains offset)

end SqlLens.Resolved
