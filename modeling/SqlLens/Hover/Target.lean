import SqlLens.Script.Artifact
import SqlLens.Surface.Place

/-!
What the cursor points at.

The innermost path at an offset decides. As the path of a table it stands for that table; within a resolved statement it
stands for the innermost call, field or column around it, or for the column that a selected item takes from the
innermost scan.
-/

namespace SqlLens.Hover

open Resolved (Column Scan Statement)

inductive Target where
  | table (written : String)
  | call (function : Function)
  | field (type : SqlType)
  | column (column : Column)

def commonNames (place : Surface.Place) : List String :=
  match (place.node :: place.above).find? (·.kind == .statement) with
  | some statement => statement.commonNames
  | none => []

def tableReference? (place : Surface.Place) : Option String :=
  match place.ancestor? Surface.Kind.isTablePath with
  | none => none
  | some _ =>
    match place.node.names with
    | [name] => if (commonNames place).any (Text.sameName · name) then none else some place.node.dotted
    | _ => some place.node.dotted

def isNarrower (a b : Option Span) : Bool :=
  match a, b with
  | some a, some b => a.width < b.width
  | some _, none => true
  | none, _ => false

variable (output : Statement)

def calledFunction? (offset : Nat) : Option Function :=
  match output.deepest? offset Resolved.Node.call?, output.deepest? offset Resolved.Node.analyticCall? with
  | some plain, some analytic => if isNarrower analytic.2 plain.2 then some analytic.1 else some plain.1
  | some plain, none => some plain.1
  | none, some analytic => some analytic.1
  | none, none => none

def narrowest? (scans : List Scan) : Option Scan :=
  scans.foldl (fun best scan =>
    match best with
    | none => some scan
    | some best => if isNarrower scan.span best.span then some scan else some best) none

def rangeNames : Scan → List String
  | .project _ _ input _ | .filter _ input _ _ | .analytic _ input _ _ | .array _ (some input) _ _ _ _ _ _
  | .orderBy _ input _ _ | .limit _ input _ _ _ => rangeNames input
  | .common _ _ query _ => rangeNames query
  | .table _ aliasName _ _ => aliasName.toList
  | .reference _ entry aliasName _ => if Text.sameName aliasName entry then [aliasName] else [aliasName, entry]
  | .array _ none .. | .join .. | .aggregate .. | .singleRow | .setOperation .. => []

/-- A name without its qualifier, if it has that one; the qualifier is as long as the start of the name in bytes. -/
def unqualified? (qualifier name : String) : Option String :=
  let head := qualifier.toList ++ ['.']
  match Text.splitAtByte name.toList (Text.byteLength head) with
  | some (start, rest) =>
    if Text.sameName (String.ofList start) (String.ofList head) then some (String.ofList rest) else none
  | none => none

def columnOf? (scan : Scan) (name : String) : Option Column :=
  let own := ((rangeNames scan).findSome? (unqualified? · name)).getD name
  scan.columns.find? fun column => Text.sameName column.name own

def selected? (offset : Nat) (item path : Surface.Node) : Option Column := do
  let scan ← narrowest? ((output.covering offset Resolved.Node.scan?).map Prod.fst)
  (item.alias?.toList ++ [path.dotted]).findSome? (columnOf? scan)

def within? (offset : Nat) (place : Surface.Place) : Option Target :=
  match calledFunction? output offset with
  | some function => some (.call function)
  | none =>
    match output.deepest? offset Resolved.Node.field? with
    | some ((_, type), _) => some (.field type)
    | none =>
      match output.deepest? offset Resolved.Node.column? with
      | some (column, _) => some (.column column)
      | none => do
        let item ← place.ancestor? Surface.Kind.isSelectColumn
        let column ← selected? output offset item place.node
        return .column column

def target? (file : Artifact) (offset : Nat) : Option Target := do
  let place ← Surface.Place.deepest? offset Surface.Kind.isPath file.tree.places
  match tableReference? place with
  | some written => return .table written
  | none =>
    let output ← file.outputAt? offset
    within? output offset place

end SqlLens.Hover
