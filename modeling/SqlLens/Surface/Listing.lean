import SqlLens.Surface.Basic
import SqlLens.Text.Escape

/-!
Listings of surface trees, one node a line and two spaces for each level.
-/

namespace SqlLens.Surface

def Constant.listing : Constant → String
  | int digits => "Int(" ++ Text.escaped digits ++ ")"
  | float digits => "Float(" ++ Text.escaped digits ++ ")"
  | string value => "String(" ++ Text.escaped value ++ ")"
  | bytes value => "Bytes(" ++ Text.escaped value ++ ")"
  | bool true => "Bool(true)"
  | bool false => "Bool(false)"
  | null => "Null"
  | parameter name => "Parameter(" ++ Text.escaped name ++ ")"

def Kind.detail : Kind → String
  | identifier name | aliasName name | withEntry name => " " ++ name
  | literal value => " " ++ value.listing
  | binary op => " " ++ op.symbol
  | setOperation op distinct => " " ++ op.keyword ++ (if distinct then " DISTINCT" else " ALL")
  | _ => ""

namespace Node

mutual
def listingAt (depth : Nat) : Node → String
  | mk kind span children =>
    String.ofList (List.replicate (2 * depth) ' ') ++ kind.label ++ kind.detail ++ " [" ++
      (span.map Span.render).getD "" ++ "]\n" ++ listingAllAt (depth + 1) children

def listingAllAt (depth : Nat) : List Node → String
  | [] => ""
  | node :: rest => node.listingAt depth ++ listingAllAt depth rest
end

def listing (node : Node) : String := node.listingAt 0

end Node

end SqlLens.Surface
