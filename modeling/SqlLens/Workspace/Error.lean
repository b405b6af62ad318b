import SqlLens.Store.FetchError
import SqlLens.Text.Position
import SqlLens.Uri.Basic

/-!
Why work on a document comes to nothing.
-/

namespace SqlLens

inductive WorkspaceError where
  | documentNotFound (uri : Uri)
  | position (error : PositionError)
  | cancelled
  | metadata (error : FetchError)
deriving DecidableEq

def WorkspaceError.message : WorkspaceError → String
  | documentNotFound uri => "Document not found: " ++ uri.text
  | position error => error.message
  | cancelled => "Operation cancelled"
  | metadata error => "Failed to get table metadata: " ++ error.message

end SqlLens
