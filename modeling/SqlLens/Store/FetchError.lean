/-!
Why a table could not be fetched.
-/

namespace SqlLens

inductive FetchError where
  | authentication (text : String)
  | tableNotFound (text : String)
  | permissionDenied (text : String)
  | request (text : String)
  | invalidResponse (text : String)
  | network (text : String)
  | timeout (millis : Nat)
  | invalidPath (text : String)
  | configuration (text : String)
deriving DecidableEq

namespace FetchError

def message : FetchError → String
  | authentication text => "Authentication failed: " ++ text
  | tableNotFound text => "Table not found: " ++ text
  | permissionDenied text => "Permission denied: " ++ text
  | request text => "Request failed: " ++ text
  | invalidResponse text => "Invalid response: " ++ text
  | network text => "Network error: " ++ text
  | timeout millis => "Request timed out after " ++ toString millis ++ " ms"
  | invalidPath text => "Invalid table path: " ++ text
  | configuration text => "Configuration error: " ++ text

/-- Whether it is certain that the table does not exist. Every other error may pass, or is one of the surroundings. -/
def isNotFound : FetchError → Bool
  | tableNotFound _ | invalidPath _ => true
  | _ => false

end FetchError

end SqlLens
