import SqlLens.Analysis.Query
import SqlLens.Digest.Sha256
import SqlLens.Resolved.Locate
import SqlLens.Script.Basic

/-!
Everything that follows from one text of a document.

An artifact is made once and never changed. It belongs to a text by the fingerprint of that text.
-/

namespace SqlLens

structure Artifact where
  text : String
  fingerprint : String
  tree : Surface.Node
  outputs : List Resolved.Statement
  diagnostics : List Diagnostic

namespace Artifact

/-- Resolves the statements of a script that was read from a text. Diagnostics of reading come first, those of resolving
second, the extra ones last. -/
def build (text : String) (script : Script) (tables : Analysis.Lookup) (extra : List Diagnostic) : Artifact :=
  let results := Analysis.script tables script.tree
  let failures := results.filterMap fun
    | .error failure => some failure.diagnostic
    | .ok _ => none
  let outputs := results.filterMap fun
    | .ok statement => some statement
    | .error _ => none
  ⟨text, Digest.fingerprint text, script.tree, outputs, script.problems.map (·.diagnostic) ++ failures ++ extra⟩

def analyze (text : String) (tables : Analysis.Lookup) : Artifact := build text (Script.read text) tables []

def isCurrent (artifact : Artifact) (text : String) : Bool := artifact.fingerprint == Digest.fingerprint text

def outputAt? (artifact : Artifact) (offset : Nat) : Option Resolved.Statement :=
  artifact.outputs.find? (·.contains offset)

end Artifact

end SqlLens
