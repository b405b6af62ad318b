import SqlLens.Text.Span

/-!
Diagnostics: what is wrong with a document, and where.
-/

namespace SqlLens

inductive Code where
  | parseError
  | analysisError
  | tableNotFound
  | metadataUnavailable
  | unsupported
deriving DecidableEq

def Code.identifier : Code → String
  | parseError => "SQL_PARSE_ERROR"
  | analysisError => "SQL_ANALYSIS_ERROR"
  | tableNotFound => "TABLE_NOT_FOUND"
  | metadataUnavailable => "METADATA_UNAVAILABLE"
  | unsupported => "UNSUPPORTED_SYNTAX"

inductive Severity where
  | info
  | warn
  | error
deriving DecidableEq

def Severity.word : Severity → String
  | info => "info"
  | warn => "warn"
  | error => "error"

structure Diagnostic where
  code : Code
  severity : Severity
  message : String
  span : Option Span
deriving DecidableEq

end SqlLens
