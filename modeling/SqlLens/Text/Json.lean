import SqlLens.Json.Basic
import SqlLens.Text.Span

/-!
Spans as JSON.
-/

namespace SqlLens.Span

def toJson (span : Span) : Json := .object [("start", .nat span.start), ("end", .nat span.stop)]

def bounds (span : Span) : Json := .array [.nat span.start, .nat span.stop]

end SqlLens.Span
