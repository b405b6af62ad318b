import SqlLens.Diagnostic
import SqlLens.Text.Json
import SqlLens.Text.Position

/-!
Diagnostics as an editor shows them.

An editor wants lines and characters in place of offsets. An offset past the end of the text, or no span at all, is
shown at the very start.
-/

namespace SqlLens

def Diagnostic.toJson (diagnostic : Diagnostic) : Json :=
  .object [("code", .string diagnostic.code.identifier), ("severity", .string diagnostic.severity.word),
    ("message", .string diagnostic.message), ("span", .optional Span.toJson diagnostic.span)]

namespace Editor

structure Range where
  start : Position
  stop : Position
deriving DecidableEq

def origin : Position := ⟨0, 0⟩

def positionOf (text : String) (offset : Nat) : Position := (Position.at? text offset).getD origin

def rangeOf (text : String) : Option Span → Range
  | some span => ⟨positionOf text span.start, positionOf text span.stop⟩
  | none => ⟨origin, origin⟩

structure Marker where
  range : Range
  severity : Severity
  code : Code
  message : String
deriving DecidableEq

def Marker.of (text : String) (diagnostic : Diagnostic) : Marker :=
  ⟨rangeOf text diagnostic.span, diagnostic.severity, diagnostic.code, diagnostic.message⟩

def severityNumber : Severity → Nat
  | .error => 1
  | .warn => 2
  | .info => 3

def toolName : String := "bqls"

def positionJson (position : Position) : Json :=
  .object [("line", .nat position.line), ("character", .nat position.character)]

def Range.toJson (range : Range) : Json :=
  .object [("start", positionJson range.start), ("end", positionJson range.stop)]

def Marker.toJson (marker : Marker) : Json :=
  .object [("range", marker.range.toJson), ("severity", .nat (severityNumber marker.severity)),
    ("code", .string marker.code.identifier), ("source", .string toolName), ("message", .string marker.message)]

end Editor

end SqlLens
