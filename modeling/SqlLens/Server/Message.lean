import SqlLens.Hover.Basic
import SqlLens.Json.Sorted
import SqlLens.Server.Method

/-!
Messages between the editor and the server.
-/

namespace SqlLens.Server

structure Call where
  method : String
  id : Option Json
  params : Option Json

def Call.of (message : Json) : Call :=
  ⟨((message.get? "method").bind Json.string?).getD "", message.get? "id", message.get? "params"⟩

inductive Incoming where
  | call (call : Call)
  | response
  | malformed

namespace Incoming

def isVersion : Json → Bool
  | .string version => version = "2.0"
  | _ => false

def isId : Json → Bool
  | .integer value => Text.isInt64 value
  | .string _ | .null => true
  | _ => false

def isError (json : Json) : Bool :=
  ((json.get? "code").bind Json.integer?).any Text.isInt64 && ((json.get? "message").bind Json.string?).isSome

def isResponse (message : Json) : Bool :=
  (message.get? "jsonrpc").any isVersion && (message.get? "id").any isId &&
    ((message.get? "result").isSome || (message.get? "error").any isError)

def isCall (message : Json) : Bool :=
  (message.get? "jsonrpc").any isVersion && ((message.get? "method").all fun method => method.string?.isSome) &&
    (message.get? "id").all isId

def named : Json → Json
  | .array items =>
    if items.length ≤ 4 then .object (["jsonrpc", "method", "params", "id"].zip items) else .array items
  | other => other

def of (message : Json) : Incoming :=
  if isResponse message then .response
  else if isCall (named message) then .call (Call.of (named message))
  else .malformed

end Incoming

inductive Refusal where
  | notInitialized
  | unreadable
  | invalidRequest
  | notServed
  | unknownMethod (name : String)
  | invalidParams (message : String)
  | failed (error : WorkspaceError)

namespace Refusal

def code : Refusal → Int
  | notInitialized => -32002
  | unreadable => -32700
  | invalidRequest => -32600
  | notServed | unknownMethod _ => -32601
  | invalidParams _ => -32602
  | failed _ => -32603

def message : Refusal → String
  | notInitialized => "Server not initialized"
  | unreadable => "Parse error"
  | invalidRequest => "Invalid request"
  | notServed | unknownMethod _ => "Method not found"
  | invalidParams message => message
  | failed error => error.message

def toJson (refusal : Refusal) : Json :=
  let data : List (String × Json) := match refusal with
    | unknownMethod name => [("data", .string name)]
    | _ => []
  .object ([("code", .integer refusal.code), ("message", .string refusal.message)] ++ data)

end Refusal

def answer (id : Json) (outcome : Except Refusal Json) : Json :=
  match outcome with
  | .ok result => .object [("jsonrpc", .string "2.0"), ("result", result), ("id", id)]
  | .error refusal => .object [("jsonrpc", .string "2.0"), ("error", refusal.toJson), ("id", id)]

def notification (method : String) (params : Json) : Json :=
  .object [("jsonrpc", .string "2.0"), ("method", .string method), ("params", params)]

def levelNumber : LogLevel → Nat
  | .error => 1
  | .info => 3

def noticeMessage : Notice → Json
  | .published _ uri markers =>
    notification "textDocument/publishDiagnostics"
      (.object [("uri", .string uri.text), ("diagnostics", .array (markers.map Editor.Marker.toJson))])
  | .logged level message =>
    notification "window/logMessage" (.object [("type", .nat (levelNumber level)), ("message", .string message)])

def hoverResult : List Hover.Content → Json
  | [] => .null
  | contents =>
    .object [("contents", .array (contents.map fun content =>
      .object [("language", .string content.language), ("value", .string content.value)]))]

def greeting : Json :=
  .object [
    ("capabilities", .object [("textDocumentSync", .nat 1), ("hoverProvider", .bool true)]),
    ("serverInfo", .object [("name", .string "bqls-lsp"), ("version", .string "0.1.0")])]

end SqlLens.Server
