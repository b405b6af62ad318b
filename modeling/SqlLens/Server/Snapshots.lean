import SqlLens.Server.Basic

/-!
The snapshots a message may need.

Files are read before a message is taken, so that taking it is a function. A message can only lead to tables that the
texts of open documents name, or the text that it brings along.
-/

namespace SqlLens.Server

def textsIn (message : Json) : List String :=
  let params := (message.get? "params").getD .null
  let changes := ((params.get? "contentChanges").bind Json.array?).getD []
  (params :: (documentOf? params).toList ++ changes).filterMap textOf?

def snapshotsFor (settings : Settings) (text : String) : List String :=
  (Script.read text).tree.tablePaths.filterMap fun (path, _) =>
    match TablePath.parse settings.project path with
    | .ok path => some (Snapshot.file settings.snapshotFolder path)
    | .error _ => none

def filesFor (server : Server) (message : Json) : List String :=
  let workspace := server.system.workspace
  let texts := workspace.documents.entries.map Document.text ++ textsIn message
  (texts.flatMap (snapshotsFor workspace.settings)).eraseDups

def refresh (server : Server) (files : Files) (now : Nat) : Server :=
  let workspace := { server.system.workspace with files := files, now := now }
  { server with system := { server.system with workspace := workspace } }

end SqlLens.Server
