import SqlLens.Server.Capability

/-!
The methods of the protocol and the forms of their parameters.
-/

namespace SqlLens.Server

namespace Form

def atPosition (topic : String) : Form := joined (topic ++ "Params") [] [documentPosition, progress, parts]

def onDocument (topic : String) (members : List (String × Form)) : Form :=
  joined (topic ++ "Params") (("textDocument", document) :: members) [progress, parts]

def fileList (name item : String) (members : List (String × Form)) : Form :=
  plain name [("files", list (plain item members))]

def hover : Form := joined "HoverParams" [] [documentPosition, progress]

def opened : Form := plain "DidOpenTextDocumentParams" [("textDocument", documentItem)]

def changed : Form :=
  plain "DidChangeTextDocumentParams"
    [("textDocument", versionedDocument),
      ("contentChanges", list (plain "TextDocumentContentChangeEvent"
        [("range", optional range), ("rangeLength", optional natural), ("text", text)]))]

def saved : Form := plain "DidSaveTextDocumentParams" [("textDocument", document), ("text", optional text)]

def closed : Form := plain "DidCloseTextDocumentParams" [("textDocument", document)]

end Form

open Form

/-- The requests about documents that this server does not serve, with the forms of their parameters. -/
def documentRequests : List (String × Form) :=
  [("willSaveWaitUntil", plain "WillSaveTextDocumentParams" [("textDocument", document), ("reason", integer)]),
    ("declaration", atPosition "GotoDefinition"), ("definition", atPosition "GotoDefinition"),
    ("typeDefinition", atPosition "GotoDefinition"), ("implementation", atPosition "GotoDefinition"),
    ("references",
      joined "ReferenceParams" [("context", plain "ReferenceContext" [("includeDeclaration", flag)])]
        [documentPosition, progress, parts]),
    ("prepareCallHierarchy", joined "CallHierarchyPrepareParams" [] [documentPosition, progress]),
    ("prepareTypeHierarchy", joined "TypeHierarchyPrepareParams" [] [documentPosition, progress]),
    ("documentHighlight", atPosition "DocumentHighlight"), ("documentLink", onDocument "DocumentLink" []),
    ("codeLens", onDocument "CodeLens" []), ("foldingRange", onDocument "FoldingRange" []),
    ("selectionRange", onDocument "SelectionRange" [("positions", list position)]),
    ("documentSymbol", onDocument "DocumentSymbol" []),
    ("semanticTokens/full", onDocument "SemanticTokens" []),
    ("semanticTokens/full/delta", onDocument "SemanticTokensDelta" [("previousResultId", text)]),
    ("semanticTokens/range", onDocument "SemanticTokensRange" [("range", range)]),
    ("inlineValue",
      joined "InlineValueParams"
        [("textDocument", document), ("range", range),
          ("context", plain "InlineValueContext" [("frameId", integer), ("stoppedLocation", range)])] [progress]),
    ("inlayHint", joined "InlayHintParams" [("textDocument", document), ("range", range)] [progress]),
    ("moniker", atPosition "Moniker"),
    ("completion",
      joined "CompletionParams"
        [("context", part "CompletionContext" [("triggerKind", integer), ("triggerCharacter", optional text)])]
        [documentPosition, progress, parts]),
    ("diagnostic",
      onDocument "DocumentDiagnostic" [("identifier", optional text), ("previousResultId", optional text)]),
    ("signatureHelp",
      joined "SignatureHelpParams"
        [("context", part "SignatureHelpContext"
          [("triggerKind", integer), ("triggerCharacter", optional text), ("isRetrigger", flag),
            ("activeSignatureHelp", optional signatureHelp)])]
        [documentPosition, progress]),
    ("codeAction",
      onDocument "CodeAction"
        [("range", range),
          ("context", plain "CodeActionContext"
            [("diagnostics", list diagnostic), ("only", optional (list text)), ("triggerKind", optional integer)])]),
    ("documentColor", onDocument "DocumentColor" []),
    ("colorPresentation",
      onDocument "ColorPresentation"
        [("color", plain "Color" [("red", number), ("green", number), ("blue", number), ("alpha", number)]),
          ("range", range)]),
    ("formatting",
      joined "DocumentFormattingParams" [("textDocument", document), ("options", formatting)] [progress]),
    ("rangeFormatting",
      joined "DocumentRangeFormattingParams" [("textDocument", document), ("range", range), ("options", formatting)]
        [progress]),
    ("onTypeFormatting",
      joined "DocumentOnTypeFormattingParams" [("ch", text), ("options", formatting)] [documentPosition]),
    ("rename", joined "RenameParams" [("newName", text)] [documentPosition, progress]),
    ("prepareRename", documentPosition),
    ("linkedEditingRange", joined "LinkedEditingRangeParams" [] [documentPosition, progress])]

def unserved : List (String × Form) :=
  documentRequests.map (fun (name, form) => ("textDocument/" ++ name, form)) ++
  [("callHierarchy/incomingCalls",
      joined "CallHierarchyIncomingCallsParams" [("item", callItem)] [progress, parts]),
    ("callHierarchy/outgoingCalls",
      joined "CallHierarchyOutgoingCallsParams" [("item", callItem)] [progress, parts]),
    ("typeHierarchy/supertypes", joined "TypeHierarchySupertypesParams" [("item", typeItem)] [progress, parts]),
    ("typeHierarchy/subtypes", joined "TypeHierarchySubtypesParams" [("item", typeItem)] [progress, parts]),
    ("documentLink/resolve",
      plain "DocumentLink" [("range", range), ("target", optional address), ("tooltip", optional text), extra]),
    ("codeLens/resolve", plain "CodeLens" [("range", range), ("command", optional command), extra]),
    ("inlayHint/resolve", inlayHint), ("completionItem/resolve", completionItem),
    ("workspace/diagnostic",
      joined "WorkspaceDiagnosticParams"
        [("identifier", optional text),
          ("previousResultIds", list (plain "PreviousResultId" [("uri", address), ("value", text)]))]
            [progress, parts]),
    ("codeAction/resolve", codeAction),
    ("workspace/symbol", joined "WorkspaceSymbolParams" [("query", text)] [parts, progress]),
    ("workspaceSymbol/resolve", workspaceSymbol),
    ("workspace/willCreateFiles", fileList "CreateFilesParams" "FileCreate" [("uri", text)]),
    ("workspace/willRenameFiles", fileList "RenameFilesParams" "FileRename" [("oldUri", text), ("newUri", text)]),
    ("workspace/willDeleteFiles", fileList "DeleteFilesParams" "FileDelete" [("uri", text)]),
    ("workspace/executeCommand",
      joined "ExecuteCommandParams" [("command", text), ("arguments", lenient (list any))] [progress])]

def unheeded : List String :=
  ["textDocument/willSave", "workspace/didChangeConfiguration", "workspace/didChangeWorkspaceFolders",
    "workspace/didCreateFiles", "workspace/didRenameFiles", "workspace/didDeleteFiles",
    "workspace/didChangeWatchedFiles", "$/cancelRequest"]

end SqlLens.Server
