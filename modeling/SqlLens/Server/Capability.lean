import SqlLens.Server.Edit

/-!
Forms of what an editor says about itself when a session begins.
-/

namespace SqlLens.Server.Form

def toggle : Form := optional flag

def client (topic : String) : List (String × Form) → Form := part (topic ++ "ClientCapabilities")

def dynamic : String × Form := ("dynamicRegistration", toggle)

def registration : Form := client "DynamicRegistration" [dynamic]

def refreshing (topic : String) : Form := client (topic ++ "Workspace") [("refreshSupport", toggle)]

def resolving (name : String) : Form := part name [("properties", list text)]

def tagSupport : Form := lenient (switch (plain "TagSupport" [("valueSet", list integer)]))

def symbolKinds : Form := part "SymbolKindCapability" [("valueSet", optional (list integer))]

def destination : Form := part "GotoCapability" (optionals flag ["dynamicRegistration", "linkSupport"])

def workspaceCapabilities : Form :=
  client "Workspace"
    [("applyEdit", toggle),
      ("workspaceEdit", client "WorkspaceEdit"
        [("documentChanges", toggle), ("resourceOperations", optional (list (word ["create", "rename", "delete"]))),
          ("failureHandling", optional (word ["abort", "transactional", "textOnlyTransactional", "undo"])),
          ("normalizesLineEndings", toggle),
          ("changeAnnotationSupport", client "ChangeAnnotationWorkspaceEdit"
            [("groupsOnLabel", toggle)])]),
      ("didChangeConfiguration", registration),
      ("didChangeWatchedFiles", client "DidChangeWatchedFiles"
        (optionals flag ["dynamicRegistration", "relativePatternSupport"])),
      ("symbol", client "WorkspaceSymbol"
        [dynamic, ("symbolKind", symbolKinds), ("tagSupport", tagSupport),
          ("resolveSupport", resolving "WorkspaceSymbolResolveSupportCapability")]),
      ("executeCommand", registration), ("workspaceFolders", toggle), ("configuration", toggle),
      ("semanticTokens", refreshing "SemanticTokens"),
      ("codeLens", refreshing "CodeLens"),
      ("fileOperations", client "WorkspaceFileOperations"
        (optionals flag ["dynamicRegistration", "didCreate", "willCreate", "didRename", "willRename", "didDelete",
          "willDelete"])),
      ("inlineValue", refreshing "InlineValue"),
      ("inlayHint", refreshing "InlayHint"),
      ("diagnostic", refreshing "Diagnostic")]

def completionCapabilities : Form :=
  client "Completion"
    [dynamic, ("completionItem", part "CompletionItemCapability"
        [("snippetSupport", toggle), ("commitCharactersSupport", toggle),
          ("documentationFormat", optional (list markupKind)), ("deprecatedSupport", toggle),
          ("preselectSupport", toggle), ("tagSupport", tagSupport), ("insertReplaceSupport", toggle),
          ("resolveSupport", resolving "CompletionItemCapabilityResolveSupport"),
          ("insertTextModeSupport", part "InsertTextModeSupport" [("valueSet", list integer)]),
          ("labelDetailsSupport", toggle)]),
      ("completionItemKind", part "CompletionItemKindCapability" [("valueSet", optional (list integer))]),
      ("contextSupport", toggle), ("insertTextMode", optional integer),
      ("completionList", part "CompletionListCapability" [("itemDefaults", optional (list text))])]

def signatureCapabilities : Form :=
  client "SignatureHelp"
    [dynamic, ("signatureInformation", part "SignatureInformationSettings"
        [("documentationFormat", optional (list markupKind)),
          ("parameterInformation", part "ParameterInformationSettings"
            [("labelOffsetSupport", toggle)]),
          ("activeParameterSupport", toggle)]),
      ("contextSupport", toggle)]

def actionCapabilities : Form :=
  client "CodeAction"
    [dynamic, ("codeActionLiteralSupport", part "CodeActionLiteralSupport"
        [("codeActionKind", plain "CodeActionKindLiteralSupport" [("valueSet", list text)])]),
      ("isPreferredSupport", toggle), ("disabledSupport", toggle), ("dataSupport", toggle),
      ("resolveSupport", resolving "CodeActionCapabilityResolveSupport"),
      ("honorsChangeAnnotations", toggle)]

def tokenCapabilities : Form :=
  client "SemanticTokens"
    ([dynamic, ("requests", plain "SemanticTokensClientCapabilitiesRequests"
        [("range", toggle),
          ("full", optional (choice "SemanticTokensFullOptions" flag
            (record "SemanticTokensFullOptions" false (.of [("delta", toggle)]) .nil)))]),
      ("tokenTypes", list text), ("tokenModifiers", list text), ("formats", list text)] ++
      optionals flag ["overlappingTokenSupport", "multilineTokenSupport", "serverCancelSupport",
        "augmentsSyntaxTokens"])

def documentCapabilities : Form :=
  client "TextDocument"
    [("synchronization", client "TextDocumentSync"
        (optionals flag ["dynamicRegistration", "willSave", "willSaveWaitUntil", "didSave"])),
      ("completion", completionCapabilities),
      ("hover", client "Hover"
        [dynamic, ("contentFormat", optional (list markupKind))]),
      ("signatureHelp", signatureCapabilities), ("references", registration),
      ("documentHighlight", registration),
      ("documentSymbol", client "DocumentSymbol"
        [dynamic, ("symbolKind", symbolKinds),
          ("hierarchicalDocumentSymbolSupport", toggle), ("tagSupport", tagSupport)]),
      ("formatting", registration), ("rangeFormatting", registration),
      ("onTypeFormatting", registration), ("declaration", destination),
      ("definition", destination), ("typeDefinition", destination),
      ("implementation", destination), ("codeAction", actionCapabilities),
      ("codeLens", registration),
      ("documentLink", client "DocumentLink"
        (optionals flag ["dynamicRegistration", "tooltipSupport"])),
      ("colorProvider", registration),
      ("rename", client "Rename"
        [dynamic, ("prepareSupport", toggle),
          ("prepareSupportDefaultBehavior", optional integer), ("honorsChangeAnnotations", toggle)]),
      ("publishDiagnostics", client "PublishDiagnostics"
        ([("relatedInformation", toggle), ("tagSupport", tagSupport)] ++
          optionals flag ["versionSupport", "codeDescriptionSupport", "dataSupport"])),
      ("foldingRange", client "FoldingRange"
        [dynamic, ("rangeLimit", optional natural), ("lineFoldingOnly", toggle),
          ("foldingRangeKind", part "FoldingRangeKindCapability"
            [("valueSet", optional (list (word ["comment", "imports", "region"])))]),
          ("foldingRange", part "FoldingRangeCapability" [("collapsedText", toggle)])]),
      ("selectionRange", client "SelectionRange" [dynamic]),
      ("linkedEditingRange", registration), ("callHierarchy", registration),
      ("semanticTokens", tokenCapabilities), ("moniker", registration),
      ("typeHierarchy", registration), ("inlineValue", registration),
      ("inlayHint", client "InlayHint"
        [dynamic, ("resolveSupport", resolving "InlayHintResolveClientCapabilities")]),
      ("diagnostic", client "Diagnostic"
        (optionals flag ["dynamicRegistration", "relatedDocumentSupport"]))]

def windowCapabilities : Form :=
  client "Window"
    [("workDoneProgress", toggle),
      ("showMessage", client "ShowMessageRequest"
        [("messageActionItem", part "MessageActionItemCapabilities"
          [("additionalPropertiesSupport", toggle)])]),
      ("showDocument", client "ShowDocument" [("support", flag)])]

def generalCapabilities : Form :=
  client "General"
    [("regularExpressions", client "RegularExpressions"
        [("engine", text), ("version", optional text)]),
      ("markdown", client "Markdown"
        [("parser", text), ("version", optional text), ("allowedTags", optional (list text))]),
      ("staleRequestSupport", client "StaleRequestSupport"
        [("cancel", flag), ("retryOnContentModified", list text)]),
      ("positionEncodings", optional (list text))]

def capabilities : Form :=
  plain "ClientCapabilities"
    [("workspace", workspaceCapabilities), ("textDocument", documentCapabilities),
      ("window", windowCapabilities), ("general", generalCapabilities),
      ("experimental", optional any)]

def editorInfo : Form :=
  plain "InitializeParams"
    [("processId", optional natural), ("rootPath", optional text), ("rootUri", lenient (optional address)),
      ("initializationOptions", optional any), ("capabilities", capabilities),
      ("trace", lenient (optional (word ["off", "messages", "verbose"]))),
      ("workspaceFolders", optional (list (plain "WorkspaceFolder" [("uri", address), ("name", text)]))),
      ("clientInfo", part "ClientInfo" [("name", text), ("version", optional text)]),
      ("locale", optional text)]

end SqlLens.Server.Form
