import SqlLens.Server.Form

/-!
Forms of what parameters are made of: places in documents, edits, and what an editor shows.
-/

namespace SqlLens.Server.Form

variable (name : String)

def plain (members : List (String × Form)) : Form := record name true (.of members) .nil

def joined (members : List (String × Form)) (groups : List Form) : Form :=
  record name true (.of members) (.of (groups.map fun group => ("", group)))

def part (members : List (String × Form)) : Form := optional (plain name members)

def optionals (form : Form) (names : List String) : List (String × Form) := names.map fun name => (name, optional form)

/-! ### Places -/

def position : Form := plain "Position" [("line", natural), ("character", natural)]

def range : Form := plain "Range" [("start", position), ("end", position)]

def location : Form := plain "Location" [("uri", address), ("range", range)]

def document : Form := plain "TextDocumentIdentifier" [("uri", address)]

def versionedDocument : Form := plain "VersionedTextDocumentIdentifier" [("uri", address), ("version", integer)]

def someVersionDocument : Form :=
  plain "OptionalVersionedTextDocumentIdentifier" [("uri", address), ("version", optional integer)]

def documentItem : Form :=
  plain "TextDocumentItem" [("uri", address), ("languageId", text), ("version", integer), ("text", text)]

def documentPosition : Form := plain "TextDocumentPositionParams" [("textDocument", document), ("position", position)]

/-! ### Progress -/

def numberOrText : Form := choice "NumberOrString" integer text

def progress : Form := plain "WorkDoneProgressParams" [("workDoneToken", optional numberOrText)]

def parts : Form := plain "PartialResultParams" [("partialResultToken", optional numberOrText)]

/-! ### Edits -/

def command : Form := plain "Command" [("title", text), ("command", text), ("arguments", optional (list any))]

def textEdit : Form := plain "TextEdit" [("range", range), ("newText", text)]

def annotatedEdit : Form := joined "AnnotatedTextEdit" [("annotationId", text)] [textEdit]

def documentEdit : Form :=
  plain "TextDocumentEdit"
    [("textDocument", someVersionDocument), ("edits", list (choice "OneOf" textEdit annotatedEdit))]

def fileOperation : Form :=
  tagged "kind" (.of
    [("create", plain "CreateFile"
        [("uri", address),
          ("options", part "CreateFileOptions" (optionals flag ["overwrite", "ignoreIfExists"])),
          ("annotationId", optional text)]),
      ("rename", plain "RenameFile"
        [("oldUri", address), ("newUri", address),
          ("options", part "RenameFileOptions" (optionals flag ["overwrite", "ignoreIfExists"])),
          ("annotationId", optional text)]),
      ("delete", plain "DeleteFile"
        [("uri", address),
          ("options", part "DeleteFileOptions"
            (optionals flag ["recursive", "ignoreIfNotExists"] ++ [("annotationId", optional text)]))])])

def workspaceEdit : Form :=
  plain "WorkspaceEdit"
    [("changes", lenient (optional (table true (list textEdit)))),
      ("documentChanges", optional (choice "DocumentChanges" (list documentEdit)
        (list (choice "DocumentChangeOperation" fileOperation documentEdit)))),
      ("changeAnnotations", optional (table false (plain "ChangeAnnotation"
        [("label", text), ("needsConfirmation", optional flag), ("description", optional text)])))]

/-! ### What an editor shows -/

def extra : String × Form := ("data", optional any)

def markupKind : Form := word ["plaintext", "markdown"]

def documentation : Form :=
  choice name text (plain "MarkupContent" [("kind", markupKind), ("value", text)])

def diagnostic : Form :=
  plain "Diagnostic"
    [("range", range), ("severity", optional integer), ("code", optional numberOrText),
      ("codeDescription", part "CodeDescription" [("href", address)]), ("source", optional text),
      ("message", text),
      ("relatedInformation", optional (list (plain "DiagnosticRelatedInformation"
        [("location", location), ("message", text)]))),
      ("tags", optional (list integer)), extra]

def codeAction : Form :=
  plain "CodeAction"
    [("title", text), ("kind", optional text), ("diagnostics", optional (list diagnostic)),
      ("edit", optional workspaceEdit), ("command", optional command), ("isPreferred", optional flag),
      ("disabled", part "CodeActionDisabled" [("reason", text)]), extra]

def completionItem : Form :=
  plain "CompletionItem"
    [("label", text),
      ("labelDetails", part "CompletionItemLabelDetails" (optionals text ["detail", "description"])),
      ("kind", optional integer), ("detail", optional text),
        ("documentation", optional (documentation "Documentation")),
      ("deprecated", optional flag), ("preselect", optional flag), ("sortText", optional text),
      ("filterText", optional text), ("insertText", optional text), ("insertTextFormat", optional integer),
      ("insertTextMode", optional integer),
      ("textEdit", optional (choice "CompletionTextEdit" textEdit
        (plain "InsertReplaceEdit" [("newText", text), ("insert", range), ("replace", range)]))),
      ("additionalTextEdits", optional (list textEdit)), ("command", optional command),
      ("commitCharacters", optional (list text)), extra, ("tags", optional (list integer))]

def signatureHelp : Form :=
  plain "SignatureHelp"
    [("signatures", list (plain "SignatureInformation"
        [("label", text), ("documentation", optional (documentation "Documentation")),
          ("parameters", optional (list (plain "ParameterInformation"
            [("label", choice "ParameterLabel" text (pair natural)),
              ("documentation", optional (documentation "Documentation"))]))),
          ("activeParameter", optional natural)])),
      ("activeSignature", optional natural), ("activeParameter", optional natural)]

def inlayHint : Form :=
  plain "InlayHint"
    [("position", position),
      ("label", choice "InlayHintLabel" text (list (plain "InlayHintLabelPart"
        [("value", text), ("tooltip", optional (documentation "InlayHintLabelPartTooltip")),
          ("location", optional location), ("command", optional command)]))),
      ("kind", optional integer), ("textEdits", optional (list textEdit)),
      ("tooltip", optional (documentation "InlayHintTooltip")), ("paddingLeft", optional flag),
      ("paddingRight", optional flag), extra]

def hierarchyItem (tags : Form) : Form :=
  plain name
    [("name", text), ("kind", integer), ("tags", optional tags), ("detail", optional text), ("uri", address),
      ("range", range), ("selectionRange", range), extra]

def callItem : Form := hierarchyItem "CallHierarchyItem" (list integer)

def typeItem : Form := hierarchyItem "TypeHierarchyItem" integer

def workspaceSymbol : Form :=
  plain "WorkspaceSymbol"
    [("name", text), ("kind", integer), ("tags", optional (list integer)), ("containerName", optional text),
      ("location", choice "OneOf" location (plain "WorkspaceLocation" [("uri", address)])), extra]

def formatting : Form :=
  joined "FormattingOptions"
    ([("tabSize", natural), ("insertSpaces", flag)] ++
      optionals flag ["trimTrailingWhitespace", "insertFinalNewline", "trimFinalNewlines"])
    [table false (choice "FormattingProperty" flag (choice "FormattingProperty" integer text))]

end SqlLens.Server.Form
