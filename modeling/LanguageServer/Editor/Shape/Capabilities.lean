import LanguageServer.Editor.Shape.Basic

namespace LanguageServer
namespace Editor
namespace Shape

/-!
What an editor says of itself when it introduces itself.
-/

def flag (name : String) : Part := may name .boolean

/-- A feature can be turned on and off while the editor runs. -/
def dynamic : Part := flag "dynamicRegistration"

def refresh : Part := flag "refreshSupport"

/-- A feature of which nothing more is told. -/
def plainFeature : Shape := .record "DynamicRegistrationClientCapabilities" [dynamic]

/-- A feature by the name of its record. -/
def feature (name record : String) (parts : List Part) : Part := may name (.record record parts)

def plain (name : String) : Part := may name plainFeature

/-- Which kinds there are, as a list that may be missing. -/
def kinds (record : String) (kind : Shape) : Shape := .record record [may "valueSet" (.list kind)]

def tagSupport : Part :=
  mayEnd "tagSupport" (.booleanOr (.record "TagSupport" [need "valueSet" codes]))

/-- Which members can be asked for later. -/
def lazily (record : String) : Part :=
  feature "resolveSupport" record [need "properties" texts]

def symbolKind : Part := may "symbolKind" (kinds "SymbolKindCapability" code)

def formats (name : String) : Part := may name (.list markupKind)

/-! ### The workspace -/

def workspaceCapabilities : Shape :=
  .record "WorkspaceClientCapabilities"
    [flag "applyEdit",
      feature "workspaceEdit" "WorkspaceEditClientCapabilities"
        [flag "documentChanges",
          may "resourceOperations" (.list (.choice ["create", "rename", "delete"])),
          may "failureHandling"
            (.choice ["abort", "transactional", "textOnlyTransactional", "undo"]),
          flag "normalizesLineEndings",
          feature "changeAnnotationSupport" "ChangeAnnotationWorkspaceEditClientCapabilities"
            [flag "groupsOnLabel"]],
      plain "didChangeConfiguration",
      feature "didChangeWatchedFiles" "DidChangeWatchedFilesClientCapabilities"
        [dynamic, flag "relativePatternSupport"],
      feature "symbol" "WorkspaceSymbolClientCapabilities"
        [dynamic, symbolKind, tagSupport, lazily "WorkspaceSymbolResolveSupportCapability"],
      plain "executeCommand",
      flag "workspaceFolders",
      flag "configuration",
      feature "semanticTokens" "SemanticTokensWorkspaceClientCapabilities" [refresh],
      feature "codeLens" "CodeLensWorkspaceClientCapabilities" [refresh],
      feature "fileOperations" "WorkspaceFileOperationsClientCapabilities"
        [dynamic, flag "didCreate", flag "willCreate", flag "didRename", flag "willRename",
          flag "didDelete", flag "willDelete"],
      feature "inlineValue" "InlineValueWorkspaceClientCapabilities" [refresh],
      feature "inlayHint" "InlayHintWorkspaceClientCapabilities" [refresh],
      feature "diagnostic" "DiagnosticWorkspaceClientCapabilities" [refresh]]

/-! ### Documents -/

def completionCapability : Part :=
  feature "completion" "CompletionClientCapabilities"
    [dynamic,
      feature "completionItem" "CompletionItemCapability"
        [flag "snippetSupport",
          flag "commitCharactersSupport",
          formats "documentationFormat",
          flag "deprecatedSupport",
          flag "preselectSupport",
          tagSupport,
          flag "insertReplaceSupport",
          lazily "CompletionItemCapabilityResolveSupport",
          feature "insertTextModeSupport" "InsertTextModeSupport" [need "valueSet" codes],
          flag "labelDetailsSupport"],
      may "completionItemKind" (kinds "CompletionItemKindCapability" code),
      flag "contextSupport",
      may "insertTextMode" code,
      feature "completionList" "CompletionListCapability" [may "itemDefaults" texts]]

def signatureCapability : Part :=
  feature "signatureHelp" "SignatureHelpClientCapabilities"
    [dynamic,
      feature "signatureInformation" "SignatureInformationSettings"
        [formats "documentationFormat",
          feature "parameterInformation" "ParameterInformationSettings"
            [flag "labelOffsetSupport"],
          flag "activeParameterSupport"],
      flag "contextSupport"]

def codeActionCapability : Part :=
  feature "codeAction" "CodeActionClientCapabilities"
    [dynamic,
      feature "codeActionLiteralSupport" "CodeActionLiteralSupport"
        [need "codeActionKind"
          (.record "CodeActionKindLiteralSupport" [need "valueSet" texts])],
      flag "isPreferredSupport",
      flag "disabledSupport",
      flag "dataSupport",
      lazily "CodeActionCapabilityResolveSupport",
      flag "honorsChangeAnnotations"]

def semanticTokensCapability : Part :=
  feature "semanticTokens" "SemanticTokensClientCapabilities"
    [dynamic,
      need "requests" (.record "SemanticTokensClientCapabilitiesRequests"
        [flag "range",
          may "full" (.either "SemanticTokensFullOptions"
            [.boolean, .named (.record "SemanticTokensFullOptions" [flag "delta"])])]),
      need "tokenTypes" texts,
      need "tokenModifiers" texts,
      need "formats" texts,
      flag "overlappingTokenSupport",
      flag "multilineTokenSupport",
      flag "serverCancelSupport",
      flag "augmentsSyntaxTokens"]

def destination (name : String) : Part :=
  feature name "GotoCapability" [dynamic, flag "linkSupport"]

def documentCapabilities : Shape :=
  .record "TextDocumentClientCapabilities"
    [feature "synchronization" "TextDocumentSyncClientCapabilities"
        [dynamic, flag "willSave", flag "willSaveWaitUntil", flag "didSave"],
      completionCapability,
      feature "hover" "HoverClientCapabilities" [dynamic, formats "contentFormat"],
      signatureCapability,
      plain "references",
      plain "documentHighlight",
      feature "documentSymbol" "DocumentSymbolClientCapabilities"
        [dynamic, symbolKind, flag "hierarchicalDocumentSymbolSupport", tagSupport],
      plain "formatting",
      plain "rangeFormatting",
      plain "onTypeFormatting",
      destination "declaration",
      destination "definition",
      destination "typeDefinition",
      destination "implementation",
      codeActionCapability,
      plain "codeLens",
      feature "documentLink" "DocumentLinkClientCapabilities" [dynamic, flag "tooltipSupport"],
      plain "colorProvider",
      feature "rename" "RenameClientCapabilities"
        [dynamic, flag "prepareSupport", may "prepareSupportDefaultBehavior" code,
          flag "honorsChangeAnnotations"],
      feature "publishDiagnostics" "PublishDiagnosticsClientCapabilities"
        [flag "relatedInformation", tagSupport, flag "versionSupport",
          flag "codeDescriptionSupport", flag "dataSupport"],
      feature "foldingRange" "FoldingRangeClientCapabilities"
        [dynamic,
          may "rangeLimit" .word,
          flag "lineFoldingOnly",
          may "foldingRangeKind"
            (kinds "FoldingRangeKindCapability" (.choice ["comment", "imports", "region"])),
          feature "foldingRange" "FoldingRangeCapability" [flag "collapsedText"]],
      feature "selectionRange" "SelectionRangeClientCapabilities" [dynamic],
      plain "linkedEditingRange",
      plain "callHierarchy",
      semanticTokensCapability,
      plain "moniker",
      plain "typeHierarchy",
      plain "inlineValue",
      feature "inlayHint" "InlayHintClientCapabilities"
        [dynamic, lazily "InlayHintResolveClientCapabilities"],
      feature "diagnostic" "DiagnosticClientCapabilities"
        [dynamic, flag "relatedDocumentSupport"]]

/-! ### The rest -/

def windowCapabilities : Shape :=
  .record "WindowClientCapabilities"
    [flag "workDoneProgress",
      feature "showMessage" "ShowMessageRequestClientCapabilities"
        [feature "messageActionItem" "MessageActionItemCapabilities"
          [flag "additionalPropertiesSupport"]],
      feature "showDocument" "ShowDocumentClientCapabilities" [need "support" .boolean]]

def generalCapabilities : Shape :=
  .record "GeneralClientCapabilities"
    [feature "regularExpressions" "RegularExpressionsClientCapabilities"
        [need "engine" .text, may "version" .text],
      feature "markdown" "MarkdownClientCapabilities"
        [need "parser" .text, may "version" .text, may "allowedTags" texts],
      feature "staleRequestSupport" "StaleRequestSupportClientCapabilities"
        [need "cancel" .boolean, need "retryOnContentModified" texts],
      may "positionEncodings" texts]

def capabilities : Shape :=
  .record "ClientCapabilities"
    [may "workspace" workspaceCapabilities,
      may "textDocument" documentCapabilities,
      may "window" windowCapabilities,
      may "general" generalCapabilities,
      may "experimental" .anything]

/-- What an editor hands in when it introduces itself. -/
def greeting : Shape :=
  .record "InitializeParams"
    [may "processId" .word,
      may "rootPath" .text,
      mayEnd "rootUri" .url,
      may "initializationOptions" .anything,
      need "capabilities" capabilities,
      mayEnd "trace" (.choice ["off", "messages", "verbose"]),
      may "workspaceFolders"
        (.list (.record "WorkspaceFolder" [need "uri" .url, need "name" .text])),
      feature "clientInfo" "ClientInfo" [need "name" .text, may "version" .text],
      may "locale" .text]

end Shape
end Editor
end LanguageServer
