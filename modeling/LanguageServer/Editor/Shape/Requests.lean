import LanguageServer.Editor.Shape.Basic

namespace LanguageServer
namespace Editor
namespace Shape

/-!
What an editor hands in with a request, whether the request is answered here or not.
-/

/-- A request about a place. -/
def placed (name : String) : Shape := .record name [target, progress]

/-- A request about a place whose results may come bit by bit. -/
def placedBits (name : String) : Shape := .record name [target, progress, partialResult]

/-- A request about a document whose results may come bit by bit. -/
def documentBits (name : String) : Shape :=
  .record name [need "textDocument" document, progress, partialResult]

/-! ### Requests that are answered -/

def references : Shape :=
  .record "ReferenceParams"
    [target, progress, partialResult,
      need "context" (.record "ReferenceContext" [need "includeDeclaration" .boolean])]

def completion : Shape :=
  .record "CompletionParams"
    [target, progress, partialResult,
      may "context" (.record "CompletionContext"
        [need "triggerKind" code, may "triggerCharacter" .text])]

def parameterInformation : Shape :=
  .record "ParameterInformation"
    [need "label" (.either "ParameterLabel" [.text, .couple .word]),
      may "documentation" documentation]

def signatureInformation : Shape :=
  .record "SignatureInformation"
    [need "label" .text,
      may "documentation" documentation,
      may "parameters" (.list parameterInformation),
      may "activeParameter" .word]

def signatures : Shape :=
  .record "SignatureHelp"
    [need "signatures" (.list signatureInformation),
      may "activeSignature" .word,
      may "activeParameter" .word]

def signatureHelp : Shape :=
  .record "SignatureHelpParams"
    [may "context" (.record "SignatureHelpContext"
        [need "triggerKind" code, may "triggerCharacter" .text, need "isRetrigger" .boolean,
          may "activeSignatureHelp" signatures]),
      target, progress]

def workspaceSymbols : Shape :=
  .record "WorkspaceSymbolParams" [partialResult, progress, need "query" .text]

def rename : Shape :=
  .record "RenameParams" [target, need "newName" .text, progress]

def execution : Shape :=
  .record "ExecuteCommandParams"
    [need "command" .text, .field "arguments" (.list .anything) true, progress]

/-! ### Hierarchies -/

/-- An item of a hierarchy, the shape of whose tags differs. -/
def hierarchyItem (name : String) (tags : Shape) : Shape :=
  .record name
    [need "name" .text,
      need "kind" code,
      may "tags" tags,
      may "detail" .text,
      need "uri" .url,
      need "range" range,
      need "selectionRange" range,
      may "data" .anything]

def callBits (name : String) : Shape :=
  .record name [need "item" (hierarchyItem "CallHierarchyItem" codes), progress, partialResult]

def typeBits (name : String) : Shape :=
  .record name [need "item" (hierarchyItem "TypeHierarchyItem" code), progress, partialResult]

/-! ### Things that are completed later -/

def documentLink : Shape :=
  .record "DocumentLink"
    [need "range" range, may "target" .url, may "tooltip" .text, may "data" .anything]

def codeLens : Shape :=
  .record "CodeLens" [need "range" range, may "command" command, may "data" .anything]

def inlayHintPart : Shape :=
  .record "InlayHintLabelPart"
    [need "value" .text,
      may "tooltip" (.either "InlayHintLabelPartTooltip" [.text, markup]),
      may "location" location,
      may "command" command]

def inlayHint : Shape :=
  .record "InlayHint"
    [need "position" position,
      need "label" (.either "InlayHintLabel" [.text, .list inlayHintPart]),
      may "kind" code,
      may "textEdits" (.list textEdit),
      may "tooltip" (.either "InlayHintTooltip" [.text, markup]),
      may "paddingLeft" .boolean,
      may "paddingRight" .boolean,
      may "data" .anything]

def replacement : Shape :=
  .record "InsertReplaceEdit"
    [need "newText" .text, need "insert" range, need "replace" range]

def completionItem : Shape :=
  .record "CompletionItem"
    [need "label" .text,
      may "labelDetails" (.record "CompletionItemLabelDetails"
        [may "detail" .text, may "description" .text]),
      may "kind" code,
      may "detail" .text,
      may "documentation" documentation,
      may "deprecated" .boolean,
      may "preselect" .boolean,
      may "sortText" .text,
      may "filterText" .text,
      may "insertText" .text,
      may "insertTextFormat" code,
      may "insertTextMode" code,
      may "textEdit" (.either "CompletionTextEdit" [textEdit, replacement]),
      may "additionalTextEdits" (.list textEdit),
      may "command" command,
      may "commitCharacters" texts,
      may "data" .anything,
      may "tags" codes]

def codeAction : Shape :=
  .record "CodeAction"
    [need "title" .text,
      may "kind" .text,
      may "diagnostics" (.list diagnostic),
      may "edit" workspaceEdit,
      may "command" command,
      may "isPreferred" .boolean,
      may "disabled" (.record "CodeActionDisabled" [need "reason" .text]),
      may "data" .anything]

def workspaceSymbol : Shape :=
  .record "WorkspaceSymbol"
    [need "name" .text,
      need "kind" code,
      may "tags" codes,
      may "containerName" .text,
      need "location" (.either "OneOf"
        [location, .record "WorkspaceLocation" [need "uri" .url]]),
      may "data" .anything]

/-! ### Formatting -/

def formattingOptions : Shape :=
  .record "FormattingOptions"
    [need "tabSize" .word,
      need "insertSpaces" .boolean,
      .others (.either "FormattingProperty" [.boolean, .integer, .text]),
      may "trimTrailingWhitespace" .boolean,
      may "insertFinalNewline" .boolean,
      may "trimFinalNewlines" .boolean]

def formatting : Shape :=
  .record "DocumentFormattingParams"
    [need "textDocument" document, need "options" formattingOptions, progress]

def rangeFormatting : Shape :=
  .record "DocumentRangeFormattingParams"
    [need "textDocument" document, need "range" range, need "options" formattingOptions,
      progress]

def typeFormatting : Shape :=
  .record "DocumentOnTypeFormattingParams"
    [target, need "ch" .text, need "options" formattingOptions]

/-! ### Other requests -/

def saving : Shape :=
  .record "WillSaveTextDocumentParams" [need "textDocument" document, need "reason" code]

def selectionRange : Shape :=
  .record "SelectionRangeParams"
    [need "textDocument" document, need "positions" (.list position), progress, partialResult]

/-- A request for tokens, with something more to say. -/
def tokens (name : String) (parts : List Part) : Shape :=
  .record name ([progress, partialResult, need "textDocument" document] ++ parts)

def inlineValue : Shape :=
  .record "InlineValueParams"
    [progress, need "textDocument" document, need "range" range,
      need "context" (.record "InlineValueContext"
        [need "frameId" .integer, need "stoppedLocation" range])]

def inlayHints : Shape :=
  .record "InlayHintParams" [progress, need "textDocument" document, need "range" range]

def documentDiagnostics : Shape :=
  .record "DocumentDiagnosticParams"
    [need "textDocument" document, may "identifier" .text, may "previousResultId" .text,
      progress, partialResult]

def workspaceDiagnostics : Shape :=
  .record "WorkspaceDiagnosticParams"
    [may "identifier" .text,
      need "previousResultIds" (.list (.record "PreviousResultId"
        [need "uri" .url, need "value" .text])),
      progress, partialResult]

def codeActions : Shape :=
  .record "CodeActionParams"
    [need "textDocument" document,
      need "range" range,
      need "context" (.record "CodeActionContext"
        [need "diagnostics" (.list diagnostic), may "only" texts, may "triggerKind" code]),
      progress, partialResult]

def colorPresentation : Shape :=
  .record "ColorPresentationParams"
    [need "textDocument" document,
      need "color" (.record "Color"
        [need "red" .number, need "green" .number, need "blue" .number, need "alpha" .number]),
      need "range" range,
      progress, partialResult]

/-- A request about files, each of which is told by some texts. -/
def files (name item : String) (texts : List String) : Shape :=
  .record name [need "files" (.list (.record item (texts.map (fun text => need text .text))))]

end Shape
end Editor
end LanguageServer
