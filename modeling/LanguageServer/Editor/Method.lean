import LanguageServer.Editor.Params
import LanguageServer.Editor.Shape.Requests

namespace LanguageServer
namespace Editor

/-!
Methods: what the editor can ask for, and what it can tell.
-/

/-- The part that a method plays. -/
inductive MethodKind where
  /-- The editor introduces itself. -/
  | greeting
  | shutdown
  | exit
  /-- Asked for in a call. -/
  | request
  /-- Told in a notification. -/
  | notification
  | unknown
deriving DecidableEq, Repr, Inhabited

namespace Method

/-- The requests that the compiler answers: what is handed in, and the query that it means. -/
def query? : String -> Option (Shape × (Json -> Wire.Query))
  | "textDocument/hover" =>
      some (Shape.placed "HoverParams", fun params => .hover (Params.target params))
  | "textDocument/definition" => some (goto, fun params => .definition (Params.target params))
  | "textDocument/declaration" => some (goto, fun params => .declaration (Params.target params))
  | "textDocument/implementation" =>
      some (goto, fun params => .implementation (Params.target params))
  | "textDocument/references" =>
      some (Shape.references, fun params => .references (Params.target params))
  | "textDocument/completion" =>
      some (Shape.completion, fun params => .completion (Params.target params))
  | "textDocument/signatureHelp" =>
      some (Shape.signatureHelp, fun params => .signatureHelp (Params.target params))
  | "textDocument/documentSymbol" =>
      some (Shape.documentBits "DocumentSymbolParams", fun params =>
        .symbols (some (Params.documentKey params)))
  | "workspace/symbol" => some (Shape.workspaceSymbols, fun _ => .symbols none)
  | "textDocument/rename" =>
      some (Shape.rename, fun params =>
        .rename (Params.target params) (Params.text (Params.member "newName" params)))
  | _ => none
where
  goto : Shape := Shape.placedBits "GotoDefinitionParams"

def executeCommand : String := "workspace/executeCommand"

/-- Requests that belong to the protocol and are not offered here, with what is handed in. -/
def notOffered : List (String × Shape) :=
  [("textDocument/typeDefinition", Shape.placedBits "GotoDefinitionParams"),
    ("textDocument/prepareCallHierarchy", Shape.placed "CallHierarchyPrepareParams"),
    ("callHierarchy/incomingCalls", Shape.callBits "CallHierarchyIncomingCallsParams"),
    ("callHierarchy/outgoingCalls", Shape.callBits "CallHierarchyOutgoingCallsParams"),
    ("textDocument/prepareTypeHierarchy", Shape.placed "TypeHierarchyPrepareParams"),
    ("typeHierarchy/supertypes", Shape.typeBits "TypeHierarchySupertypesParams"),
    ("typeHierarchy/subtypes", Shape.typeBits "TypeHierarchySubtypesParams"),
    ("textDocument/documentHighlight", Shape.placedBits "DocumentHighlightParams"),
    ("textDocument/documentLink", Shape.documentBits "DocumentLinkParams"),
    ("documentLink/resolve", Shape.documentLink),
    ("textDocument/codeLens", Shape.documentBits "CodeLensParams"),
    ("codeLens/resolve", Shape.codeLens),
    ("textDocument/foldingRange", Shape.documentBits "FoldingRangeParams"),
    ("textDocument/selectionRange", Shape.selectionRange),
    ("textDocument/semanticTokens/full", Shape.tokens "SemanticTokensParams" []),
    ("textDocument/semanticTokens/full/delta",
      Shape.tokens "SemanticTokensDeltaParams" [Shape.need "previousResultId" .text]),
    ("textDocument/semanticTokens/range",
      Shape.tokens "SemanticTokensRangeParams" [Shape.need "range" Shape.range]),
    ("textDocument/inlineValue", Shape.inlineValue),
    ("textDocument/inlayHint", Shape.inlayHints),
    ("inlayHint/resolve", Shape.inlayHint),
    ("textDocument/moniker", Shape.placedBits "MonikerParams"),
    ("completionItem/resolve", Shape.completionItem),
    ("textDocument/diagnostic", Shape.documentDiagnostics),
    ("workspace/diagnostic", Shape.workspaceDiagnostics),
    ("textDocument/codeAction", Shape.codeActions),
    ("codeAction/resolve", Shape.codeAction),
    ("textDocument/documentColor", Shape.documentBits "DocumentColorParams"),
    ("textDocument/colorPresentation", Shape.colorPresentation),
    ("textDocument/formatting", Shape.formatting),
    ("textDocument/rangeFormatting", Shape.rangeFormatting),
    ("textDocument/onTypeFormatting", Shape.typeFormatting),
    ("textDocument/prepareRename",
      .record "TextDocumentPositionParams" Shape.targetParts),
    ("textDocument/linkedEditingRange", Shape.placed "LinkedEditingRangeParams"),
    ("workspaceSymbol/resolve", Shape.workspaceSymbol),
    ("workspace/willCreateFiles", Shape.files "CreateFilesParams" "FileCreate" ["uri"]),
    ("workspace/willRenameFiles",
      Shape.files "RenameFilesParams" "FileRename" ["oldUri", "newUri"]),
    ("workspace/willDeleteFiles", Shape.files "DeleteFilesParams" "FileDelete" ["uri"]),
    ("textDocument/willSaveWaitUntil", Shape.saving)]

def notifications : List String :=
  ["initialized", "textDocument/didOpen", "textDocument/didChange", "textDocument/willSave",
    "textDocument/didSave", "textDocument/didClose", "workspace/didChangeConfiguration",
    "workspace/didChangeWorkspaceFolders", "workspace/didCreateFiles",
    "workspace/didRenameFiles", "workspace/didDeleteFiles", "workspace/didChangeWatchedFiles",
    "$/cancelRequest"]

def kind (method : String) : MethodKind :=
  if method = "initialize" then .greeting
  else if method = "shutdown" then .shutdown
  else if method = "exit" then .exit
  else if method = executeCommand ∨ (query? method).isSome ∨ (notOffered.lookup method).isSome then
    .request
  else if method ∈ notifications then .notification
  else .unknown

end Method
end Editor
end LanguageServer
