import LanguageServer.Editor.Shape

namespace LanguageServer
namespace Editor
namespace Shape

/-!
Shapes that many messages share: places in documents, documents, edits and commands.
-/

/-- A kind that is told by a number. -/
def code : Shape := .integer

def texts : Shape := .list .text

def codes : Shape := .list code

def position : Shape := .record "Position" [need "line" .word, need "character" .word]

def range : Shape := .record "Range" [need "start" position, need "end" position]

def location : Shape := .record "Location" [need "uri" .url, need "range" range]

def document : Shape := .record "TextDocumentIdentifier" [need "uri" .url]

def token : Shape := .either "NumberOrString" [.integer, .text]

/-! ### Groups -/

/-- The members that name a place. -/
def targetParts : List Part := [need "textDocument" document, need "position" position]

def target : Part := .group targetParts

/-- How progress is to be reported. -/
def progress : Part := .group [may "workDoneToken" token]

/-- How results are to be handed over bit by bit. -/
def partialResult : Part := .group [may "partialResultToken" token]

/-! ### Texts -/

def markupKind : Shape := .choice ["plaintext", "markdown"]

def markup : Shape := .record "MarkupContent" [need "kind" markupKind, need "value" .text]

def documentation : Shape := .either "Documentation" [.text, markup]

/-! ### Edits and commands -/

def textEdit : Shape := .record "TextEdit" [need "range" range, need "newText" .text]

def annotatedEdit : Shape :=
  .record "AnnotatedTextEdit"
    [.group [need "range" range, need "newText" .text], need "annotationId" .text]

def command : Shape :=
  .record "Command"
    [need "title" .text, need "command" .text, may "arguments" (.list .anything)]

def versionedEdit : Shape :=
  .record "TextDocumentEdit"
    [need "textDocument"
        (.record "OptionalVersionedTextDocumentIdentifier"
          [need "uri" .url, may "version" .integer]),
      need "edits" (.list (.either "OneOf" [textEdit, annotatedEdit]))]

def fileCreation : Shape :=
  .record "CreateFile"
    [need "uri" .url,
      may "options" (.record "CreateFileOptions"
        [may "overwrite" .boolean, may "ignoreIfExists" .boolean]),
      may "annotationId" .text]

def fileRenaming : Shape :=
  .record "RenameFile"
    [need "oldUri" .url, need "newUri" .url,
      may "options" (.record "RenameFileOptions"
        [may "overwrite" .boolean, may "ignoreIfExists" .boolean]),
      may "annotationId" .text]

def fileDeletion : Shape :=
  .record "DeleteFile"
    [need "uri" .url,
      may "options" (.record "DeleteFileOptions"
        [may "recursive" .boolean, may "ignoreIfNotExists" .boolean, may "annotationId" .text])]

def fileOperation : Shape :=
  .tagged "kind"
    [("create", fileCreation), ("rename", fileRenaming), ("delete", fileDeletion)]

def documentChanges : Shape :=
  .either "DocumentChanges"
    [.list versionedEdit,
      .list (.either "DocumentChangeOperation" [fileOperation, versionedEdit])]

def workspaceEdit : Shape :=
  .record "WorkspaceEdit"
    [mayEnd "changes" (.table "map" .url (.list textEdit)),
      may "documentChanges" documentChanges,
      may "changeAnnotations" (.table "a map" .text
        (.record "ChangeAnnotation"
          [need "label" .text, may "needsConfirmation" .boolean, may "description" .text]))]

/-! ### Diagnostics -/

def diagnostic : Shape :=
  .record "Diagnostic"
    [need "range" range,
      may "severity" code,
      may "code" token,
      may "codeDescription" (.record "CodeDescription" [need "href" .url]),
      may "source" .text,
      need "message" .text,
      may "relatedInformation" (.list (.record "DiagnosticRelatedInformation"
        [need "location" location, need "message" .text])),
      may "tags" codes,
      may "data" .anything]

end Shape
end Editor
end LanguageServer
