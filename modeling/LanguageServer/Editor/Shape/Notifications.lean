import LanguageServer.Editor.Shape.Basic

namespace LanguageServer
namespace Editor
namespace Shape

/-!
What an editor hands in with a notification.
-/

/-- The editor has nothing to say but that it is ready. -/
def initialized : Shape := .record "InitializedParams" []

def opening : Shape :=
  .record "DidOpenTextDocumentParams"
    [need "textDocument" (.record "TextDocumentItem"
      [need "uri" .url, need "languageId" .text, need "version" .integer, need "text" .text])]

def change : Shape :=
  .record "DidChangeTextDocumentParams"
    [need "textDocument" (.record "VersionedTextDocumentIdentifier"
        [need "uri" .url, need "version" .integer]),
      need "contentChanges" (.list (.record "TextDocumentContentChangeEvent"
        [may "range" range, may "rangeLength" .word, need "text" .text]))]

def closing : Shape :=
  .record "DidCloseTextDocumentParams" [need "textDocument" document]

def configuration : Shape :=
  .record "DidChangeConfigurationParams" [need "settings" .anything]

end Shape
end Editor
end LanguageServer
