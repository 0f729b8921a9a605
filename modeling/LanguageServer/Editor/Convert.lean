import LanguageServer.Json
import LanguageServer.Source.Answer
import LanguageServer.Source.Diagnostic
import LanguageServer.Url.FilePath

namespace LanguageServer
namespace Editor

/-!
Results in the editor's terms.

The editor names documents by URLs.  What belongs to a document whose uri is no URL cannot be
shown and is dropped.  Members that carry nothing are left out.
-/

def putWord (word : UInt32) : Json := .nat word.toNat

def putPosition (position : Position) : Json :=
  .object [("line", putWord position.line), ("character", putWord position.character)]

def putRange (range : Range) : Json :=
  .object [("start", putPosition range.start), ("end", putPosition range.stop)]

/-- A location, unless its document is not named by a URL. -/
def putLocation? (location : Location) : Option Json :=
  (Url.parse? location.uri).map (fun url =>
    .object [("uri", .string url.render), ("range", putRange location.range)])

def putLocations (locations : List Location) : Json :=
  .array (locations.filterMap putLocation?)

def putDiagnostic (diagnostic : Diagnostic) : Json :=
  .object [("range", putRange diagnostic.range), ("severity", .nat diagnostic.severity.number),
    ("source", .string "ghul"), ("message", .string diagnostic.message)]

/-- Hover text is shown as a block of code. -/
def putHover (hover : Hover) : Json :=
  .object [("contents", .object [("kind", .string "markdown"),
    ("value", .string ("```ghul\n" ++ hover.contents ++ "\n```"))])]

/-- A member that is left out when its text is empty. -/
def textMember (name text : String) : List (String × Json) :=
  if text = "" then [] else [(name, .string text)]

/-- Kinds are the editor's numbers, from 1 to 25; any other is left out. -/
def putCompletionItem (item : CompletionItem) : Json :=
  let kind := if 1 ≤ item.kind ∧ item.kind ≤ 25 then [("kind", putWord item.kind)] else []
  .object (("label", .string item.label) :: kind ++ textMember "detail" item.detail)

def putSignature (signature : Signature) : Json :=
  .object [("label", .string signature.label),
    ("parameters", .ofList (fun label => .object [("label", .string label)]) signature.parameters)]

def putSignatureHelp (help : SignatureHelp) : Json :=
  .object [("signatures", .ofList putSignature help.signatures),
    ("activeSignature", putWord help.activeSignature),
    ("activeParameter", putWord help.activeParameter)]

/-- Kinds are the editor's numbers, from 1 to 26; any other becomes the kind of nothing. -/
def symbolKind (kind : UInt32) : UInt32 :=
  if 1 ≤ kind ∧ kind ≤ 26 then kind else 21

/-- A symbol, unless its document is not named by a URL. -/
def putSymbol? (symbol : Symbol) : Option Json :=
  (putLocation? symbol.location).map (fun location =>
    .object ([("name", .string symbol.name), ("kind", putWord (symbolKind symbol.kind)),
      ("location", location)] ++ textMember "containerName" symbol.container))

def putSymbols (symbols : List Symbol) : Json :=
  .array (symbols.filterMap putSymbol?)

def putTextEdit (edit : TextEdit) : Json :=
  .object [("range", putRange edit.range), ("newText", .string edit.newText)]

/-- Edits filed under the URLs of their documents.  Of two uris that are spellings of one URL the
later one counts. -/
def editsByUrl (edits : WorkspaceEdit) : Table (List TextEdit) :=
  edits.changes.entries.foldl (fun filed (uri, changes) =>
    match Url.parse? uri with
    | some url => filed.insert url.render changes
    | none => filed) Table.empty

def putWorkspaceEdit (edits : WorkspaceEdit) : Json :=
  .object [("changes", .object ((editsByUrl edits).entries.map (fun (url, changes) =>
    (url, .ofList putTextEdit changes))))]

end Editor
end LanguageServer
