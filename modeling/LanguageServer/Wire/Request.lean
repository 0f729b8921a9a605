import LanguageServer.Source.Answer
import LanguageServer.Source.Document
import LanguageServer.Wire.Frame

namespace LanguageServer
namespace Wire

/-!
Requests: what is written to the compiler.

A request is a command line and one line for each argument.  Lines are counted from one, and so
are columns, except where the cursor stands between two characters: completion and signature help
count columns from zero.  An edit carries the full text of several documents, each closed by the
separator.
-/

/-- A place in a document that a request is about. -/
structure Target where
  uri : String
  position : Position
deriving DecidableEq, Repr, Inhabited

/-- A question to the compiler. -/
inductive Query where
  | hover (place : Target)
  | definition (place : Target)
  | declaration (place : Target)
  | completion (place : Target)
  | signatureHelp (place : Target)
  /-- The symbols of a document, or of the whole workspace. -/
  | symbols (uri : Option String)
  | references (place : Target)
  | implementation (place : Target)
  | rename (place : Target) (newName : String)
deriving DecidableEq, Repr, Inhabited

namespace Query

def kind : Query -> RequestKind
  | .hover _ => .hover
  | .definition _ => .definition
  | .declaration _ => .declaration
  | .completion _ => .completion
  | .signatureHelp _ => .signatureHelp
  | .symbols _ => .symbols
  | .references _ => .references
  | .implementation _ => .implementation
  | .rename .. => .rename

end Query

/-- A message to the compiler. -/
inductive Message where
  | query (asked : Query)
  | restart
  | edit (documents : List Document)
deriving DecidableEq, Repr, Inhabited

/-- Lines of text, each with its newline. -/
def unlines (lines : List String) : String :=
  String.join (lines.map (fun line => line ++ "\n"))

namespace Target

/-- The argument lines of a place, both numbers counted from one. -/
def oneBased? (place : Target) : Option (List String) :=
  match successor? place.position.line, successor? place.position.character with
  | some line, some character => some [place.uri, wordText line, wordText character]
  | _, _ => none

/-- The argument lines of a place, the column counted from zero. -/
def betweenCharacters? (place : Target) : Option (List String) :=
  match successor? place.position.line with
  | some line => some [place.uri, wordText line, wordText place.position.character]
  | none => none

end Target

namespace Query

/-- The command line and the argument lines; nothing when a number does not fit a word. -/
def lines? : Query -> Option (List String)
  | .hover place => place.oneBased?.map ("#HOVER#" :: ·)
  | .definition place => place.oneBased?.map ("#DEFINITION#" :: ·)
  | .declaration place => place.oneBased?.map ("#DECLARATION#" :: ·)
  | .completion place => place.betweenCharacters?.map ("#COMPLETE#" :: ·)
  | .signatureHelp place => place.betweenCharacters?.map ("#SIGNATURE#" :: ·)
  | .symbols uri => some ["#SYMBOLS#", uri.getD ""]
  | .references place => place.oneBased?.map ("#REFERENCES#" :: ·)
  | .implementation place => place.oneBased?.map ("#IMPLEMENTATION#" :: ·)
  | .rename place newName =>
      place.oneBased?.map (fun arguments => "#RENAMEREQUEST#" :: (arguments ++ [newName]))

/-- The text of a question. -/
def encode? (query : Query) : Option String :=
  query.lines?.map unlines

end Query

/-- The request to start afresh. -/
def restartText : String :=
  unlines ["#RESTART#"]

/-- An edit: the uris, a blank line, and the texts, each closed by the separator. -/
def editText (documents : List Document) : String :=
  unlines ("#EDIT#" :: documents.map Document.uri ++ [""]) ++
    String.join (documents.map (fun document => document.text.push separatorChar))

namespace Message

/-- The text of a message. -/
def encode? : Message -> Option String
  | .query asked => asked.encode?
  | .restart => some restartText
  | .edit documents => some (editText documents)

end Message
end Wire
end LanguageServer
