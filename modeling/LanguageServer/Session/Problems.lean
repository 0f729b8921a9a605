import LanguageServer.Source.Diagnostic
import LanguageServer.Table

namespace LanguageServer
namespace Session

/-!
The problem store: the diagnostics of every document, in two bands.

Problems of the parse belong to the latest text of one document, those of the analysis to the
whole project.  A fresh parse makes the analysis built on the old one worthless, so it clears both
bands.  A document keeps its entry when its problems are cleared, so that the next publication
tells the editor that they are gone.
-/

structure DocumentProblems where
  parse : List Diagnostic
  analysis : List Diagnostic
deriving DecidableEq, Repr, Inhabited

namespace DocumentProblems

def empty : DocumentProblems := ⟨[], []⟩

/-- Both bands, the parse first. -/
def all (problems : DocumentProblems) : List Diagnostic :=
  problems.parse ++ problems.analysis

def add (problems : DocumentProblems) (band : Band) (diagnostic : Diagnostic) : DocumentProblems :=
  match band with
  | .parse => { problems with parse := problems.parse ++ [diagnostic] }
  | .analysis => { problems with analysis := problems.analysis ++ [diagnostic] }

def clearAnalysis (problems : DocumentProblems) : DocumentProblems :=
  { problems with analysis := [] }

end DocumentProblems

structure ProblemStore where
  documents : Table DocumentProblems
deriving DecidableEq, Inhabited

namespace ProblemStore

def empty : ProblemStore := ⟨Table.empty⟩

def add (store : ProblemStore) (band : Band) (uri : String) (diagnostic : Diagnostic) :
    ProblemStore :=
  ⟨store.documents.alter uri
    (fun earlier => (earlier.getD DocumentProblems.empty).add band diagnostic)⟩

/-- A document was parsed afresh. -/
def clearParse (store : ProblemStore) (uri : String) : ProblemStore :=
  ⟨store.documents.adjust uri (fun _ => DocumentProblems.empty)⟩

/-- A document's part of the analysis is out of date. -/
def clearAnalysis (store : ProblemStore) (uri : String) : ProblemStore :=
  ⟨store.documents.adjust uri DocumentProblems.clearAnalysis⟩

/-- The whole analysis is out of date. -/
def clearAllAnalysis (store : ProblemStore) : ProblemStore :=
  ⟨store.documents.map (fun _ problems => problems.clearAnalysis)⟩

/-- The documents that have an entry. -/
def uris (store : ProblemStore) : List String :=
  store.documents.keys

/-- Forget everything, and tell which documents had an entry. -/
def clear (store : ProblemStore) : List String × ProblemStore :=
  (store.uris, empty)

/-- Every document with its diagnostics. -/
def listing (store : ProblemStore) : List (String × List Diagnostic) :=
  store.documents.entries.map (fun entry => (entry.1, entry.2.all))

/-- How many of the diagnostics are errors. -/
def errorCount (store : ProblemStore) : Nat :=
  (store.listing.flatMap Prod.snd).countP (fun diagnostic => diagnostic.severity = .error)

end ProblemStore
end Session
end LanguageServer
