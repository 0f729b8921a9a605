import LanguageServer.Files.Discovery
import LanguageServer.Settings.File
import LanguageServer.Source.Document
import LanguageServer.Url.FilePath

namespace LanguageServer
namespace Editor

/-!
The surroundings of the server: files and environment variables.
-/

open Files (Path Tree)

structure Surroundings where
  tree : Tree
  workingDirectory : Path
  home : Option Path
  environment : Settings.Environment

namespace Surroundings

/-- The text of the file that a path leads to.  Bytes that are no text count as unreadable. -/
def text? (surroundings : Surroundings) (path : Path) : Option String :=
  ((surroundings.tree.read path).toOption.bind Text.Utf8.decode?).map String.ofList

def settings (surroundings : Surroundings) (workspace : Path) : Settings :=
  Settings.load surroundings.tree workspace surroundings.home

/-- How a session in the workspace is conducted. -/
def plan (surroundings : Surroundings) (workspace : Path) : Session.Plan :=
  (surroundings.settings workspace).plan surroundings.environment workspace

/-- The document that stands in the file at a path, filed under the key of the path. -/
def documentBy {Link : Type} (library : Url.Library Link) (surroundings : Surroundings)
    (path : Path) : Option Document := do
  let key <- library.keyOfPath? path
  let text <- surroundings.text? path
  return ⟨key, text⟩

def document? (surroundings : Surroundings) (path : Path) : Option Document :=
  surroundings.documentBy Url.library path

/-- The documents of the workspace.  If they cannot be told, there are none. -/
def documents (surroundings : Surroundings) (workspace : Path) : List Document :=
  match Files.discover surroundings.tree workspace (surroundings.settings workspace).globs with
  | .ok paths => paths.filterMap surroundings.document?
  | .error _ => []

/-- What a log holds by the time an editor can use the server: an entry for the start, and one for
the editor's opening request. -/
def firstEntries : String := "starting\ninitializing\n"

/-- The tree after a log was opened and written to, if that is possible.  The directories on the
way to it are made. -/
def openLog? (surroundings : Surroundings) (path : Path) : Option Tree :=
  let file := surroundings.workingDirectory.add path
  let earlier := (surroundings.tree.read file).toOption.getD []
  if path.isEmpty then none
  else surroundings.tree.write? file (earlier ++ Text.Utf8.encode firstEntries.toList)

/-- The tree once the server has begun to write its log, where the settings ask for one. -/
def logged (surroundings : Surroundings) : Tree :=
  match (surroundings.settings surroundings.workingDirectory).logFile with
  | some path => (surroundings.openLog? (Path.ofText path)).getD surroundings.tree
  | none => surroundings.tree

end Surroundings
end Editor
end LanguageServer
