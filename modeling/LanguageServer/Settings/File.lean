import LanguageServer.Files.Tree
import LanguageServer.Settings.Basic

namespace LanguageServer
namespace Settings

/-!
Where settings are found.

A workspace may have a settings file of its own; otherwise the one in the home directory counts.
The first of the two that exists is used, and if it is of no use the defaults are.
-/

open Files (Path Tree)

/-- The settings file below a directory. -/
def fileBelow (directory : Path) : Path := directory.below [".ghul", "config.toml"]

/-- The settings in the file that a path leads to. -/
def readAt (tree : Tree) (path : Path) : Except Fault Settings :=
  match tree.read path with
  | .ok contents => parse path.display contents
  | .error fault => .error (.read path.display fault.message)

/-- The settings for a workspace. -/
def load (tree : Tree) (workspace : Path) (home : Option Path) : Settings :=
  let candidates := fileBelow workspace :: home.toList.map fileBelow
  match candidates.find? tree.has with
  | none => default
  | some path =>
      match readAt tree path with
      | .ok settings => settings
      | .error _ => default

end Settings
end LanguageServer
