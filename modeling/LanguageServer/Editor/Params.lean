import LanguageServer.Editor.Shape.Capabilities
import LanguageServer.Editor.Shape.Notifications
import LanguageServer.Source.Position
import LanguageServer.Url.FilePath
import LanguageServer.Wire.Request

namespace LanguageServer
namespace Editor

/-!
Parameters: what the editor means by what it hands in.

Parameters are read by their shape first, which settles all complaints.  What is taken from them
here is there whenever the shape says so.
-/

namespace Params

/-- Read parameters, and take from them what is wanted. -/
def take {Value : Type} (shape : Shape) (meaning : Json -> Value) (params : Json) :
    Reading Value :=
  (shape.read false params).map meaning

def member (name : String) (value : Json) : Json := (value.member? name).getD .null

def text (value : Json) : String := value.string?.getD ""

def url? (value : Json) : Option Url := value.string?.bind Url.parse?

/-- The key of the document with a URL. -/
def key (value : Json) : String := ((url? value).map Url.key).getD ""

def word (value : Json) : UInt32 := UInt32.ofNat (value.nat?.getD 0)

/-- The document that parameters are about. -/
def document (params : Json) : Json := member "textDocument" params

/-- The key of the document that parameters are about. -/
def documentKey (params : Json) : String := key (member "uri" (document params))

/-- The place that parameters are about. -/
def target (params : Json) : Wire.Target :=
  let position := member "position" params
  ⟨documentKey params, ⟨word (member "line" position), word (member "character" position)⟩⟩

/-- Where the workspace stands: the first folder, if that is one of files, or else the root. -/
def workspace (params : Json) : Option Files.Path :=
  let folders := ((member "workspaceFolders" params).array?).getD []
  let folder := folders.head?.bind (fun folder => url? (member "uri" folder))
  (folder.bind Url.toPath?).or ((url? (member "rootUri" params)).bind Url.toPath?)

/-- The version of the document that parameters are about. -/
def version (params : Json) : Int := ((member "version" (document params)).integer?).getD 0

/-- The text of a document after the last of some changes. -/
def lastText? (params : Json) : Option String :=
  (((member "contentChanges" params).array?).getD []).getLast?.map (fun change =>
    text (member "text" change))

end Params
end Editor
end LanguageServer
