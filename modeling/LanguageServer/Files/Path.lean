import LanguageServer.Text.Pieces
import LanguageServer.Text.Utf8

namespace LanguageServer
namespace Files

/-!
Paths.

A path is a sequence of bytes in which slashes divide names.  It is kept as it was written: where
its names lead is up to the tree that they are followed in.  Paths are compared by their components,
so two paths that were written differently can be the same path.
-/

/-- The bytes of a path. -/
abbrev Path := List UInt8

namespace Path

def slash : UInt8 := 0x2F

def dot : UInt8 := 0x2E

def ofText (text : String) : Path := Text.Utf8.bytesOf text

/-- A path for display. -/
def display (path : Path) : String := String.ofList (Text.Utf8.lossy path)

def isAbsolute (path : Path) : Bool := path.head? = some slash

/-- A piece of a path leads on, unless it is empty or a single dot. -/
def leadsOn (piece : Path) : Bool := piece != [] && piece != [dot]

/-- The names on the way to a file. -/
def names (path : Path) : List Path := (Text.pieces slash path).filter leadsOn

/-- A slash at the end asks for a directory. -/
def asksForDirectory (path : Path) : Bool := path.getLast? = some slash

/-- The names that are followed one after another.  A single dot leads nowhere, but only a
directory can be left by it, and a slash at the end says the same. -/
def steps (path : Path) : List Path :=
  (Text.pieces slash path).filter (fun name => name != []) ++
    if path.asksForDirectory then [[dot]] else []

/-- Go on from a path by another one.  One that is absolute starts anew. -/
def add (path next : Path) : Path :=
  if next.isAbsolute || path.isEmpty then next
  else if path.asksForDirectory then path ++ next
  else path ++ slash :: next

/-- Go on from a path by names. -/
def descend (path : Path) (names : List Path) : Path := names.foldl add path

/-- Go on from a path by names that are texts. -/
def below (path : Path) (names : List String) : Path := path.descend (names.map ofText)

/-- A name has at most this many bytes. -/
def nameLimit : Nat := 255

/-- A path has fewer bytes than this. -/
def limit : Nat := 4096

/-! ### Components -/

/-- What a path consists of.  Components are in the order in which they are listed here, and names
in that of their bytes. -/
inductive Component where
  | root
  | current
  | parent
  | name (bytes : Path)
deriving DecidableEq, Repr, Inhabited

namespace Component

def ofName (name : Path) : Component :=
  if name = [dot, dot] then .parent else .name name

/-- Bytes that are in the order of the components. -/
def key : Component -> List UInt8
  | .root => []
  | .current => [0]
  | .parent => [1]
  | .name bytes => 2 :: bytes

instance : LT Component := ⟨fun component other => component.key < other.key⟩

instance : DecidableLT Component := fun component other =>
  inferInstanceAs (Decidable (component.key < other.key))

end Component

/-- Where a path starts: at the root, or at the current directory if it says so. -/
def start (path : Path) : List Component :=
  if path.isAbsolute then [.root]
  else if (Text.pieces slash path).head? = some [dot] then [.current]
  else []

/-- The components of a path, by which paths are compared. -/
def components (path : Path) : List Component := path.start ++ path.names.map Component.ofName

/-- The pieces that are left once so many have led on. -/
def behind : Nat -> List Path -> List Path
  | 0, pieces => pieces
  | _ + 1, [] => []
  | count + 1, piece :: rest => if leadsOn piece then behind count rest else behind (count + 1) rest

/-- The pieces from the first that leads on. -/
def trimFront (pieces : List Path) : List Path := pieces.dropWhile (fun piece => !leadsOn piece)

/-- The pieces up to the last that leads on. -/
def trimBack (pieces : List Path) : List Path := (trimFront pieces.reverse).reverse

/-- A path without what leads nowhere at its end.  Where it starts is kept. -/
def trimmed (path : Path) : Path :=
  match path, Text.pieces slash path with
  | first :: rest, piece :: more =>
      if first = slash then slash :: List.intercalate [slash] (trimBack (Text.pieces slash rest))
      else List.intercalate [slash] (piece :: trimBack more)
  | _, _ => path

/-- The path that is left of a path below a root; a path elsewhere is left whole.  What leads
nowhere is cut off at both ends, and kept in between. -/
def relative (path root : Path) : Path :=
  if !root.components.isPrefixOf path.components then path
  else if root.isEmpty then path.trimmed
  else List.intercalate [slash]
    (trimBack (trimFront (behind root.names.length (Text.pieces slash path))))

end Path

/-- Why a path cannot be followed to a file. -/
inductive PathFault where
  | missing
  | notDirectory
  | isDirectory
  | tooLong
  | zeroByte
deriving DecidableEq, Repr, Inhabited

namespace PathFault

def message : PathFault -> String
  | .missing => "No such file or directory (os error 2)"
  | .notDirectory => "Not a directory (os error 20)"
  | .isDirectory => "Is a directory (os error 21)"
  | .tooLong => "File name too long (os error 36)"
  | .zeroByte => "file name contained an unexpected NUL byte"

end PathFault
end Files
end LanguageServer
