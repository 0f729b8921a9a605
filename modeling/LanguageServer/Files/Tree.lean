import LanguageServer.Files.Path

namespace LanguageServer
namespace Files

/-!
File trees.

A tree holds the files that a workspace, and what surrounds it, consists of: regular files and
directories whose names are texts.  Links, devices and other names have no place in it.  A place in
a tree is the list of the names that lead to it from the root.  A path is followed name by name, and
every name but the last has to lead to a directory, even where two dots go back at once.
-/

/-- The names on the way to a place. -/
abbrev Place := List String

namespace Place

/-- The absolute path that leads to a place. -/
def text (place : Place) : String :=
  if place.isEmpty then "/" else String.join (place.map (fun name => "/" ++ name))

/-- The order of places: the first names that differ decide, and a place comes before what is
below it. -/
def precedes : Place -> Place -> Bool
  | [], _ => true
  | _ :: _, [] => false
  | left :: leftRest, right :: rightRest =>
      if left < right then true
      else if left = right then precedes leftRest rightRest
      else false

end Place

/-- A file or a directory. -/
inductive Tree where
  | file (contents : List UInt8)
  | directory (entries : List (String × Tree))
deriving Inhabited

namespace Tree

/-- A directory with nothing in it. -/
def empty : Tree := .directory []

/-- What a name leads to. -/
def child? (tree : Tree) (name : String) : Option Tree :=
  match tree with
  | .directory entries => entries.lookup name
  | .file _ => none

/-- What stands at a place. -/
def find? : Place -> Tree -> Option Tree
  | [], tree => some tree
  | name :: rest, tree => (tree.child? name).bind (find? rest)

def isDirectory (tree : Tree) (place : Place) : Bool :=
  match tree.find? place with
  | some (.directory _) => true
  | _ => false

/-! ### Following paths -/

/-- Where a name leads from a place. -/
def follow (tree : Tree) (place : Place) (name : Path) : Except PathFault Place :=
  if !tree.isDirectory place then .error .notDirectory
  else if name = [Path.dot] then .ok place
  else if name = [Path.dot, Path.dot] then .ok place.dropLast
  else if name.length > Path.nameLimit then .error .tooLong
  else
    match Text.Utf8.decode? name with
    | none => .error .missing
    | some letters =>
        let next := place ++ [String.ofList letters]
        if (tree.find? next).isSome then .ok next else .error .missing

/-- Where a path leads.  One that is not absolute leads nowhere. -/
def locate (tree : Tree) (path : Path) : Except PathFault Place :=
  if path.contains 0 then .error .zeroByte
  else if !path.isAbsolute then .error .missing
  else if path.length ≥ Path.limit then .error .tooLong
  else path.steps.foldlM tree.follow []

/-- A path leads to something. -/
def has (tree : Tree) (path : Path) : Bool := (tree.locate path).isOk

/-- The contents of the file that a path leads to. -/
def read (tree : Tree) (path : Path) : Except PathFault (List UInt8) :=
  match tree.locate path with
  | .error fault => .error fault
  | .ok place =>
      match tree.find? place with
      | some (.file contents) => .ok contents
      | _ => .error .isDirectory

/-- Why one cannot work in the directory that a path leads to. -/
def obstacle? (tree : Tree) (path : Path) : Option PathFault :=
  match tree.locate path with
  | .error fault => some fault
  | .ok place => if tree.isDirectory place then none else some .notDirectory

/-! ### Changing trees -/

/-- Replace an entry, or add it. -/
def setEntry (entries : List (String × Tree)) (name : String) (tree : Tree) :
    List (String × Tree) :=
  if (entries.lookup name).isSome then
    entries.map (fun entry => if entry.1 = name then (name, tree) else entry)
  else entries ++ [(name, tree)]

/-- Put something at a place, making the directories on the way.  Nothing can be put below a
file. -/
def put? (node : Tree) : Place -> Tree -> Option Tree
  | [], _ => some node
  | name :: rest, .directory entries =>
      (put? node rest ((entries.lookup name).getD empty)).map (fun changed =>
        .directory (setEntry entries name changed))
  | _ :: _, .file _ => none

/-- Go one name on from a place, making a directory where nothing stands yet. -/
def enter? (state : Tree × Place) (name : Path) : Option (Tree × Place) :=
  let (tree, place) := state
  match tree.follow place name, Text.Utf8.decode? name with
  | .ok next, _ => if tree.isDirectory next then some (tree, next) else none
  | .error .missing, some letters =>
      let next := place ++ [String.ofList letters]
      (put? empty next tree).map (fun changed => (changed, next))
  | _, _ => none

/-- Make a directory and those on the way to it. -/
def makeDirectory? (tree : Tree) (path : Path) : Option (Tree × Place) :=
  if path.isAbsolute && !path.contains 0 && path.length < Path.limit then
    path.names.foldlM enter? (tree, [])
  else none

/-- Write a file, making the directories on the way. -/
def write? (tree : Tree) (path : Path) (contents : List UInt8) : Option Tree := do
  let name <- path.steps.getLast?
  if name = [Path.dot] || name = [Path.dot, Path.dot] || name.length > Path.nameLimit then none
  let letters <- Text.Utf8.decode? name
  let (prepared, above) <- tree.makeDirectory? (path.take (path.length - name.length))
  let place := above ++ [String.ofList letters]
  if prepared.isDirectory place then none else put? (.file contents) place prepared

end Tree
end Files
end LanguageServer
