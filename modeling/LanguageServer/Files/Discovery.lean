import LanguageServer.Files.Ignore

namespace LanguageServer
namespace Files

/-!
Which files of a workspace are its sources.

A walk comes across the entries below a root, and a library for patterns tells which paths match.
Discovery takes both as they are: of what a walk has come across it selects the regular files whose
path below the root matches a pattern, in the order of their components.  All patterns are read
before anything is walked.
-/

/-- What a file system can hold. -/
inductive EntryKind where
  | file
  | directory
  | symlink
  | other
deriving DecidableEq, Repr, Inhabited

/-- What a walk comes across.  It may not be known what it is. -/
structure Entry where
  path : Path
  kind : Option EntryKind
deriving DecidableEq, Repr, Inhabited

/-- A walk from a root comes across entries, and across what it cannot enter, which it describes. -/
abbrev Walker := Path -> List (Except String Entry)

/-- A library for patterns.  It reads a text as a pattern, puts patterns together, and tells whether
a path matches patterns that were put together.  It describes what is wrong with them. -/
structure GlobLibrary (Pattern PatternSet : Type) where
  read : String -> Except String Pattern
  combine : List Pattern -> Except String PatternSet
  accepts : PatternSet -> Path -> Bool

/-- Why there are no sources to tell. -/
inductive DiscoveryFault where
  | glob (pattern description : String)
  | walk (description : String)
deriving DecidableEq, Repr, Inhabited

namespace DiscoveryFault

def message : DiscoveryFault -> String
  | .glob pattern description => "invalid source glob `" ++ pattern ++ "`: " ++ description
  | .walk description => "failed to walk workspace: " ++ description

end DiscoveryFault

namespace Discovery

section

variable {Pattern PatternSet : Type} (library : GlobLibrary Pattern PatternSet)

/-! ### Patterns -/

/-- Read patterns.  The first one that is none is reported. -/
def readPatterns : List String -> Except DiscoveryFault (List Pattern)
  | [] => .ok []
  | pattern :: rest =>
      match library.read pattern with
      | .error description => .error (.glob pattern description)
      | .ok read =>
          match readPatterns rest with
          | .error fault => .error fault
          | .ok others => .ok (read :: others)

/-- Read patterns that are to be used together. -/
def readSet (patterns : List String) : Except DiscoveryFault PatternSet :=
  match readPatterns library patterns with
  | .error fault => .error fault
  | .ok read =>
      match library.combine read with
      | .error description => .error (.glob (Text.join ", " patterns) description)
      | .ok set => .ok set

/-! ### Selecting -/

/-- What a walk has come across.  The first thing that it could not enter is reported. -/
def listed : List (Except String Entry) -> Except DiscoveryFault (List Entry)
  | [] => .ok []
  | .error description :: _ => .error (.walk description)
  | .ok entry :: rest =>
      match listed rest with
      | .error fault => .error fault
      | .ok entries => .ok (entry :: entries)

/-- A regular file whose path below the root matches. -/
def isSource (set : PatternSet) (root : Path) (entry : Entry) : Bool :=
  entry.kind = some .file && library.accepts set (entry.path.relative root)

/-- Paths in the order of their components. -/
def ordered (paths : List Path) : List Path :=
  paths.mergeSort (fun path other => !decide (other.components < path.components))

/-- The sources among the entries of a walk. -/
def select (set : PatternSet) (root : Path) (entries : List Entry) : List Path :=
  ordered ((entries.filter (isSource library set root)).map Entry.path)

end

/-! ### Globs -/

/-- Wildcards of source patterns stand for separators too. -/
def style : GlobStyle := ⟨false, false⟩

/-- Patterns that are globs. -/
def globs : GlobLibrary Glob (List Glob) where
  read pattern :=
    match Glob.parse style pattern with
    | .error fault => .error ("error parsing glob '" ++ pattern ++ "': " ++ fault.message)
    | .ok glob => .ok glob
  combine patterns :=
    match GlobSetFault.ofGlobs? patterns with
    | some fault => .error fault.message
    | none => .ok patterns
  accepts patterns path := patterns.any (fun glob => glob.accepts path)

/-! ### Walking -/

/-- A walk under way: the tree, and where its root stands. -/
structure Walk where
  tree : Tree
  root : Place

/-- Something that stands at a place below the root of a walk. -/
structure Finding where
  place : Place
  kind : EntryKind
deriving DecidableEq, Repr, Inhabited

/-- A walk goes by names from its root. -/
def Finding.entry (root : Path) (finding : Finding) : Entry :=
  ⟨root.below finding.place, some finding.kind⟩

mutual

/-- What a walk comes across at a place below its root, and below that place. -/
def walkFrom (walk : Walk) (levels : List IgnoreLevel) (place : Place) : Tree -> List Finding
  | .file _ => [⟨place, .file⟩]
  | .directory entries =>
      let level := (IgnoreLevel.ofDirectory walk.tree (walk.root ++ place)).1
      ⟨place, .directory⟩ :: walkEntries walk (level :: levels) place entries

/-- What a walk comes across in a directory. -/
def walkEntries (walk : Walk) (levels : List IgnoreLevel) (place : Place) :
    List (String × Tree) -> List Finding
  | [] => []
  | (name, tree) :: rest =>
      let here := place ++ [name]
      let isDirectory := match tree with
        | .directory _ => true
        | .file _ => false
      let found :=
        if IgnoreLevel.leavesOut levels (walk.root ++ here) isDirectory then []
        else walkFrom walk levels here tree
      found ++ walkEntries walk levels place rest

end

/-- The places above a place, outermost first. -/
def above (place : Place) : List Place :=
  (List.range place.length).map place.take

/-- The ignore files of the directories above a place, nearest first, and descriptions of their
faults.  Where a repository begins up there makes no difference. -/
def levelsAbove (tree : Tree) (place : Place) : List IgnoreLevel × List String :=
  let found := (above place).map (IgnoreLevel.ofDirectory tree)
  ((found.map (fun (level, _) => { level with isRepository := false })).reverse,
    found.flatMap Prod.snd)

/-- Walk the tree below a root.  Entries that an ignore file leaves out are passed by.  The ignore
files of the directories above count too, and there a line that is no pattern ends the walk. -/
def walk (tree : Tree) : Walker := fun root =>
  match tree.locate root with
  | .error fault =>
      let path := root.display
      [.error (path ++ ": IO error for operation on " ++ path ++ ": " ++ fault.message)]
  | .ok place =>
      match tree.find? place with
      | some (.directory entries) =>
          let (levels, faults) := levelsAbove tree place
          if faults.isEmpty then
            (walkFrom ⟨tree, place⟩ levels [] (.directory entries)).map (fun finding =>
              .ok (finding.entry root))
          else [.error (Text.join "\n" faults)]
      | _ => [.ok ⟨root, some .file⟩]

end Discovery

/-- The sources that a walk from a root comes across: the files that match one of the patterns.
Without usable patterns nothing is walked. -/
def discoverBy {Pattern PatternSet : Type} (library : GlobLibrary Pattern PatternSet)
    (walk : Walker) (root : Path) (patterns : List String) : Except DiscoveryFault (List Path) :=
  match Discovery.readSet library patterns with
  | .error fault => .error fault
  | .ok set =>
      match Discovery.listed (walk root) with
      | .error fault => .error fault
      | .ok entries => .ok (Discovery.select library set root entries)

/-- The sources below a root of a tree. -/
def discover (tree : Tree) (root : Path) (patterns : List String) :
    Except DiscoveryFault (List Path) :=
  discoverBy Discovery.globs (Discovery.walk tree) root patterns

end Files
end LanguageServer
