import LanguageServer.Files.Glob.Expression
import LanguageServer.Files.Glob.Matching
import LanguageServer.Files.Tree
import LanguageServer.Text.Blank
import LanguageServer.Text.Numeral

namespace LanguageServer
namespace Files

/-!
Ignore files.

A directory may hold files that list what a walk leaves out.  Each line is a pattern for paths
below that directory; a line that begins with `!` takes something back in.  Of the lines of a file
the last one that matches decides.  A line that is no pattern is left out, and reported.

Of the three ignore files of a directory one is its own affair, and the other two belong to the
repository that it is part of.  A repository inside another one has nothing to do with the ignore
files of the outer one.
-/

/-- What a list of rules says about a path. -/
inductive Verdict where
  | ignored
  | kept
deriving DecidableEq, Repr, Inhabited

/-- A line of an ignore file. -/
structure IgnoreRule where
  glob : Glob
  verdict : Verdict
  directoriesOnly : Bool
deriving Inhabited

/-- What could not be used of an ignore file. -/
inductive IgnoreFault where
  /-- The line is no pattern. -/
  | glob (line : Nat) (pattern : String) (fault : GlobFault)
  /-- The line, and thus all after it, could not be read. -/
  | read (line : Nat)
  /-- The patterns cannot be used together. -/
  | set (fault : GlobSetFault)
deriving DecidableEq, Repr, Inhabited

namespace IgnoreFault

def isRead : IgnoreFault -> Bool
  | .read _ => true
  | _ => false

/-- Describe a fault of the file at a path. -/
def message (path : String) : IgnoreFault -> String
  | .glob line pattern fault =>
      path ++ ": line " ++ Text.decimal line ++ ": error parsing glob '" ++ pattern ++ "': " ++
        fault.message
  | .read line =>
      path ++ ": line " ++ Text.decimal line ++ ": stream did not contain valid UTF-8"
  | .set fault => fault.message

end IgnoreFault

namespace IgnoreRule

/-- Wildcards of ignore files stay inside a component. -/
def style : GlobStyle := ⟨true, true⟩

def endsWith (text ending : List Char) : Bool := ending.isSuffixOf text

/-- The line without the blanks at its end, unless the last of them is escaped. -/
def trimLine (line : List Char) : List Char :=
  if endsWith line ['\\', ' '] then line else Text.trimEnd line

/-- A pattern that asks for nothing but a name is meant at any depth, and one for everything below
a directory does not mean the directory. -/
def completed (anchored : Bool) (pattern : List Char) : List Char :=
  let anyDepth := !anchored && !pattern.contains '/' && pattern != ['*', '*']
  let placed := if anyDepth then ['*', '*', '/'] ++ pattern else pattern
  if endsWith placed ['/', '*', '*'] then placed ++ ['/', '*'] else placed

/-- A line cut into its parts: what it says, whether the pattern is anchored, whether it is for
directories only, and the pattern. -/
def dissect (line : List Char) : Verdict × Bool × Bool × List Char :=
  let (verdict, anchored, body) :=
    match line with
    | '\\' :: '!' :: rest => (Verdict.ignored, false, '!' :: rest)
    | '\\' :: '#' :: rest => (Verdict.ignored, false, '#' :: rest)
    | '!' :: '/' :: rest => (Verdict.kept, true, rest)
    | '!' :: rest => (Verdict.kept, false, rest)
    | '/' :: rest => (Verdict.ignored, true, rest)
    | _ => (Verdict.ignored, false, line)
  if body.getLast? = some '/' then
    let inner := body.dropLast
    (verdict, anchored, true, if inner.getLast? = some '\\' then inner.dropLast else inner)
  else (verdict, anchored, false, body)

/-- Read a line.  Comments and blank lines are no rules. -/
def ofLine (number : Nat) (line : List Char) : Except IgnoreFault (Option IgnoreRule) :=
  let text := trimLine line
  if line.head? = some '#' || text.isEmpty then .ok none
  else
    let (verdict, anchored, directoriesOnly, pattern) := dissect text
    match Glob.parse style (String.ofList (completed anchored pattern)) with
    | .ok glob => .ok (some ⟨glob, verdict, directoriesOnly⟩)
    | .error fault => .error (.glob number (String.ofList text) fault)

def applies (rule : IgnoreRule) (path : List UInt8) (isDirectory : Bool) : Bool :=
  rule.glob.accepts path && (isDirectory || !rule.directoriesOnly)

end IgnoreRule

/-- The rules of an ignore file, in order. -/
abbrev IgnoreRules := List IgnoreRule

namespace IgnoreRules

/-- What the rules say about a path: the last one that applies decides. -/
def verdict? (rules : IgnoreRules) (path : List UInt8) (isDirectory : Bool) : Option Verdict :=
  (rules.reverse.find? (fun rule => rule.applies path isDirectory)).map IgnoreRule.verdict

/-- The lines of a file.  The last one need not be ended. -/
def lines (contents : List UInt8) : List (List UInt8) :=
  let all := Text.pieces 0x0A contents
  let withoutReturn (line : List UInt8) : List UInt8 :=
    if line.getLast? = some 0x0D then line.dropLast else line
  all.dropLast.map withoutReturn ++
    (match all.getLast? with
    | some [] | none => []
    | some last => [last])

/-- Read lines, the first of which has the given number. -/
def ofLines : Nat -> List (List UInt8) -> IgnoreRules × List IgnoreFault
  | _, [] => ([], [])
  | number, line :: rest =>
      match Text.Utf8.decode? line with
      | none => ([], [.read number])
      | some text =>
          let body := if number = 1 then text.dropWhile (· = '\ufeff') else text
          let (rules, faults) := ofLines (number + 1) rest
          match IgnoreRule.ofLine number body with
          | .ok none => (rules, faults)
          | .ok (some rule) => (rule :: rules, faults)
          | .error fault => (rules, fault :: faults)

/-- The rules in the contents of a file, and its faults.  A file that cannot be read at all has none
of either, and patterns that cannot be used together are all left out. -/
def ofContents (contents : List UInt8) : IgnoreRules × List IgnoreFault :=
  let (rules, found) := ofLines 1 (lines contents)
  let faults := if found.length = 1 && found.all IgnoreFault.isRead then [] else found
  match GlobSetFault.ofGlobs? (rules.map IgnoreRule.glob) with
  | none => (rules, faults)
  | some fault => ([], faults ++ [.set fault])

end IgnoreRules

/-! ### Ignore files of a repository -/

namespace Repository

/-- The first line of a file, nothing if there is none.  It has to be a text. -/
def firstLine? (path : Path) (contents : List UInt8) : Except String (Option (List Char)) :=
  match IgnoreRules.lines contents with
  | [] => .ok none
  | line :: _ =>
      match Text.Utf8.decode? line with
      | some text => .ok (some text)
      | none => .error (path.display ++ ": stream did not contain valid UTF-8")

/-- How a file begins that says where the data of a repository lie. -/
def pointer : List Char := "gitdir: ".toList

/-- The directory whose ignore file a repository shares with others, from the directory of its
data. -/
def common? (tree : Tree) (data : Path) : Except String (Option Path) :=
  let file := data.add (Path.ofText "commondir")
  match tree.read file with
  | .error .isDirectory => .error (file.display ++ ": " ++ PathFault.isDirectory.message)
  | .error _ => .ok none
  | .ok contents =>
      match firstLine? file contents with
      | .error message => .error message
      | .ok none => .ok none
      | .ok (some line) =>
          let path := Path.ofText (String.ofList line)
          .ok (some (if line.head? = some '.' then data.add path else path))

/-- The directory below which a directory's own ignore file lies.  The data of a repository lie in
a directory inside it, or elsewhere, where a file of the same name says. -/
def data? (tree : Tree) (place : Place) : Except String (Option Path) :=
  let path := Path.ofText (Place.text (place ++ [".git"]))
  match tree.find? (place ++ [".git"]) with
  | some (.file contents) =>
      match firstLine? path contents with
      | .error message => .error message
      | .ok none => .ok none
      | .ok (some line) =>
          if pointer.isPrefixOf line then
            common? tree (Path.ofText (String.ofList (line.drop pointer.length)))
          else .ok none
  | _ => .ok (some path)

end Repository

/-- The ignore files of a directory. -/
structure IgnoreLevel where
  /-- Where the directory stands. -/
  place : Place
  /-- `.ignore`. -/
  general : IgnoreRules
  /-- `.gitignore`. -/
  shared : IgnoreRules
  /-- `info/exclude` of the repository. -/
  own : IgnoreRules
  /-- A repository begins here. -/
  isRepository : Bool
deriving Inhabited

namespace IgnoreLevel

/-- The rules in the file that a path leads to, and descriptions of its faults. -/
def rulesAt (tree : Tree) (path : Path) : IgnoreRules × List String :=
  match tree.read path with
  | .ok contents =>
      let (rules, faults) := IgnoreRules.ofContents contents
      (rules, faults.map (IgnoreFault.message path.display))
  | .error _ => ([], [])

/-- The ignore files of the directory at a place, and descriptions of their faults. -/
def ofDirectory (tree : Tree) (place : Place) : IgnoreLevel × List String :=
  let here := Path.ofText place.text
  let (general, generalFaults) := rulesAt tree (here.below [".ignore"])
  let (shared, sharedFaults) := rulesAt tree (here.below [".gitignore"])
  let (own, ownFaults) :=
    match Repository.data? tree place with
    | .ok (some data) => rulesAt tree (data.below ["info", "exclude"])
    | .ok none => ([], [])
    | .error message => ([], [message])
  let isRepository := [".git", ".jj"].any (fun name => (tree.find? (place ++ [name])).isSome)
  (⟨place, general, shared, own, isRepository⟩, generalFaults ++ sharedFaults ++ ownFaults)

/-- The path of a place below the directory, as the bytes that patterns are matched with. -/
def relative (level : IgnoreLevel) (place : Place) : List UInt8 :=
  Text.Utf8.bytesOf (Text.join "/" (place.drop level.place.length))

/-- The levels, nearest first, up to the one where the repository begins. -/
def withinRepository : List IgnoreLevel -> List IgnoreLevel
  | [] => []
  | level :: rest => level :: if level.isRepository then [] else withinRepository rest

/-- What the levels, nearest first, say about a place.  The kinds of ignore files outrank each
other, and within a kind the nearest directory decides. -/
def verdict? (levels : List IgnoreLevel) (place : Place) (isDirectory : Bool) :
    Option Verdict :=
  let decide (levels : List IgnoreLevel) (rules : IgnoreLevel -> IgnoreRules) : Option Verdict :=
    levels.findSome? (fun level =>
      if (rules level).isEmpty then none
      else (rules level).verdict? (level.relative place) isDirectory)
  let inside := withinRepository levels
  (decide levels general).or ((decide inside shared).or (decide inside own))

/-- A walk leaves a place out if it is ignored, or hidden and not mentioned. -/
def leavesOut (levels : List IgnoreLevel) (place : Place) (isDirectory : Bool) : Bool :=
  match verdict? levels place isDirectory with
  | some .ignored => true
  | some .kept => false
  | none => ((place.getLast?.getD "").toList.head? = some '.')

end IgnoreLevel
end Files
end LanguageServer
