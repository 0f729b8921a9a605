import LanguageServer.Files.Glob
import LanguageServer.Files.Path

namespace LanguageServer
namespace Files
namespace Glob

/-!
Which paths a pattern stands for.

Patterns are matched with the bytes of a path.  The positions between the bytes, those at both ends
included, are marked where what was read of the pattern can end.  Each part of the pattern moves
all marks at once, so a pattern is matched in one pass of the path for each of its parts, and the
path matches when its end is marked.
-/

/-- For each position of a text, whether it can be reached. -/
abbrev Marks := List Bool

namespace Marks

/-- Only the front of a text is reached. -/
def front (text : List UInt8) : Marks := true :: text.map (fun _ => false)

/-- What is reached over one byte of a kind. -/
def step (isMeant : UInt8 -> Bool) (text : List UInt8) (marks : Marks) : Marks :=
  false :: List.zipWith (fun mark byte => mark && isMeant byte) marks text

/-- What is reached over any number of bytes of a kind, where the position before is reached or
not. -/
def spreadFrom (isMeant : UInt8 -> Bool) (before : Bool) : List UInt8 -> Marks -> Marks
  | byte :: rest, mark :: marks =>
      let here := mark || before
      here :: spreadFrom isMeant (here && isMeant byte) rest marks
  | [], mark :: _ => [mark || before]
  | _, [] => []

def spread (isMeant : UInt8 -> Bool) (text : List UInt8) (marks : Marks) : Marks :=
  spreadFrom isMeant false text marks

/-- What is reached in one way or the other. -/
def union (left right : Marks) : Marks := List.zipWith (· || ·) left right

def reachesEnd (marks : Marks) : Bool := marks.getLast?.getD false

end Marks

def isSeparator (byte : UInt8) : Bool := byte = Path.slash

/-- A byte that wildcards stand for. -/
def isWild (style : GlobStyle) (byte : UInt8) : Bool :=
  !(style.literalSeparator && isSeparator byte)

/-- A byte lies in one of the ranges. -/
def inRanges (ranges : List (Char × Char)) (byte : UInt8) : Bool :=
  (ranges.flatMap byteRanges).any (fun (first, last) => first ≤ byte && byte ≤ last)

mutual

/-- How a part of a pattern moves marks. -/
def move (style : GlobStyle) (text : List UInt8) : Token -> Marks -> Marks
  | .literal c, marks =>
      (String.utf8EncodeChar c).foldl (fun reached wanted => reached.step (· = wanted) text) marks
  | .any, marks => marks.step (isWild style) text
  | .zeroOrMore, marks => marks.spread (isWild style) text
  | .recursivePrefix, marks =>
      marks.union ((marks.spread (fun _ => true) text).step isSeparator text)
  | .recursiveSuffix, marks => (marks.step isSeparator text).spread (fun _ => true) text
  | .recursiveInner, marks =>
      let behind := marks.step isSeparator text
      behind.union ((behind.spread (fun _ => true) text).step isSeparator text)
  | .oneOf negated ranges, marks => marks.step (fun byte => inRanges ranges byte != negated) text
  | .alternatives branches, marks =>
      if areVoid branches then marks else moveBranches style text branches marks

/-- How one part after another moves marks. -/
def moveAll (style : GlobStyle) (text : List UInt8) : List Token -> Marks -> Marks
  | [], marks => marks
  | token :: rest, marks => moveAll style text rest (move style text token marks)

/-- How one of several branches moves marks. -/
def moveBranches (style : GlobStyle) (text : List UInt8) : List (List Token) -> Marks -> Marks
  | [], marks => marks.map (fun _ => false)
  | branch :: rest, marks =>
      let others := moveBranches style text rest marks
      if isVoid branch then others else (moveAll style text branch marks).union others

end

/-- A path matches the pattern. -/
def accepts (glob : Glob) (path : List UInt8) : Bool :=
  match glob.tokens with
  | [.recursivePrefix] => true
  | tokens => (moveAll glob.style path tokens (Marks.front path)).reachesEnd

end Glob
end Files
end LanguageServer
