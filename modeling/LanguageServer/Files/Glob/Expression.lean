import LanguageServer.Files.Glob
import LanguageServer.Text.Numeral
import LanguageServer.Text.Pieces

namespace LanguageServer
namespace Files
namespace Glob

/-!
Patterns as regular expressions.

Patterns are used in sets.  Those that ask for more than a fixed front, a fixed end or a fixed name
have a regular expression, and an expression that nests too deep spoils its whole set.
-/

/-! ### The text of an expression -/

/-- A byte as an expression. -/
def literalText (byte : UInt8) : String :=
  if byte ≥ 0x80 then "\\x" ++ String.ofList (Nat.toDigits 16 byte.toNat)
  else
    let c := Char.ofNat byte.toNat
    if "\\.+*?()|[]\x7b\x7d^$#&-~".toList.contains c then "\\" ++ String.singleton c
    else String.singleton c

/-- A character as an expression, byte by byte. -/
def characterText (c : Char) : String :=
  String.join ((String.utf8EncodeChar c).map literalText)

def rangeText (range : Char × Char) : String :=
  if range.1 = range.2 then characterText range.1
  else characterText range.1 ++ "-" ++ characterText range.2

mutual

def tokenText (style : GlobStyle) : Token -> String
  | .literal c => characterText c
  | .any => if style.literalSeparator then "[^/]" else "."
  | .zeroOrMore => if style.literalSeparator then "[^/]*" else ".*"
  | .recursivePrefix => "(?:/?|.*/)"
  | .recursiveSuffix => "/.*"
  | .recursiveInner => "(?:/|/.*/)"
  | .oneOf negated ranges =>
      "[" ++ (if negated then "^" else "") ++ String.join (ranges.map rangeText) ++ "]"
  | .alternatives branches =>
      if areVoid branches then "" else "(?:" ++ Text.join "|" (branchTexts style branches) ++ ")"

def sequenceText (style : GlobStyle) : List Token -> String
  | [] => ""
  | token :: rest => tokenText style token ++ sequenceText style rest

/-- The texts of the branches that ask for anything. -/
def branchTexts (style : GlobStyle) : List (List Token) -> List String
  | [] => []
  | branch :: rest =>
      let others := branchTexts style rest
      if isVoid branch then others else sequenceText style branch :: others

end

/-- The expression of a pattern. -/
def expression (glob : Glob) : String :=
  "(?-u)^" ++ (match glob.tokens with
    | [.recursivePrefix] => ".*"
    | tokens => sequenceText glob.style tokens) ++ "$"

/-! ### Nesting -/

/-- How many items of an expression a token becomes. -/
def itemCount : Token -> Nat
  | .literal c => (String.utf8EncodeChar c).length
  | .recursiveSuffix => 2
  | .alternatives branches => if areVoid branches then 0 else 1
  | _ => 1

mutual

/-- How deep a token nests. -/
def tokenDepth (style : GlobStyle) : Token -> Nat
  | .literal _ => 0
  | .any => if style.literalSeparator then 1 else 0
  | .zeroOrMore => if style.literalSeparator then 2 else 1
  | .recursivePrefix | .recursiveInner => 4
  | .recursiveSuffix => 1
  | .oneOf _ ranges => if (ranges.flatMap byteRanges).length > 1 then 2 else 1
  | .alternatives branches =>
      let several := (branches.filter (fun branch => !isVoid branch)).length > 1
      if areVoid branches then 0
      else branchesDepth style branches + (if several then 2 else 1)

def sequenceDepth (style : GlobStyle) : List Token -> Nat
  | [] => 0
  | token :: rest => Nat.max (tokenDepth style token) (sequenceDepth style rest)

/-- How deep branches nest.  A branch of several items is one level deeper than they are. -/
def branchesDepth (style : GlobStyle) : List (List Token) -> Nat
  | [] => 0
  | branch :: rest =>
      let items := branch.foldl (fun count token => count + itemCount token) 0
      Nat.max (sequenceDepth style branch + (if items > 1 then 1 else 0))
        (branchesDepth style rest)

end

/-- An expression may nest this deep. -/
def depthLimit : Nat := 250

def isTooDeep (glob : Glob) : Bool :=
  sequenceDepth glob.style glob.tokens + 1 > depthLimit

/-! ### How patterns are looked up -/

def isLiteral : Token -> Bool
  | .literal _ => true
  | _ => false

/-- A character that is neither of those that divide names and extensions. -/
def isPlainLiteral : Token -> Bool
  | .literal c => c ≠ '.' && c ≠ '/'
  | _ => false

def isSlash : Token -> Bool
  | .literal '/' => true
  | _ => false

/-- The pattern is a fixed text, possibly below any directories. -/
def isFixed : List Token -> Bool
  | .recursivePrefix :: rest => !rest.isEmpty && rest.all isLiteral
  | tokens => !tokens.isEmpty && tokens.all isLiteral

/-- The pattern is a star and an extension. -/
def isExtension (style : GlobStyle) : List Token -> Bool
  | .recursivePrefix :: .zeroOrMore :: .literal '.' :: rest => rest.all isPlainLiteral
  | .zeroOrMore :: .literal '.' :: rest => !style.literalSeparator && rest.all isPlainLiteral
  | _ => false

/-- The pattern is a fixed text and then anything. -/
def isFixedFront (style : GlobStyle) (tokens : List Token) : Bool :=
  match tokens.getLast? with
  | some .zeroOrMore =>
      !style.literalSeparator && tokens.length > 1 && tokens.dropLast.all isLiteral
  | some .recursiveSuffix => tokens.dropLast.all isLiteral
  | _ => false

/-- The pattern is anything and then a fixed text. -/
def isFixedEnd (style : GlobStyle) (tokens : List Token) : Bool :=
  let below := match tokens with
    | .recursivePrefix :: rest => rest
    | _ => tokens
  match below with
  | .zeroOrMore :: rest =>
      !style.literalSeparator && !rest.isEmpty && rest.all isLiteral &&
        rest.map isSlash != [true]
  | _ => false

/-- The pattern needs no expression. -/
def isSimple (glob : Glob) : Bool :=
  isFixed glob.tokens || isExtension glob.style glob.tokens ||
    isFixedFront glob.style glob.tokens || isFixedEnd glob.style glob.tokens

/-- The pattern ends in an extension, so only paths with that extension are looked at. -/
def endsInExtension (glob : Glob) : Bool :=
  match glob.tokens.reverse.find? (fun token => !isPlainLiteral token) with
  | some (.literal '.') => true
  | _ => false

end Glob

/-- Why patterns cannot be used together. -/
inductive GlobSetFault where
  /-- The expression with that number among its likes nests too deep. -/
  | shared (number : Nat)
  /-- An expression that stands alone nests too deep. -/
  | alone (expression : String)
deriving DecidableEq, Repr, Inhabited

namespace GlobSetFault

def message : GlobSetFault -> String
  | .shared number => "error parsing pattern " ++ Text.decimal number
  | .alone expression => "error parsing glob '" ++ expression ++ "': error parsing pattern 0"

/-- Why the patterns cannot be used together.  Those that end in an extension stand alone and are
looked at first. -/
def ofGlobs? (globs : List Glob) : Option GlobSetFault :=
  let (single, joint) := (globs.filter (fun glob => !glob.isSimple)).partition Glob.endsInExtension
  match single.find? Glob.isTooDeep with
  | some glob => some (.alone glob.expression)
  | none => (joint.findIdx? Glob.isTooDeep).map .shared

end GlobSetFault
end Files
end LanguageServer
