import LanguageServer.Text.Utf8

namespace LanguageServer
namespace Files

/-!
Globs: patterns for paths.

`?` stands for one byte, `*` for any number of them, `[ab]` for one of several and `{a,b}` for one
of several patterns.  `**` as a whole component stands for any number of components.
-/

/-- A part of a pattern. -/
inductive Token where
  /-- A character. -/
  | literal (c : Char)
  /-- Any one byte. -/
  | any
  /-- Any bytes. -/
  | zeroOrMore
  /-- Any components at the front. -/
  | recursivePrefix
  /-- Everything below a directory. -/
  | recursiveSuffix
  /-- A separator, with any components inside. -/
  | recursiveInner
  /-- One byte, inside the ranges or outside them. -/
  | oneOf (negated : Bool) (ranges : List (Char × Char))
  /-- One of several patterns. -/
  | alternatives (branches : List (List Token))
deriving Inhabited

/-- Why a text is no pattern. -/
inductive GlobFault where
  | unclosedClass
  | invalidRange (first last : Char)
  | unopenedAlternatives
  | unclosedAlternatives
  | danglingEscape
deriving DecidableEq, Repr, Inhabited

namespace GlobFault

def message : GlobFault -> String
  | .unclosedClass => "unclosed character class; missing ']'"
  | .invalidRange first last =>
      "invalid range; '" ++ String.singleton first ++ "' > '" ++ String.singleton last ++ "'"
  | .unopenedAlternatives =>
      "unopened alternate group; missing '\x7b' (maybe escape '\x7d' with '[\x7d]'?)"
  | .unclosedAlternatives =>
      "unclosed alternate group; missing '\x7d' (maybe escape '\x7b' with '[\x7b]'?)"
  | .danglingEscape => "dangling '\\'"

end GlobFault

/-- How patterns are read and matched. -/
structure GlobStyle where
  /-- Wildcards do not stand for the separator. -/
  literalSeparator : Bool
  /-- A class that does not close is no class. -/
  lenientClass : Bool
deriving DecidableEq, Repr, Inhabited

/-- A pattern. -/
structure Glob where
  style : GlobStyle
  tokens : List Token
deriving Inhabited

namespace Glob

/-! ### Reading -/

/-- A pattern under construction: the branches of every open group, and the outermost tokens. -/
structure Draft where
  /-- Tokens of the branch that is being read, in reverse. -/
  tokens : List Token
  /-- For each open group, innermost first: the finished branches in reverse, and the tokens
  around the group in reverse. -/
  groups : List (List (List Token) × List Token)
  /-- The character before the one at hand. -/
  previous : Option Char
  /-- A class was found that does not close. -/
  classesOff : Bool

namespace Draft

def push (draft : Draft) (token : Token) : Draft :=
  { draft with tokens := token :: draft.tokens }

def after (draft : Draft) (c : Char) : Draft := { draft with previous := some c }

def openGroup (draft : Draft) : Draft :=
  { draft with tokens := [], groups := ([], draft.tokens) :: draft.groups }

/-- A comma begins a branch inside a group, and is a character elsewhere. -/
def comma (draft : Draft) : Draft :=
  match draft.groups with
  | [] => draft.push (.literal ',')
  | (branches, outer) :: groups =>
      { draft with tokens := [], groups := (draft.tokens.reverse :: branches, outer) :: groups }

def closeGroup (draft : Draft) : Except GlobFault Draft :=
  match draft.groups with
  | [] => .error .unopenedAlternatives
  | (branches, outer) :: groups =>
      let all := (draft.tokens.reverse :: branches).reverse
      .ok { draft with tokens := .alternatives all :: outer, groups := groups }

def pushTwoStars (draft : Draft) : Draft :=
  (draft.push .zeroOrMore).push .zeroOrMore

/-- Several components follow a separator: one token takes its place. -/
def pushRecursive (draft : Draft) (token : Token) : Draft :=
  match draft.tokens with
  | .recursivePrefix :: rest => { draft with tokens := .recursivePrefix :: rest }
  | .recursiveSuffix :: rest => { draft with tokens := .recursiveSuffix :: rest }
  | _ :: rest => { draft with tokens := token :: rest }
  | [] => draft.push token

end Draft

/-- What two stars mean, given the characters after them, and how many of those they take. -/
def twoStars (draft : Draft) (rest : List Char) : Draft × List Char :=
  if draft.tokens.isEmpty then
    match rest with
    | [] => (draft.push .recursivePrefix, [])
    | '/' :: more => ((draft.push .recursivePrefix).after '/', more)
    | _ => (draft.pushTwoStars, rest)
  else
    let inGroup := !draft.groups.isEmpty
    let opensComponent := draft.previous = some '/' ||
      (inGroup && (draft.previous = some ',' || draft.previous = some '\x7b'))
    if !opensComponent then (draft.pushTwoStars, rest)
    else
      match rest with
      | [] => (draft.pushRecursive .recursiveSuffix, [])
      | '/' :: more => ((draft.pushRecursive .recursiveInner).after '/', more)
      | c :: _ =>
          if inGroup && (c = ',' || c = '\x7d') then
            (draft.pushRecursive .recursiveSuffix, rest)
          else (draft.pushTwoStars, rest)

/-- A class under construction. -/
structure ClassDraft where
  /-- In reverse. -/
  ranges : List (Char × Char)
  isFirst : Bool
  inRange : Bool

/-- The ranges of a class and the characters after it; nothing if it does not close. -/
def readClass : ClassDraft -> List Char ->
    Except GlobFault (Option (List (Char × Char) × List Char))
  | _, [] => .ok none
  | draft, c :: rest =>
      if c = ']' ∧ ¬draft.isFirst then
        let ranges := if draft.inRange then ('-', '-') :: draft.ranges else draft.ranges
        .ok (some (ranges.reverse, rest))
      else if draft.inRange then
        match draft.ranges with
        | (first, _) :: others =>
            if c < first then .error (.invalidRange first c)
            else readClass ⟨(first, c) :: others, false, false⟩ rest
        | [] => readClass ⟨[(c, c)], false, false⟩ rest
      else if c = '-' ∧ ¬draft.isFirst then
        readClass { draft with inRange := true } rest
      else readClass ⟨(c, c) :: draft.ranges, false, false⟩ rest

/-- Read a pattern to its end. -/
def readTokens (style : GlobStyle) : Nat -> Draft -> List Char -> Except GlobFault Draft
  | 0, draft, _ => .ok draft
  | _, draft, [] => .ok draft
  | fuel + 1, draft, c :: rest =>
      if c = '?' then readTokens style fuel ((draft.push .any).after c) rest
      else if c = '*' then
        match rest with
        | '*' :: more =>
            let (next, left) := twoStars draft more
            let seen := if left.length = more.length then next.after '*' else next
            readTokens style fuel seen left
        | _ => readTokens style fuel ((draft.push .zeroOrMore).after c) rest
      else if c = '[' ∧ ¬draft.classesOff then
        let negated := rest.head? = some '!' || rest.head? = some '^'
        let body := if negated then rest.drop 1 else rest
        match readClass ⟨[], true, false⟩ body with
        | .error fault => .error fault
        | .ok (some (ranges, left)) =>
            readTokens style fuel ((draft.push (.oneOf negated ranges)).after ']') left
        | .ok none =>
            if style.lenientClass then
              readTokens style fuel
                ({ draft with classesOff := true }.push (.literal '[') |>.after c) rest
            else .error .unclosedClass
      else if c = '\x7b' then readTokens style fuel (draft.openGroup.after c) rest
      else if c = '\x7d' then
        match draft.closeGroup with
        | .ok closed => readTokens style fuel (closed.after c) rest
        | .error fault => .error fault
      else if c = ',' then readTokens style fuel (draft.comma.after c) rest
      else if c = '\\' then
        match rest with
        | [] => .error .danglingEscape
        | escaped :: more =>
            readTokens style fuel ((draft.push (.literal escaped)).after escaped) more
      else readTokens style fuel ((draft.push (.literal c)).after c) rest

/-- The pattern that a text denotes. -/
def parse (style : GlobStyle) (text : String) : Except GlobFault Glob :=
  let letters := text.toList
  match readTokens style (letters.length + 1) ⟨[], [], none, false⟩ letters with
  | .error fault => .error fault
  | .ok draft =>
      if draft.groups.isEmpty then .ok ⟨style, draft.tokens.reverse⟩
      else .error .unclosedAlternatives

/-! ### Meaning -/

/-- The ranges of bytes that a range of characters stands for. -/
def byteRanges (range : Char × Char) : List (UInt8 × UInt8) :=
  let first := String.utf8EncodeChar range.1
  let last := String.utf8EncodeChar range.2
  let alone (bytes : List UInt8) : List (UInt8 × UInt8) := bytes.map (fun byte => (byte, byte))
  if range.1 = range.2 then alone first
  else
    alone first.dropLast ++ [(first.getLast?.getD 0, last.head?.getD 0)] ++ alone (last.drop 1)

mutual

/-- Nothing has to be matched: empty branches of a group do not count. -/
def isVoid : List Token -> Bool
  | [] => true
  | .alternatives branches :: rest => areVoid branches && isVoid rest
  | _ :: _ => false

def areVoid : List (List Token) -> Bool
  | [] => true
  | branch :: rest => isVoid branch && areVoid rest

end

end Glob
end Files
end LanguageServer
