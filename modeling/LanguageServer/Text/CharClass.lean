namespace LanguageServer
namespace Text

/-!
Classes of characters.

A class is a list of ranges of character codes.  The classes of a character standard have hundreds
of ranges, so they are written as texts: `41-5a aa` holds the codes from 41 to 5a and the code aa,
in hexadecimal digits.
-/

/-- The words of a text, between its blanks and line ends. -/
def words (text : String) : List String :=
  let (done, last) := text.foldl (fun (found : List String × String) c =>
    if c = ' ' ∨ c = '\n' then (found.2 :: found.1, "") else (found.1, found.2.push c)) ([], "")
  ((last :: done).filter (fun word => word != "")).reverse

/-- The code that hexadecimal digits denote. -/
def code (digits : List Char) : Nat :=
  digits.foldl (fun value c =>
    value * 16 + (if c.isDigit then c.toNat - '0'.toNat else c.toNat - 'a'.toNat + 10)) 0

/-- Cut a text at the first occurrence of a mark; without one, nothing comes after it. -/
def cutAt (mark : Char) (text : List Char) : List Char × List Char :=
  (text.takeWhile (· != mark), (text.dropWhile (· != mark)).drop 1)

/-- The codes from `first` to `last`. -/
structure CodeRange where
  first : Nat
  last : Nat
deriving DecidableEq, Repr, Inhabited

namespace CodeRange

/-- A range, from its ends or from its only code. -/
def ofText (text : List Char) : CodeRange :=
  let (first, last) := cutAt '-' text
  ⟨code first, if last.isEmpty then code first else code last⟩

def has (range : CodeRange) (c : Char) : Bool :=
  range.first ≤ c.toNat && c.toNat ≤ range.last

end CodeRange

/-- A class of characters. -/
structure CharClass where
  ranges : List CodeRange
deriving DecidableEq, Repr, Inhabited

namespace CharClass

def ofText (text : String) : CharClass :=
  ⟨(words text).map (fun word => CodeRange.ofText word.toList)⟩

def has (chars : CharClass) (c : Char) : Bool :=
  chars.ranges.any (fun range => range.has c)

end CharClass
end Text
end LanguageServer
