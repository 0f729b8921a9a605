import LanguageServer.Text.Numeral

namespace LanguageServer

/-!
Places in documents.

Positions are counted from zero in 32-bit words.  The compiler counts from one, so a position that
comes from it is moved down, and one that goes to it is moved up.  Moving up fails at the greatest
word, which has no successor.
-/

/-- The number after a word, if it is a word. -/
def successor? (word : UInt32) : Option UInt32 :=
  if word.toNat + 1 < UInt32.size then some (word + 1) else none

/-- The number before a word; zero stays zero. -/
def predecessor (word : UInt32) : UInt32 :=
  if word = 0 then 0 else word - 1

/-- A word as a decimal numeral. -/
def wordText (word : UInt32) : String :=
  Text.decimal word.toNat

/-- A position in a document, counted from zero. -/
structure Position where
  line : UInt32
  character : UInt32
deriving DecidableEq, Repr, Inhabited

namespace Position

/-- The position that the compiler calls `line`, `character`.  A stray zero means the first line
or column. -/
def ofOneBased (line character : UInt32) : Position :=
  ⟨predecessor line, predecessor character⟩

/-- Positions are ordered by line, then by character. -/
def order (left right : Position) : Ordering :=
  (compare left.line right.line).then (compare left.character right.character)

end Position

/-- The text from `start` up to, and not including, `stop`. -/
structure Range where
  start : Position
  stop : Position
deriving DecidableEq, Repr, Inhabited

/-- A range of a certain document. -/
structure Location where
  uri : String
  range : Range
deriving DecidableEq, Repr, Inhabited

end LanguageServer
