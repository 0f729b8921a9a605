namespace LanguageServer
namespace Text

/-!
White space and trimming.

A character is blank when it has Unicode's `White_Space` property.  The compiler pads numbers and
severity words freely, so every field that is read as a word is trimmed with this notion first,
and an argument that holds a blank has to be quoted.
-/

/-- The 25 code points with the `White_Space` property. -/
def isBlank (c : Char) : Bool :=
  let code := c.toNat
  (9 ≤ code && code ≤ 13) || code == 0x20 || code == 0x85 || code == 0xA0 || code == 0x1680 ||
    (0x2000 ≤ code && code ≤ 0x200A) || code == 0x2028 || code == 0x2029 || code == 0x202F ||
    code == 0x205F || code == 0x3000

/-- Drop the blanks at the front. -/
def trimStart (text : List Char) : List Char :=
  text.dropWhile isBlank

/-- Drop the blanks at the back. -/
def trimEnd (text : List Char) : List Char :=
  (text.reverse.dropWhile isBlank).reverse

/-- Drop the blanks at both ends. -/
def trim (text : List Char) : List Char :=
  trimEnd (trimStart text)

/-- Trimming a string. -/
def trimmed (text : String) : String :=
  String.ofList (trim text.toList)

/-- ASCII letters in lower case; every other character stays as it is. -/
def lowercased (text : List Char) : List Char :=
  text.map Char.toLower

end Text
end LanguageServer
