import LanguageServer.Json
import LanguageServer.Text.Numeral

namespace LanguageServer
namespace Json

/-!
Reading JSON text.

Every reader takes the characters that are left and returns what it read with the characters
after it.  The length of the text serves as the fuel.
-/

/-- What a reader leaves: a value and the characters after it. -/
abbrev Read (Value : Type) := Option (Value × List Char)

/-- The white space of JSON. -/
def isSpace (c : Char) : Bool :=
  c == ' ' || c == '\t' || c == '\n' || c == '\r'

def skipSpace (text : List Char) : List Char :=
  text.dropWhile isSpace

/-- The value of a hexadecimal digit. -/
def hexValue? (c : Char) : Option Nat :=
  if c.isDigit then some (c.toNat - '0'.toNat)
  else if 'a' ≤ c ∧ c ≤ 'f' then some (c.toNat - 'a'.toNat + 10)
  else if 'A' ≤ c ∧ c ≤ 'F' then some (c.toNat - 'A'.toNat + 10)
  else none

/-- Four hexadecimal digits. -/
def readUnit : List Char -> Read Nat
  | a :: b :: c :: d :: rest =>
      match hexValue? a, hexValue? b, hexValue? c, hexValue? d with
      | some w, some x, some y, some z => some (((w * 16 + x) * 16 + y) * 16 + z, rest)
      | _, _, _, _ => none
  | _ => none

/-- What follows `\u`: a unit, or a pair of surrogates. -/
def readEscapedUnit (text : List Char) : Read Char :=
  match readUnit text with
  | none => none
  | some (unit, rest) =>
      if 0xD800 ≤ unit ∧ unit < 0xDC00 then
        match rest with
        | '\\' :: 'u' :: more =>
            match readUnit more with
            | some (low, after) =>
                if 0xDC00 ≤ low ∧ low < 0xE000 then
                  some (Char.ofNat (0x10000 + (unit - 0xD800) * 0x400 + (low - 0xDC00)), after)
                else none
            | none => none
        | _ => none
      else if 0xDC00 ≤ unit ∧ unit < 0xE000 then none
      else some (Char.ofNat unit, rest)

/-- What follows a backslash. -/
def readEscape : List Char -> Read Char
  | '"' :: rest => some ('"', rest)
  | '\\' :: rest => some ('\\', rest)
  | '/' :: rest => some ('/', rest)
  | 'b' :: rest => some ('\x08', rest)
  | 'f' :: rest => some ('\x0c', rest)
  | 'n' :: rest => some ('\n', rest)
  | 'r' :: rest => some ('\r', rest)
  | 't' :: rest => some ('\t', rest)
  | 'u' :: rest => readEscapedUnit rest
  | _ => none

/-- The characters of a string literal up to its closing quote. -/
def readString (fuel : Nat) (done : String) (text : List Char) : Read String :=
  match fuel with
  | 0 => none
  | fuel + 1 =>
      match text with
      | [] => none
      | '"' :: rest => some (done, rest)
      | '\\' :: rest =>
          match readEscape rest with
          | some (c, after) => readString fuel (done.push c) after
          | none => none
      | c :: rest => if c.toNat < 0x20 then none else readString fuel (done.push c) rest

/-! ### Numbers -/

/-- A numeral cut into its parts. -/
structure Numeral where
  negative : Bool
  whole : List Char
  /-- The digits after the point, if there is one. -/
  places : Option (List Char)
  /-- The sign and the digits of the exponent, if there is one. -/
  power : Option (Bool × List Char)

/-- Digits, of which there has to be one. -/
def readDigits (text : List Char) : Read (List Char) :=
  let digits := text.takeWhile Char.isDigit
  if digits.isEmpty then none else some (digits, text.dropWhile Char.isDigit)

/-- The point and the digits after it. -/
def readPlaces : List Char -> Read (Option (List Char))
  | '.' :: rest => (readDigits rest).map (fun found => (some found.1, found.2))
  | rest => some (none, rest)

/-- The mark of the exponent, its sign and its digits. -/
def readPower : List Char -> Read (Option (Bool × List Char))
  | [] => some (none, [])
  | mark :: rest =>
      if mark = 'e' ∨ mark = 'E' then
        let (negative, unsigned) := match rest with
          | '-' :: more => (true, more)
          | '+' :: more => (false, more)
          | more => (false, more)
        (readDigits unsigned).map (fun found => (some (negative, found.1), found.2))
      else some (none, mark :: rest)

/-- A numeral: a sign, digits without a leading zero, a fraction and an exponent. -/
def readNumeral (text : List Char) : Option (Numeral × List Char) := do
  let (negative, unsigned) := match text with
    | '-' :: rest => (true, rest)
    | rest => (false, rest)
  let (whole, afterWhole) <- readDigits unsigned
  if whole.head? = some '0' ∧ whole.length > 1 then none
  let (places, afterPlaces) <- readPlaces afterWhole
  let (power, rest) <- readPower afterPlaces
  some (⟨negative, whole, places, power⟩, rest)

/-- Words of 64 bits are smaller than this. -/
def wordLimit : Nat := Nat.pow 2 64

/-- Digits gathered into a word, and how many of them the word has room for.  Digits after the first
one that does not fit are dropped. -/
def gather : Nat -> List Char -> Nat × Nat
  | word, [] => (word, 0)
  | word, digit :: rest =>
      let next := word * 10 + (digit.toNat - '0'.toNat)
      if next < wordLimit then
        let (final, count) := gather next rest
        (final, count + 1)
      else (word, 0)

/-- The greatest power of ten that is multiplied at once. -/
def powerLimit : Nat := 308

def powerOfTen? (power : Nat) : Option Double := Double.ofNat? (Nat.pow 10 power)

/-- Shift the point of a number.  Each step rounds, and the result has to stay in range. -/
def shiftPoint? : Nat -> Double -> Int -> Option Double
  | 0, number, _ => some number
  | fuel + 1, number, power =>
      if power.natAbs ≤ powerLimit then
        (powerOfTen? power.natAbs).bind (fun factor =>
          if power < 0 then number.divided? factor else number.times? factor)
      else if number.significand = 0 then some number
      else if power > 0 then none
      else
        ((powerOfTen? powerLimit).bind number.divided?).bind (fun smaller =>
          shiftPoint? fuel smaller (power + powerLimit))

/-- The number that a numeral with a fraction or an exponent denotes, or a very long one. -/
def Numeral.double? (numeral : Numeral) : Option Double := do
  let (wholeWord, wholeCount) := gather 0 numeral.whole
  let (word, placeCount) := gather wholeWord (numeral.places.getD [])
  let shift : Int := (numeral.whole.length : Int) - wholeCount - placeCount
  let power := match numeral.power with
    | none => 0
    | some (negative, digits) =>
        let size : Int := Nat.ofDigitChars 10 digits 0
        if negative then -size else size
  let start <- Double.ofNat? word
  let size <- shiftPoint? 4 start (shift + power)
  some { size with negative := numeral.negative }

/-- The number that a numeral denotes: an integer, if a word has room for it. -/
def Numeral.value? (numeral : Numeral) : Option Json :=
  let size := Nat.ofDigitChars 10 numeral.whole 0
  let fits :=
    if numeral.negative then 0 < size && size ≤ wordLimit / 2 else size < wordLimit
  if numeral.places.isNone && numeral.power.isNone && fits then
    some (.integer (if numeral.negative then -(size : Int) else size))
  else numeral.double?.map .double

def readNumber (text : List Char) : Read Json :=
  match readNumeral text with
  | none => none
  | some (numeral, rest) => numeral.value?.map (fun value => (value, rest))

/-! ### Values -/

/-- A word that stands for a value. -/
def readWord (word : String) (value : Json) (text : List Char) : Read Json :=
  let letters := word.toList
  if text.take letters.length = letters then some (value, text.drop letters.length) else none

mutual

/-- Any value, without the space before it.  The levels count how deep it may still nest. -/
def readValue (fuel levels : Nat) (text : List Char) : Read Json :=
  match fuel with
  | 0 => none
  | fuel + 1 =>
      match text, levels with
      | 'n' :: _, _ => readWord "null" .null text
      | 't' :: _, _ => readWord "true" (.bool true) text
      | 'f' :: _, _ => readWord "false" (.bool false) text
      | '"' :: rest, _ =>
          (readString fuel "" rest).map (fun found => (.string found.1, found.2))
      | '[' :: rest, levels + 1 =>
          match skipSpace rest with
          | ']' :: after => some (.array [], after)
          | more => readElements fuel levels [] more
      | '\x7b' :: rest, levels + 1 =>
          match skipSpace rest with
          | '\x7d' :: after => some (.object [], after)
          | more => readMembers fuel levels [] more
      | _, _ => readNumber text

/-- The elements of an array up to its closing bracket. -/
def readElements (fuel levels : Nat) (done : List Json) (text : List Char) : Read Json :=
  match fuel with
  | 0 => none
  | fuel + 1 =>
      match readValue fuel levels (skipSpace text) with
      | none => none
      | some (value, rest) =>
          match skipSpace rest with
          | ',' :: more => readElements fuel levels (value :: done) more
          | ']' :: after => some (.array (value :: done).reverse, after)
          | _ => none

/-- The members of an object up to its closing brace. -/
def readMembers (fuel levels : Nat) (done : List (String × Json)) (text : List Char) :
    Read Json :=
  match fuel with
  | 0 => none
  | fuel + 1 =>
      match skipSpace text with
      | '"' :: literal =>
          match readString fuel "" literal with
          | none => none
          | some (name, afterName) =>
              match skipSpace afterName with
              | ':' :: rest =>
                  match readValue fuel levels (skipSpace rest) with
                  | none => none
                  | some (value, afterValue) =>
                      match skipSpace afterValue with
                      | ',' :: more => readMembers fuel levels ((name, value) :: done) more
                      | '\x7d' :: after => some (.ofMembers ((name, value) :: done).reverse, after)
                      | _ => none
              | _ => none
      | _ => none

end

/-- Values nest at most this deep. -/
def levelLimit : Nat := 127

/-- The value that a text denotes, with space around it. -/
def parse? (text : String) : Option Json :=
  let letters := text.toList
  match readValue (letters.length + 1) levelLimit (skipSpace letters) with
  | some (value, rest) => if (skipSpace rest).isEmpty then some value else none
  | none => none

end Json
end LanguageServer
