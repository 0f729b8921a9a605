import LanguageServer.Json
import LanguageServer.Text.Numeral

namespace LanguageServer
namespace Json

/-!
JSON text, without any white space.

Quotes, backslashes and control characters are escaped; every other character stands for itself.
-/

/-- A hexadecimal digit. -/
def hexDigit (value : Nat) : Char :=
  Nat.digitChar value

/-- One character inside a string literal. -/
def printChar (c : Char) : List Char :=
  if c = '"' then ['\\', '"']
  else if c = '\\' then ['\\', '\\']
  else if c = '\x08' then ['\\', 'b']
  else if c = '\x0c' then ['\\', 'f']
  else if c = '\n' then ['\\', 'n']
  else if c = '\r' then ['\\', 'r']
  else if c = '\t' then ['\\', 't']
  else if c.toNat < 0x20 then
    ['\\', 'u', '0', '0', hexDigit (c.toNat / 16), hexDigit (c.toNat % 16)]
  else [c]

/-- A string literal. -/
def printString (text : String) : String :=
  (text.foldl (fun done c => (printChar c).foldl String.push done) "\"").push '"'

mutual

/-- The text of a value. -/
def print : Json -> String
  | .null => "null"
  | .bool true => "true"
  | .bool false => "false"
  | .integer value => Text.signedDecimal value
  | .double value => value.display
  | .string text => printString text
  | .array elements => "[" ++ printElements elements ++ "]"
  | .object members => "\x7b" ++ printMembers members ++ "\x7d"

/-- Elements with commas between them. -/
def printElements : List Json -> String
  | [] => ""
  | [value] => print value
  | value :: rest => print value ++ "," ++ printElements rest

/-- Members with commas between them. -/
def printMembers : List (String × Json) -> String
  | [] => ""
  | [(name, value)] => printString name ++ ":" ++ print value
  | (name, value) :: rest => printString name ++ ":" ++ print value ++ "," ++ printMembers rest

end

end Json
end LanguageServer
