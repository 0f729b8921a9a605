import LanguageServer.Text.Utf8

namespace LanguageServer
namespace Url

/-!
Percent encoding.

A byte is written as a percent sign and two hexadecimal digits in upper case.  Which ASCII
characters are written so depends on the part of the URL they stand in; bytes above ASCII always
are.
-/

/-- A class of ASCII characters that have to be encoded. -/
abbrev EncodeSet := Char -> Bool

namespace EncodeSet

/-- Control characters. -/
def controls : EncodeSet := fun c => c.toNat < 0x20 || c == '\x7f'

def fragment : EncodeSet := fun c => controls c || c ∈ [' ', '"', '<', '>', '`']

def path : EncodeSet := fun c => fragment c || c ∈ ['#', '?', '\x7b', '\x7d']

def userinfo : EncodeSet := fun c =>
  path c || c ∈ ['/', ':', ';', '=', '@', '[', '\\', ']', '^', '|']

/-- A name in a file path: here a slash, a backslash or a percent sign is part of the name. -/
def fileName : EncodeSet := fun c => path c || c ∈ ['/', '%', '\\']

def query : EncodeSet := fun c => controls c || c ∈ [' ', '"', '#', '<', '>']

/-- The query of a URL with a special scheme. -/
def specialQuery : EncodeSet := fun c => query c || c == '\''

end EncodeSet

/-- A hexadecimal digit in upper case. -/
def upperHexDigit (value : Nat) : Char :=
  (Nat.digitChar value).toUpper

/-- The value of a hexadecimal digit. -/
def hexDigitValue? (c : Char) : Option Nat :=
  if '0' ≤ c ∧ c ≤ '9' then some (c.toNat - 48)
  else if 'a' ≤ c ∧ c ≤ 'f' then some (c.toNat - 87)
  else if 'A' ≤ c ∧ c ≤ 'F' then some (c.toNat - 55)
  else none

def encodeByte (set : EncodeSet) (byte : UInt8) : List Char :=
  let c := Char.ofNat byte.toNat
  if byte.toNat < 0x80 && !set c then [c]
  else ['%', upperHexDigit (byte.toNat / 16), upperHexDigit (byte.toNat % 16)]

/-- Encode bytes. -/
def encodeBytes (set : EncodeSet) (bytes : List UInt8) : List Char :=
  bytes.flatMap (encodeByte set)

/-- Encode a text through its UTF-8 bytes. -/
def encodeText (set : EncodeSet) (text : List Char) : List Char :=
  encodeBytes set (Text.Utf8.encode text)

/-- The bytes that a text stands for.  A percent sign without two digits stands for itself. -/
def decodeText : List Char -> List UInt8
  | [] => []
  | '%' :: high :: low :: rest =>
      match hexDigitValue? high, hexDigitValue? low with
      | some left, some right => UInt8.ofNat (left * 16 + right) :: decodeText rest
      | _, _ => 0x25 :: decodeText (high :: low :: rest)
  | c :: rest => String.utf8EncodeChar c ++ decodeText rest

end Url
end LanguageServer
