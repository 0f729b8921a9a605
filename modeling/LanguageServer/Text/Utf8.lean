namespace LanguageServer
namespace Text
namespace Utf8

/-!
UTF-8, strict and lossy.

Lossy decoding reads a byte stream with a small machine.  Between characters the machine is
`ready`; inside one it knows how many continuation bytes are missing, the range the next of them
has to lie in, and the value gathered so far.  A byte that cannot continue the character closes
it with one replacement character and is then read again from `ready`, so that each maximal
invalid part of the stream is replaced exactly once and no byte that starts a character is lost.
-/

/-- The character that stands for bytes that are not UTF-8. -/
def replacement : Char := '�'

/-- Where the decoder stands between two bytes. -/
inductive Progress where
  /-- Between two characters. -/
  | ready
  /-- Inside a character: the next byte must lie between `least` and `greatest`. -/
  | inside (missing : Nat) (least greatest : UInt8) (value : Nat)
deriving DecidableEq, Repr

/-- Read the first byte of a character. -/
def begin (byte : UInt8) : List Char × Progress :=
  let code := byte.toNat
  if code < 0x80 then ([Char.ofNat code], .ready)
  else if code < 0xC2 then ([replacement], .ready)
  else if code < 0xE0 then ([], .inside 1 0x80 0xBF (code - 0xC0))
  else if code == 0xE0 then ([], .inside 2 0xA0 0xBF 0)
  else if code == 0xED then ([], .inside 2 0x80 0x9F 0xD)
  else if code < 0xF0 then ([], .inside 2 0x80 0xBF (code - 0xE0))
  else if code == 0xF0 then ([], .inside 3 0x90 0xBF 0)
  else if code < 0xF4 then ([], .inside 3 0x80 0xBF (code - 0xF0))
  else if code == 0xF4 then ([], .inside 3 0x80 0x8F 4)
  else ([replacement], .ready)

/-- Read one byte. -/
def advance : Progress -> UInt8 -> List Char × Progress
  | .ready, byte => begin byte
  | .inside missing least greatest value, byte =>
      if least ≤ byte && byte ≤ greatest then
        let gathered := value * 64 + (byte.toNat - 0x80)
        if missing ≤ 1 then ([Char.ofNat gathered], .ready)
        else ([], .inside (missing - 1) 0x80 0xBF gathered)
      else
        let (characters, next) := begin byte
        (replacement :: characters, next)

/-- What the end of the stream adds: a character that was cut off is replaced. -/
def finish : Progress -> List Char
  | .ready => []
  | .inside .. => [replacement]

/-- Read the remaining bytes. -/
def decodeFrom : Progress -> List UInt8 -> List Char
  | progress, [] => finish progress
  | progress, byte :: rest =>
      let (characters, next) := advance progress byte
      characters ++ decodeFrom next rest

/-- Decode bytes, each maximal invalid part becoming one replacement character. -/
def lossy (bytes : List UInt8) : List Char :=
  decodeFrom .ready bytes

/-- The bytes of a text. -/
def encode (text : List Char) : List UInt8 :=
  text.flatMap String.utf8EncodeChar

/-- Decode bytes that must be UTF-8.  The replacement character is itself encodable, so the bytes
are valid exactly when encoding the lossy reading gives them back. -/
def decode? (bytes : List UInt8) : Option (List Char) :=
  let text := lossy bytes
  if encode text = bytes then some text else none

/-- The bytes of a string. -/
def bytesOf (text : String) : List UInt8 :=
  encode text.toList

end Utf8
end Text
end LanguageServer
