import LanguageServer.Text.Blank
import LanguageServer.Text.Numeral
import LanguageServer.Text.Utf8

namespace LanguageServer
namespace Editor

/-!
The transport: texts in a stream of bytes.

Each text is announced by a block of headers that tells its length in bytes.  The block is ended by
an empty line; every line ends in a carriage return and a line feed.
-/

namespace Transport

def lengthHeader : String := "Content-Length"

/-- A text with its header. -/
def encode (text : String) : List UInt8 :=
  let body := Text.Utf8.bytesOf text
  Text.Utf8.bytesOf (lengthHeader ++ ": " ++ Text.decimal body.length ++ "\r\n\r\n") ++ body

/-- Cut a stream at the end of its first line. -/
def cutLine : List UInt8 -> Option (List UInt8 × List UInt8)
  | [] => none
  | 0x0D :: 0x0A :: rest => some ([], rest)
  | byte :: rest => (cutLine rest).map (fun (line, left) => (byte :: line, left))

/-- The length that a header line tells. -/
def lengthOf? (line : List UInt8) : Option Nat :=
  let letters := Text.Utf8.lossy line
  let name := letters.takeWhile (· != ':')
  if Text.lowercased (Text.trim name) = Text.lowercased lengthHeader.toList then
    Text.natural? (Text.trim (letters.drop (name.length + 1)))
  else none

/-- Read the rest of a block of headers: the length it tells, and what comes after it. -/
def readHeaders : Nat -> Option Nat -> List UInt8 -> Option (Option Nat × List UInt8)
  | 0, _, _ => none
  | fuel + 1, found, stream =>
      match cutLine stream with
      | none => none
      | some ([], rest) => some (found, rest)
      | some (line, rest) => readHeaders fuel ((lengthOf? line).or found) rest

/-- What the front of a stream holds. -/
inductive Parcel where
  /-- More bytes are needed. -/
  | unfinished
  /-- A block of headers that tells no length. -/
  | unusable (rest : List UInt8)
  | text (body : List Char) (rest : List UInt8)

def read (stream : List UInt8) : Parcel :=
  match readHeaders (stream.length + 1) none stream with
  | none => .unfinished
  | some (none, rest) => .unusable rest
  | some (some length, rest) =>
      if rest.length < length then .unfinished
      else .text (Text.Utf8.lossy (rest.take length)) (rest.drop length)

/-- All texts of a stream, and the bytes that are left. -/
def readAll : Nat -> List UInt8 -> List String × List UInt8
  | 0, stream => ([], stream)
  | fuel + 1, stream =>
      match read stream with
      | .unfinished => ([], stream)
      | .unusable rest => readAll fuel rest
      | .text body rest =>
          let (others, left) := readAll fuel rest
          (String.ofList body :: others, left)

end Transport
end Editor
end LanguageServer
