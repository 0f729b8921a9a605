import LanguageServer.Text.Numeral
import LanguageServer.Text.Pieces
import LanguageServer.Url.Domain
import LanguageServer.Url.Fault
import LanguageServer.Url.Percent

namespace LanguageServer
namespace Url

/-!
Hosts of URLs: addresses and names.

The host of a URL with a special scheme is a name in lower case, or an address that is written in
one way only, however it was spelled.  Under any other scheme it is a text that is hardly looked
at.
-/

inductive Host where
  | domain (name : List Char)
  | ipv4 (address : Nat)
  | ipv6 (groups : List Nat)
deriving DecidableEq, Repr, Inhabited

namespace Host

/-! ### Addresses of four bytes -/

/-- A part of an address: decimal, octal after `0`, or hexadecimal after `0x`. -/
def ipv4Part? : List Char -> Option Nat
  | [] => none
  | '0' :: mark :: digits =>
      if mark = 'x' ∨ mark = 'X' then numberIn? 16 digits else numberIn? 8 (mark :: digits)
  | digits => numberIn? 10 digits
where
  numberIn? (base : Nat) (digits : List Char) : Option Nat :=
    digits.foldlM (fun value c =>
      match hexDigitValue? c with
      | some digit => if digit < base then some (value * base + digit) else none
      | none => none) 0

/-- The last part of a name is a number, so the name has to be an address. -/
def endsInNumber (name : List Char) : Bool :=
  let parts := (Text.pieces '.' name).reverse
  let last? :=
    match parts with
    | [] :: [] => none
    | [] :: last :: _ => some last
    | last :: _ => some last
    | [] => none
  match last? with
  | none => false
  | some last => (!last.isEmpty && last.all Char.isDigit) || (ipv4Part? last).isSome

/-- An address of up to four parts, of which the last fills the remaining bytes. -/
def ipv4? (name : List Char) : Option Nat :=
  let parts := Text.pieces '.' name
  let significant := if parts.getLast? = some [] then parts.dropLast else parts
  if significant.length > 4 then none
  else
    match significant.mapM ipv4Part? with
    | none => none
    | some numbers =>
        match numbers.getLast? with
        | none => none
        | some last =>
            let leading := numbers.dropLast
            if last ≥ Nat.pow 256 (4 - leading.length) || leading.any (· > 255) then none
            else some (leading.zipIdx.foldl (fun sum (number, index) =>
              sum + number * Nat.pow 256 (3 - index)) last)

/-- Four decimal bytes with points between them. -/
def ipv4Text (address : Nat) : List Char :=
  List.intercalate ['.'] ([3, 2, 1, 0].map (fun place =>
    Text.numeral (address / Nat.pow 256 place % 256)))

/-! ### Addresses of eight groups -/

/-- A decimal byte without leading zeros. -/
def byte? (digits : List Char) : Option Nat :=
  match Text.natural? digits with
  | some value =>
      if value ≤ 255 && (digits.length = 1 || digits.head? != some '0') then some value else none
  | none => none

/-- Groups between colons; the last may be four decimal bytes. -/
def groups? : List (List Char) -> Option (List Nat)
  | [] => some []
  | [last] =>
      if '.' ∈ last then
        match (Text.pieces '.' last).mapM byte? with
        | some [a, b, c, d] => some [a * 256 + b, c * 256 + d]
        | _ => none
      else (group? last).map ([·])
  | first :: rest => do
      let value <- group? first
      let others <- groups? rest
      pure (value :: others)
where
  group? (digits : List Char) : Option Nat :=
    if digits.isEmpty || digits.length > 4 then none
    else digits.foldlM (fun value c => (hexDigitValue? c).map (value * 16 + ·)) 0

/-- Groups that may be absent. -/
def groupsOrNone? (text : List Char) : Option (List Nat) :=
  if text.isEmpty then some [] else groups? (Text.pieces ':' text)

/-- Cut a text at the first double colon. -/
def cutAtGap : List Char -> Option (List Char × List Char)
  | ':' :: ':' :: rest => some ([], rest)
  | c :: rest => (cutAtGap rest).map (fun (before, after) => (c :: before, after))
  | [] => none

/-- Eight groups; one double colon stands for the zeros that are missing, at least one. -/
def ipv6? (text : List Char) : Option (List Nat) :=
  match cutAtGap text with
  | none =>
      match groups? (Text.pieces ':' text) with
      | some groups => if groups.length = 8 then some groups else none
      | none => none
  | some (before, after) =>
      if '.' ∈ before then none
      else do
        let leading <- groupsOrNone? before
        let trailing <- groupsOrNone? after
        if leading.length + trailing.length ≤ 7 then
          some (leading ++ List.replicate (8 - leading.length - trailing.length) 0 ++ trailing)
        else none

/-- The start and the length of the longest run of zeros, of two at least; the first of equals. -/
def longestGap (groups : List Nat) : Option (Nat × Nat) :=
  let runAt (start : Nat) : Nat := ((groups.drop start).takeWhile (· == 0)).length
  let best := (List.range groups.length).foldl (fun (best : Nat × Nat) start =>
    if runAt start > best.2 then (start, runAt start) else best) (0, 0)
  if best.2 < 2 then none else some best

def hexText (value : Nat) : List Char :=
  Nat.toDigits 16 value

/-- Groups with colons between them, the longest run of zeros as a double colon. -/
def ipv6Text (groups : List Nat) : List Char :=
  let text (some : List Nat) : List Char := List.intercalate [':'] (some.map hexText)
  match longestGap groups with
  | none => text groups
  | some (start, length) =>
      text (groups.take start) ++ [':', ':'] ++ text (groups.drop (start + length))

/-! ### Hosts -/

/-- An address between brackets. -/
def bracketed (text : List Char) : Except Fault Host :=
  match if text.getLast? = some ']' then ipv6? (text.drop 1).dropLast else none with
  | some groups => .ok (.ipv6 groups)
  | none => .error .ipv6

/-- The host of a URL with a special scheme.  Bytes that are no text have no ASCII form. -/
def special (text : List Char) : Except Fault Host :=
  if text.head? = some '[' then bracketed text
  else
    match (Text.Utf8.decode? (decodeText text)).bind Domain.ascii? with
    | none => .error .hostName
    | some name =>
        if name.isEmpty then .error .emptyHost
        else if endsInNumber name then
          match ipv4? name with
          | some address => .ok (.ipv4 address)
          | none => .error .ipv4
        else .ok (.domain name)

/-- Characters that no other host may hold. -/
def isForbiddenAnywhere (c : Char) : Bool :=
  c ∈ ['\x00', ' ', '#', '/', ':', '<', '>', '?', '@', '[', '\\', ']', '^', '|']

/-- The host of a URL with any other scheme. -/
def other (text : List Char) : Except Fault Host :=
  if text.head? = some '[' then bracketed text
  else if text.any isForbiddenAnywhere then .error .hostCharacter
  else .ok (.domain (encodeText EncodeSet.controls text))

/-- A host as it stands in a URL. -/
def text : Host -> List Char
  | .domain name => name
  | .ipv4 address => ipv4Text address
  | .ipv6 groups => '[' :: ipv6Text groups ++ [']']

end Host
end Url
end LanguageServer
