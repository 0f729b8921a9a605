import LanguageServer.Url.Basic

namespace LanguageServer
namespace Url

/-!
Reading URLs, by the rules of the web.

Blanks around a URL and line breaks inside it are dropped.  What follows the scheme depends on it:
the special schemes always have an authority and take a backslash for a slash, `file` has a host
and paths with drive letters, and any other scheme has an authority only after two slashes.
-/

/-- How the part after the scheme is read. -/
inductive SchemeKind where
  | file
  | special
  | other
deriving DecidableEq, Repr, Inhabited

namespace SchemeKind

def of (scheme : List Char) : SchemeKind :=
  let name := String.ofList scheme
  if name = "file" then .file
  else if name ∈ ["http", "https", "ws", "wss", "ftp"] then .special
  else .other

def isSpecial (kind : SchemeKind) : Bool := kind != .other

end SchemeKind

/-- The port that need not be written. -/
def defaultPort? (scheme : List Char) : Option Nat :=
  let name := String.ofList scheme
  if name = "http" ∨ name = "ws" then some 80
  else if name = "https" ∨ name = "wss" then some 443
  else if name = "ftp" then some 21
  else none

/-- Blanks and control characters at the ends are not part of a URL. -/
def strip (text : List Char) : List Char :=
  let isEdge (c : Char) : Bool := c.toNat ≤ 0x20
  ((text.dropWhile isEdge).reverse.dropWhile isEdge).reverse

/-- A tab or a line end, which is passed over wherever it stands. -/
def isBreak (c : Char) : Bool := c == '\t' || c == '\n' || c == '\r'

/-- A text without its breaks. -/
def unbroken (text : List Char) : List Char := text.filter (fun c => !isBreak c)

/-- The scheme, in lower case, and what follows its colon. -/
def scheme? (text : List Char) : Option (List Char × List Char) :=
  let isSchemeChar (c : Char) : Bool :=
    c.isAlphanum || c == '+' || c == '-' || c == '.' || isBreak c
  let scheme := unbroken (text.takeWhile isSchemeChar)
  match scheme, text.dropWhile isSchemeChar with
  | first :: _, ':' :: rest =>
      if first.isAlpha then some (scheme.map Char.toLower, rest) else none
  | _, _ => none

/-! ### Paths -/

/-- A letter and a colon or a bar. -/
def isDriveLetter : List Char -> Bool
  | [letter, mark] => letter.isAlpha && (mark == ':' || mark == '|')
  | _ => false

/-- A segment that begins like a drive and is kept when the path is shortened. -/
def isDriveSegment : List Char -> Bool
  | [letter, mark] => letter.isAlpha && (mark == ':' || mark == '|')
  | letter :: mark :: next :: _ => letter.isAlpha && (mark == ':' || mark == '|') && next == '\\'
  | _ => false

/-- A dot, written as itself or as its percent code, and what follows. -/
def dropDot : List Char -> Option (List Char)
  | '.' :: rest => some rest
  | '%' :: '2' :: 'e' :: rest => some rest
  | '%' :: '2' :: 'E' :: rest => some rest
  | _ => none

def isSingleDot (segment : List Char) : Bool :=
  dropDot segment == some []

def isDoubleDot (segment : List Char) : Bool :=
  ((dropDot segment).bind dropDot) == some []

/-- A path under construction. -/
structure PathDraft where
  /-- The complete segments, the last one first. -/
  parts : List (List Char)
  /-- A drive letter was found, so a file has no host. -/
  onDrive : Bool

namespace PathDraft

/-- Drop the last segment, unless it is a drive letter. -/
def shorten (parts : List (List Char)) : List (List Char) :=
  match parts with
  | last :: earlier => if isDriveSegment last then parts else earlier
  | [] => []

/-- Add a segment that is not a dot or two.  The first segment of a file may be a drive letter. -/
def add (kind : SchemeKind) (draft : PathDraft) (segment : List Char) : PathDraft :=
  if kind = .file ∧ draft.parts = [] ∧ isDriveLetter segment then
    ⟨[segment.take 1 ++ [':']], true⟩
  else { draft with parts := segment :: draft.parts }

/-- A drive letter that a break parts from the rest of its segment: the drive, and the rest. -/
def brokenDrive? (segment : List Char) : Option (List Char × List Char) :=
  let afterOne (text : List Char) : List Char := (text.dropWhile isBreak).drop 1
  match unbroken segment, (afterOne (afterOne segment)).head? with
  | letter :: ':' :: c :: rest, some next =>
      if letter.isAlpha && isBreak next then some ([letter, ':'], c :: rest) else none
  | _, _ => none

/-- Add a segment that a slash follows, or the last one.  A break behind the drive letter of a file
ends the segment as a slash would. -/
def addText (kind : SchemeKind) (draft : PathDraft) (isLast : Bool) (text : List Char) :
    PathDraft :=
  let encode := encodeText EncodeSet.path
  match if kind = .file ∧ draft.parts = [] then brokenDrive? text else none with
  | some (drive, rest) => { draft with parts := [encode rest, drive] }
  | none =>
      let segment := encode (unbroken text)
      let ending := if isLast then [[]] else []
      if isDoubleDot segment then { draft with parts := ending ++ shorten draft.parts }
      else if isSingleDot segment then { draft with parts := ending ++ draft.parts }
      else draft.add kind segment

/-- Add segments in order. -/
def addAll (kind : SchemeKind) : PathDraft -> List (List Char) -> PathDraft
  | draft, [] => draft
  | draft, [last] => draft.addText kind true last
  | draft, text :: rest => addAll kind (draft.addText kind false text) rest

end PathDraft

/-- A file has no empty segments at the front of its path. -/
def trimLeadingEmpty : List (List Char) -> List (List Char)
  | [] :: next :: rest => trimLeadingEmpty (next :: rest)
  | parts => parts

/-- Read the text of a path, without its first slash, into segments.  The flag tells whether it
is on a drive. -/
def readSegments (kind : SchemeKind) (text : List Char) : List (List Char) × Bool :=
  let slashed := if kind.isSpecial then text.map (fun c => if c = '\\' then '/' else c) else text
  let draft := PathDraft.addAll kind ⟨[], false⟩ (Text.pieces '/' slashed)
  let parts := draft.parts.reverse
  (if kind = .file then trimLeadingEmpty parts else parts, draft.onDrive)

/-- The path ends where a query or a fragment begins. -/
def isPathChar (c : Char) : Bool := c != '?' && c != '#'

/-- The query and the fragment. -/
def readTail (kind : SchemeKind) (broken : List Char) : Option (List Char) × Option (List Char) :=
  let text := unbroken broken
  let querySet := if kind.isSpecial then EncodeSet.specialQuery else EncodeSet.query
  let fragment (rest : List Char) : Option (List Char) :=
    match rest with
    | '#' :: more => some (encodeText EncodeSet.fragment more)
    | _ => none
  match text with
  | '?' :: rest =>
      (some (encodeText querySet (rest.takeWhile (· != '#'))), fragment (rest.dropWhile (· != '#')))
  | rest => (none, fragment rest)

/-- A slash at the front, or what counts as one, is dropped. -/
def dropSlash (kind : SchemeKind) : List Char -> Option (List Char)
  | '/' :: rest => some rest
  | '\\' :: rest => if kind.isSpecial then some rest else none
  | _ => none

/-- The segments of a path that follows an authority. -/
def readPathAfter (kind : SchemeKind) (text : List Char) : List (List Char) × Bool :=
  match dropSlash kind text with
  | some rest => readSegments kind rest
  | none => if text.isEmpty && !kind.isSpecial then ([], false) else readSegments kind text

/-! ### Authorities -/

/-- A character that ends an authority. -/
def endsAuthority (kind : SchemeKind) (c : Char) : Bool :=
  c == '/' || c == '?' || c == '#' || (kind.isSpecial && c == '\\')

/-- User and password.  A password that is empty loses its colon. -/
def readCredentials (userinfo : List Char) : List Char :=
  let user := encodeText EncodeSet.userinfo (userinfo.takeWhile (· != ':'))
  let password := encodeText EncodeSet.userinfo ((userinfo.dropWhile (· != ':')).drop 1)
  let named := if password.isEmpty then user else user ++ ':' :: password
  if named.isEmpty then [] else named ++ ['@']

/-- The length of the host: up to a colon that is not between brackets. -/
def hostLength : Bool -> List Char -> Nat
  | _, [] => 0
  | inside, c :: rest =>
      if c == ':' && !inside then 0
      else 1 + hostLength (if c == '[' then true else if c == ']' then false else inside) rest

/-- The port after the colon; one that need not be written is left out. -/
def readPort (scheme digits : List Char) : Except Fault (Option Nat) :=
  if digits.isEmpty then .ok none
  else
    match Text.natural? digits with
    | some port =>
        if port > 65535 then .error .port
        else if some port = defaultPort? scheme then .ok none
        else .ok (some port)
    | none => .error .port

/-- The host in front of a port, which may be empty under some schemes. -/
def readHost (kind : SchemeKind) (text : List Char) (hasPort : Bool) :
    Except Fault (Option Host) :=
  if text.isEmpty then if kind.isSpecial || hasPort then .error .emptyHost else .ok none
  else if kind.isSpecial then (Host.special text).map some
  else (Host.other text).map some

/-- Read an authority, without the slashes before it.  What a backslash after the port begins is
left over.  The flag tells whether anything follows the authority. -/
def readAuthority (kind : SchemeKind) (scheme text : List Char) (followed : Bool) :
    Except Fault (Authority × List Char) := do
  let afterAt := (text.reverse.takeWhile (· != '@')).reverse
  let userinfo := (text.take (text.length - afterAt.length)).dropLast
  let credentials := readCredentials userinfo
  let length := hostLength false afterAt
  let portText := afterAt.drop length
  if text = ['@'] && followed then throw .emptyHost
  let host <- readHost kind (afterAt.take length) (!portText.isEmpty)
  let port <- readPort scheme ((portText.drop 1).takeWhile (· != '\\'))
  if host.isNone && !credentials.isEmpty then throw .emptyHost
  return (⟨credentials, host, port⟩, portText.dropWhile (· != '\\'))

/-! ### URLs -/

/-- A URL with an authority, from what follows the slashes. -/
def readAfterSlashes (kind : SchemeKind) (scheme text : List Char) : Except Fault Url := do
  let authorityText := text.takeWhile (fun c => !endsAuthority kind c)
  let rest := text.dropWhile (fun c => !endsAuthority kind c)
  let (authority, leftOver) <- readAuthority kind scheme authorityText (!rest.isEmpty)
  let (parts, _) := readPathAfter kind (leftOver ++ rest.takeWhile isPathChar)
  let (query, fragment) := readTail kind (rest.dropWhile isPathChar)
  return ⟨scheme, some authority, .segments parts, query, fragment⟩

/-- A file, from the text of its path, without the first slash, and of what comes after it. -/
def fileUrl (host : Option Host) (text : List Char) : Url :=
  let (parts, onDrive) := readSegments .file (text.takeWhile isPathChar)
  let (query, fragment) := readTail .file (text.dropWhile isPathChar)
  ⟨"file".toList, some ⟨[], if onDrive then none else host, none⟩, .segments parts, query, fragment⟩

/-- The host of a file; the local machine has none. -/
def fileHost (text : List Char) : Except Fault (Option Host) :=
  if text.isEmpty then .ok none
  else (Host.special text).map (fun host =>
    if host = .domain "localhost".toList then none else some host)

/-- A file, from what follows the scheme.  Where there is no host, the slash that would end it
counts as the end of an empty segment. -/
def readFile (text : List Char) : Except Fault Url :=
  let dropOne (text : List Char) : Option (List Char) := dropSlash .file (text.dropWhile isBreak)
  match dropOne text with
  | none => .ok (fileUrl none text)
  | some once =>
      match dropOne once with
      | none => .ok (fileUrl none once)
      | some twice =>
          let hostText := unbroken (twice.takeWhile (fun c => !endsAuthority .file c))
          let rest := twice.dropWhile (fun c => !endsAuthority .file c)
          if isDriveLetter hostText then .ok (fileUrl none twice)
          else (fileHost hostText).map (fun host =>
            fileUrl host (if host.isSome then (dropSlash .file rest).getD rest else rest))

/-- A URL of any other scheme, from what follows the scheme. -/
def readOther (scheme text : List Char) : Except Fault Url :=
  match text with
  | '/' :: '/' :: rest => readAfterSlashes .other scheme rest
  | _ =>
      let pathText := text.takeWhile isPathChar
      let (query, fragment) := readTail .other (text.dropWhile isPathChar)
      let path : Path :=
        match pathText with
        | '/' :: rest => .segments (readSegments .other rest).1
        | plain => .plain (encodeText EncodeSet.controls plain)
      .ok ⟨scheme, none, path, query, fragment⟩

/-- The URL that a text denotes, or why it denotes none. -/
def parse (text : String) : Except Fault Url :=
  match scheme? (strip text.toList) with
  | none => .error .relative
  | some (scheme, rest) =>
      match SchemeKind.of scheme with
      | .file => readFile rest
      | .special =>
          let isSlash (c : Char) : Bool := c == '/' || c == '\\'
          readAfterSlashes .special scheme ((unbroken rest).dropWhile isSlash)
      | .other => readOther scheme (unbroken rest)

/-- The URL that a text denotes. -/
def parse? (text : String) : Option Url :=
  (parse text).toOption

end Url
end LanguageServer
