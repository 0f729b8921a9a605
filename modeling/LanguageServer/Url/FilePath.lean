import LanguageServer.Files.Path
import LanguageServer.Url.Parser

namespace LanguageServer
namespace Url

/-!
File paths and the URLs that name them.

A path is a sequence of bytes.  Editors spell the URL of one file in many ways, so a document is
filed under a key: the URL that its path is given here.  How URLs are read and written, and which
paths they stand for, is left to a library.
-/

/-- A library for URLs: it reads and writes them, and finds the path of a URL and the URL of a
path. -/
structure Library (Link : Type) where
  parse? : String -> Option Link
  text : Link -> String
  scheme : Link -> String
  toPath? : Link -> Option Files.Path
  ofPath? : Files.Path -> Option Link

namespace Library

variable {Link : Type} (library : Library Link)

/-- The key under which a document is filed.  Where a file is meant, it is the URL of its path. -/
def key (link : Link) : String :=
  let canonical? :=
    if library.scheme link = "file" then (library.toPath? link).bind library.ofPath? else none
  library.text (canonical?.getD link)

/-- The key of the file at an absolute path. -/
def keyOfPath? (path : Files.Path) : Option String := (library.ofPath? path).map library.text

end Library

/-- A path that ends in a drive letter leads to the root of that drive. -/
def closeDrive (path : Files.Path) : Files.Path :=
  match path.reverse with
  | mark :: letter :: _ :: _ =>
      if (Char.ofNat letter.toNat).isAlpha && (mark == 0x3A || mark == 0x7C) then
        path ++ [Files.Path.slash]
      else path
  | _ => path

/-- The path of a local file. -/
def toPath? (url : Url) : Option Files.Path :=
  let isLocal :=
    match url.authority with
    | none => true
    | some authority =>
        match authority.host with
        | none => true
        | some (.domain name) => name = "localhost".toList
        | some _ => false
  match url.path with
  | .segments (part :: parts) =>
      if isLocal then
        some (closeDrive
          ((part :: parts).flatMap (fun segment => Files.Path.slash :: decodeText segment)))
      else none
  | _ => none

/-- The URL of the file at an absolute path. -/
def ofPath? (path : Files.Path) : Option Url :=
  if path.isAbsolute then
    let parts := path.names.map (encodeBytes EncodeSet.fileName)
    some ⟨"file".toList, some ⟨[], none, none⟩, .segments (if parts.isEmpty then [[]] else parts),
      none, none⟩
  else none

/-- The library that is used. -/
def library : Library Url where
  parse? := parse?
  text := render
  scheme url := String.ofList url.scheme
  toPath? := toPath?
  ofPath? := ofPath?

def key (url : Url) : String := library.key url

def keyOfPath? (path : Files.Path) : Option String := library.keyOfPath? path

end Url
end LanguageServer
