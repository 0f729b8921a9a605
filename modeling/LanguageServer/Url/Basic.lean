import LanguageServer.Url.Host

namespace LanguageServer

/-!
URLs.

A URL has a scheme, perhaps an authority, a path, and perhaps a query and a fragment.  All parts
are kept in their canonical spelling, so that two URLs are the same exactly when they have the same
text.
-/

namespace Url

/-- Who a URL belongs to. -/
structure Authority where
  /-- User and password with the sign that ends them; nothing if there is neither. -/
  credentials : List Char
  /-- Absent where the URL leaves it empty. -/
  host : Option Host
  port : Option Nat
deriving DecidableEq, Repr, Inhabited

namespace Authority

def text (authority : Authority) : List Char :=
  let host :=
    match authority.host with
    | some host => host.text
    | none => []
  let port :=
    match authority.port with
    | some port => ':' :: Text.numeral port
    | none => []
  authority.credentials ++ host ++ port

end Authority

/-- A path: plain text, or segments, each preceded by a slash. -/
inductive Path where
  | plain (text : List Char)
  | segments (parts : List (List Char))
deriving DecidableEq, Repr, Inhabited

namespace Path

def text : Path -> List Char
  | .plain text => text
  | .segments parts => parts.flatMap ('/' :: ·)

end Path
end Url

structure Url where
  scheme : List Char
  authority : Option Url.Authority
  path : Url.Path
  query : Option (List Char)
  fragment : Option (List Char)
deriving DecidableEq, Repr, Inhabited

namespace Url

/-- The path, told apart from an authority: without one, two slashes must not open the path. -/
def guardedPath (path : List Char) : List Char :=
  match path with
  | '/' :: '/' :: _ => '/' :: '.' :: path
  | _ => path

/-- The text of a URL. -/
def text (url : Url) : List Char :=
  let place :=
    match url.authority with
    | some authority => '/' :: '/' :: authority.text ++ url.path.text
    | none => guardedPath url.path.text
  let query :=
    match url.query with
    | some query => '?' :: query
    | none => []
  let fragment :=
    match url.fragment with
    | some fragment => '#' :: fragment
    | none => []
  url.scheme ++ ':' :: place ++ query ++ fragment

/-- The text of a URL, as a string. -/
def render (url : Url) : String :=
  String.ofList url.text

end Url
end LanguageServer
