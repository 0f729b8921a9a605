import LanguageServer.Text.Blank

namespace LanguageServer
namespace Wire
namespace ResponseFile

/-!
Response files: the arguments of the compiler, one a line.

An argument that is empty, or holds a blank or a quote, is written between quotes, and each quote
in it is preceded by a backslash.
-/

/-- The argument can stand on its line as it is. -/
def isPlain (argument : List Char) : Bool :=
  !argument.isEmpty && !argument.any (fun c => Text.isBlank c || c == '"')

/-- A quote inside quotes is preceded by a backslash. -/
def escape (argument : List Char) : List Char :=
  argument.flatMap (fun c => if c = '"' then ['\\', '"'] else [c])

/-- One argument as it stands on its line. -/
def quote (argument : List Char) : List Char :=
  if isPlain argument then argument else '"' :: escape argument ++ ['"']

/-- The text of a response file. -/
def contents (arguments : List String) : String :=
  String.ofList (arguments.flatMap (fun argument => quote argument.toList ++ ['\n']))

end ResponseFile
end Wire
end LanguageServer
