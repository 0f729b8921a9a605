import LanguageServer.Text.Blank
import LanguageServer.Source.Position

namespace LanguageServer

/-!
Diagnostics: what the compiler has to say about a range of a document.
-/

/-- How grave a diagnostic is. -/
inductive Severity where
  | error
  | warning
  | information
  | hint
deriving DecidableEq, Repr, Inhabited

namespace Severity

/-- The severity that a word of the compiler names, in any case and with blanks around it. -/
def ofWord? (word : String) : Option Severity :=
  let spelled := String.ofList (Text.lowercased (Text.trim word.toList))
  if spelled = "error" then some .error
  else if spelled = "warn" ∨ spelled = "warning" then some .warning
  else if spelled = "info" ∨ spelled = "information" then some .information
  else if spelled = "hint" then some .hint
  else none

/-- Severities are numbered from the gravest. -/
def number : Severity -> Nat
  | .error => 1
  | .warning => 2
  | .information => 3
  | .hint => 4

/-- The word by which messages name the severity. -/
def label : Severity -> String
  | .error => "error"
  | .warning => "warning"
  | .information => "info"
  | .hint => "hint"

end Severity

/-- Which pass reported a diagnostic. -/
inductive Band where
  /-- Reading one document. -/
  | parse
  /-- Analysing the whole project. -/
  | analysis
deriving DecidableEq, Repr, Inhabited

/-- One remark of the compiler. -/
structure Diagnostic where
  severity : Severity
  range : Range
  message : String
deriving DecidableEq, Repr, Inhabited

namespace Diagnostic

/-- The diagnostic on one line, its place counted from one; nothing when the place has no such
number. -/
def display? (diagnostic : Diagnostic) (uri : String) : Option String :=
  match successor? diagnostic.range.start.line, successor? diagnostic.range.start.character with
  | some line, some character =>
      some (uri ++ ":" ++ wordText line ++ ":" ++ wordText character ++ ": " ++
        diagnostic.severity.label ++ ": " ++ diagnostic.message)
  | _, _ => none

end Diagnostic
end LanguageServer
