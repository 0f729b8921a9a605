import LanguageServer.Files.Path
import LanguageServer.Text.Elapsed

namespace LanguageServer
namespace Session

/-!
Plans: how a session launches its compiler, and how long it waits for it.
-/

/-- How to launch the compiler. -/
structure CompilerPlan where
  /-- The program, looked up on the search path. -/
  command : String
  /-- Arguments on the command line, before the response file. -/
  args : List String
  /-- Arguments in the response file. -/
  analyseArgs : List String
  /-- Launch no compiler at all. -/
  block : Bool
deriving DecidableEq, Repr, Inhabited

namespace CompilerPlan

def default : CompilerPlan := ⟨"ghul-compiler", [], ["--analyse"], false⟩

end CompilerPlan

/-- How long to wait: for more edits, and for signs of life. -/
structure Timing where
  quietPeriod : Span
  patience : Span
deriving DecidableEq, Repr, Inhabited

namespace Timing

/-- A tenth of a second for edits, two minutes for the compiler. -/
def default : Timing := ⟨Span.ofMilliseconds 100, Span.ofSeconds 120⟩

end Timing

/-- Everything that a session has to know. -/
structure Plan where
  compiler : CompilerPlan
  /-- The directory that the compiler works in. -/
  workspace : Files.Path
  timing : Timing
deriving DecidableEq, Repr, Inhabited

/-- Why a compiler could not be launched. -/
inductive LaunchFault where
  | notFound (command : String)
  | responseFile (reason : String)
  | refused (command reason : String)
  | missingPipe (pipe : String)
deriving DecidableEq, Repr, Inhabited

namespace LaunchFault

def message : LaunchFault -> String
  | .notFound command => command ++ " not found in PATH"
  | .responseFile reason => "failed to write response file: " ++ reason
  | .refused command reason => "failed to spawn " ++ command ++ ": " ++ reason
  | .missingPipe pipe => "compiler " ++ pipe ++ " was not captured"

end LaunchFault
end Session
end LanguageServer
