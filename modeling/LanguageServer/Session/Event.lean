import LanguageServer.Source.Diagnostic

namespace LanguageServer
namespace Session

/-!
Events: what a session tells the editor unasked.
-/

/-- A stage in the life of the compiler. -/
inductive Lifecycle where
  /-- The compiler is about to be launched. -/
  | starting
  /-- It is launched, and does not listen yet. -/
  | running
  /-- It is ready for edits. -/
  | listening
  /-- An analysis is complete and its diagnostics are published. -/
  | analysed
  /-- It was stopped. -/
  | killed
  /-- It ended by itself; another one follows. -/
  | crashed (status : String)
  /-- Its output could not be understood. -/
  | protocolError (message : String)
  /-- It reported an exception. -/
  | exception (message : String)
  /-- It hangs, or could not be launched. -/
  | aborted (reason : String)
  /-- The settings forbid launching it. -/
  | blocked
deriving DecidableEq, Repr, Inhabited

inductive Event where
  /-- All diagnostics of a document; they replace the earlier ones. -/
  | diagnostics (uri : String) (items : List Diagnostic)
  | lifecycle (stage : Lifecycle)
deriving DecidableEq, Repr, Inhabited

end Session
end LanguageServer
