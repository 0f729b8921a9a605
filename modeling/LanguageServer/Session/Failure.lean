import LanguageServer.Text.Elapsed
import LanguageServer.Wire.Frame
import LanguageServer.Wire.Payload

namespace LanguageServer
namespace Session

/-- Why a request has no answer. -/
inductive Failure where
  /-- The compiler's output could not be cut into frames. -/
  | protocol (fault : Wire.FrameFault)
  /-- The response could not be read. -/
  | payload (kind : RequestKind) (fault : Wire.PayloadFault)
  /-- The compiler reported an exception. -/
  | exception (message : String)
  /-- The compiler was silent for too long. -/
  | stalled (span : Span)
  /-- An edit came at a moment when the queue takes none. -/
  | misplacedEdit (message : String)
  /-- There is no compiler until the next restart. -/
  | aborted
  /-- The session is over. -/
  | closed
deriving DecidableEq, Repr, Inhabited

namespace Failure

def message : Failure -> String
  | .protocol fault => "compiler protocol error: " ++ fault.message
  | .payload kind fault => "malformed " ++ kind.label ++ " response: " ++ fault.message
  | .exception message => "compiler raised an exception: " ++ message
  | .stalled span => "compiler made no progress for " ++ span.display
  | .misplacedEdit message => "edit queue invariant violated: " ++ message
  | .aborted => "pipeline aborted; restart required"
  | .closed => "bridge has shut down"

end Failure

/-- How a request ended. -/
abbrev Outcome := Except Failure Answer

end Session
end LanguageServer
