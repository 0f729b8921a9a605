import LanguageServer.Editor.Convert
import LanguageServer.Session.Event

namespace LanguageServer
namespace Editor

/-!
Notices: what the editor is told unasked.
-/

/-- A message that expects no response. -/
structure Notice where
  method : String
  params : Json
deriving Inhabited

/-- How a message is shown. -/
inductive MessageKind where
  | error
  | warning
  | info
  | log
deriving DecidableEq, Repr, Inhabited

namespace MessageKind

def number : MessageKind -> Nat
  | .error => 1
  | .warning => 2
  | .info => 3
  | .log => 4

end MessageKind

/-- A message for the user.  One that asks for action is also shown in a window of its own. -/
structure Report where
  kind : MessageKind
  urgent : Bool
  message : String
deriving DecidableEq, Repr, Inhabited

namespace Report

/-- How a stage in the life of the compiler is reported. -/
def ofStage : Session.Lifecycle -> Report
  | .starting => ⟨.info, false, "ghul: starting compiler"⟩
  | .running => ⟨.info, false, "ghul: compiler running"⟩
  | .listening => ⟨.info, false, "ghul: compiler listening"⟩
  | .analysed => ⟨.log, false, "ghul: analysis complete"⟩
  | .killed => ⟨.info, false, "ghul: compiler stopped"⟩
  | .crashed status => ⟨.warning, false, "ghul: compiler exited (" ++ status ++ "); restarting"⟩
  | .protocolError message => ⟨.error, false, "ghul: compiler protocol error: " ++ message⟩
  | .exception message => ⟨.error, true, "ghul: compiler exception: " ++ message⟩
  | .aborted reason =>
      ⟨.error, true, "ghul: " ++ reason ++ "; reload the configuration to restart"⟩
  | .blocked => ⟨.info, false, "ghul: compiler disabled by configuration"⟩

def params (report : Report) : Json :=
  .object [("type", .nat report.kind.number), ("message", .string report.message)]

def notices (report : Report) : List Notice :=
  let logged : Notice := ⟨"window/logMessage", report.params⟩
  if report.urgent then [⟨"window/showMessage", report.params⟩, logged] else [logged]

end Report

namespace Notice

/-- The notices of an event.  Diagnostics of a document that is not named by a URL are dropped. -/
def ofEvent : Session.Event -> List Notice
  | .diagnostics uri items =>
      match Url.parse? uri with
      | some url =>
          [⟨"textDocument/publishDiagnostics",
            .object [("uri", .string url.render), ("diagnostics", .ofList putDiagnostic items)]⟩]
      | none => []
  | .lifecycle stage => (Report.ofStage stage).notices

end Notice
end Editor
end LanguageServer
