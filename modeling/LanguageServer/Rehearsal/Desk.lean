import LanguageServer.Editor.Notice
import LanguageServer.Editor.Server
import LanguageServer.Editor.Transport
import LanguageServer.Rehearsal.Stage

namespace LanguageServer
namespace Rehearsal

open Editor

/-!
The desk: an editor at work with the server, over a scripted compiler.

Each message is handled to its end before the next one is sent.  The notices for the editor pile up
until somebody looks at them.
-/

structure Desk where
  surroundings : Surroundings
  /-- The command that launches the scripted compiler. -/
  scripted : String
  script : Script
  server : Server
  /-- The latest session. -/
  stage : Option Stage

namespace Desk

def new (surroundings : Surroundings) (scripted : String) (script : Script) : Desk :=
  ⟨surroundings, scripted, script, Server.new, none⟩

/-- The desk once the server has opened its log. -/
def withLog (desk : Desk) : Desk :=
  { desk with surroundings := { desk.surroundings with tree := desk.surroundings.logged } }

/-- The status that the server leaves with when its input ends.  Nothing that it was told makes it
fail. -/
def exitStatus (_desk : Desk) : Nat := 0

def venue (desk : Desk) : Venue :=
  ⟨desk.scripted, [], desk.surroundings.tree.obstacle?⟩

/-- A session takes the place of the one before, which is ended.  What was launched, logged and
reported stays on record. -/
def openStage (desk : Desk) (plan : Session.Plan) : Stage :=
  let fresh := Stage.new desk.venue desk.script plan
  match desk.stage with
  | none => fresh
  | some earlier =>
      let finished := earlier.order .shutdown
      { fresh with
        now := finished.now
        launches := finished.launches
        events := finished.events
        log := finished.log }

def act (desk : Desk) : Action -> Desk
  | .openSession plan documents =>
      { desk with stage := some ((desk.openStage plan).order (.start documents)) }
  | .order given => { desk with stage := desk.stage.map (fun stage => stage.order given) }

/-- Send a message and wait for the response, if there is to be one. -/
def send (desk : Desk) (message : Message) : Option Response × Desk :=
  let handling := desk.server.handle desk.surroundings message
  let after := handling.actions.foldl act { desk with server := handling.server }
  match handling.reaction with
  | .silent => (none, after)
  | .respond response => (some response, after)
  | .consult query =>
      match after.stage with
      | none => (none, after)
      | some stage =>
          let (outcomes, later) := stage.askAll [query]
          ((outcomes.head?.getD none).map Response.ofOutcome, { after with stage := some later })

/-- Send the messages in a stream of bytes; the responses come as a stream of bytes. -/
def sendBytes (desk : Desk) (stream : List UInt8) : List UInt8 × Desk :=
  (Transport.readAll stream.length stream).1.foldl (fun (written, desk) text =>
    match (Json.parse? text).bind Message.ofJson? with
    | none =>
        let refusal := (Response.refusal .parseError).toJson .null
        (written ++ Transport.encode refusal.print, desk)
    | some message =>
        match message.id, desk.send message with
        | some id, (some response, next) =>
            (written ++ Transport.encode (response.toJson id).print, next)
        | _, (_, next) => (written, next)) ([], desk)

/-- Send a message over the transport. -/
def transmit (desk : Desk) (message : Message) : Option Response × Desk :=
  let (written, next) := desk.sendBytes (Transport.encode message.toJson.print)
  let response := (Transport.readAll written.length written).1.findSome? (fun text =>
    (Json.parse? text).bind Response.ofJson?)
  (response.map Prod.snd, next)

/-- Look at the notices, up to the one that logs the wanted text for the given time. -/
def await (desk : Desk) (wanted : String) (count : Nat) : List Notice × Desk :=
  match desk.stage with
  | none => ([], desk)
  | some stage =>
      let ((events, _), later) :=
        stage.await (fun reached => (Report.ofStage reached).message = wanted) count
      (events.flatMap Notice.ofEvent, { desk with stage := some later })

/-- What the compiler got to see. -/
def log (desk : Desk) : List LogEntry := (desk.stage.map Stage.log).getD []

end Desk
end Rehearsal
end LanguageServer
