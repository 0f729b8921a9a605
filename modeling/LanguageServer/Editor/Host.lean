import LanguageServer.Editor.Notice
import LanguageServer.Editor.Server

namespace LanguageServer
namespace Editor

/-!
The host: the server together with its session, where messages come and go as values.

Whether compilers can be launched is up to the surroundings of the program, and handed in.
-/

open Session

structure Host where
  server : Server
  supervisor : Option Supervisor
  nextId : RequestId

namespace Host

def new : Host := ⟨Server.new, none, 0⟩

/-- What goes to the editor unasked. -/
def noticed : List Effect -> List Json
  | [] => []
  | .emit event :: rest =>
      (Notice.ofEvent event).map (fun notice =>
        (Message.mk none notice.method (some notice.params)).toJson) ++ noticed rest
  | _ :: rest => noticed rest

/-- How a request ended, if it did. -/
def outcome? (id : RequestId) : List Effect -> Option Outcome
  | [] => none
  | .settle settlement :: rest =>
      if settlement.id = id then some settlement.outcome else outcome? id rest
  | _ :: rest => outcome? id rest

/-- Hand an order to the session, and collect what comes of it. -/
def obey (host : Host) (launch : Launcher) (now : Instant) (given : Order) :
    List Effect × Host :=
  match host.supervisor with
  | none => ([], host)
  | some supervisor =>
      let next := supervisor.step launch now (.order given)
      (next.outbox, { host with supervisor := some next.drained })

def act (host : Host) (launch : Launcher) (now : Instant) : Action -> List Effect × Host
  | .openSession plan documents =>
      { host with supervisor := some (Supervisor.new plan) }.obey launch now (.start documents)
  | .order given => host.obey launch now given

def actAll (launch : Launcher) (now : Instant) : Host -> List Action -> List Effect × Host
  | host, [] => ([], host)
  | host, action :: rest =>
      let (effects, next) := host.act launch now action
      let (others, last) := actAll launch now next rest
      (effects ++ others, last)

/-- Handle a message: what goes to the editor, and the host afterwards. -/
def handle (host : Host) (launch : Launcher) (now : Instant) (surroundings : Surroundings)
    (message : Message) : List Json × Host :=
  let handling := host.server.handle surroundings message
  let (effects, after) := actAll launch now { host with server := handling.server } handling.actions
  let respond (response : Response) : List Json :=
    (message.id.map (fun id => response.toJson id)).toList
  match handling.reaction with
  | .silent => (noticed effects, after)
  | .respond response => (noticed effects ++ respond response, after)
  | .consult query =>
      let id := after.nextId
      let (consulted, last) := { after with nextId := id + 1 }.obey launch now (.request id query)
      let response := ((outcome? id consulted).map Response.ofOutcome).map respond
      (noticed (effects ++ consulted) ++ response.getD [], last)

/-- Handle a text that came in. -/
def hear (host : Host) (launch : Launcher) (now : Instant) (surroundings : Surroundings)
    (text : String) : List Json × Host :=
  match (Json.parse? text).bind Message.ofJson? with
  | some message => host.handle launch now surroundings message
  | none => ([(Response.refusal .parseError).toJson .null], host)

end Host
end Editor
end LanguageServer
