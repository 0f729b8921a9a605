import LanguageServer.Files.Tree
import LanguageServer.Rehearsal.Script
import LanguageServer.Session.Supervisor
import LanguageServer.Wire.ResponseFile

namespace LanguageServer
namespace Rehearsal

open Session

/-!
The stage: a whole session with a scripted compiler and a clock of its own.

The clock stands still while anything can happen, so a session takes the same course every time.
Signals of processes are delivered in the order in which they arose.  Time passes only when
somebody waits and nothing else is left to happen: then the clock jumps to the next timer.
-/

/-- What a scripted compiler got to see. -/
inductive LogEntry where
  /-- A process was launched with this response file. -/
  | run (number : Nat) (responseFile : String)
  | received (parcel : Wire.Parcel)
deriving DecidableEq, Repr, Inhabited

/-- Where programs are looked for. -/
structure Venue where
  /-- The command that launches the scripted compiler. -/
  scripted : String
  /-- Other programs on the search path. -/
  programs : List String
  /-- Why a process cannot work in a directory. -/
  obstacle? : Files.Path -> Option Files.PathFault

namespace Venue

/-- Launching works for programs that are there, in directories that are there.  A zero byte cannot
be handed over to a process. -/
def launch (venue : Venue) : Launcher := fun plan =>
  let command := plan.compiler.command
  let hasZero (text : String) : Bool := text.toList.contains (Char.ofNat 0)
  if command = venue.scripted ∨ command ∈ venue.programs then
    if plan.compiler.args.any hasZero || plan.workspace.contains 0 then
      .error (.refused command "nul byte found in provided data")
    else
      match venue.obstacle? plan.workspace with
      | none => .ok ()
      | some fault => .error (.refused command fault.message)
  else .error (.notFound command)

end Venue

structure Stage where
  venue : Venue
  script : Script
  now : Instant
  supervisor : Supervisor
  /-- How many processes were launched. -/
  launches : Nat
  performer : Option Performer
  /-- Signals that are not delivered yet. -/
  signals : List Signal
  /-- Events that nobody has waited for yet. -/
  events : List Event
  settled : List Settlement
  log : List LogEntry
  nextId : RequestId

namespace Stage

/-- The clock has been running for a day when the session begins. -/
def dawn : Instant := Span.ofSeconds 86400

def new (venue : Venue) (script : Script) (plan : Plan) : Stage :=
  { venue := venue, script := script, now := dawn, supervisor := Supervisor.new plan, launches := 0,
    performer := none, signals := [], events := [], settled := [], log := [], nextId := 0 }

/-- The session is over. -/
def ended (stage : Stage) : Bool := stage.supervisor.ended

/-- A process follows a cue. -/
def follow (stage : Stage) (performer : Performer) (cue : Cue) : Stage :=
  let written := if cue.output.isEmpty then [] else [.output performer.generation cue.output]
  match cue.ending with
  | none =>
      { stage with performer := some performer, signals := stage.signals ++ written }
  | some ending =>
      { stage with
        performer := none
        signals := stage.signals ++ written ++ [.exited performer.generation ending.status] }

/-- A parcel reaches the process, if it is still alive. -/
def deliver (stage : Stage) (parcel : Wire.Parcel) : Stage :=
  match stage.performer with
  | none => stage
  | some performer =>
      let (cue, rest) := performer.cue parcel.command
      { stage with log := stage.log ++ [LogEntry.received parcel] }.follow rest cue

/-- A text is written to the process; what comes after its end is lost. -/
def receive (stage : Stage) (text : String) : Stage :=
  match stage.performer with
  | none => stage
  | some performer =>
      let unread := performer.unread ++ text.toList
      let (parcels, left) := Wire.Parcel.readAll unread.length unread
      parcels.foldl deliver { stage with performer := some { performer with unread := left } }

/-- A process is launched. -/
def raise (stage : Stage) (generation : Nat) (plan : Plan) : Stage :=
  let run := stage.script.run stage.launches
  let contents := Wire.ResponseFile.contents plan.compiler.analyseArgs
  { stage with
    launches := stage.launches + 1
    log := stage.log ++ [LogEntry.run stage.launches contents] }.follow
      ⟨generation, [], run.cues⟩ run.greeting

/-- A process is killed; one that has ended by itself is gone already. -/
def fell (stage : Stage) (generation : Nat) : Stage :=
  match stage.performer with
  | some performer =>
      if performer.generation = generation then
        { stage with
          performer := none
          signals := stage.signals ++ [.exited generation Ending.killed.status] }
      else stage
  | none => stage

/-- Let an effect of the session take place. -/
def enact (stage : Stage) : Effect -> Stage
  | .write text => stage.receive text
  | .emit event => { stage with events := stage.events ++ [event] }
  | .settle settlement => { stage with settled := stage.settled ++ [settlement] }
  | .launch generation plan => stage.raise generation plan
  | .kill generation => stage.fell generation

/-- Hand an input to the supervisor and enact what it does. -/
def take (stage : Stage) (input : Input) : Stage :=
  let next := stage.supervisor.step stage.venue.launch stage.now input
  next.outbox.foldl enact { stage with supervisor := next.drained }

/-- Deliver signals until there are none, or the fuel is spent. -/
def settle : Nat -> Stage -> Stage
  | 0, stage => stage
  | fuel + 1, stage =>
      match stage.signals with
      | [] => stage
      | signal :: rest => settle fuel ({ stage with signals := rest }.take (.signal signal))

/-- How many signals are delivered in a row: enough for every script that comes to rest. -/
def endurance : Nat := 400

def rest (stage : Stage) : Stage := settle endurance stage

/-- Give an order and let everything that follows from it happen. -/
def order (stage : Stage) (given : Order) : Stage :=
  (stage.take (.order given)).rest

/-- Give an order as a caller does, who is told whether it was taken.  Nobody takes orders once the
session is over. -/
def call (stage : Stage) (given : Order) : Except Failure Unit × Stage :=
  if stage.ended then (.error .closed, stage) else (.ok (), stage.order given)

/-- Make a request without waiting for it. -/
def ask (stage : Stage) (query : Wire.Query) : RequestId × Stage :=
  let id := stage.nextId
  (id, { stage with nextId := id + 1 }.take (.order (.request id query)))

/-- How a request ended, if it did. -/
def outcome? (stage : Stage) (id : RequestId) : Option Outcome :=
  (stage.settled.find? (fun settlement => settlement.id = id)).map Settlement.outcome

/-- Let the clock jump to the next timer. -/
def elapse? (stage : Stage) : Option Stage :=
  stage.supervisor.nextTimer?.map (fun (due, input) =>
    ({ stage with now := max stage.now due }.take input).rest)

/-- Let things happen, and time pass if need be, until a condition holds. -/
def waitUntil (holds : Stage -> Bool) : Nat -> Stage -> Stage
  | 0, stage => stage
  | fuel + 1, stage =>
      if holds stage then stage
      else
        match stage.elapse? with
        | some later => waitUntil holds fuel later
        | none => stage

/-- How many timers somebody waits for. -/
def persistence : Nat := 100

/-- Make requests in order, then wait for all of them. -/
def askAll (stage : Stage) (queries : List Wire.Query) : List (Option Outcome) × Stage :=
  let (ids, asked) := queries.foldl (fun (ids, stage) query =>
    let (id, next) := ask stage query
    (ids ++ [id], next)) ([], stage)
  let done := waitUntil (fun stage => ids.all (fun id => (stage.outcome? id).isSome))
    persistence asked.rest
  (ids.map done.outcome?, done)

/-- Wait for a number of lifecycle events of one kind, and take the events up to the last of
them.  The flag tells that the session ended first. -/
def await (wanted : Lifecycle -> Bool) (count : Nat) (stage : Stage) :
    (List Event × Bool) × Stage :=
  let isWanted : Event -> Bool
    | .lifecycle stage => wanted stage
    | .diagnostics .. => false
  let enough (stage : Stage) : Bool := count ≤ stage.events.countP isWanted
  let done := waitUntil enough persistence stage
  let rec upTo : Nat -> List Event -> List Event × List Event
    | 0, events => ([], events)
    | _, [] => ([], [])
    | missing + 1, event :: rest =>
        let (taken, left) := upTo (if isWanted event then missing else missing + 1) rest
        (event :: taken, left)
  let (taken, left) := upTo count done.events
  ((taken, !enough done && done.ended), { done with events := left })

end Stage
end Rehearsal
end LanguageServer
