import LanguageServer.Session.Pipeline
import LanguageServer.Session.Processes

namespace LanguageServer
namespace Session

/-!
The supervisor: runs the pipeline over the life of a session.

It takes orders from the editor's side, signals from the compiler's processes, and the expiry of
the two timers, one at a time.  It launches a compiler, replaces it when it crashes, and stops it
when it hangs.  Whether a launch succeeds is decided outside and handed in as a function.
-/

/-- An order from the editor's side. -/
inductive Order where
  /-- Launch the compiler, again if need be, and load the whole project. -/
  | start (documents : List Document)
  | edit (document : Document) (version : Option Int)
  /-- Send pending edits at once. -/
  | flush
  | request (id : RequestId) (query : Wire.Query)
  /-- Ask the compiler to start its analysis afresh. -/
  | requestRestart
  /-- Launch the compiler anew, by another plan. -/
  | restart (plan : Plan)
  /-- Stop the compiler and end the session. -/
  | shutdown

/-- What a process does. -/
inductive Signal where
  | output (generation : Nat) (chunk : List UInt8)
  | exited (generation : Nat) (status : String)

/-- What the supervisor reacts to. -/
inductive Input where
  | order (given : Order)
  | signal (received : Signal)
  /-- Pending edits are due. -/
  | editTimer
  /-- The compiler made no progress in time. -/
  | watchdogTimer

/-- Whether a compiler can be launched. -/
abbrev Launcher := Plan -> Except LaunchFault Unit

structure Supervisor where
  plan : Plan
  pipeline : Pipeline
  processes : Processes
  /-- The session is over, and takes no more orders. -/
  ended : Bool

namespace Supervisor

def new (plan : Plan) : Supervisor :=
  { plan := plan, pipeline := Pipeline.new plan.timing, processes := Processes.new, ended := false }

/-- What happened since the outbox was last emptied. -/
def outbox (supervisor : Supervisor) : List Effect := supervisor.pipeline.outbox

def drained (supervisor : Supervisor) : Supervisor :=
  { supervisor with pipeline := supervisor.pipeline.drained }

/-- Kill the live process, if there is one. -/
def killCompiler (supervisor : Supervisor) : Supervisor :=
  { supervisor with
    pipeline := supervisor.pipeline.perform (supervisor.processes.current.toList.map .kill)
    processes := supervisor.processes.stop }

/-- Stop a running compiler. -/
def stopCompiler (supervisor : Supervisor) : Supervisor :=
  if supervisor.processes.isRunning then
    let killed := supervisor.killCompiler
    { killed with pipeline := killed.pipeline.stopped }
  else supervisor

/-- The session breaks down: nobody that waits will be answered. -/
def breakDown (supervisor : Supervisor) : Supervisor :=
  let killed := supervisor.killCompiler
  { killed with ended := true, pipeline := killed.pipeline.rejectAll .closed }

/-- A compiler was launched.  If the clock has no room for the countdown of the watchdog, the
session cannot go on. -/
def attach (supervisor : Supervisor) (now : Instant) : Supervisor :=
  if supervisor.pipeline.watchdog.canArm now then
    { supervisor with pipeline := supervisor.pipeline.attach now }
  else supervisor.breakDown

/-- Launch a compiler, unless the plan forbids it. -/
def spawnCompiler (supervisor : Supervisor) (launch : Launcher) (now : Instant) : Supervisor :=
  if supervisor.plan.compiler.block then
    { supervisor with pipeline := supervisor.pipeline.block }
  else
    let cleared := { supervisor with pipeline := supervisor.pipeline.starting }.killCompiler
    let begun := cleared.processes.beginLaunch
    match launch supervisor.plan with
    | .ok () =>
        { cleared with
          processes := begun.launched
          pipeline := cleared.pipeline.perform
            [.launch begun.generation supervisor.plan] }.attach now
    | .error fault =>
        { cleared with
          processes := begun
          pipeline := cleared.pipeline.spawnFailed fault.message }

/-- A request cannot be put into words, and the session breaks down. -/
def choke (supervisor : Supervisor) (id : RequestId) : Supervisor :=
  let broken := supervisor.breakDown
  { broken with pipeline := broken.pipeline.perform [.settle ⟨id, .error .closed⟩] }

/-- Carry out an order. -/
def obey (supervisor : Supervisor) (launch : Launcher) (now : Instant) : Order -> Supervisor
  | .start documents =>
      let stopped := supervisor.stopCompiler
      { stopped with pipeline := stopped.pipeline.load documents now }.spawnCompiler launch now
  | .edit document version =>
      { supervisor with pipeline := (supervisor.pipeline.edit document version now).1 }
  | .flush => { supervisor with pipeline := supervisor.pipeline.flush now }
  | .request id query =>
      match supervisor.pipeline.submit? id query now with
      | some pipeline => { supervisor with pipeline := pipeline }
      | none => supervisor.choke id
  | .requestRestart => { supervisor with pipeline := supervisor.pipeline.requestRestart }
  | .restart plan =>
      ({ supervisor with
        plan := plan
        pipeline := supervisor.pipeline.applyTiming plan.timing }.stopCompiler).spawnCompiler
        launch now
  | .shutdown => { supervisor.stopCompiler with ended := true }

/-- React to a process.  Output counts only when it comes from the live process, and only a crash
of the live process has another one launched. -/
def hear (supervisor : Supervisor) (launch : Launcher) (now : Instant) : Signal -> Supervisor
  | .output generation chunk =>
      if supervisor.processes.isCurrent generation then
        { supervisor with pipeline := supervisor.pipeline.handleChunk chunk now }
      else supervisor
  | .exited generation status =>
      match supervisor.processes.classifyExit generation with
      | (.expected, processes) => { supervisor with processes := processes }
      | (.unexpected, processes) =>
          { supervisor with
            processes := processes
            pipeline := supervisor.pipeline.recover status }.spawnCompiler launch now

/-- Give up a compiler that makes no progress. -/
def giveUp (supervisor : Supervisor) : Supervisor :=
  { supervisor with pipeline := supervisor.pipeline.watchdogExpired }.killCompiler

/-- An order that comes too late: a request among them is told so. -/
def decline (supervisor : Supervisor) : Order -> Supervisor
  | .request id _ =>
      { supervisor with
        pipeline := supervisor.pipeline.perform [.settle ⟨id, .error .closed⟩] }
  | _ => supervisor

/-- One turn. -/
def step (launch : Launcher) (now : Instant) (supervisor : Supervisor) (input : Input) :
    Supervisor :=
  if supervisor.ended then
    match input with
    | .order given => supervisor.decline given
    | _ => supervisor
  else
    match input with
    | .order given => supervisor.obey launch now given
    | .signal received => supervisor.hear launch now received
    | .editTimer => { supervisor with pipeline := supervisor.pipeline.flush now }
    | .watchdogTimer => supervisor.giveUp

/-- The earliest moment at which a timer expires, and which one it is. -/
def nextTimer? (supervisor : Supervisor) : Option (Instant × Input) :=
  if supervisor.ended then none
  else
    match supervisor.pipeline.editDeadline, supervisor.pipeline.watchdogDeadline with
    | none, none => none
    | some edits, none => some (edits, .editTimer)
    | none, some patience => some (patience, .watchdogTimer)
    | some edits, some patience =>
        if edits ≤ patience then some (edits, .editTimer) else some (patience, .watchdogTimer)

end Supervisor
end Session
end LanguageServer
