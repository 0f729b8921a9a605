namespace LanguageServer
namespace Session

/-!
Bookkeeping of compiler processes.

At most one process is live.  Every attempt to launch one takes the next generation, so that what
arrives late from an earlier process can be told from what the live one does.  When the exit of a
process arrives, it was expected if the process was stopped or replaced, and is a crash if it is
the live one and nobody asked for it.
-/

structure Processes where
  /-- The generation of the live process. -/
  current : Option Nat
  /-- The generation of the latest launch. -/
  generation : Nat
  /-- A process was stopped, and its exit has not arrived. -/
  expectingExit : Bool
deriving DecidableEq, Repr, Inhabited

/-- What an exit means. -/
inductive Disposition where
  | expected
  | unexpected
deriving DecidableEq, Repr, Inhabited

namespace Processes

def new : Processes := ⟨none, 0, false⟩

def isRunning (processes : Processes) : Bool := processes.current.isSome

def isCurrent (processes : Processes) (generation : Nat) : Bool :=
  processes.current = some generation

/-- Stop the live process, if there is one. -/
def stop (processes : Processes) : Processes :=
  if processes.isRunning then { processes with current := none, expectingExit := true }
  else processes

/-- Begin a launch: nothing is live, and the next generation is taken. -/
def beginLaunch (processes : Processes) : Processes :=
  { processes.stop with generation := processes.generation + 1 }

/-- The launch that was begun succeeded. -/
def launched (processes : Processes) : Processes :=
  { processes with current := some processes.generation }

/-- The exit of a process arrived. -/
def classifyExit (processes : Processes) (generation : Nat) : Disposition × Processes :=
  if processes.isCurrent generation then
    (if processes.expectingExit then .expected else .unexpected,
      { processes with current := none, expectingExit := false })
  else (.expected, { processes with expectingExit := false })

end Processes
end Session
end LanguageServer
