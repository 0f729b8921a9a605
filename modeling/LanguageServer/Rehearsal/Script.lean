import LanguageServer.Text.Utf8
import LanguageServer.Wire.Receiver

namespace LanguageServer
namespace Rehearsal

/-!
Scripts: compilers that say what they are told to.

A script has one run for each process that is launched, and the last run serves all later ones.
A run has a greeting, and for each command a list of cues.  Every parcel that arrives is answered
by the next cue of its command; the last cue repeats, and a command without cues is not answered.
-/

/-- How a process ends. -/
inductive Ending where
  | exit (code : Nat)
  | killed
deriving DecidableEq, Repr, Inhabited

namespace Ending

/-- The status that is reported for an ended process. -/
def status : Ending -> String
  | .exit code => "exit status: " ++ Text.decimal code
  | .killed => "signal: 9 (SIGKILL)"

end Ending

/-- What a process does on a cue: it writes, and may end. -/
structure Cue where
  output : List UInt8
  ending : Option Ending
deriving DecidableEq, Repr, Inhabited

/-- What one process does. -/
structure Run where
  greeting : Cue
  cues : List (String × List Cue)
deriving DecidableEq, Repr, Inhabited

structure Script where
  runs : List Run
deriving DecidableEq, Repr, Inhabited

namespace Script

/-- The run of the process with that number. -/
def run (script : Script) (number : Nat) : Run :=
  match script.runs[number]? with
  | some run => run
  | none => script.runs.getLast?.getD ⟨⟨[], none⟩, []⟩

end Script

/-- A scripted process that is alive. -/
structure Performer where
  generation : Nat
  unread : List Char
  cues : List (String × List Cue)
deriving DecidableEq, Repr, Inhabited

namespace Performer

/-- Use up a cue; the last one stays. -/
def usedUp : List Cue -> List Cue
  | _ :: second :: rest => second :: rest
  | few => few

/-- The cue for a command, and the cues for later. -/
def cue (performer : Performer) (command : String) : Cue × Performer :=
  match performer.cues.lookup command with
  | some (first :: rest) =>
      (first, { performer with
        cues := performer.cues.map (fun entry =>
          if entry.1 = command then (entry.1, usedUp (first :: rest)) else entry) })
  | _ => (⟨[], none⟩, performer)

end Performer
end Rehearsal
end LanguageServer
