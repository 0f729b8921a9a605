import LanguageServer.Text.Elapsed

namespace LanguageServer
namespace Session

/-!
The watchdog: notices a compiler that makes no progress.  Like the edit queue it runs no timer,
and only knows when it would bark.
-/

structure Watchdog where
  timeout : Span
  deadline : Option Instant
deriving DecidableEq, Repr, Inhabited

namespace Watchdog

def new (timeout : Span) : Watchdog := ⟨timeout, none⟩

/-- Clocks count their seconds in 63 bits. -/
def clockLimit : Instant := Span.ofSeconds (Nat.pow 2 63)

/-- A countdown from this moment ends before the clock does. -/
def canArm (watchdog : Watchdog) (now : Instant) : Bool :=
  now + watchdog.timeout < clockLimit

/-- Start the countdown, or start it again. -/
def arm (watchdog : Watchdog) (now : Instant) : Watchdog :=
  { watchdog with deadline := some (now + watchdog.timeout) }

/-- Start the countdown unless it is running. -/
def armIfIdle (watchdog : Watchdog) (now : Instant) : Watchdog :=
  if watchdog.deadline.isNone then watchdog.arm now else watchdog

def disarm (watchdog : Watchdog) : Watchdog :=
  { watchdog with deadline := none }

/-- Change the length of the countdowns to come. -/
def setTimeout (watchdog : Watchdog) (timeout : Span) : Watchdog :=
  { watchdog with timeout := timeout }

end Watchdog
end Session
end LanguageServer
