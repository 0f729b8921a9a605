import LanguageServer.Session.Plan
import LanguageServer.Settings.Environment
import LanguageServer.Settings.Toml.Parser
import LanguageServer.Text.Utf8

namespace LanguageServer

/-!
Settings: what a settings file says, or the defaults where it says nothing.

Every section and every member may be missing, and members that are not known are passed over.  A
section may also be written as a list of its members in their order.
-/

/-- The settings of a workspace. -/
structure Settings where
  compiler : Session.CompilerPlan
  /-- Patterns that name the sources, relative to the workspace. -/
  globs : List String
  /-- How long to wait for more edits, in milliseconds. -/
  editDebounce : Nat
  /-- How long to wait for signs of life, in seconds. -/
  watchdog : Nat
  /-- Where to write the log. -/
  logFile : Option String
deriving DecidableEq, Repr, Inhabited

namespace Settings

def default : Settings :=
  { compiler := Session.CompilerPlan.default
    globs := ["**/*.ghul"]
    editDebounce := 100
    watchdog := 120
    logFile := none }

/-- The members of a section, in the order of their names.  A date counts as an empty section. -/
def section? (names : List String) : Option Toml -> Option (List (Option Toml))
  | none => some (names.map (fun _ => none))
  | some (.table members) =>
      let unknown := members.filter (fun member => !names.contains member.1)
      if Toml.areMembersReadable unknown then some (names.map (Toml.member? members)) else none
  | some (.array elements) =>
      some ((List.range names.length).map (fun index => elements[index]?))
  | some .date => some (names.map (fun _ => none))
  | some _ => none

def text? (fallback : String) : Option Toml -> Option String
  | none => some fallback
  | some (.string text) => some text
  | some _ => none

def optionalText? : Option Toml -> Option (Option String)
  | none => some none
  | some (.string text) => some (some text)
  | some _ => none

def flag? (fallback : Bool) : Option Toml -> Option Bool
  | none => some fallback
  | some (.boolean value) => some value
  | some _ => none

/-- A number of 64 bits. -/
def number? (fallback : Nat) : Option Toml -> Option Nat
  | none => some fallback
  | some (.integer (.ofNat value)) => if value < Nat.pow 2 64 then some value else none
  | some _ => none

def texts? (fallback : List String) : Option Toml -> Option (List String)
  | none => some fallback
  | some (.array elements) => elements.mapM (fun element => text? "" (some element))
  | some _ => none

def compiler? (value : Option Toml) : Option Session.CompilerPlan := do
  let standard := Session.CompilerPlan.default
  match <- section? ["command", "args", "analyse_args", "block"] value with
  | [command, args, analyseArgs, block] =>
      let command <- text? standard.command command
      let args <- texts? standard.args args
      let analyseArgs <- texts? standard.analyseArgs analyseArgs
      let block <- flag? standard.block block
      some ⟨command, args, analyseArgs, block⟩
  | _ => none

/-- The settings that the table of a file denotes. -/
def ofTable? (members : List (String × Toml)) : Option Settings := do
  match <- section? ["compiler", "sources", "timing", "log"] (some (.table members)) with
  | [compiler, sources, timing, log] =>
      let compiler <- compiler? compiler
      let sources <- section? ["globs"] sources
      let globs <- texts? default.globs (sources.head?.getD none)
      let timing <- section? ["edit_debounce_ms", "watchdog_secs"] timing
      let editDebounce <- number? default.editDebounce (timing.head?.getD none)
      let watchdog <- number? default.watchdog (timing.getLast?.getD none)
      let log <- section? ["file"] log
      let logFile <- optionalText? (log.head?.getD none)
      some ⟨compiler, globs, editDebounce, watchdog, logFile⟩
  | _ => none

/-- Why a settings file cannot be used. -/
inductive Fault where
  | read (path reason : String)
  | malformed (path : String)
deriving DecidableEq, Repr, Inhabited

/-- What went wrong when a file could not be read. -/
def Fault.message : Fault -> String
  | .read path reason => "failed to read " ++ path ++ ": " ++ reason
  | .malformed path => "failed to parse " ++ path

/-- The settings in the contents of a file. -/
def parse (path : String) (contents : List UInt8) : Except Fault Settings :=
  match Text.Utf8.decode? contents with
  | none => .error (.read path "stream did not contain valid UTF-8")
  | some text =>
      match (Toml.parse? text).bind ofTable? with
      | some settings => .ok settings
      | none => .error (.malformed path)

/-- The plan of a session, with the references to environment variables replaced. -/
def plan (settings : Settings) (environment : Environment) (workspace : Files.Path) :
    Session.Plan :=
  { compiler :=
      { command := expand environment settings.compiler.command
        args := settings.compiler.args.map (expand environment)
        analyseArgs := settings.compiler.analyseArgs.map (expand environment)
        block := settings.compiler.block }
    workspace := workspace
    timing := ⟨Span.ofMilliseconds settings.editDebounce, Span.ofSeconds settings.watchdog⟩ }

end Settings
end LanguageServer
