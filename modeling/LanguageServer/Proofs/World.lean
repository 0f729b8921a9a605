import LanguageServer.Proofs.Contact
import LanguageServer.Session.Supervisor

namespace LanguageServer
namespace Session

/-!
# A session and its compilers

The supervisor does not see the compilers.  It launches and kills processes, and hears of their
output and of their exits through signals, later and in the order in which they arose.  The world
below has both sides: the supervisor, the process that really runs, and the signals on their way.

Nothing is assumed about the order of events.  A process may print and exit at any time, whether a
launch succeeds is decided anew each time, and the supervisor may turn to an order, to a timer that
is due or to the oldest signal.  Output may even arrive after the exit of its process.  Only one
thing is certain: killing a process waits for its exit, so that its exit is signalled before
anything that a later process does.

The outbox of the supervisor is never emptied here.  It is the history of the session.
-/

namespace Signal

/-- The exits among some signals. -/
def exits (signals : List Signal) : List Nat :=
  signals.filterMap (fun signal =>
    match signal with
    | .exited generation _ => some generation
    | .output .. => none)

/-- The output of one process among some signals. -/
def outputs (generation : Nat) (signals : List Signal) : List UInt8 :=
  signals.flatMap (fun signal =>
    match signal with
    | .output source chunk => if source = generation then chunk else []
    | .exited .. => [])

@[simp] theorem exits_append (earlier later : List Signal) :
    exits (earlier ++ later) = exits earlier ++ exits later :=
  List.filterMap_append

@[simp] theorem exits_exited (generation : Nat) (status : String) (rest : List Signal) :
    exits (.exited generation status :: rest) = generation :: exits rest := rfl

@[simp] theorem exits_output (generation : Nat) (chunk : List UInt8) (rest : List Signal) :
    exits (.output generation chunk :: rest) = exits rest := rfl

@[simp] theorem exits_nil : exits [] = [] := rfl

@[simp] theorem outputs_append (generation : Nat) (earlier later : List Signal) :
    outputs generation (earlier ++ later) =
      outputs generation earlier ++ outputs generation later :=
  List.flatMap_append

@[simp] theorem outputs_exited (generation source : Nat) (status : String) (rest : List Signal) :
    outputs generation (.exited source status :: rest) = outputs generation rest := rfl

@[simp] theorem outputs_output (generation source : Nat) (chunk : List UInt8)
    (rest : List Signal) :
    outputs generation (.output source chunk :: rest) =
      (if source = generation then chunk else []) ++ outputs generation rest := rfl

@[simp] theorem outputs_nil (generation : Nat) : outputs generation [] = [] := rfl

end Signal

/-- What is given from outside when something happens. -/
structure Circumstances where
  now : Instant
  launcher : Launcher
  /-- The status with which a process exits when it is killed. -/
  killed : String

/-- What can happen next. -/
inductive Happening where
  | order (given : Order)
  /-- The supervisor hears the oldest signal. -/
  | hear
  | editTimer
  | watchdogTimer
  /-- A process that was launched some time ago prints. -/
  | print (generation : Nat) (chunk : List UInt8)
  /-- The process that runs exits by itself. -/
  | exit (status : String)

structure World where
  supervisor : Supervisor
  /-- The process that runs. -/
  running : Option Nat
  /-- What processes did and the supervisor has not heard, the oldest first. -/
  signals : List Signal
  /-- Everything that was printed, and by which process. -/
  printed : List (Nat × List UInt8)
  /-- The edits that the pipeline accepted, in order. -/
  accepted : List Document
  /-- The documents that were given to load, in order. -/
  loaded : List Document

namespace World

def new (plan : Plan) : World :=
  { supervisor := Supervisor.new plan, running := none, signals := [], printed := [],
    accepted := [], loaded := [] }

/-- Everything that a process has printed. -/
def speech (world : World) (generation : Nat) : List UInt8 :=
  (world.printed.filter (fun entry => entry.1 = generation)).flatMap Prod.snd

/-- Let an effect of the supervisor take place.  A process that has exited cannot be killed. -/
def enact (status : String) (world : World) : Effect -> World
  | .launch generation _ => { world with running := some generation }
  | .kill generation =>
      if world.running = some generation then
        { world with running := none, signals := world.signals ++ [.exited generation status] }
      else world
  | .write _ | .emit _ | .settle _ => world

/-- The supervisor has come so far; what it did on the way takes place. -/
def adopt (status : String) (world : World) (next : Supervisor) : World :=
  (next.outbox.drop world.supervisor.outbox.length).foldl (enact status)
    { world with supervisor := next }

/-- Keep account of the documents in an order. -/
def note (world : World) (now : Instant) : Order -> World
  | .start documents => { world with loaded := world.loaded ++ documents }
  | .edit document version =>
      let verdict := (world.supervisor.pipeline.edit document version now).2
      { world with accepted := world.accepted ++ if verdict.isNone then [document] else [] }
  | .flush | .request .. | .requestRestart | .restart _ | .shutdown => world

/-- The supervisor reacts to an input. -/
def react (world : World) (around : Circumstances) (input : Input) : World :=
  world.adopt around.killed (world.supervisor.step around.launcher around.now input)

/-- A deadline has passed. -/
def isDue (deadline : Option Instant) (now : Instant) : Bool :=
  deadline.any (fun due => due ≤ now)

theorem isDue_iff {deadline : Option Instant} {now : Instant} :
    isDue deadline now = true ↔ exists due, deadline = some due ∧ due ≤ now := by
  cases deadline with
  | none => simp [isDue]
  | some due => simp [isDue]

/-- Something happens, if it can.  A session that has ended takes note of nothing. -/
def take? (world : World) (around : Circumstances) : Happening -> Option World
  | .order given =>
      let noted := if world.supervisor.ended then world else world.note around.now given
      some (noted.react around (.order given))
  | .hear =>
      match world.signals with
      | [] => none
      | oldest :: rest => some ({ world with signals := rest }.react around (.signal oldest))
  | .editTimer =>
      if isDue world.supervisor.pipeline.editDeadline around.now then
        some (world.react around .editTimer)
      else none
  | .watchdogTimer =>
      if isDue world.supervisor.pipeline.watchdogDeadline around.now then
        some (world.react around .watchdogTimer)
      else none
  | .print generation chunk =>
      if generation ≤ world.supervisor.processes.generation then
        some { world with
          printed := world.printed ++ [(generation, chunk)]
          signals := world.signals ++ [.output generation chunk] }
      else none
  | .exit status =>
      world.running.map (fun generation =>
        { world with
          running := none, signals := world.signals ++ [.exited generation status] })

/-- One thing happens after the other. -/
def run? (world : World) (course : List (Circumstances × Happening)) : Option World :=
  course.foldlM (fun world moment => world.take? moment.1 moment.2) world

theorem run?_cons {world : World} {around : Circumstances} {happening : Happening}
    {rest : List (Circumstances × Happening)} {last : World}
    (ran : world.run? ((around, happening) :: rest) = some last) :
    exists next, world.take? around happening = some next ∧ next.run? rest = some last := by
  rw [run?, List.foldlM_cons] at ran
  exact Option.bind_eq_some_iff.mp ran

theorem run?_append {first last : World} {earlier later : List (Circumstances × Happening)} :
    first.run? (earlier ++ later) = some last ↔
      exists reached, first.run? earlier = some reached ∧ reached.run? later = some last := by
  rw [run?, List.foldlM_append]
  exact Option.bind_eq_some_iff

theorem run?_singleton (world : World) (around : Circumstances) (happening : Happening) :
    world.run? [(around, happening)] = world.take? around happening := by
  rw [run?, List.foldlM_cons]
  cases world.take? around happening <;> rfl

/-- Either the supervisor takes a turn, or a process does something. -/
theorem take?_cases {motive : World -> Prop} {world next : World} {around : Circumstances}
    {happening : Happening} (taken : world.take? around happening = some next)
    (order : forall given,
      motive ((if world.supervisor.ended then world else world.note around.now given).react around
        (.order given)))
    (hear : forall oldest rest, world.signals = oldest :: rest ->
      motive ({ world with signals := rest }.react around (.signal oldest)))
    (editTimer : motive (world.react around .editTimer))
    (watchdogTimer : motive (world.react around .watchdogTimer))
    (print : forall generation chunk, generation ≤ world.supervisor.processes.generation ->
      motive { world with
        printed := world.printed ++ [(generation, chunk)]
        signals := world.signals ++ [.output generation chunk] })
    (exit : forall generation status, world.running = some generation ->
      motive { world with
        running := none, signals := world.signals ++ [.exited generation status] }) :
    motive next := by
  cases happening with
  | order given =>
      rw [take?] at taken
      cases taken
      exact order given
  | hear =>
      rw [take?] at taken
      split at taken
      next => exact nomatch taken
      next oldest rest signals =>
        cases taken
        exact hear oldest rest signals
  | editTimer =>
      rw [take?, Option.ite_none_right_eq_some] at taken
      rw [← Option.some.inj taken.2]
      exact editTimer
  | watchdogTimer =>
      rw [take?, Option.ite_none_right_eq_some] at taken
      rw [← Option.some.inj taken.2]
      exact watchdogTimer
  | print generation chunk =>
      rw [take?, Option.ite_none_right_eq_some] at taken
      rw [← Option.some.inj taken.2]
      exact print generation chunk taken.1
  | exit status =>
      rw [take?, Option.map_eq_some_iff] at taken
      rcases taken with ⟨generation, runs, same⟩
      rw [← same]
      exact exit generation status runs

end World

/-! ## Processes as the supervisor sees them and as they are -/

theorem Processes.stop_current (processes : Processes) : processes.stop.current = none := by
  rw [Processes.stop]
  cases live : processes.current <;> simp [Processes.isRunning, live]

theorem Processes.stop_generation (processes : Processes) :
    processes.stop.generation = processes.generation := by
  rw [Processes.stop]
  split <;> rfl

/-- The books on processes agree with the process that runs and with the exits on their way. -/
structure Tracked (processes : Processes) (running : Option Nat) (exits : List Nat) : Prop where
  known : forall generation, running = some generation -> processes.current = some generation
  latest : forall generation, processes.current = some generation ->
    generation = processes.generation
  /-- The live process runs, or its exit is on its way. -/
  present : forall generation, processes.current = some generation ->
    running = some generation ∨ generation ∈ exits
  ascending : exits.Pairwise (fun earlier later => earlier < later)
  bounded : forall generation, generation ∈ exits -> generation ≤ processes.generation
  gone : forall generation, generation ∈ exits -> running ≠ some generation
  /-- An exit is expected only while the exit of another process is on its way. -/
  expecting : processes.expectingExit = true ->
    exists generation, generation ∈ exits ∧ processes.current ≠ some generation

namespace Tracked

variable {processes : Processes} {running : Option Nat} {exits : List Nat}

theorem new : Tracked Processes.new none [] :=
  ⟨nofun, nofun, nofun, List.Pairwise.nil, nofun, nofun, nofun⟩

/-- The process that runs has the greatest generation of all. -/
theorem exits_below (tracked : Tracked processes running exits) {generation : Nat}
    (runs : running = some generation) :
    forall earlier, earlier ∈ exits -> earlier < generation := by
  intro earlier member
  have bound := tracked.bounded earlier member
  have newest := tracked.latest generation (tracked.known generation runs)
  have different : earlier ≠ generation := by
    intro same
    exact tracked.gone earlier member (same ▸ runs)
  omega

/-- No other process than the live one runs. -/
theorem running_of_live (tracked : Tracked processes running exits) {generation : Nat}
    (live : processes.current = some generation) (gone : running ≠ some generation) :
    running = none := by
  cases found : running with
  | none => rfl
  | some other =>
      have current := tracked.known other found
      rw [live] at current
      rw [found, ← Option.some.inj current] at gone
      exact absurd rfl gone

theorem running_of_idle (tracked : Tracked processes running exits)
    (idle : processes.current = none) : running = none := by
  cases found : running with
  | none => rfl
  | some generation => exact nomatch idle.symm.trans (tracked.known generation found)

/-- The running process exits. -/
theorem exit (tracked : Tracked processes running exits) {generation : Nat}
    (runs : running = some generation) : Tracked processes none (exits ++ [generation]) := by
  have newest := tracked.latest generation (tracked.known generation runs)
  refine ⟨nofun, tracked.latest, ?_, ?_, ?_, nofun, ?_⟩
  · intro other current
    rw [tracked.known generation runs] at current
    exact Or.inr (List.mem_append_right _ (List.mem_singleton.mpr (Option.some.inj current).symm))
  · rw [List.pairwise_append]
    refine ⟨tracked.ascending, List.pairwise_singleton _ _, ?_⟩
    intro earlier member later last
    rw [List.mem_singleton.mp last]
    exact tracked.exits_below runs earlier member
  · intro other member
    rcases List.mem_append.mp member with earlier | last
    · exact tracked.bounded other earlier
    · rw [List.mem_singleton.mp last]
      omega
  · intro expected
    rcases tracked.expecting expected with ⟨other, member, notCurrent⟩
    exact ⟨other, List.mem_append_left _ member, notCurrent⟩

/-- The live process is stopped; if it was still running, it exits. -/
theorem stop (tracked : Tracked processes running exits) {generation : Nat}
    (live : processes.current = some generation) :
    Tracked processes.stop none
      (if running = some generation then exits ++ [generation] else exits) := by
  have stopped : processes.stop =
      { processes with current := none, expectingExit := true } := by
    simp [Processes.stop, Processes.isRunning, live]
  rw [stopped]
  split
  next runs =>
    have left := tracked.exit runs
    refine ⟨nofun, nofun, nofun, left.ascending, left.bounded, nofun, ?_⟩
    intro _
    exact ⟨generation, List.mem_append_right _ (List.mem_singleton.mpr rfl), nofun⟩
  next gone =>
    refine ⟨nofun, nofun, nofun, tracked.ascending, tracked.bounded, nofun, ?_⟩
    intro _
    rcases tracked.present generation live with runs | left
    · exact absurd runs gone
    · exact ⟨generation, left, nofun⟩

theorem beginLaunch_of_idle (idle : processes.current = none) :
    processes.beginLaunch = { processes with generation := processes.generation + 1 } := by
  simp [Processes.beginLaunch, Processes.stop, Processes.isRunning, idle]

/-- A launch that fails takes a generation and nothing else. -/
theorem fail (tracked : Tracked processes running exits) (idle : processes.current = none) :
    Tracked processes.beginLaunch running exits := by
  rw [beginLaunch_of_idle idle]
  refine ⟨tracked.known, ?_, tracked.present, tracked.ascending, ?_, tracked.gone,
    tracked.expecting⟩
  · intro generation current
    rw [idle] at current
    exact nomatch current
  · intro generation member
    exact Nat.le_succ_of_le (tracked.bounded generation member)

theorem launch (tracked : Tracked processes running exits) (idle : processes.current = none) :
    Tracked processes.beginLaunch.launched (some (processes.generation + 1)) exits := by
  rw [beginLaunch_of_idle idle]
  have older : forall generation, generation ∈ exits -> generation ≠ processes.generation + 1 := by
    intro generation member same
    have bound := tracked.bounded generation member
    omega
  refine ⟨fun _ runs => runs, fun _ current => (Option.some.inj current).symm,
    fun _ current => Or.inl current, tracked.ascending, ?_, ?_, ?_⟩
  · intro generation member
    exact Nat.le_succ_of_le (tracked.bounded generation member)
  · intro generation member runs
    exact older generation member (Option.some.inj runs).symm
  · intro expected
    rcases tracked.expecting expected with ⟨generation, member, _⟩
    refine ⟨generation, member, ?_⟩
    intro current
    exact older generation member (Option.some.inj current).symm

/-- The exit of the live process arrives: nobody asked for it, because an exit that was asked for
would have been signalled before. -/
theorem crash {generation : Nat} (tracked : Tracked processes running (generation :: exits))
    (live : processes.current = some generation) :
    processes.expectingExit = false ∧
      Tracked { processes with current := none, expectingExit := false } running exits := by
  have newest := tracked.latest generation live
  have later := (List.pairwise_cons.mp tracked.ascending).1
  have bounded : forall other, other ∈ exits -> other ≤ processes.generation := fun other member =>
    tracked.bounded other (List.mem_cons_of_mem _ member)
  constructor
  · cases expected : processes.expectingExit with
    | false => rfl
    | true =>
        rcases tracked.expecting expected with ⟨other, member, notCurrent⟩
        rcases List.mem_cons.mp member with same | behind
        · rw [same] at notCurrent
          exact absurd live notCurrent
        · have above := later other behind
          have bound := bounded other behind
          omega
  · refine ⟨?_, nofun, nofun, (List.pairwise_cons.mp tracked.ascending).2, bounded, ?_, nofun⟩
    · intro other runs
      have current := tracked.known other runs
      rw [live] at current
      have left := tracked.gone generation List.mem_cons_self
      rw [Option.some.inj current] at left
      exact absurd runs left
    · exact fun other member => tracked.gone other (List.mem_cons_of_mem _ member)

/-- The exit of another process arrives. -/
theorem hear {generation : Nat} (tracked : Tracked processes running (generation :: exits))
    (other : processes.current ≠ some generation) :
    Tracked { processes with expectingExit := false } running exits := by
  refine ⟨tracked.known, tracked.latest, ?_, (List.pairwise_cons.mp tracked.ascending).2, ?_, ?_,
    nofun⟩
  · intro live current
    rcases tracked.present live current with runs | left
    · exact Or.inl runs
    · rcases List.mem_cons.mp left with same | behind
      · exact absurd (same ▸ current) other
      · exact Or.inr behind
  · exact fun earlier member => tracked.bounded earlier (List.mem_cons_of_mem _ member)
  · exact fun earlier member => tracked.gone earlier (List.mem_cons_of_mem _ member)

/-- What is made of the exit at the front of the queue. -/
theorem classifyExit_eq {generation : Nat}
    (tracked : Tracked processes running (generation :: exits)) :
    processes.classifyExit generation =
      if processes.current = some generation then
        (.unexpected, { processes with current := none, expectingExit := false })
      else (.expected, { processes with expectingExit := false }) := by
  by_cases live : processes.current = some generation
  · simp [Processes.classifyExit, Processes.isCurrent, live, (tracked.crash live).1]
  · simp [Processes.classifyExit, Processes.isCurrent, live]

end Tracked
end Session
end LanguageServer
