import LanguageServer.Proofs.World

namespace LanguageServer
namespace Session

/-!
# The supervisor keeps in step with its compilers

As long as the session has not ended, three things hold between any two events.  There is a live
process exactly when the pipeline has a compiler to write to, and the phase agrees.  The books on
processes agree with the process that runs and the exits on their way.  And what the pipeline has
heard of the live process is all that it printed, up to the signals on their way.

A turn of the supervisor is cut into moves that have each a lemma: turns that only speak, halting
the live process, launching another one, and failing to.
-/

/-- There is a live process exactly when the pipeline has a compiler. -/
structure Supervisor.Coupled (supervisor : Supervisor) : Prop where
  live : forall generation, supervisor.processes.current = some generation ->
    supervisor.pipeline.attached = true ∧ supervisor.pipeline.Live
  idle : supervisor.processes.current = none ->
    supervisor.pipeline.attached = false ∧ supervisor.pipeline.Gone

theorem Supervisor.Coupled.contact {before after : Supervisor} (coupled : before.Coupled)
    (processes : after.processes = before.processes)
    (kept : Pipeline.KeepsContact before.pipeline after.pipeline) : after.Coupled := by
  refine ⟨?_, ?_⟩
  · intro generation current
    rw [processes] at current
    rw [kept.attached, Pipeline.Live, Pipeline.Taking, kept.phase]
    exact coupled.live generation current
  · intro current
    rw [processes] at current
    rw [kept.attached, Pipeline.Gone, kept.phase]
    exact coupled.idle current

namespace Supervisor

/-- The supervisor takes nothing back. -/
def Grows (before after : Supervisor) : Prop :=
  exists effects, after.outbox = before.outbox ++ effects

theorem Grows.trans {first second third : Supervisor} (one : Grows first second)
    (two : Grows second third) : Grows first third := by
  rcases one with ⟨effects, outbox⟩
  rcases two with ⟨more, outboxNext⟩
  exact ⟨effects ++ more, by rw [outboxNext, outbox, List.append_assoc]⟩

theorem Grows.of_speaks {before after : Supervisor} {texts : List String}
    (speech : Pipeline.Speaks before.pipeline texts after.pipeline) : Grows before after := by
  rcases speech with ⟨words, outbox, _⟩
  exact ⟨words, outbox⟩

variable {supervisor : Supervisor}

theorem killCompiler_grows (supervisor : Supervisor) : supervisor.Grows supervisor.killCompiler :=
  ⟨_, rfl⟩

theorem breakDown_grows (supervisor : Supervisor) : supervisor.Grows supervisor.breakDown :=
  (killCompiler_grows supervisor).trans ⟨_, rfl⟩

theorem killCompiler_of_idle (idle : supervisor.processes.current = none) :
    supervisor.killCompiler = supervisor := by
  have unstopped : supervisor.processes.stop = supervisor.processes := by
    simp [Processes.stop, Processes.isRunning, idle]
  simp [killCompiler, Pipeline.perform, idle, unstopped]

theorem stopCompiler_of_idle (idle : supervisor.processes.current = none) :
    supervisor.stopCompiler = supervisor := by
  rw [stopCompiler, Processes.isRunning, idle]
  rfl

/-- Once its compiler is stopped, the supervisor has none. -/
theorem Coupled.stopCompiler (coupled : supervisor.Coupled) :
    supervisor.stopCompiler.processes.current = none ∧
      supervisor.stopCompiler.pipeline.attached = false ∧
      supervisor.stopCompiler.pipeline.Gone := by
  cases live : supervisor.processes.current with
  | none =>
      rw [stopCompiler_of_idle live]
      exact ⟨live, coupled.idle live⟩
  | some generation =>
      rw [Supervisor.stopCompiler, Processes.isRunning, live, if_pos Option.isSome_some]
      exact ⟨Processes.stop_current _, rfl, Or.inl rfl⟩

theorem Coupled.canSend_stopCompiler (coupled : supervisor.Coupled) :
    supervisor.stopCompiler.pipeline.canSend = false := by
  rw [Pipeline.canSend, coupled.stopCompiler.2.1, Bool.false_and]

/-- The supervisor right after a launch that succeeded. -/
def afterLaunch (supervisor : Supervisor) : Supervisor :=
  { supervisor with
    processes := supervisor.processes.beginLaunch.launched
    pipeline := supervisor.pipeline.starting.perform
      [.launch (supervisor.processes.generation + 1) supervisor.plan] }

/-- Without a live process, launching ends in one of four ways: the plan forbids it, it fails, it
succeeds, or the clock has no room for the watchdog. -/
theorem spawnCompiler_cases (idle : supervisor.processes.current = none) (launcher : Launcher)
    (now : Instant) :
    supervisor.spawnCompiler launcher now =
        { supervisor with pipeline := supervisor.pipeline.block } ∨
      (exists reason, supervisor.spawnCompiler launcher now =
        { supervisor with
          processes := supervisor.processes.beginLaunch
          pipeline := supervisor.pipeline.starting.spawnFailed reason }) ∨
      supervisor.spawnCompiler launcher now =
        { supervisor.afterLaunch with pipeline := supervisor.afterLaunch.pipeline.attach now } ∨
      supervisor.spawnCompiler launcher now = supervisor.afterLaunch.breakDown := by
  have generation : supervisor.processes.beginLaunch.generation =
      supervisor.processes.generation + 1 := by
    rw [Tracked.beginLaunch_of_idle idle]
  have cleared : { supervisor with pipeline := supervisor.pipeline.starting }.killCompiler =
      { supervisor with pipeline := supervisor.pipeline.starting } := killCompiler_of_idle idle
  by_cases blocked : supervisor.plan.compiler.block = true
  · exact Or.inl (by rw [spawnCompiler, if_pos blocked])
  cases outcome : launcher supervisor.plan with
  | error fault =>
      refine Or.inr (Or.inl ⟨fault.message, ?_⟩)
      simp only [spawnCompiler, if_neg blocked, cleared, outcome]
  | ok _ =>
      have launched :
          supervisor.spawnCompiler launcher now = supervisor.afterLaunch.attach now := by
        simp only [spawnCompiler, if_neg blocked, cleared, outcome, generation, afterLaunch]
      rw [launched]
      by_cases room : supervisor.afterLaunch.pipeline.watchdog.canArm now = true
      · exact Or.inr (Or.inr (Or.inl (by rw [attach, if_pos room])))
      · exact Or.inr (Or.inr (Or.inr (by rw [attach, if_neg room])))

theorem spawnCompiler_grows (idle : supervisor.processes.current = none) (launcher : Launcher)
    (now : Instant) : supervisor.Grows (supervisor.spawnCompiler launcher now) := by
  have started : supervisor.Grows { supervisor with pipeline := supervisor.pipeline.starting } :=
    Grows.of_speaks (Pipeline.emit_speaks supervisor.pipeline .starting)
  have begun : supervisor.Grows supervisor.afterLaunch := started.trans ⟨_, rfl⟩
  rcases spawnCompiler_cases idle launcher now with blocked | ⟨reason, failed⟩ | launched | broken
  · rw [blocked]
    exact Grows.of_speaks (Pipeline.block_speaks _)
  · rw [failed]
    exact Grows.of_speaks
      ((Pipeline.emit_speaks _ _).trans (Pipeline.spawnFailed_speaks _ reason))
  · rw [launched]
    exact begun.trans (Grows.of_speaks (Pipeline.emit_speaks _ _))
  · rw [broken]
    exact begun.trans (breakDown_grows _)

end Supervisor

namespace World

structure Orderly (world : World) : Prop where
  coupled : world.supervisor.Coupled
  tracked : Tracked world.supervisor.processes world.running (Signal.exits world.signals)
  heard : forall generation, world.supervisor.processes.current = some generation ->
    exists heard, world.speech generation = heard ++ Signal.outputs generation world.signals ∧
      world.supervisor.pipeline.frames = Wire.FrameBuffer.remainder heard ∧
      (world.supervisor.pipeline.phase = .starting ->
        forall segment, segment ∈ Wire.FrameBuffer.received heard -> Wire.greets segment = false)
  unheard : forall generation, world.supervisor.processes.generation < generation ->
    world.speech generation = [] ∧ Signal.outputs generation world.signals = []

variable {world : World} {status : String}

/-- Without a live process there is nobody to hear. -/
theorem Orderly.of_idle (idle : world.supervisor.processes.current = none)
    (detached : world.supervisor.pipeline.attached = false)
    (gone : world.supervisor.pipeline.Gone)
    (tracked : Tracked world.supervisor.processes world.running (Signal.exits world.signals))
    (unheard : forall generation, world.supervisor.processes.generation < generation ->
      world.speech generation = [] ∧ Signal.outputs generation world.signals = []) :
    Orderly world := by
  refine ⟨⟨?_, fun _ => ⟨detached, gone⟩⟩, tracked, ?_, unheard⟩
  · intro generation current
    exact nomatch idle.symm.trans current
  · intro generation current
    exact nomatch idle.symm.trans current

/-! ## Adopting a turn -/

theorem foldl_enact_words {words : List Effect}
    (spoken : forall word, word ∈ words -> word.isWord = true) :
    words.foldl (enact status) world = world := by
  induction words with
  | nil => rfl
  | cons word rest inductionHypothesis =>
      have inert : enact status world word = world := by
        have isWord := spoken word List.mem_cons_self
        cases word with
        | write text => rfl
        | emit event => rfl
        | settle settlement => rfl
        | launch generation plan => exact nomatch isWord
        | kill generation => exact nomatch isWord
      rw [List.foldl_cons, inert]
      exact inductionHypothesis (fun other member => spoken other (List.mem_cons_of_mem _ member))

/-- What takes place does not depend on where the supervisor stands. -/
theorem foldl_enact_supervisor (status : String) (effects : List Effect) (world : World)
    (next : Supervisor) :
    { effects.foldl (enact status) world with supervisor := next } =
      effects.foldl (enact status) { world with supervisor := next } := by
  induction effects generalizing world with
  | nil => rfl
  | cons effect rest inductionHypothesis =>
      have one : { enact status world effect with supervisor := next } =
          enact status { world with supervisor := next } effect := by
        cases effect with
        | kill generation =>
            rw [enact, enact]
            split <;> rfl
        | launch generation plan => rfl
        | write text => rfl
        | emit event => rfl
        | settle settlement => rfl
      rw [List.foldl_cons, List.foldl_cons, inductionHypothesis, one]

theorem adopt_eq {next : Supervisor} {effects : List Effect}
    (outbox : next.outbox = world.supervisor.outbox ++ effects) :
    world.adopt status next = effects.foldl (enact status) { world with supervisor := next } := by
  rw [adopt, outbox, List.drop_left]

@[simp] theorem adopt_supervisor (world : World) (next : Supervisor) :
    (world.adopt status next).supervisor = next := by
  have placed := foldl_enact_supervisor status (next.outbox.drop world.supervisor.outbox.length)
    { world with supervisor := next } next
  exact (congrArg World.supervisor placed).symm

/-- A turn may be adopted in two parts. -/
theorem adopt_adopt {middle next : Supervisor} {effects more : List Effect}
    (outbox : middle.outbox = world.supervisor.outbox ++ effects)
    (outboxNext : next.outbox = middle.outbox ++ more) :
    (world.adopt status middle).adopt status next = world.adopt status next := by
  have whole : next.outbox = world.supervisor.outbox ++ (effects ++ more) := by
    rw [outboxNext, outbox, List.append_assoc]
  rw [adopt_eq whole, List.foldl_append, adopt, adopt_supervisor, outboxNext, List.drop_left,
    adopt_eq outbox, foldl_enact_supervisor]

theorem adopt_of_speaks {next : Supervisor}
    (speech : exists texts, Pipeline.Speaks world.supervisor.pipeline texts next.pipeline) :
    world.adopt status next = { world with supervisor := next } := by
  rcases speech with ⟨texts, words, outbox, spoken, _⟩
  rw [adopt_eq outbox, foldl_enact_words spoken]

/-! ## Moves of the supervisor -/

/-- A turn that launches and kills nothing. -/
theorem Orderly.turn (orderly : Orderly world) {next : Supervisor}
    (processes : next.processes = world.supervisor.processes)
    (speech : exists texts, Pipeline.Speaks world.supervisor.pipeline texts next.pipeline)
    (coupled : next.Coupled)
    (frames : next.pipeline.frames = world.supervisor.pipeline.frames)
    (starting : next.pipeline.phase = .starting -> world.supervisor.pipeline.phase = .starting) :
    Orderly (world.adopt status next) := by
  rw [adopt_of_speaks speech]
  refine ⟨coupled, ?_, ?_, ?_⟩
  · rw [processes]
    exact orderly.tracked
  · intro generation current
    rw [processes] at current
    rcases orderly.heard generation current with ⟨heard, printed, waiting, silent⟩
    exact ⟨heard, printed, frames.trans waiting, fun phase => silent (starting phase)⟩
  · intro generation newer
    rw [processes] at newer
    exact orderly.unheard generation newer

theorem Orderly.contact (orderly : Orderly world) {next : Supervisor}
    (processes : next.processes = world.supervisor.processes)
    (kept : Pipeline.KeepsContact world.supervisor.pipeline next.pipeline) :
    Orderly (world.adopt status next) :=
  orderly.turn processes kept.speech (orderly.coupled.contact processes kept) kept.frames
    (fun starting => kept.phase.symm.trans starting)

/-- Killing the live process leaves nothing running.  If it was still running, its exit is on its
way; output is not touched. -/
theorem Orderly.kill (orderly : Orderly world) (next : Supervisor) {killed : World}
    (effect : killed = (world.supervisor.processes.current.toList.map Effect.kill).foldl
      (enact status) { world with supervisor := next }) :
    killed.supervisor = next ∧
      Tracked world.supervisor.processes.stop killed.running (Signal.exits killed.signals) ∧
      forall generation, killed.speech generation = world.speech generation ∧
        Signal.outputs generation killed.signals = Signal.outputs generation world.signals := by
  cases live : world.supervisor.processes.current with
  | none =>
      have unchanged : world.supervisor.processes.stop = world.supervisor.processes := by
        simp [Processes.stop, Processes.isRunning, live]
      rw [live] at effect
      subst effect
      rw [unchanged]
      exact ⟨rfl, orderly.tracked, fun _ => ⟨rfl, rfl⟩⟩
  | some generation =>
      have tracked := orderly.tracked.stop live
      have happened : killed =
          enact status { world with supervisor := next } (.kill generation) := by
        rw [effect, live]
        rfl
      rw [enact] at happened
      by_cases runs : world.running = some generation
      · rw [if_pos runs] at happened tracked
        subst happened
        refine ⟨rfl, ?_, ?_⟩
        · rw [Signal.exits_append]
          exact tracked
        · intro other
          rw [Signal.outputs_append, Signal.outputs_exited, Signal.outputs_nil, List.append_nil]
          exact ⟨rfl, rfl⟩
      · have nothing := orderly.tracked.running_of_live live runs
        rw [if_neg runs] at happened tracked
        subst happened
        refine ⟨rfl, ?_, fun _ => ⟨rfl, rfl⟩⟩
        rw [nothing]
        exact tracked

/-- The live process is killed, and the pipeline lets go of it. -/
theorem Orderly.halt (orderly : Orderly world) {next : Supervisor} (earlier later : List Effect)
    (processes : next.processes = world.supervisor.processes.stop)
    (outbox : next.outbox = world.supervisor.outbox ++
      (earlier ++ world.supervisor.processes.current.toList.map .kill ++ later))
    (spoken : forall word, word ∈ earlier -> word.isWord = true)
    (spokenLater : forall word, word ∈ later -> word.isWord = true)
    (detached : next.pipeline.attached = false) (gone : next.pipeline.Gone) :
    Orderly (world.adopt status next) := by
  have idle : next.processes.current = none := by
    rw [processes]
    exact Processes.stop_current _
  have generation_kept : next.processes.generation = world.supervisor.processes.generation := by
    rw [processes, Processes.stop_generation]
  rw [adopt_eq outbox, List.foldl_append, List.foldl_append, foldl_enact_words spoken,
    foldl_enact_words spokenLater]
  generalize effect : (world.supervisor.processes.current.toList.map Effect.kill).foldl
    (enact status) { world with supervisor := next } = killed
  rcases orderly.kill next effect.symm with ⟨placed, tracked, unheard⟩
  rw [← processes, ← placed] at tracked
  rw [← placed] at idle detached gone generation_kept
  refine Orderly.of_idle idle detached gone tracked ?_
  intro generation newer
  rw [generation_kept] at newer
  rw [(unheard generation).1, (unheard generation).2]
  exact orderly.unheard generation newer

/-- Without a live process, a launch that fails only takes a generation. -/
theorem Orderly.fail (orderly : Orderly world)
    (idle : world.supervisor.processes.current = none) {next : Supervisor}
    (processes : next.processes = world.supervisor.processes.beginLaunch)
    (speech : exists texts, Pipeline.Speaks world.supervisor.pipeline texts next.pipeline)
    (detached : next.pipeline.attached = false) (gone : next.pipeline.Gone) :
    Orderly (world.adopt status next) := by
  have begun := Tracked.beginLaunch_of_idle idle
  have idleNext : next.processes.current = none := by
    rw [processes, begun]
    exact idle
  rw [adopt_of_speaks speech]
  refine Orderly.of_idle idleNext detached gone ?_ ?_
  · rw [processes]
    exact orderly.tracked.fail idle
  · intro generation newer
    rw [processes, begun] at newer
    exact orderly.unheard generation (Nat.lt_of_succ_lt newer)

/-- Nothing has been heard of a process that is just launched. -/
theorem Orderly.launch (orderly : Orderly world)
    (idle : world.supervisor.processes.current = none) {next : Supervisor}
    (earlier later : List Effect)
    (processes : next.processes = world.supervisor.processes.beginLaunch.launched)
    (outbox : next.outbox = world.supervisor.outbox ++
      (earlier ++ [.launch (world.supervisor.processes.generation + 1) world.supervisor.plan] ++
        later))
    (spoken : forall word, word ∈ earlier -> word.isWord = true)
    (spokenLater : forall word, word ∈ later -> word.isWord = true)
    (attached : next.pipeline.attached = true) (starting : next.pipeline.phase = .starting)
    (frames : next.pipeline.frames = Wire.FrameBuffer.empty) :
    Orderly (world.adopt status next) := by
  have begun := Tracked.beginLaunch_of_idle idle
  have current : next.processes.current = some (world.supervisor.processes.generation + 1) := by
    rw [processes, begun]
    rfl
  have newest : next.processes.generation = world.supervisor.processes.generation + 1 := by
    rw [processes, begun]
    rfl
  rw [adopt_eq outbox, List.foldl_append, List.foldl_append, foldl_enact_words spoken,
    foldl_enact_words spokenLater]
  refine ⟨⟨fun _ _ => ⟨attached, Or.inl starting⟩, ?_⟩, ?_, ?_, ?_⟩
  · intro idleNext
    exact nomatch idleNext.symm.trans current
  · show Tracked next.processes (some _) (Signal.exits world.signals)
    rw [processes]
    exact orderly.tracked.launch idle
  · intro generation live
    have nothing := orderly.unheard generation (by
      rw [Option.some.inj (live.symm.trans current)]
      exact Nat.lt_succ_self _)
    refine ⟨[], ?_, frames, fun _ segment member => nomatch member⟩
    show world.speech generation = [] ++ Signal.outputs generation world.signals
    rw [nothing.1, nothing.2]
    rfl
  · intro generation newer
    rw [List.foldl_cons, List.foldl_nil] at newer ⊢
    have above : world.supervisor.processes.generation + 1 < generation := newest ▸ newer
    exact orderly.unheard generation (Nat.lt_of_succ_lt above)

/-- Without a live process, the pipeline may move between phases that know of no compiler. -/
theorem Orderly.remain (orderly : Orderly world)
    (idle : world.supervisor.processes.current = none) {next : Supervisor}
    (processes : next.processes = world.supervisor.processes)
    (speech : exists texts, Pipeline.Speaks world.supervisor.pipeline texts next.pipeline)
    (detached : next.pipeline.attached = false) (gone : next.pipeline.Gone) :
    Orderly (world.adopt status next) := by
  rw [adopt_of_speaks speech]
  refine Orderly.of_idle (by rw [processes]; exact idle) detached gone ?_ ?_
  · rw [processes]
    exact orderly.tracked
  · rw [processes]
    exact orderly.unheard

theorem adopt_same (world : World) : world.adopt status world.supervisor = world := by
  rw [adopt, List.drop_length]
  rfl

theorem Orderly.stopCompiler (orderly : Orderly world) :
    Orderly (world.adopt status world.supervisor.stopCompiler) ∧
      world.supervisor.Grows world.supervisor.stopCompiler := by
  cases live : world.supervisor.processes.current with
  | none =>
      rw [Supervisor.stopCompiler_of_idle live, adopt_same]
      exact ⟨orderly, [], (List.append_nil _).symm⟩
  | some generation =>
      rw [Supervisor.stopCompiler, Processes.isRunning, live, if_pos Option.isSome_some]
      rcases Pipeline.stopped_speaks world.supervisor.killCompiler.pipeline with
        ⟨words, outbox, spoken, _⟩
      have whole : world.supervisor.killCompiler.pipeline.stopped.outbox =
          world.supervisor.outbox ++
            ([] ++ world.supervisor.processes.current.toList.map .kill ++ words) := by
        rw [outbox, List.nil_append, ← List.append_assoc]
        rfl
      refine ⟨?_, _, whole⟩
      exact orderly.halt [] words rfl whole (fun _ member => absurd member List.not_mem_nil) spoken
        rfl (Or.inl rfl)

theorem Orderly.giveUp (orderly : Orderly world) :
    Orderly (world.adopt status world.supervisor.giveUp) := by
  rcases Pipeline.watchdogExpired_speaks world.supervisor.pipeline with ⟨words, outbox, spoken, _⟩
  refine orderly.halt words [] rfl ?_ spoken nofun rfl (Or.inr (Or.inr rfl))
  show world.supervisor.pipeline.watchdogExpired.outbox ++ _ = world.supervisor.pipeline.outbox ++ _
  rw [outbox, List.append_nil, List.append_assoc]

theorem Orderly.spawnCompiler (orderly : Orderly world)
    (idle : world.supervisor.processes.current = none) {launcher : Launcher} {now : Instant}
    (still : (world.supervisor.spawnCompiler launcher now).ended = false) :
    Orderly (world.adopt status (world.supervisor.spawnCompiler launcher now)) := by
  rcases Supervisor.spawnCompiler_cases idle launcher now with
    blocked | ⟨reason, failed⟩ | launched | broken
  · rw [blocked]
    exact orderly.remain idle rfl ⟨[], Pipeline.block_speaks _⟩ rfl (Or.inr (Or.inl rfl))
  · rw [failed]
    refine orderly.fail idle rfl ⟨[], ?_⟩ rfl (Or.inr (Or.inr rfl))
    exact (Pipeline.emit_speaks _ _).trans (Pipeline.spawnFailed_speaks _ reason)
  · rw [launched]
    refine orderly.launch idle [.emit (.lifecycle .starting)] [.emit (.lifecycle .running)]
      rfl ?_ ?_ ?_ rfl rfl rfl
    · show ((world.supervisor.outbox ++ _) ++ _) ++ _ = world.supervisor.outbox ++ _
      rw [List.append_assoc, List.append_assoc, ← List.append_assoc [_]]
    · simp [Effect.isWord]
    · simp [Effect.isWord]
  · rw [broken] at still
    cases still

/-! ## One move after the other -/

theorem adopt_then {middle next : Supervisor} (grows : world.supervisor.Grows middle)
    (growsNext : middle.Grows next) :
    (world.adopt status middle).adopt status next = world.adopt status next := by
  rcases grows with ⟨effects, outbox⟩
  rcases growsNext with ⟨more, outboxNext⟩
  exact adopt_adopt outbox outboxNext

theorem Orderly.thenContact {middle : Supervisor} (orderly : Orderly (world.adopt status middle))
    (next : Supervisor) (grows : world.supervisor.Grows middle)
    (processes : next.processes = middle.processes)
    (kept : Pipeline.KeepsContact middle.pipeline next.pipeline) :
    Orderly (world.adopt status next) ∧ world.supervisor.Grows next := by
  have growsNext : middle.Grows next := by
    rcases kept.speech with ⟨texts, speech⟩
    exact Supervisor.Grows.of_speaks speech
  have turned : Orderly ((world.adopt status middle).adopt status next) :=
    orderly.contact (by rw [adopt_supervisor]; exact processes)
      (by rw [adopt_supervisor]; exact kept)
  rw [adopt_then grows growsNext] at turned
  exact ⟨turned, grows.trans growsNext⟩

theorem Orderly.thenStop {middle : Supervisor} (orderly : Orderly (world.adopt status middle))
    (grows : world.supervisor.Grows middle) :
    Orderly (world.adopt status middle.stopCompiler) ∧
      world.supervisor.Grows middle.stopCompiler := by
  have stopped : Orderly ((world.adopt status middle).adopt status
        (world.adopt status middle).supervisor.stopCompiler) ∧ _ := orderly.stopCompiler
  rw [adopt_supervisor] at stopped
  rcases stopped with ⟨orderlyNext, growsNext⟩
  rw [adopt_then grows growsNext] at orderlyNext
  exact ⟨orderlyNext, grows.trans growsNext⟩

theorem Orderly.thenSpawn {middle : Supervisor} (orderly : Orderly (world.adopt status middle))
    (grows : world.supervisor.Grows middle) (idle : middle.processes.current = none)
    {launcher : Launcher} {now : Instant}
    (still : (middle.spawnCompiler launcher now).ended = false) :
    Orderly (world.adopt status (middle.spawnCompiler launcher now)) := by
  have spawned : Orderly ((world.adopt status middle).adopt status
      ((world.adopt status middle).supervisor.spawnCompiler launcher now)) :=
    orderly.spawnCompiler (by rw [adopt_supervisor]; exact idle)
      (by rw [adopt_supervisor]; exact still)
  have growsNext := Supervisor.spawnCompiler_grows idle launcher now
  rw [adopt_supervisor, adopt_then grows growsNext] at spawned
  exact spawned

theorem Orderly.obey (orderly : Orderly world) {launcher : Launcher} {now : Instant} {given : Order}
    (still : (world.supervisor.obey launcher now given).ended = false) :
    Orderly (world.adopt status (world.supervisor.obey launcher now given)) := by
  cases given with
  | start documents =>
      have stopping : Orderly (world.adopt status world.supervisor.stopCompiler) ∧ _ :=
        orderly.stopCompiler
      rcases stopping with ⟨stopped, grows⟩
      have kept : Pipeline.KeepsContact world.supervisor.stopCompiler.pipeline
          (world.supervisor.stopCompiler.pipeline.load documents now) := by
        rw [Pipeline.load_of_idle orderly.coupled.canSend_stopCompiler]
        exact ⟨rfl, rfl, rfl, [], Pipeline.Speaks.silent rfl⟩
      rcases stopped.thenContact { world.supervisor.stopCompiler with
        pipeline := world.supervisor.stopCompiler.pipeline.load documents now } grows rfl kept with
        ⟨loaded, growsLoaded⟩
      exact loaded.thenSpawn growsLoaded orderly.coupled.stopCompiler.1 still
  | edit document version => exact orderly.contact rfl (Pipeline.edit_keepsContact _ _ _ _)
  | flush => exact orderly.contact rfl (Pipeline.flush_keepsContact _ _)
  | request id query =>
      rw [Supervisor.obey] at still ⊢
      split at still
      next submitted => exact orderly.contact rfl (Pipeline.submit_keepsContact submitted)
      next => exact nomatch still
  | requestRestart => exact orderly.contact rfl (Pipeline.requestRestart_keepsContact _)
  | restart plan =>
      have kept := (Pipeline.applyTiming_leavesDocuments world.supervisor.pipeline
        plan.timing).keepsContact
      have timed : Orderly (world.adopt status { world.supervisor with
          plan := plan, pipeline := world.supervisor.pipeline.applyTiming plan.timing }) :=
        orderly.contact rfl kept
      have coupled : Supervisor.Coupled { world.supervisor with
          plan := plan, pipeline := world.supervisor.pipeline.applyTiming plan.timing } :=
        orderly.coupled.contact rfl kept
      rcases timed.thenStop ⟨[], (List.append_nil _).symm⟩ with ⟨stopped, grows⟩
      exact stopped.thenSpawn grows coupled.stopCompiler.1 still
  | shutdown => exact nomatch still

/-- The books do not depend on the output that is on its way. -/
theorem Orderly.behindOutput (orderly : Orderly world) {generation : Nat} {chunk : List UInt8}
    {rest : List Signal} (signals : world.signals = .output generation chunk :: rest) :
    Tracked world.supervisor.processes world.running (Signal.exits rest) ∧
      forall other, world.supervisor.processes.generation < other ->
        world.speech other = [] ∧ Signal.outputs other rest = [] := by
  constructor
  · have tracked := orderly.tracked
    rw [signals] at tracked
    exact tracked
  · intro other newer
    have nothing := orderly.unheard other newer
    rw [signals, Signal.outputs_output, List.append_eq_nil_iff] at nothing
    exact ⟨nothing.1, nothing.2.2⟩

/-- Output of the live process is heard in order. -/
theorem Orderly.hearLive (orderly : Orderly world) {generation : Nat} {chunk : List UInt8}
    {rest : List Signal} (signals : world.signals = .output generation chunk :: rest)
    (live : world.supervisor.processes.current = some generation) (now : Instant) :
    Orderly ({ world with signals := rest }.adopt status { world.supervisor with
      pipeline := world.supervisor.pipeline.handleChunk chunk now }) := by
  rcases orderly.behindOutput signals with ⟨tracked, unheard⟩
  have hears := Pipeline.handleSegments_hears now (world.supervisor.pipeline.frames.push chunk).1
    { world.supervisor.pipeline with frames := (world.supervisor.pipeline.frames.push chunk).2 }
  rw [adopt_of_speaks hears.speech]
  refine ⟨⟨?_, ?_⟩, tracked, ?_, unheard⟩
  · intro other _
    have contact := orderly.coupled.live generation live
    exact ⟨hears.attached.trans contact.1, hears.live contact.2⟩
  · intro idle
    exact nomatch idle.symm.trans live
  · intro other current
    have same : other = generation := Option.some.inj (current.symm.trans live)
    subst other
    rcases orderly.heard generation live with ⟨heard, printed, waiting, silent⟩
    rw [signals, Signal.outputs_output, if_pos rfl, ← List.append_assoc] at printed
    refine ⟨heard ++ chunk, printed, ?_, ?_⟩
    · refine hears.frames.trans ?_
      rw [waiting]
      exact Wire.FrameBuffer.push_remainder heard chunk
    · intro starting segment member
      rw [Wire.FrameBuffer.received_append, ← waiting] at member
      rcases List.mem_append.mp member with earlier | new
      · exact silent (hears.was_starting starting) segment earlier
      · exact hears.starting starting segment new

/-- Output of another process is passed over. -/
theorem Orderly.passOver (orderly : Orderly world) {generation : Nat} {chunk : List UInt8}
    {rest : List Signal} (signals : world.signals = .output generation chunk :: rest)
    (stale : world.supervisor.processes.current ≠ some generation) :
    Orderly { world with signals := rest } := by
  rcases orderly.behindOutput signals with ⟨tracked, unheard⟩
  refine ⟨orderly.coupled, tracked, ?_, unheard⟩
  intro live current
  rcases orderly.heard live current with ⟨heard, printed, remaining⟩
  have different : generation ≠ live := by
    intro same
    exact stale (same ▸ current)
  rw [signals, Signal.outputs_output, if_neg different, List.nil_append] at printed
  exact ⟨heard, printed, remaining⟩

theorem Orderly.hearOutput (orderly : Orderly world) {generation : Nat} {chunk : List UInt8}
    {rest : List Signal} (signals : world.signals = .output generation chunk :: rest)
    (launcher : Launcher) (now : Instant) :
    Orderly ({ world with signals := rest }.adopt status
      (world.supervisor.hear launcher now (.output generation chunk))) := by
  rw [Supervisor.hear]
  split
  next current => exact orderly.hearLive signals (of_decide_eq_true current) now
  next other =>
    have same : { world with signals := rest }.adopt status world.supervisor =
        { world with signals := rest } := adopt_same _
    rw [same]
    exact orderly.passOver signals (fun live => other (decide_eq_true live))

/-- Nobody asks for an exit of the live process, so it has another one launched.  Any other exit is
only noted. -/
theorem Orderly.hear_exited (orderly : Orderly world) {generation : Nat} {exitStatus : String}
    {rest : List Signal} (signals : world.signals = .exited generation exitStatus :: rest)
    (launcher : Launcher) (now : Instant) :
    (world.supervisor.processes.current = some generation ∧
        world.supervisor.hear launcher now (.exited generation exitStatus) =
          { world.supervisor with
            processes := { world.supervisor.processes with current := none, expectingExit := false }
            pipeline := world.supervisor.pipeline.recover exitStatus }.spawnCompiler launcher now) ∨
      (world.supervisor.processes.current ≠ some generation ∧
        world.supervisor.hear launcher now (.exited generation exitStatus) =
          { world.supervisor with
            processes := { world.supervisor.processes with expectingExit := false } }) := by
  have tracked := orderly.tracked
  rw [signals] at tracked
  by_cases live : world.supervisor.processes.current = some generation
  · refine Or.inl ⟨live, ?_⟩
    rw [Supervisor.hear, tracked.classifyExit_eq, if_pos live]
  · refine Or.inr ⟨live, ?_⟩
    rw [Supervisor.hear, tracked.classifyExit_eq, if_neg live]

theorem Orderly.hearExit (orderly : Orderly world) {generation : Nat} {exitStatus : String}
    {rest : List Signal} (signals : world.signals = .exited generation exitStatus :: rest)
    {launcher : Launcher} {now : Instant}
    (still : (world.supervisor.hear launcher now (.exited generation exitStatus)).ended = false) :
    Orderly ({ world with signals := rest }.adopt status
      (world.supervisor.hear launcher now (.exited generation exitStatus))) := by
  have tracked := orderly.tracked
  have unheard := orderly.unheard
  have heard := orderly.heard
  rw [signals] at tracked unheard heard
  rcases orderly.hear_exited signals launcher now with ⟨live, crash⟩ | ⟨other, noted⟩
  · have speech := Pipeline.recover_speaks world.supervisor.pipeline exitStatus
    rw [crash] at still ⊢
    refine Orderly.thenSpawn ?_ (Supervisor.Grows.of_speaks speech) rfl still
    rw [adopt_of_speaks ⟨[], speech⟩]
    exact Orderly.of_idle rfl rfl (Or.inl rfl) (tracked.crash live).2 unheard
  · have quiet : exists texts, Pipeline.Speaks { world with signals := rest }.supervisor.pipeline
        texts (world.supervisor.hear launcher now (.exited generation exitStatus)).pipeline := by
      rw [noted]
      exact ⟨[], Pipeline.Speaks.silent rfl⟩
    rw [adopt_of_speaks quiet, noted]
    exact ⟨⟨orderly.coupled.live, orderly.coupled.idle⟩, tracked.hear other, heard, unheard⟩

/-! ## Every run -/

theorem Orderly.note (orderly : Orderly world) (now : Instant) (given : Order) :
    Orderly (world.note now given) := by
  cases given <;>
    exact ⟨orderly.coupled, orderly.tracked, orderly.heard, orderly.unheard⟩

theorem note_supervisor (world : World) (now : Instant) (given : Order) :
    (world.note now given).supervisor = world.supervisor := by
  cases given <;> rfl

theorem print_speech (world : World) (generation : Nat) (chunk : List UInt8) (other : Nat) :
    speech { world with
      printed := world.printed ++ [(generation, chunk)]
      signals := world.signals ++ [.output generation chunk] } other =
        world.speech other ++ if generation = other then chunk else [] := by
  by_cases same : generation = other <;> simp [speech, same]

theorem Orderly.print (orderly : Orderly world) {generation : Nat} {chunk : List UInt8}
    (launched : generation ≤ world.supervisor.processes.generation) :
    Orderly { world with
      printed := world.printed ++ [(generation, chunk)]
      signals := world.signals ++ [.output generation chunk] } := by
  have speech := print_speech world generation chunk
  refine ⟨orderly.coupled, ?_, ?_, ?_⟩
  · rw [Signal.exits_append, Signal.exits_output, Signal.exits_nil, List.append_nil]
    exact orderly.tracked
  · intro live current
    rcases orderly.heard live current with ⟨heard, printed, remaining⟩
    refine ⟨heard, ?_, remaining⟩
    rw [speech, printed, Signal.outputs_append, Signal.outputs_output, Signal.outputs_nil,
      List.append_nil, List.append_assoc]
  · intro other newer
    have different : generation ≠ other := by
      intro same
      exact Nat.not_lt.mpr launched (same ▸ newer)
    rw [speech, Signal.outputs_append, Signal.outputs_output, if_neg different, Signal.outputs_nil,
      List.append_nil, List.append_nil, List.append_nil]
    exact orderly.unheard other newer

theorem Orderly.exit (orderly : Orderly world) {generation : Nat}
    (runs : world.running = some generation) (exitStatus : String) :
    Orderly { world with
      running := none, signals := world.signals ++ [.exited generation exitStatus] } := by
  have outputs : forall other, Signal.outputs other
      (world.signals ++ [.exited generation exitStatus]) = Signal.outputs other world.signals := by
    intro other
    rw [Signal.outputs_append, Signal.outputs_exited, Signal.outputs_nil, List.append_nil]
  refine ⟨orderly.coupled, ?_, ?_, ?_⟩
  · rw [Signal.exits_append]
    exact orderly.tracked.exit runs
  · intro live current
    rw [outputs]
    exact orderly.heard live current
  · intro other newer
    rw [outputs]
    exact orderly.unheard other newer

/-- A session that has ended stays so. -/
theorem step_ended {supervisor : Supervisor} (ended : supervisor.ended = true) (launcher : Launcher)
    (now : Instant) (input : Input) : (supervisor.step launcher now input).ended = true := by
  cases input with
  | order given =>
      rw [Supervisor.step, if_pos ended]
      cases given <;> exact ended
  | signal received => rw [Supervisor.step, if_pos ended, ended]
  | editTimer => rw [Supervisor.step, if_pos ended, ended]
  | watchdogTimer => rw [Supervisor.step, if_pos ended, ended]

theorem take?_ended {next : World} {around : Circumstances} {happening : Happening}
    (ended : world.supervisor.ended = true) (taken : world.take? around happening = some next) :
    next.supervisor.ended = true := by
  have reacts : forall (before : World) (input : Input), before.supervisor = world.supervisor ->
      (before.react around input).supervisor.ended = true := by
    intro before input same
    rw [react, adopt_supervisor, same]
    exact step_ended ended _ _ input
  refine take?_cases (motive := fun next => next.supervisor.ended = true) taken ?_ ?_ ?_ ?_ ?_ ?_
  · intro given
    rw [if_pos ended]
    exact reacts world _ rfl
  · exact fun oldest rest _ => reacts { world with signals := rest } _ rfl
  · exact reacts world _ rfl
  · exact reacts world _ rfl
  · exact fun _ _ _ => ended
  · exact fun _ _ _ => ended

/-- A session that goes on has not ended before. -/
theorem going_of_take {next : World} {around : Circumstances} {happening : Happening}
    (taken : world.take? around happening = some next) (still : next.supervisor.ended = false) :
    world.supervisor.ended = false := by
  cases ended : world.supervisor.ended with
  | false => rfl
  | true => cases still.symm.trans (take?_ended ended taken)

/-- Whatever happens, the session stays orderly until it ends. -/
theorem Orderly.take {next : World} {around : Circumstances} {happening : Happening}
    (orderly : Orderly world) (begun : world.supervisor.ended = false)
    (taken : world.take? around happening = some next)
    (still : next.supervisor.ended = false) : Orderly next := by
  have notEnded : ¬world.supervisor.ended = true := by simp [begun]
  revert still
  refine take?_cases (motive := fun next => next.supervisor.ended = false -> Orderly next) taken
    ?_ ?_ ?_ ?_ ?_ ?_
  · intro given still
    rw [if_neg notEnded, react, adopt_supervisor, Supervisor.step, note_supervisor,
      if_neg notEnded] at still
    have obeyed : Orderly ((world.note around.now given).adopt around.killed
        ((world.note around.now given).supervisor.obey around.launcher around.now given)) :=
      (orderly.note around.now given).obey (by rw [note_supervisor]; exact still)
    rw [note_supervisor] at obeyed
    rw [if_neg notEnded, react, Supervisor.step, note_supervisor, if_neg notEnded]
    exact obeyed
  · intro oldest rest signals still
    rw [react, adopt_supervisor, Supervisor.step, if_neg notEnded] at still
    rw [react, Supervisor.step, if_neg notEnded]
    cases oldest with
    | output generation chunk => exact orderly.hearOutput signals _ _
    | exited generation exitStatus => exact orderly.hearExit signals still
  · intro _
    rw [react, Supervisor.step, if_neg notEnded]
    exact orderly.contact rfl (Pipeline.flush_keepsContact _ _)
  · intro _
    rw [react, Supervisor.step, if_neg notEnded]
    exact orderly.giveUp
  · intro generation chunk launched _
    exact orderly.print launched
  · intro generation exitStatus runs _
    exact orderly.exit runs exitStatus

theorem Orderly.new (plan : Plan) : Orderly (World.new plan) :=
  Orderly.of_idle rfl rfl (Or.inl rfl) Tracked.new (fun _ _ => ⟨rfl, rfl⟩)

end World
end Session
end LanguageServer
