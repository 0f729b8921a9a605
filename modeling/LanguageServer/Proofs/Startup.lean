import LanguageServer.Proofs.Edits
import LanguageServer.Proofs.Occasions

namespace LanguageServer

/-!
# Compilers that never start to listen

The watchdog starts with every compiler, so that one that never listens is given up in the end.  It
keeps running through everything that a starting compiler may say, with one exception.  When the
compiler falters, that is, when it raises an exception or its output is not understood, the watchdog
decides afresh whether something is expected.  Of a compiler that is starting neither an answer nor
an analysis is expected, and so the watchdog stops.

The countdown of a starting compiler is followed through the whole session.  It runs exactly if none
of the output that has been heard of the present process falters.  Whether a compiler that hangs
before it listens is given up is decided by that and by nothing else.
-/

namespace Wire

/-- The compiler raises an exception, or its output is not understood. -/
def falters : Except FrameFault Frame -> Bool
  | .ok frame => frame.command = .except
  | .error _ => true

end Wire

namespace Session
namespace Pipeline

variable {before : Pipeline}

/-- When the watchdog decides afresh and nothing is expected, it stops. -/
theorem progress_of_nothing (pipeline : Pipeline) (waiting : pipeline.waiting = Waiting.empty)
    (analyses : pipeline.analysesPending = 0) (now : Instant) :
    (pipeline.progress now).watchdogDeadline = none := by
  unfold progress
  rw [waiting, analyses]
  rfl

/-- The only thing that stops the countdown of a starting compiler is that it falters, and nothing
that it says starts the countdown again. -/
theorem handleSegment_starting (undemanding : before.Undemanding) {now : Instant}
    {segment : Except Wire.FrameFault Wire.Frame}
    (starting : (before.handleSegment now segment).phase = .starting) :
    (before.handleSegment now segment).watchdogDeadline =
      if Wire.falters segment then none else before.watchdogDeadline := by
  have begun := (handleSegment_hears before now segment).was_starting starting
  have idle : ¬before.Taking := fun taking => taking.not_starting begun
  rcases undemanding idle with ⟨nobody, analyses⟩
  cases segment with
  | error fault =>
      exact progress_of_nothing ((before.rejectAll (.protocol fault)).emit
        (.protocolError fault.message)) rfl analyses now
  | ok frame =>
      have unfaltering : forall command, frame.command = command -> command ≠ .except ->
          ¬Wire.falters (.ok frame) = true := by
        intro command same notExcept falters
        rw [Wire.falters, decide_eq_true_iff, same] at falters
        exact notExcept falters
      revert starting
      apply handleFrame_cases (motive := fun after => after.phase = .starting ->
        after.watchdogDeadline =
          if Wire.falters (.ok frame) then none else before.watchdogDeadline)
      case ignored =>
        intro aborted
        cases aborted.symm.trans begun
      case listen =>
        intro _ starting
        cases starting.symm.trans (listen_fields before now).1
      case report =>
        intro band reported _
        rw [if_neg (unfaltering _ reported (by cases band <;> simp [reportCommand]))]
        rfl
      case analysed =>
        intro _ starting
        cases starting.symm.trans (analysed_fields before now).1
      case raised =>
        intro raised _
        have falters : Wire.falters (.ok frame) = true := decide_eq_true raised
        rw [if_pos falters]
        exact progress_of_nothing ((before.emit _).rejectAll _) rfl analyses now
      case restarted =>
        intro _ starting
        cases starting.symm.trans (listen_fields _ now).1
      case respond =>
        intro kind answers _
        have unasked : before.waiting.ofKind kind = [] := by
          rw [nobody]
          rfl
        have notExcept : frame.command ≠ .except := by
          intro except
          rw [except] at answers
          cases answers
        rw [respond_of_nobody unasked, if_neg (unfaltering _ rfl notExcept)]

theorem handleSegments_starting {now : Instant}
    {segments : List (Except Wire.FrameFault Wire.Frame)} (undemanding : before.Undemanding)
    (starting : (segments.foldl (handleSegment now) before).phase = .starting) :
    (segments.foldl (handleSegment now) before).watchdogDeadline.isSome ↔
      before.watchdogDeadline.isSome ∧
        forall segment, segment ∈ segments -> Wire.falters segment = false := by
  induction segments generalizing before with
  | nil => exact ⟨fun armed => ⟨armed, nofun⟩, fun both => both.1⟩
  | cons segment rest inductionHypothesis =>
      have between := (handleSegments_hears now rest _).was_starting starting
      have first := handleSegment_starting undemanding between
      rw [List.foldl_cons, inductionHypothesis (undemanding.handleSegment now segment) starting,
        first, List.forall_mem_cons]
      cases Wire.falters segment with
      | false => simp
      | true => simp

end Pipeline

/-! ## Turns of the supervisor -/

namespace Supervisor

variable {supervisor : Supervisor}

/-- The turn leaves the process alone, and its countdown as long as it is starting. -/
structure LeavesStart (before after : Supervisor) : Prop where
  current : after.processes.current = before.processes.current
  phase : after.pipeline.phase = before.pipeline.phase
  deadline : before.pipeline.phase = .starting ->
    after.pipeline.watchdogDeadline = before.pipeline.watchdogDeadline

/-- After the turn there is no compiler, or one that has just been launched and is watched. -/
def Renewed (before after : Supervisor) : Prop :=
  forall generation, after.processes.current = some generation ->
    before.processes.generation < generation ∧ after.pipeline.watchdogDeadline.isSome

theorem Renewed.of_idle {before after : Supervisor} (idle : after.processes.current = none) :
    before.Renewed after := by
  intro generation current
  cases idle.symm.trans current

theorem spawnCompiler_renewed (supervisor : Supervisor)
    (idle : supervisor.processes.current = none) (launch : Launcher) (now : Instant) :
    supervisor.Renewed (supervisor.spawnCompiler launch now) := by
  have begun := Tracked.beginLaunch_of_idle idle
  rcases spawnCompiler_cases idle launch now with blocked | ⟨reason, failed⟩ | launched | broken
  · rw [blocked]
    exact Renewed.of_idle idle
  · rw [failed, begun]
    exact Renewed.of_idle idle
  · rw [launched]
    intro generation current
    change supervisor.processes.beginLaunch.launched.current = some generation at current
    rw [begun] at current
    cases current
    exact ⟨Nat.lt_succ_self _, rfl⟩
  · rw [broken]
    exact Renewed.of_idle (Processes.stop_current _)

theorem stopCompiler_generation (supervisor : Supervisor) :
    supervisor.stopCompiler.processes.generation = supervisor.processes.generation := by
  unfold stopCompiler
  split
  · exact Processes.stop_generation _
  · rfl

/-- An order leaves a starting compiler alone, or there is another one after it. -/
theorem obey_starting (supervisor : Supervisor) (launch : Launcher) (now : Instant)
    (given : Order) :
    supervisor.LeavesStart (supervisor.obey launch now given) ∨
      supervisor.Renewed (supervisor.obey launch now given) := by
  have unsendable : supervisor.pipeline.phase = .starting ->
      ¬supervisor.pipeline.canSend = true := by
    intro starting sendable
    have taking : supervisor.pipeline.Taking := (Pipeline.canSend_iff.mp sendable).2
    exact taking.not_starting starting
  cases given with
  | start documents =>
      right
      have renewed := spawnCompiler_renewed { supervisor.stopCompiler with
        pipeline := supervisor.stopCompiler.pipeline.load documents now }
        (stopCompiler_current supervisor) launch now
      rw [Renewed, stopCompiler_generation] at renewed
      exact renewed
  | edit document version =>
      left
      rcases Pipeline.edit_files supervisor.pipeline document version now with ⟨edits, filed, _⟩
      rw [obey, filed]
      exact ⟨rfl, rfl, fun _ => rfl⟩
  | flush =>
      left
      refine ⟨rfl, Pipeline.flush_phase _ now, fun starting => ?_⟩
      rw [obey, Pipeline.flush, if_neg (unsendable starting)]
      rfl
  | request id query =>
      rw [obey]
      split
      next pipeline submitted =>
        left
        refine ⟨rfl, (Pipeline.submit_keepsContact submitted).phase, fun starting => ?_⟩
        rw [Pipeline.submit?, starting] at submitted
        cases submitted
        rfl
      next =>
        right
        exact Renewed.of_idle (Processes.stop_current _)
  | requestRestart =>
      left
      refine ⟨rfl, (Pipeline.requestRestart_keepsContact _).phase, fun starting => ?_⟩
      rw [obey, Pipeline.requestRestart, if_neg (unsendable starting)]
  | restart plan =>
      right
      have renewed := spawnCompiler_renewed (stopCompiler { supervisor with
        plan := plan, pipeline := supervisor.pipeline.applyTiming plan.timing })
        (stopCompiler_current _) launch now
      rw [Renewed, stopCompiler_generation] at renewed
      exact renewed
  | shutdown =>
      right
      exact Renewed.of_idle (stopCompiler_current supervisor)

end Supervisor

/-! ## The countdown through a whole session -/

namespace World

variable {world : World} {status : String}

theorem adopt_speech (world : World) (next : Supervisor) (generation : Nat) :
    (world.adopt status next).speech generation = world.speech generation := by
  rw [speech, (adopt_accounts world status next).2.2, speech]

/-- What takes place adds exits to the signals on their way, and no output. -/
theorem adopt_outputs (world : World) (next : Supervisor) (generation : Nat) :
    Signal.outputs generation (world.adopt status next).signals =
      Signal.outputs generation world.signals := by
  have along : forall (effects : List Effect) (world : World),
      Signal.outputs generation (effects.foldl (enact status) world).signals =
        Signal.outputs generation world.signals := by
    intro effects
    induction effects with
    | nil => exact fun _ => rfl
    | cons effect rest inductionHypothesis =>
        intro world
        rw [List.foldl_cons, inductionHypothesis]
        cases effect with
        | kill killed =>
            rw [enact]
            split
            · simp
            · rfl
        | launch launched plan => rfl
        | write text => rfl
        | emit event => rfl
        | settle settlement => rfl
  exact along _ { world with supervisor := next }

/-- The countdown of a starting compiler runs exactly if nothing that was heard of it falters.  What
was heard of a process is what it has printed, up to the output on its way. -/
def Vigilant (world : World) : Prop :=
  forall generation heard, world.supervisor.processes.current = some generation ->
    world.supervisor.pipeline.phase = .starting ->
    world.speech generation = heard ++ Signal.outputs generation world.signals ->
    (world.supervisor.pipeline.watchdogDeadline.isSome ↔
      forall segment, segment ∈ Wire.FrameBuffer.received heard -> Wire.falters segment = false)

theorem Vigilant.leaves (vigilant : world.Vigilant) {next : Supervisor}
    (left : world.supervisor.LeavesStart next) : (world.adopt status next).Vigilant := by
  intro generation heard current starting printed
  rw [adopt_supervisor] at current starting ⊢
  rw [adopt_speech, adopt_outputs] at printed
  rw [left.phase] at starting
  rw [left.current] at current
  rw [left.deadline starting]
  exact vigilant generation heard current starting printed

/-- Nothing has been heard of a compiler that has just been launched. -/
theorem vigilant_of_renewed (world : World) {next : Supervisor}
    (renewed : world.supervisor.Renewed next)
    (unheard : forall generation, world.supervisor.processes.generation < generation ->
      world.speech generation = []) : (world.adopt status next).Vigilant := by
  intro generation heard current _ printed
  rw [adopt_supervisor] at current ⊢
  rcases renewed generation current with ⟨newer, armed⟩
  rw [adopt_speech, unheard generation newer] at printed
  have nothing : heard = [] := (List.append_eq_nil_iff.mp printed.symm).1
  rw [nothing]
  exact ⟨fun _ => nofun, fun _ => armed⟩

/-- A chunk of output is heard. -/
theorem Vigilant.hearLive (vigilant : world.Vigilant) (orderly : world.Orderly)
    (undemanding : world.supervisor.pipeline.Undemanding) {generation : Nat} {chunk : List UInt8}
    {rest : List Signal} (signals : world.signals = .output generation chunk :: rest)
    (live : world.supervisor.processes.current = some generation) (now : Instant) :
    ({ world with signals := rest }.adopt status { world.supervisor with
      pipeline := world.supervisor.pipeline.handleChunk chunk now }).Vigilant := by
  intro other heard current starting printed
  rw [adopt_supervisor] at current starting ⊢
  rw [adopt_speech, adopt_outputs] at printed
  change world.supervisor.processes.current = some other at current
  change world.speech other = heard ++ Signal.outputs other rest at printed
  have same : other = generation := Option.some.inj (current.symm.trans live)
  subst other
  rcases orderly.heard generation live with ⟨earlier, whole, waiting, _⟩
  have begun := (Pipeline.handleSegments_hears now
    (world.supervisor.pipeline.frames.push chunk).1 _).was_starting starting
  have before := vigilant generation earlier live begun whole
  rw [signals, Signal.outputs_output, if_pos rfl, ← List.append_assoc, printed] at whole
  have grown : heard = earlier ++ chunk := List.append_cancel_right whole
  have buffered : Pipeline.Undemanding { world.supervisor.pipeline with
      frames := (world.supervisor.pipeline.frames.push chunk).2 } :=
    undemanding.leaves rfl rfl rfl
  have after := Pipeline.handleSegments_starting buffered starting
  rw [grown, Wire.FrameBuffer.received_append, List.forall_mem_append, ← before, ← waiting]
  exact after

/-- The oldest signal is heard. -/
theorem Vigilant.hear (vigilant : world.Vigilant) (orderly : world.Orderly)
    (undemanding : world.supervisor.pipeline.Undemanding) {oldest : Signal} {rest : List Signal}
    (signals : world.signals = oldest :: rest) (launch : Launcher) (now : Instant) :
    ({ world with signals := rest }.adopt status
      (world.supervisor.hear launch now oldest)).Vigilant := by
  -- What is passed over is no output of the live process, so as much was heard of it as before.
  have passed : (forall generation, world.supervisor.processes.current = some generation ->
      Signal.outputs generation world.signals = Signal.outputs generation rest) ->
      Vigilant { world with signals := rest } := by
    intro same generation heard current starting printed
    have printedBefore : world.speech generation =
        heard ++ Signal.outputs generation world.signals := by
      rw [same generation current]
      exact printed
    exact vigilant generation heard current starting printedBefore
  cases oldest with
  | output source chunk =>
      rw [Supervisor.hear]
      split
      next current =>
        exact vigilant.hearLive orderly undemanding signals (of_decide_eq_true current) now
      next stale =>
        refine (passed ?_).leaves ⟨rfl, rfl, fun _ => rfl⟩
        intro generation live
        have different : source ≠ generation := by
          intro same
          rw [← same] at live
          exact stale (decide_eq_true live)
        rw [signals, Signal.outputs_output, if_neg different, List.nil_append]
  | exited source exitStatus =>
      rcases orderly.hear_exited signals launch now with ⟨_, crash⟩ | ⟨_, noted⟩
      · rw [crash]
        have renewed := Supervisor.spawnCompiler_renewed { world.supervisor with
          processes := { world.supervisor.processes with current := none, expectingExit := false }
          pipeline := world.supervisor.pipeline.recover exitStatus } rfl launch now
        exact vigilant_of_renewed { world with signals := rest }
          (fun generation current => renewed generation current)
          (fun generation newer => (orderly.unheard generation newer).1)
      · rw [noted]
        refine (passed ?_).leaves ⟨rfl, rfl, fun _ => rfl⟩
        intro generation _
        rw [signals, Signal.outputs_exited]

theorem Vigilant.take {next : World} {around : Circumstances} {happening : Happening}
    (vigilant : world.Vigilant) (orderly : world.Orderly)
    (undemanding : world.supervisor.pipeline.Undemanding)
    (going : world.supervisor.ended = false)
    (taken : world.take? around happening = some next) : next.Vigilant := by
  have notEnded : ¬world.supervisor.ended = true := Bool.eq_false_iff.mp going
  have turned : forall (noted : World) (next : Supervisor), noted.Vigilant ->
      noted.supervisor = world.supervisor -> noted.printed = world.printed ->
      world.supervisor.LeavesStart next ∨ world.supervisor.Renewed next ->
      (noted.adopt around.killed next).Vigilant := by
    intro noted next vigilant same printed turn
    rw [← same] at turn
    rcases turn with left | renewed
    · exact vigilant.leaves left
    · refine vigilant_of_renewed noted renewed ?_
      intro generation newer
      rw [same] at newer
      rw [speech, printed]
      exact (orderly.unheard generation newer).1
  refine take?_cases (motive := Vigilant) taken ?_ ?_ ?_ ?_ ?_ ?_
  · intro given
    have noted : (world.note around.now given).Vigilant := by
      cases given <;> exact vigilant
    have printed : (world.note around.now given).printed = world.printed := by
      cases given <;> rfl
    rw [if_neg notEnded, react, Supervisor.step, note_supervisor, if_neg notEnded]
    exact turned _ _ noted (note_supervisor world around.now given) printed
      (Supervisor.obey_starting world.supervisor around.launcher around.now given)
  · intro oldest rest signals
    rw [react, Supervisor.step, if_neg notEnded]
    exact vigilant.hear orderly undemanding signals around.launcher around.now
  · rw [react, Supervisor.step, if_neg notEnded]
    exact turned world _ vigilant rfl rfl
      (Supervisor.obey_starting world.supervisor around.launcher around.now .flush)
  · rw [react, Supervisor.step, if_neg notEnded]
    exact turned world _ vigilant rfl rfl (Or.inr (Supervisor.Renewed.of_idle
      (Processes.stop_current _)))
  · intro source chunk _ generation heard current starting printed
    -- What is printed is on its way.
    have unchanged : world.speech generation =
        heard ++ Signal.outputs generation world.signals := by
      rw [print_speech, Signal.outputs_append, Signal.outputs_output, Signal.outputs_nil,
        List.append_nil, ← List.append_assoc] at printed
      exact List.append_cancel_right printed
    exact vigilant generation heard current starting unchanged
  · intro source exitStatus _ generation heard current starting printed
    rw [Signal.outputs_append, Signal.outputs_exited, Signal.outputs_nil,
      List.append_nil] at printed
    exact vigilant generation heard current starting printed

theorem vigilant_run {plan : Plan} {course : List (Circumstances × Happening)}
    (ran : (World.new plan).run? course = some world)
    (going : world.supervisor.ended = false) : world.Vigilant ∧ world.Orderly := by
  have held := run?_orderly (motive := fun _ world => world.supervisor.pipeline.Undemanding ∧
    (world.supervisor.ended = false -> world.Vigilant)) ?_ ?_ ran
  · exact ⟨held.1.2 going, held.2 going⟩
  · refine ⟨fun _ => ⟨rfl, rfl⟩, fun _ => ?_⟩
    intro generation heard current
    cases current
  · rintro _ world next around happening ⟨undemanding, vigilant⟩ orderly taken
    refine ⟨undemanding_take undemanding orderly taken, ?_⟩
    intro still
    have begun := going_of_take taken still
    exact (vigilant begun).take (orderly begun) undemanding begun taken

/-- When the watchdog goes off, the compiler is given up. -/
theorem Orderly.watchdogTimer (orderly : world.Orderly) (going : world.supervisor.ended = false)
    {around : Circumstances}
    (due : isDue world.supervisor.pipeline.watchdogDeadline around.now = true) :
    exists next, world.take? around .watchdogTimer = some next ∧
      next.supervisor.pipeline.phase = .aborted ∧ next.supervisor.processes.current = none ∧
      next.running = none := by
  have turned : world.react around .watchdogTimer =
      world.adopt around.killed world.supervisor.giveUp := by
    rw [react, Supervisor.step, if_neg (Bool.eq_false_iff.mp going)]
  have after : (world.adopt around.killed world.supervisor.giveUp).Orderly := orderly.giveUp
  have idle : (world.adopt around.killed world.supervisor.giveUp).supervisor.processes.current =
      none := by
    rw [adopt_supervisor]
    exact Processes.stop_current _
  refine ⟨_, ?_, ?_, idle, after.tracked.running_of_idle idle⟩
  · rw [take?, if_pos due, turned]
  · rw [adopt_supervisor]
    rfl

/-- Whether a compiler that never listens is given up depends on what it has said.  While it is
starting, the watchdog runs exactly if nothing that was heard of it falters.  As long as that is so,
the watchdog has a moment from which on it can go off, and then the process is killed.  Once the
compiler has faltered, the watchdog cannot go off. -/
theorem starting_watched_iff_unfaltering {plan : Plan}
    {course : List (Circumstances × Happening)}
    (ran : (World.new plan).run? course = some world) (going : world.supervisor.ended = false)
    (attached : world.supervisor.pipeline.attached = true)
    (starting : world.supervisor.pipeline.phase = .starting) :
    exists generation heard, world.supervisor.processes.current = some generation ∧
      world.speech generation = heard ++ Signal.outputs generation world.signals ∧
      (world.supervisor.pipeline.watchdogDeadline.isSome ↔
        forall segment, segment ∈ Wire.FrameBuffer.received heard ->
          Wire.falters segment = false) ∧
      ((forall segment, segment ∈ Wire.FrameBuffer.received heard ->
          Wire.falters segment = false) ->
        exists due, world.supervisor.pipeline.watchdogDeadline = some due ∧
          forall around : Circumstances, due ≤ around.now ->
            exists next, world.take? around .watchdogTimer = some next ∧
              next.supervisor.pipeline.phase = .aborted ∧
              next.supervisor.processes.current = none ∧ next.running = none) ∧
      ((exists segment, segment ∈ Wire.FrameBuffer.received heard ∧
          Wire.falters segment = true) ->
        forall around, world.take? around .watchdogTimer = none) := by
  rcases vigilant_run ran going with ⟨vigilant, orderly⟩
  cases current : world.supervisor.processes.current with
  | none =>
      have detached := (orderly.coupled.idle current).1
      cases attached.symm.trans detached
  | some generation =>
      rcases orderly.heard generation current with ⟨heard, printed, _⟩
      have watched := vigilant generation heard current starting printed
      refine ⟨generation, heard, rfl, printed, watched, ?_, ?_⟩
      · intro unfaltering
        rcases Option.isSome_iff_exists.mp (watched.mpr unfaltering) with ⟨due, armed⟩
        refine ⟨due, armed, ?_⟩
        intro around reached
        exact orderly.watchdogTimer going (isDue_iff.mpr ⟨due, armed, reached⟩)
      · rintro ⟨segment, member, falters⟩ around
        have unarmed : ¬isDue world.supervisor.pipeline.watchdogDeadline around.now = true := by
          intro due
          rcases isDue_iff.mp due with ⟨deadline, armed, _⟩
          have unfaltering := watched.mp (Option.isSome_iff_exists.mpr ⟨deadline, armed⟩)
          cases falters.symm.trans (unfaltering segment member)
        rw [take?, if_neg unarmed]

/-- A compiler says this instead of that it listens. -/
def startSaying (text : String) : List (Circumstances × Happening) :=
  let around : Circumstances := ⟨0, fun _ => .ok (), "killed"⟩
  [(around, .order (.start [])), (around, .print 1 (Text.Utf8.bytesOf text)), (around, .hear)]

/-- The session with a compiler that reports on a document and has no answer to give, but does not
listen. -/
def dawdling : World :=
  ((World.new ⟨CompilerPlan.default, [], Timing.default⟩).run?
    (startSaying "DIAG PARSE\n\x0cHOVER\nlate\n\x0c")).get (by decide +kernel)

theorem dawdling_given_up : dawdling.supervisor.pipeline.phase = .starting ∧
    exists due, dawdling.supervisor.pipeline.watchdogDeadline = some due ∧
      exists next, dawdling.take? ⟨due, fun _ => .ok (), "killed"⟩ .watchdogTimer = some next ∧
        next.supervisor.pipeline.phase = .aborted ∧ next.running = none := by
  have ran : (World.new ⟨CompilerPlan.default, [], Timing.default⟩).run?
      (startSaying "DIAG PARSE\n\x0cHOVER\nlate\n\x0c") = some dawdling :=
    (Option.some_get _).symm
  have starting : dawdling.supervisor.pipeline.phase = .starting := by decide +kernel
  rcases starting_watched_iff_unfaltering ran (by decide +kernel) (by decide +kernel) starting with
    ⟨generation, heard, _, _, watched, given_up, _⟩
  have armed : dawdling.supervisor.pipeline.watchdogDeadline.isSome = true := by decide +kernel
  rcases given_up (watched.mp armed) with ⟨due, countdown, aborted⟩
  rcases aborted ⟨due, fun _ => .ok (), "killed"⟩ (Nat.le_refl due) with
    ⟨next, taken, phase, _, gone⟩
  exact ⟨starting, due, countdown, next, taken, phase, gone⟩

/-- The session with a compiler that raises an exception before it listens. -/
def stumbled : World :=
  ((World.new ⟨CompilerPlan.default, [], Timing.default⟩).run?
    (startSaying "EXCEPT\nboom\n\x0c")).get (by decide +kernel)

/-- A compiler can hang before it listens, and nobody watches. -/
theorem starting_can_be_unwatched :
    ¬forall (plan : Plan) (course : List (Circumstances × Happening)) (world : World),
      (World.new plan).run? course = some world -> world.supervisor.ended = false ->
      world.supervisor.pipeline.attached = true ->
      world.supervisor.pipeline.phase = .starting ->
      world.supervisor.pipeline.watchdogDeadline.isSome := by
  intro watched
  have ran : (World.new ⟨CompilerPlan.default, [], Timing.default⟩).run?
      (startSaying "EXCEPT\nboom\n\x0c") = some stumbled :=
    (Option.some_get _).symm
  have armed := watched _ _ stumbled ran (by decide +kernel) (by decide +kernel) (by decide +kernel)
  have unarmed : stumbled.supervisor.pipeline.watchdogDeadline = none := by decide +kernel
  rw [unarmed] at armed
  cases armed

end World
end Session
end LanguageServer
