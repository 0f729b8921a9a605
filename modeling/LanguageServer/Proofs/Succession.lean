import LanguageServer.Proofs.Inheritance
import LanguageServer.Proofs.Startup

namespace LanguageServer
namespace Session

/-!
# Diagnostics of an earlier compiler

When a compiler is stopped or ends by itself, the pipeline forgets its problems.  When it is given
up because it hangs, the problems stay, and the next compiler inherits them.  So the diagnostics
that are published while a process is live need not all be its own.

The main result says of every publication in every session where its diagnostics come from.  It is
made while a process is live.  In each band it starts with what is left of the problems that stood
in the store when that process was launched, and everything else in it was reported by the process
itself.  There are such problems only if the compiler before it was given up, and they are left only
as long as no batch and no fresh start has cleared them.
-/

/-- The stage says that a compiler has come to its end. -/
def Lifecycle.isEnd : Lifecycle -> Bool
  | .killed | .crashed _ => true
  | .starting | .running | .listening | .analysed | .protocolError _ | .exception _ | .aborted _
  | .blocked => false

theorem Lifecycle.not_end_of_report {stage : Lifecycle} (report : stage.isReport = true) :
    stage.isEnd = false := by
  cases stage with
  | killed => cases report
  | crashed status => cases report
  | _ => rfl

/-- Since the last launch a compiler was given up, and none was stopped or ended by itself. -/
def Effect.GivenUp (effects : List Effect) : Prop :=
  (exists reason, Lifecycle.aborted reason ∈ Effect.stages (Effect.tenure effects)) ∧
    forall stage, stage ∈ Effect.stages (Effect.tenure effects) -> stage.isEnd = false

theorem Effect.GivenUp.append {effects more : List Effect} (givenUp : GivenUp effects)
    (stays : forall generation plan, Effect.launch generation plan ∉ more)
    (mild : forall stage, stage ∈ Effect.stages more -> stage.isEnd = false) :
    GivenUp (effects ++ more) := by
  rcases givenUp with ⟨⟨reason, aborted⟩, unended⟩
  unfold GivenUp
  rw [tenure_append stays, stages_append]
  refine ⟨⟨reason, List.mem_append_left _ aborted⟩, ?_⟩
  intro stage member
  rcases List.mem_append.mp member with earlier | new
  · exact unended stage earlier
  · exact mild stage new

namespace Pipeline

/-- There are problems in the store only if a compiler was given up. -/
def LeftOver (pipeline : Pipeline) : Prop :=
  pipeline.problems ≠ ProblemStore.empty -> Effect.GivenUp pipeline.outbox

variable {before after : Pipeline}

theorem LeftOver.of_empty (empty : after.problems = ProblemStore.empty) : after.LeftOver :=
  fun filled => absurd empty filled

theorem LeftOver.utter (left : before.LeftOver) {texts : List String}
    {shown : List (String × List Diagnostic)} (uttered : Utters before texts shown after)
    (problems : before.problems = ProblemStore.empty -> after.problems = ProblemStore.empty) :
    after.LeftOver := by
  intro filled
  rcases uttered.words with ⟨words, outbox, spoken, _, _, reporting⟩
  rw [outbox]
  apply (left (fun empty => filled (problems empty))).append (Effect.not_launch_of_words spoken)
  exact fun stage member => Lifecycle.not_end_of_report (reporting stage member)

theorem leftOver_kept : KeptBySending LeftOver where
  quiet left uttered _ problems := left.utter uttered (fun empty => problems.trans empty)
  sends left uttered _ problems := by
    apply left.utter uttered
    intro empty
    rw [problems, empty, clearProblems_empty]

/-- An operation that keeps the problems and announces one stage, which is no end. -/
theorem LeftOver.operate (left : before.LeftOver) (operation : Operation)
    (applied : before.operate? operation = some after) (problems : after.problems = before.problems)
    (mild : forall stages, operation.Reports stages ->
      exists stage, stages = [stage] ∧ stage.isEnd = false) : after.LeftOver := by
  intro filled
  rw [problems] at filled
  rcases operate?_speaks applied with ⟨_, words, outbox, spoken, _⟩
  rcases operate?_announces applied with ⟨stages, announced, reports⟩
  rcases mild stages reports with ⟨stage, one, unended⟩
  rw [Announces, outbox, Effect.stages_append, one] at announced
  rw [outbox]
  apply (left filled).append (Effect.not_launch_of_words spoken)
  rw [List.append_cancel_left announced]
  intro other member
  rw [List.mem_singleton.mp member]
  exact unended

theorem Inherits.watchdogExpired {inherited : ProblemStore} {reports : List Remark}
    (inherits : Inherits inherited reports before) :
    Effect.GivenUp before.watchdogExpired.outbox := by
  have applied : before.operate? .watchdogExpired = some before.watchdogExpired := rfl
  rcases operate?_speaks applied with ⟨_, words, outbox, spoken, _⟩
  rcases operate?_announces applied with ⟨stages, announced, reason, aborted⟩
  rw [Announces, outbox, Effect.stages_append, aborted] at announced
  unfold Effect.GivenUp
  rw [outbox, Effect.tenure_append_words spoken, Effect.stages_append,
    List.append_cancel_left announced]
  refine ⟨⟨reason, List.mem_append_right _ List.mem_cons_self⟩, ?_⟩
  intro stage member
  rcases List.mem_append.mp member with earlier | new
  · rcases inherits.working stage earlier with running | report
    · rw [running]
      rfl
    · exact Lifecycle.not_end_of_report report
  · rw [List.mem_singleton.mp new]
    rfl

end Pipeline

/-! ## Turns of the supervisor -/

namespace Supervisor

/-- The process was launched a moment ago.  What is in the store is inherited. -/
structure Fresh (supervisor : Supervisor) (generation : Nat) : Prop where
  current : supervisor.processes.current = some generation
  attached : supervisor.pipeline.attached = true
  history : exists before plan,
    supervisor.outbox = before ++ [.launch generation plan, .emit (.lifecycle .running)] ∧
      (supervisor.pipeline.problems ≠ ProblemStore.empty -> Effect.GivenUp before)

/-- The turn leaves the process alone, and publishes nothing. -/
def Continues (before after : Supervisor) : Prop :=
  after.processes.current = before.processes.current ∧
    forall motive, Pipeline.KeptBySending motive -> motive before.pipeline -> motive after.pipeline

/-- After the turn there is no process, or one that was launched in it. -/
def Succeeds (before after : Supervisor) : Prop :=
  (after.processes.current = none ∧ after.pipeline.LeftOver) ∨
    exists generation, before.processes.generation < generation ∧ after.Fresh generation

variable {supervisor : Supervisor}

theorem Continues.refl (supervisor : Supervisor) : supervisor.Continues supervisor :=
  ⟨rfl, fun _ _ held => held⟩

/-- A process that has just been launched has reported nothing. -/
theorem Fresh.inherits {generation : Nat} (fresh : supervisor.Fresh generation) :
    Pipeline.Inherits supervisor.pipeline.problems [] supervisor.pipeline := by
  rcases fresh.history with ⟨before, plan, outbox, _⟩
  have running : forall word, word ∈ [Effect.emit (.lifecycle .running)] ->
      word.isWord = true := by
    simp [Effect.isWord]
  have split : supervisor.pipeline.outbox =
      (before ++ [.launch generation plan]) ++ [.emit (.lifecycle .running)] := by
    rw [List.append_assoc]
    exact outbox
  have tenure : Effect.tenure supervisor.pipeline.outbox = [.emit (.lifecycle .running)] := by
    rw [split, Effect.tenure_append_words running, Effect.tenure_append_launch]
    rfl
  have told : Effect.told supervisor.pipeline.outbox = [] := by
    rw [split, Effect.told_append_words running, Effect.told_append_launch]
    rfl
  refine ⟨fresh.attached, ?_, ?_⟩
  · rw [tenure]
    intro stage member
    exact Or.inl (List.mem_singleton.mp member)
  · intro uri
    refine ⟨[], fun _ => [], ?_, fun _ => List.nil_sublist _, ?_⟩
    · rw [told]
      exact Wire.Conveys.nothing
    · intro band
      rw [tenure, List.append_nil]
      exact (ProblemStore.remaining_nothing _ _ _).symm

theorem stopCompiler_leftOver
    (left : supervisor.processes.current = none -> supervisor.pipeline.LeftOver) :
    supervisor.stopCompiler.pipeline.LeftOver := by
  cases live : supervisor.processes.current with
  | none =>
      rw [stopCompiler_of_idle live]
      exact left live
  | some generation =>
      rw [stopCompiler, Processes.isRunning, live, if_pos Option.isSome_some]
      exact Pipeline.LeftOver.of_empty rfl

theorem spawnCompiler_succeeds {before : Supervisor} (idle : supervisor.processes.current = none)
    (newest : supervisor.processes.generation = before.processes.generation)
    (left : supervisor.pipeline.LeftOver) {launch : Launcher} {now : Instant}
    (still : (supervisor.spawnCompiler launch now).ended = false) :
    before.Succeeds (supervisor.spawnCompiler launch now) := by
  have announced : supervisor.pipeline.starting.LeftOver :=
    left.operate .starting rfl rfl (fun _ same => ⟨_, same, rfl⟩)
  rcases spawnCompiler_cases idle launch now with blocked | ⟨reason, failed⟩ | launched | broken
  · rw [blocked]
    exact Or.inl ⟨idle, left.operate .block rfl rfl (fun _ same => ⟨_, same, rfl⟩)⟩
  · rw [failed, Tracked.beginLaunch_of_idle idle]
    refine Or.inl ⟨idle, ?_⟩
    exact announced.operate (.spawnFailed reason) rfl rfl (fun _ same => ⟨_, same, rfl⟩)
  · rw [launched]
    refine Or.inr ⟨supervisor.processes.generation + 1, by omega, ?_, rfl,
      supervisor.pipeline.starting.outbox, supervisor.plan, ?_, announced⟩
    · change supervisor.processes.beginLaunch.launched.current = _
      rw [Tracked.beginLaunch_of_idle idle]
      rfl
    · exact List.append_assoc supervisor.pipeline.starting.outbox _ _
  · rw [broken] at still
    cases still

/-- An order leaves the process alone, or there is none or another one after it. -/
theorem obey_continues_or_succeeds
    (left : supervisor.processes.current = none -> supervisor.pipeline.LeftOver)
    {launch : Launcher} {now : Instant} {given : Order}
    (still : (supervisor.obey launch now given).ended = false) :
    supervisor.Continues (supervisor.obey launch now given) ∨
      supervisor.Succeeds (supervisor.obey launch now given) := by
  cases given with
  | start documents =>
      right
      have loaded : Pipeline.LeftOver (supervisor.stopCompiler.pipeline.load documents now) :=
        Pipeline.leftOver_kept.load (stopCompiler_leftOver left) documents now
      change supervisor.Succeeds (spawnCompiler { supervisor.stopCompiler with
        pipeline := supervisor.stopCompiler.pipeline.load documents now } launch now)
      apply spawnCompiler_succeeds _ _ loaded still
      · exact stopCompiler_current supervisor
      · exact stopCompiler_generation supervisor
  | edit document version =>
      exact Or.inl ⟨rfl, fun _ kept held => kept.edit held document version now⟩
  | flush => exact Or.inl ⟨rfl, fun _ kept held => kept.flush held now⟩
  | request id query =>
      rw [obey] at still ⊢
      split at still
      next submitted => exact Or.inl ⟨rfl, fun _ kept held => kept.submit held submitted⟩
      next => cases still
  | requestRestart => exact Or.inl ⟨rfl, fun _ kept held => kept.requestRestart held⟩
  | restart plan =>
      right
      have timed : supervisor.processes.current = none ->
          (supervisor.pipeline.applyTiming plan.timing).LeftOver := fun idle =>
        Pipeline.leftOver_kept.aside (left idle) rfl rfl rfl
      change supervisor.Succeeds (spawnCompiler (stopCompiler { supervisor with
        plan := plan, pipeline := supervisor.pipeline.applyTiming plan.timing }) launch now)
      apply spawnCompiler_succeeds _ _ _ still
      · exact stopCompiler_current _
      · exact stopCompiler_generation _
      · exact stopCompiler_leftOver timed
  | shutdown => cases still

/-- A compiler that is given up leaves its problems. -/
theorem giveUp_succeeds
    (left : supervisor.processes.current = none -> supervisor.pipeline.LeftOver)
    (inherits : forall generation, supervisor.processes.current = some generation ->
      exists inherited reports, Pipeline.Inherits inherited reports supervisor.pipeline) :
    supervisor.Succeeds supervisor.giveUp := by
  refine Or.inl ⟨Processes.stop_current _, ?_⟩
  have expired : supervisor.pipeline.watchdogExpired.LeftOver := by
    cases live : supervisor.processes.current with
    | none =>
        apply (left live).operate .watchdogExpired rfl rfl
        rintro stages ⟨reason, same⟩
        exact ⟨_, same, rfl⟩
    | some generation =>
        rcases inherits generation live with ⟨inherited, reports, working⟩
        exact fun _ => working.watchdogExpired
  intro filled
  apply (expired filled).append
  · intro generation plan member
    rcases List.mem_map.mp member with ⟨_, _, same⟩
    cases same
  · rw [Effect.stages_kill]
    exact nofun

end Supervisor

/-! ## The processes of a session -/

namespace World

variable {plan : Plan} {course : List (Circumstances × Happening)} {world next origin : World}
  {around : Circumstances} {happening : Happening}

/-- The course leads through one world to another. -/
def Passes (plan : Plan) (course : List (Circumstances × Happening)) (origin world : World) :
    Prop :=
  exists earlier later, course = earlier ++ later ∧
    (World.new plan).run? earlier = some origin ∧ origin.run? later = some world

theorem run?_concat (ran : (World.new plan).run? course = some world)
    (taken : world.take? around happening = some next) :
    (World.new plan).run? (course ++ [(around, happening)]) = some next :=
  run?_append.mpr ⟨world, ran, (run?_singleton world around happening).trans taken⟩

theorem Passes.here (ran : (World.new plan).run? course = some world) :
    Passes plan course world world :=
  ⟨course, [], (List.append_nil course).symm, ran, rfl⟩

theorem Passes.take (passes : Passes plan course origin world)
    (taken : world.take? around happening = some next) :
    Passes plan (course ++ [(around, happening)]) origin next := by
  rcases passes with ⟨earlier, later, whole, reached, ran⟩
  refine ⟨earlier, later ++ [(around, happening)], ?_, reached, ?_⟩
  · rw [whole, List.append_assoc]
  · exact run?_append.mpr ⟨world, ran, (run?_singleton world around happening).trans taken⟩

/-- The live process was launched on the way, and what is in the store was there at its launch or
has been heard of it.  What was heard of a process is what it has printed, up to the output on its
way. -/
structure Lineage (plan : Plan) (course : List (Circumstances × Happening)) (world : World) :
    Prop where
  ran : (World.new plan).run? course = some world
  live : forall generation, world.supervisor.processes.current = some generation ->
    exists origin, Passes plan course origin world ∧ origin.supervisor.Fresh generation ∧
      forall heard, world.speech generation = heard ++ Signal.outputs generation world.signals ->
        Pipeline.Inherits origin.supervisor.pipeline.problems
          (Remark.reported (Wire.FrameBuffer.received heard)) world.supervisor.pipeline
  idle : world.supervisor.processes.current = none -> world.supervisor.pipeline.LeftOver

/-- A turn that leaves the process alone, after which as much was heard of it as before. -/
theorem Lineage.continues (lineage : Lineage plan course world)
    (taken : world.take? around happening = some next)
    (turn : world.supervisor.Continues next.supervisor)
    (same : forall generation heard, world.supervisor.processes.current = some generation ->
      next.speech generation = heard ++ Signal.outputs generation next.signals ->
      world.speech generation = heard ++ Signal.outputs generation world.signals) :
    Lineage plan (course ++ [(around, happening)]) next := by
  refine ⟨run?_concat lineage.ran taken, ?_, ?_⟩
  · intro generation current
    rw [turn.1] at current
    rcases lineage.live generation current with ⟨origin, passes, fresh, inherits⟩
    refine ⟨origin, passes.take taken, fresh, ?_⟩
    intro heard printed
    have before := inherits heard (same generation heard current printed)
    exact (turn.2 _ Pipeline.accounts_kept.toKeptBySending before.accounts).toInherits
  · intro idle
    rw [turn.1] at idle
    exact turn.2 _ Pipeline.leftOver_kept (lineage.idle idle)

/-- A turn after which there is no process, or one of which nothing was heard. -/
theorem Lineage.succeeds (lineage : Lineage plan course world)
    (taken : world.take? around happening = some next)
    (turn : world.supervisor.Succeeds next.supervisor)
    (unheard : forall generation, world.supervisor.processes.generation < generation ->
      next.speech generation = []) :
    Lineage plan (course ++ [(around, happening)]) next := by
  have ran := run?_concat lineage.ran taken
  rcases turn with ⟨idle, left⟩ | ⟨launched, newer, fresh⟩
  · refine ⟨ran, ?_, fun _ => left⟩
    intro generation current
    cases idle.symm.trans current
  · refine ⟨ran, ?_, ?_⟩
    · intro generation current
      have same : launched = generation := Option.some.inj (fresh.current.symm.trans current)
      subst same
      refine ⟨next, Passes.here ran, fresh, ?_⟩
      intro heard printed
      rw [unheard launched newer] at printed
      have nothing : heard = [] := (List.append_eq_nil_iff.mp printed.symm).1
      rw [nothing]
      exact fresh.inherits
    · intro idle
      cases idle.symm.trans fresh.current

/-- Output of the live process is heard. -/
theorem Lineage.hearLive (lineage : Lineage plan course world) (orderly : world.Orderly)
    {generation : Nat} {chunk : List UInt8} {rest : List Signal}
    (signals : world.signals = .output generation chunk :: rest)
    (current : world.supervisor.processes.current = some generation)
    (taken : world.take? around happening = some next)
    (supervisor : next.supervisor = { world.supervisor with
      pipeline := world.supervisor.pipeline.handleChunk chunk around.now })
    (speech : next.speech generation = world.speech generation)
    (outputs : Signal.outputs generation next.signals = Signal.outputs generation rest) :
    Lineage plan (course ++ [(around, happening)]) next := by
  refine ⟨run?_concat lineage.ran taken, ?_, ?_⟩
  · intro other live
    rw [supervisor] at live
    have same : other = generation := Option.some.inj (live.symm.trans current)
    subst same
    rcases lineage.live other current with ⟨origin, passes, fresh, inherits⟩
    refine ⟨origin, passes.take taken, fresh, ?_⟩
    intro heard printed
    rcases orderly.heard other current with ⟨earlier, whole, waiting, _⟩
    have before := (inherits earlier whole).handleChunk chunk around.now
    rw [signals, Signal.outputs_output, if_pos rfl, ← List.append_assoc] at whole
    rw [speech, outputs, whole] at printed
    have grown : heard = earlier ++ chunk := (List.append_cancel_right printed).symm
    rw [supervisor, grown, Wire.FrameBuffer.received_append, Remark.reported_append, ← waiting]
    exact before.toInherits
  · intro idle
    rw [supervisor] at idle
    cases idle.symm.trans current

/-- The supervisor takes a turn on its own books. -/
theorem Lineage.turn (lineage : Lineage plan course world) (orderly : world.Orderly)
    {noted : World} {turned : Supervisor} (printed : noted.printed = world.printed)
    (outputs : forall generation, world.supervisor.processes.current = some generation ->
      Signal.outputs generation noted.signals = Signal.outputs generation world.signals)
    (taken : world.take? around happening = some (noted.adopt around.killed turned))
    (turn : world.supervisor.Continues turned ∨ world.supervisor.Succeeds turned) :
    Lineage plan (course ++ [(around, happening)]) (noted.adopt around.killed turned) := by
  have speech : forall generation,
      (noted.adopt around.killed turned).speech generation = world.speech generation := by
    intro generation
    rw [adopt_speech, World.speech, printed]
    rfl
  rcases turn with continues | succeeds
  · apply lineage.continues taken
    · rw [adopt_supervisor]
      exact continues
    · intro generation heard current said
      rw [speech, adopt_outputs, outputs generation current] at said
      exact said
  · apply lineage.succeeds taken
    · rw [adopt_supervisor]
      exact succeeds
    · intro generation newer
      rw [speech]
      exact (orderly.unheard generation newer).1

/-- The oldest signal is heard. -/
theorem Lineage.hear (lineage : Lineage plan course world) (orderly : world.Orderly)
    {oldest : Signal} {rest : List Signal} (signals : world.signals = oldest :: rest)
    (taken : world.take? around happening = some ({ world with signals := rest }.adopt
      around.killed (world.supervisor.hear around.launcher around.now oldest)))
    (still : (world.supervisor.hear around.launcher around.now oldest).ended = false) :
    Lineage plan (course ++ [(around, happening)]) ({ world with signals := rest }.adopt
      around.killed (world.supervisor.hear around.launcher around.now oldest)) := by
  cases oldest with
  | output source chunk =>
      by_cases current : world.supervisor.processes.isCurrent source = true
      · rw [Supervisor.hear, if_pos current] at taken ⊢
        exact lineage.hearLive orderly signals (of_decide_eq_true current) taken
          (adopt_supervisor _ _) (adopt_speech _ _ _) (adopt_outputs _ _ _)
      · rw [Supervisor.hear, if_neg current] at taken ⊢
        refine lineage.turn orderly rfl ?_ taken (Or.inl (Supervisor.Continues.refl _))
        intro generation live
        have different : source ≠ generation := by
          intro same
          rw [← same] at live
          exact current (decide_eq_true live)
        rw [signals, Signal.outputs_output, if_neg different, List.nil_append]
  | exited source status =>
      have outputs : forall generation, Signal.outputs generation rest =
          Signal.outputs generation world.signals := by
        intro generation
        rw [signals, Signal.outputs_exited]
      refine lineage.turn orderly rfl (fun generation _ => outputs generation) taken ?_
      rcases orderly.hear_exited signals around.launcher around.now with ⟨_, crash⟩ | ⟨_, noted⟩
      · right
        rw [crash] at still ⊢
        apply Supervisor.spawnCompiler_succeeds _ _ _ still
        · rfl
        · rfl
        · exact Pipeline.LeftOver.of_empty rfl
      · left
        rw [noted]
        exact ⟨rfl, fun _ _ held => held⟩

theorem Lineage.take (lineage : Lineage plan course world) (orderly : world.Orderly)
    (going : world.supervisor.ended = false) (still : next.supervisor.ended = false)
    (taken : world.take? around happening = some next) :
    Lineage plan (course ++ [(around, happening)]) next := by
  have notEnded : ¬world.supervisor.ended = true := Bool.eq_false_iff.mp going
  revert still
  refine take?_cases (motive := fun next => world.take? around happening = some next ->
    next.supervisor.ended = false -> Lineage plan (course ++ [(around, happening)]) next) taken
    ?_ ?_ ?_ ?_ ?_ ?_ taken
  · intro given taken still
    rw [if_neg notEnded, react, Supervisor.step, note_supervisor, if_neg notEnded] at taken still ⊢
    rw [adopt_supervisor] at still
    have printed : (world.note around.now given).printed = world.printed := by
      cases given <;> rfl
    have signals : (world.note around.now given).signals = world.signals := by
      cases given <;> rfl
    exact lineage.turn orderly printed (fun _ _ => by rw [signals]) taken
      (Supervisor.obey_continues_or_succeeds lineage.idle still)
  · intro oldest rest signals taken still
    rw [react, Supervisor.step, if_neg notEnded] at taken still ⊢
    rw [adopt_supervisor] at still
    exact lineage.hear orderly signals taken still
  · intro taken _
    rw [react, Supervisor.step, if_neg notEnded] at taken ⊢
    exact lineage.turn orderly rfl (fun _ _ => rfl) taken
      (Or.inl ⟨rfl, fun _ kept held => kept.flush held around.now⟩)
  · intro taken _
    rw [react, Supervisor.step, if_neg notEnded] at taken ⊢
    refine lineage.turn orderly rfl (fun _ _ => rfl) taken (Or.inr ?_)
    apply Supervisor.giveUp_succeeds lineage.idle
    intro generation current
    rcases lineage.live generation current with ⟨origin, _, _, inherits⟩
    rcases orderly.heard generation current with ⟨heard, printed, _⟩
    exact ⟨_, _, inherits heard printed⟩
  · intro source chunk _ taken _
    apply lineage.continues taken (Supervisor.Continues.refl _)
    intro generation heard _ printed
    rw [print_speech, Signal.outputs_append, Signal.outputs_output, Signal.outputs_nil,
      List.append_nil, ← List.append_assoc] at printed
    exact List.append_cancel_right printed
  · intro source status _ taken _
    apply lineage.continues taken (Supervisor.Continues.refl _)
    intro generation heard _ printed
    rw [Signal.outputs_append, Signal.outputs_exited, Signal.outputs_nil,
      List.append_nil] at printed
    exact printed

theorem lineage_run (ran : (World.new plan).run? course = some world)
    (going : world.supervisor.ended = false) : Lineage plan course world ∧ world.Orderly := by
  have held := run?_orderly (motive := fun course world =>
    world.supervisor.ended = false -> Lineage plan course world) ?_ ?_ ran
  · exact ⟨held.1 going, held.2 going⟩
  · intro _
    refine ⟨rfl, ?_, fun _ => Pipeline.LeftOver.of_empty rfl⟩
    intro generation current
    cases current
  · intro course world next around happening lineage orderly taken still
    have begun := going_of_take taken still
    exact (lineage begun).take (orderly begun) begun still taken

end World

/-! ## Everything but output takes publications back -/

namespace Pipeline

variable {before after : Pipeline}

/-- Nothing that is published on the way shows anything. -/
def Withdraws (before after : Pipeline) : Prop :=
  exists shown, Effect.publications after.outbox = Effect.publications before.outbox ++ shown ∧
    forall entry, entry ∈ shown -> entry.2 = []

theorem Withdraws.of_same
    (same : Effect.publications after.outbox = Effect.publications before.outbox) :
    Withdraws before after :=
  ⟨[], by rw [same, List.append_nil], nofun⟩

theorem Withdraws.trans {first second third : Pipeline} (one : Withdraws first second)
    (two : Withdraws second third) : Withdraws first third := by
  rcases one with ⟨shown, published, blank⟩
  rcases two with ⟨more, publishedNext, blankNext⟩
  refine ⟨shown ++ more, by rw [publishedNext, published, List.append_assoc], ?_⟩
  intro entry member
  rcases List.mem_append.mp member with earlier | later
  · exact blank entry earlier
  · exact blankNext entry later

theorem silent_kept (before : Pipeline) : KeptBySending (fun after =>
    Effect.publications after.outbox = Effect.publications before.outbox) where
  quiet held uttered _ _ := by
    rw [uttered.publications, List.append_nil]
    exact held
  sends held uttered _ _ := by
    rw [uttered.publications, List.append_nil]
    exact held

theorem retired_withdraws (before : Pipeline) (stage : Lifecycle) :
    Withdraws before (before.resolveAll.resetForReload.emit stage) := by
  refine ⟨_, retired_publications before stage, ?_⟩
  intro entry member
  rcases List.mem_map.mp member with ⟨uri, _, same⟩
  rw [← same]

theorem operate?_withdraws {operation : Operation}
    (mute : forall chunk now, operation ≠ .chunk chunk now)
    (applied : before.operate? operation = some after) : Withdraws before after := by
  cases operation with
  | chunk bytes now => exact absurd rfl (mute bytes now)
  | stopped => cases applied; exact retired_withdraws before .killed
  | recover status => cases applied; exact retired_withdraws before (.crashed status)
  | starting => cases applied; exact Withdraws.of_same (emit_publications before .starting)
  | attach now => cases applied; exact Withdraws.of_same (emit_publications before .running)
  | block => cases applied; exact Withdraws.of_same (dismissed_publications before _ .blocked)
  | spawnFailed reason =>
      cases applied
      exact Withdraws.of_same (dismissed_publications before _ (.aborted reason))
  | watchdogExpired =>
      cases applied
      exact Withdraws.of_same (dismissed_publications before _ _)
  | load documents now =>
      cases applied
      exact Withdraws.of_same ((silent_kept before).load rfl documents now)
  | edit document version now =>
      cases applied
      exact Withdraws.of_same ((silent_kept before).edit rfl document version now)
  | flush now => cases applied; exact Withdraws.of_same ((silent_kept before).flush rfl now)
  | submit id query now => exact Withdraws.of_same ((silent_kept before).submit rfl applied)
  | requestRestart =>
      cases applied
      exact Withdraws.of_same ((silent_kept before).requestRestart rfl)
  | applyTiming timing => cases applied; exact Withdraws.of_same rfl

end Pipeline

namespace Supervisor

/-- The move does not take in output. -/
def Move.isMute : Move -> Bool
  | .operate (.chunk ..) => false
  | _ => true

variable {supervisor next : Supervisor}

theorem move?_withdraws {move : Move} (mute : move.isMute = true)
    (made : supervisor.move? move = some next) :
    supervisor.pipeline.Withdraws next.pipeline := by
  have unpublished : forall effects, Effect.publications effects = [] ->
      supervisor.pipeline.Withdraws (supervisor.pipeline.perform effects) := by
    intro effects nothing
    exact ⟨[], by rw [Pipeline.perform, Effect.publications_append, nothing], nofun⟩
  cases move with
  | operate operation =>
      rcases Option.map_eq_some_iff.mp made with ⟨pipeline, applied, same⟩
      rw [← same]
      apply Pipeline.operate?_withdraws _ applied
      intro chunk now output
      rw [output] at mute
      cases mute
  | kill =>
      cases made
      exact unpublished _ (by simp [Effect.publications])
  | launch =>
      rw [move?, Option.ite_none_right_eq_some] at made
      rw [← Option.some.inj made.2]
      exact unpublished _ rfl
  | fail =>
      rw [move?, Option.ite_none_right_eq_some] at made
      rw [← Option.some.inj made.2]
      exact Pipeline.Withdraws.of_same rfl
  | replan plan => cases made; exact Pipeline.Withdraws.of_same rfl
  | dismiss =>
      cases made
      exact unpublished _ (by simp [Effect.publications])
  | decline request => cases made; exact unpublished _ rfl
  | close => cases made; exact Pipeline.Withdraws.of_same rfl

theorem moves?_withdraws {moves : List Move} (mute : moves.all Move.isMute = true)
    (moved : supervisor.moves? moves = some next) :
    supervisor.pipeline.Withdraws next.pipeline := by
  induction moves generalizing supervisor with
  | nil =>
      cases moved
      exact Pipeline.Withdraws.of_same rfl
  | cons move rest inductionHypothesis =>
      rw [List.all_cons, Bool.and_eq_true] at mute
      rcases moves?_cons moved with ⟨between, made, movedNext⟩
      exact (move?_withdraws mute.1 made).trans (inductionHypothesis mute.2 movedNext)

theorem stopMoves_mute (supervisor : Supervisor) :
    supervisor.stopMoves.all Move.isMute = true := by
  unfold stopMoves
  split <;> rfl

theorem spawnMoves_mute (supervisor : Supervisor) (launch : Launcher) (now : Instant) :
    (supervisor.spawnMoves launch now).all Move.isMute = true := by
  unfold spawnMoves
  split
  · rfl
  · rw [List.all_append]
    cases launch supervisor.plan with
    | error fault => rfl
    | ok _ =>
        change (supervisor.attachMoves now).all Move.isMute = true
        unfold attachMoves
        split <;> rfl

theorem turn_mute (supervisor : Supervisor) (launch : Launcher) (now : Instant) {input : Input}
    (other : forall generation chunk, input ≠ .signal (.output generation chunk)) :
    (supervisor.turn launch now input).all Move.isMute = true := by
  unfold turn
  split
  · cases input with
    | order given => cases given <;> rfl
    | _ => rfl
  · cases input with
    | editTimer => rfl
    | watchdogTimer => rfl
    | signal received =>
        cases received with
        | output generation chunk => exact absurd rfl (other generation chunk)
        | exited generation status =>
            change (hearMoves _ _ _ _).all Move.isMute = true
            rw [hearMoves]
            split
            next => rfl
            next => exact spawnMoves_mute _ launch now
    | order given =>
        change (obeyMoves _ _ _ _).all Move.isMute = true
        cases given with
        | start documents =>
            rw [obeyMoves, List.all_append, stopMoves_mute]
            exact spawnMoves_mute _ launch now
        | request id query =>
            rw [obeyMoves]
            split <;> rfl
        | restart plan =>
            rw [obeyMoves, List.all_append, List.all_append, stopMoves_mute, spawnMoves_mute]
            rfl
        | shutdown =>
            rw [obeyMoves, List.all_append, stopMoves_mute]
            rfl
        | _ => rfl

/-- Only output of the live process makes a turn publish anything. -/
theorem step_withdraws_or_hears (supervisor : Supervisor) (launch : Launcher) (now : Instant)
    (input : Input) :
    supervisor.pipeline.Withdraws (supervisor.step launch now input).pipeline ∨
      exists generation chunk, input = .signal (.output generation chunk) ∧
        supervisor.ended = false ∧ supervisor.processes.current = some generation ∧
        (supervisor.step launch now input).pipeline =
          supervisor.pipeline.handleChunk chunk now := by
  by_cases output : exists generation chunk, input = .signal (.output generation chunk)
  · rcases output with ⟨generation, chunk, same⟩
    subst same
    by_cases ended : supervisor.ended = true
    · left
      rw [step, if_pos ended]
      exact Pipeline.Withdraws.of_same rfl
    · by_cases current : supervisor.processes.isCurrent generation = true
      · right
        refine ⟨generation, chunk, rfl, Bool.eq_false_iff.mpr ended, of_decide_eq_true current, ?_⟩
        rw [step, if_neg ended]
        rw [hear, if_pos current]
      · left
        rw [step, if_neg ended]
        rw [hear, if_neg current]
        exact Pipeline.Withdraws.of_same rfl
  · left
    have mute := supervisor.turn_mute launch now
      (fun generation chunk same => output ⟨generation, chunk, same⟩)
    have withdraws := moves?_withdraws mute (moves?_turn supervisor launch now input)
    rw [noted_pipeline] at withdraws
    exact withdraws

end Supervisor

namespace World

variable {plan : Plan} {course : List (Circumstances × Happening)} {world next : World}
  {around : Circumstances} {happening : Happening}

/-- Anything is shown only in answer to output of the live process. -/
theorem shown_while_hearing (taken : world.take? around happening = some next)
    {said rest : List Effect} {uri : String} {items : List Diagnostic}
    (published : next.supervisor.outbox =
      world.supervisor.outbox ++ (said ++ .emit (.diagnostics uri items) :: rest))
    (shows : items ≠ []) :
    exists generation chunk,
      world.input? happening = some (.signal (.output generation chunk)) ∧
        world.supervisor.ended = false ∧
        world.supervisor.processes.current = some generation ∧
        next.supervisor.pipeline = world.supervisor.pipeline.handleChunk chunk around.now := by
  have shown : Effect.publications next.supervisor.outbox =
      Effect.publications world.supervisor.outbox ++
        (Effect.publications said ++ (uri, items) :: Effect.publications rest) := by
    rw [published, Effect.publications_append, Effect.publications_append]
    rfl
  have unmoved : ¬world.supervisor.pipeline.Withdraws next.supervisor.pipeline := by
    rintro ⟨withdrawn, same, blank⟩
    have entries := List.append_cancel_left (shown.symm.trans same)
    apply shows
    apply blank (uri, items)
    rw [← entries]
    exact List.mem_append_right _ List.mem_cons_self
  have turned := take?_supervisor taken
  cases given : world.input? happening with
  | none =>
      rw [given] at turned
      rw [turned] at unmoved
      exact absurd (Pipeline.Withdraws.of_same rfl) unmoved
  | some input =>
      rw [given] at turned
      rw [turned] at unmoved
      rcases world.supervisor.step_withdraws_or_hears around.launcher around.now input with
        withdraws | ⟨generation, chunk, same, going, current, heard⟩
      · exact absurd withdraws unmoved
      · refine ⟨generation, chunk, congrArg some same, going, current, ?_⟩
        rw [turned]
        exact heard

/-- Where the diagnostics of a publication come from, in every session and whatever happens.  A
publication that shows anything is made while a process is live.  In each band it shows what is left
of the problems that were in the store when that process was launched, and then diagnostics that the
process has reported itself.  There are such problems only if the compiler before it was given up,
and they are left only until a batch or an empty publication has cleared them. -/
theorem published_is_inherited_or_own (ran : (World.new plan).run? course = some world)
    (taken : world.take? around happening = some next) {said rest : List Effect} {uri : String}
    {items : List Diagnostic}
    (published : next.supervisor.outbox =
      world.supervisor.outbox ++ (said ++ .emit (.diagnostics uri items) :: rest))
    (shows : items ≠ []) :
    exists generation origin, world.supervisor.processes.current = some generation ∧
      Passes plan course origin world ∧ origin.supervisor.Fresh generation ∧
      exists listed, Composed origin.supervisor.pipeline.problems
          (Remark.reported (Wire.FrameBuffer.received (world.speech generation)))
          (world.supervisor.outbox ++ said) uri listed ∧
        items = listed .parse ++ listed .analysis := by
  rcases shown_while_hearing taken published shows with
    ⟨generation, chunk, given, going, current, heard⟩
  rcases signals_of_input? given with ⟨later, signals⟩
  rcases lineage_run ran going with ⟨lineage, orderly⟩
  rcases lineage.live generation current with ⟨origin, passes, fresh, inherits⟩
  rcases orderly.heard generation current with ⟨earlier, whole, waiting, _⟩
  have accounts := (inherits earlier whole).handleChunk chunk around.now
  rcases accounts.published with ⟨effects, outbox, explained⟩
  have same : effects = said ++ .emit (.diagnostics uri items) :: rest := by
    change next.supervisor.pipeline.outbox = _ at published
    rw [heard, outbox] at published
    exact List.append_cancel_left published
  rcases explained said uri items rest same shows with ⟨listed, composed, parts⟩
  refine ⟨generation, origin, current, passes, fresh, listed, ?_, parts⟩
  -- what was heard by the end of the chunk is the beginning of all that was printed
  rw [waiting, ← Remark.reported_append, ← Wire.FrameBuffer.received_append] at composed
  rw [whole, signals, Signal.outputs_output, if_pos rfl, ← List.append_assoc,
    Wire.FrameBuffer.received_append, Remark.reported_append]
  exact composed.mono _

/-- What is published in one step stands somewhere among its effects. -/
theorem exists_published (taken : world.take? around happening = some next) {uri : String}
    {items : List Diagnostic}
    (member : (uri, items) ∈ (Effect.publications next.supervisor.outbox).drop
      (Effect.publications world.supervisor.outbox).length) :
    exists said rest, next.supervisor.outbox =
      world.supervisor.outbox ++ (said ++ .emit (.diagnostics uri items) :: rest) := by
  have grows : world.supervisor.Grows next.supervisor :=
    take?_keeps ⟨[], (List.append_nil _).symm⟩
      (fun input => Supervisor.step_grows world.supervisor around.launcher around.now input) taken
  rcases grows with ⟨effects, outbox⟩
  rw [outbox, Effect.publications_append, List.drop_left, Effect.publications,
    List.mem_filterMap] at member
  rcases member with ⟨effect, inside, same⟩
  split at same
  next uri items =>
    cases same
    rcases List.append_of_mem inside with ⟨said, rest, whole⟩
    exact ⟨said, rest, by rw [outbox, whole]⟩
  next => cases same

/-- A compiler reports a problem in a library and hangs.  It is given up, another one is launched,
and that one reports another problem in the library. -/
def succession : List (Circumstances × Happening) :=
  let early : Circumstances := ⟨0, fun _ => .ok (), "killed"⟩
  let late : Circumstances := ⟨120000000000, fun _ => .ok (), "killed"⟩
  [(early, .order (.start [⟨"file:///a", "x"⟩])),
    (early, .print 1 (Text.Utf8.bytesOf
      "LISTEN\n\x0cDIAG PARSE\nerror\tfile:///lib\t1\t1\t1\t2\told\n\x0c")),
    (early, .hear), (late, .watchdogTimer),
    (late, .order (.restart ⟨CompilerPlan.default, [], Timing.default⟩)), (late, .hear),
    (late, .print 2 (Text.Utf8.bytesOf
      "LISTEN\n\x0cDIAG PARSE\nerror\tfile:///lib\t2\t1\t2\t2\tnew\n\x0cANALYSED\n\x0c"))]

/-- The session before the output of the second compiler is heard. -/
def heir : World :=
  ((World.new ⟨CompilerPlan.default, [], Timing.default⟩).run? succession).get (by decide +kernel)

/-- The session after it. -/
def heirHeard : World :=
  (heir.take? ⟨120000000000, fun _ => .ok (), "killed"⟩ .hear).get (by decide +kernel)

/-- What the first compiler reported, and what the second did. -/
def heirloom : List Diagnostic :=
  [⟨.error, ⟨⟨0, 0⟩, ⟨0, 1⟩⟩, "old"⟩, ⟨.error, ⟨⟨1, 0⟩, ⟨1, 1⟩⟩, "new"⟩]

theorem succession_ran : (World.new ⟨CompilerPlan.default, [], Timing.default⟩).run? succession =
    some heir :=
  (Option.some_get _).symm

theorem heir_heard :
    heir.take? ⟨120000000000, fun _ => .ok (), "killed"⟩ .hear = some heirHeard :=
  (Option.some_get _).symm

theorem heirloom_published : exists said rest, heirHeard.supervisor.outbox =
    heir.supervisor.outbox ++ (said ++ .emit (.diagnostics "file:///lib" heirloom) :: rest) :=
  exists_published heir_heard (by decide +kernel)

theorem heirloom_inherited_and_own :
    heir.supervisor.processes.current = some 2 ∧
      exists said rest origin listed,
        heirHeard.supervisor.outbox = heir.supervisor.outbox ++
          (said ++ .emit (.diagnostics "file:///lib" heirloom) :: rest) ∧
        Passes ⟨CompilerPlan.default, [], Timing.default⟩ succession origin heir ∧
        origin.supervisor.Fresh 2 ∧
        Composed origin.supervisor.pipeline.problems
          (Remark.reported (Wire.FrameBuffer.received (heir.speech 2)))
          (heir.supervisor.outbox ++ said) "file:///lib" listed ∧
        heirloom = listed .parse ++ listed .analysis := by
  have second : heir.supervisor.processes.current = some 2 := by decide +kernel
  rcases heirloom_published with ⟨said, rest, published⟩
  rcases published_is_inherited_or_own succession_ran heir_heard published (by decide) with
    ⟨generation, origin, current, passes, fresh, listed, composed, parts⟩
  have same : generation = 2 := Option.some.inj (current.symm.trans second)
  subst same
  exact ⟨second, said, rest, origin, listed, published, passes, fresh, composed, parts⟩

/-- A diagnostic can be published that the live process has not reported. -/
theorem published_can_be_inherited :
    ¬forall (plan : Plan) (course : List (Circumstances × Happening)) (world next : World)
      (around : Circumstances) (happening : Happening) (said rest : List Effect) (uri : String)
      (items : List Diagnostic), (World.new plan).run? course = some world ->
      world.take? around happening = some next ->
      next.supervisor.outbox =
        world.supervisor.outbox ++ (said ++ .emit (.diagnostics uri items) :: rest) ->
      forall generation, world.supervisor.processes.current = some generation ->
      forall diagnostic, diagnostic ∈ items -> exists band, diagnostic ∈ Remark.about band uri
        (Remark.reported (Wire.FrameBuffer.received (world.speech generation))) := by
  intro own
  have second : heir.supervisor.processes.current = some 2 := by decide +kernel
  rcases heirloom_published with ⟨said, rest, published⟩
  rcases own _ _ _ _ _ _ _ _ _ _ succession_ran heir_heard published 2 second _
    List.mem_cons_self with ⟨band, reported⟩
  have unreported : forall band, (⟨.error, ⟨⟨0, 0⟩, ⟨0, 1⟩⟩, "old"⟩ : Diagnostic) ∉
      Remark.about band "file:///lib"
        (Remark.reported (Wire.FrameBuffer.received (heir.speech 2))) := by
    intro band
    cases band with
    | parse => decide +kernel
    | analysis => decide +kernel
  exact unreported band reported

end World
end Session
end LanguageServer
