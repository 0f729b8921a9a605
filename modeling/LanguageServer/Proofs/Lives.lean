import LanguageServer.Proofs.Aborts
import LanguageServer.Proofs.Crashes

namespace LanguageServer
namespace Session

/-!
# The stages of a session tell the lives of its compilers

What the editor hears of the compilers is one sequence of stages.  It is made of lives.  A life that
the settings forbid is one stage, a launch that fails is two, and every other life begins with a
launch, goes on with reports of the compiler's work, and ends when the compiler is stopped, crashes
or is given up.  The next life begins after that, so that there is never more than one compiler, and
nothing is reported of one that is gone.

`Life` says this of whole lives.  A reader of stages, `Standing.read?`, follows a sequence stage by
stage and refuses it as soon as one is out of place; `Told` says which lives it has read by then and
what is open.  A turn of the supervisor then only has to be followed from the standing
before it to the standing after it.  Three things are used: the watchdog does not run without a live
process, output is heard of the live process only, and a process that crashes was permitted by the
plan, so that another launch is attempted in its place.
-/

/-- A stage with which the life of a compiler ends. -/
def Lifecycle.isEnding : Lifecycle -> Bool
  | .killed | .crashed _ | .aborted _ => true
  | .starting | .running | .listening | .analysed | .exception _ | .protocolError _ | .blocked =>
      false

/-- The stages of a whole life. -/
inductive Life : List Lifecycle -> Prop where
  /-- The settings forbid it. -/
  | forbidden : Life [.blocked]
  /-- The launch fails. -/
  | stillborn (reason : String) : Life [.starting, .aborted reason]
  | lived {reports : List Lifecycle} {ending : Lifecycle}
      (work : forall stage, stage ∈ reports -> stage.isReport = true)
      (ends : ending.isEnding = true) : Life (.starting :: .running :: (reports ++ [ending]))

/-- Lives one after the other, of which the last one may not be complete. -/
def Chronicle (stages : List Lifecycle) : Prop :=
  exists lives : List (List Lifecycle), (forall life, life ∈ lives -> Life life) ∧
    stages <+: lives.flatten

/-! ## Reading stages -/

/-- Where a sequence of stages has come to. -/
inductive Standing where
  /-- No life has begun, or the last one is over. -/
  | vacant
  /-- A compiler is about to be launched. -/
  | begun
  | alive
  /-- A compiler crashed, and another one has to follow. -/
  | bereaved
deriving DecidableEq, Repr, Inhabited

namespace Standing

/-- The standing after one more stage, if that stage is in its place. -/
def advance? : Standing -> Lifecycle -> Option Standing
  | .vacant, .blocked => some .vacant
  | .vacant, .starting | .bereaved, .starting => some .begun
  | .begun, .aborted _ => some .vacant
  | .begun, .running => some .alive
  | .alive, .killed | .alive, .aborted _ => some .vacant
  | .alive, .crashed _ => some .bereaved
  | .alive, .listening | .alive, .analysed | .alive, .exception _ | .alive, .protocolError _ =>
      some .alive
  | _, _ => none

def follow? (standing : Standing) (stages : List Lifecycle) : Option Standing :=
  stages.foldlM advance? standing

/-- The standing after all stages of a session. -/
def read? (stages : List Lifecycle) : Option Standing := follow? .vacant stages

theorem follow?_cons {standing last : Standing} {stage : Lifecycle} {later : List Lifecycle}
    (followed : standing.follow? (stage :: later) = some last) :
    exists next, standing.advance? stage = some next ∧ next.follow? later = some last := by
  rw [follow?, List.foldlM_cons] at followed
  exact Option.bind_eq_some_iff.mp followed

theorem read?_append {earlier later : List Lifecycle} {last : Standing} :
    read? (earlier ++ later) = some last ↔
      exists middle, read? earlier = some middle ∧ middle.follow? later = some last := by
  rw [read?, follow?, List.foldlM_append]
  exact Option.bind_eq_some_iff

/-- A stage in the middle of a sequence is in its place. -/
theorem read?_split {earlier later : List Lifecycle} {stage : Lifecycle} {last : Standing}
    (read : read? (earlier ++ stage :: later) = some last) :
    exists before after, read? earlier = some before ∧ before.advance? stage = some after ∧
      after.follow? later = some last := by
  rcases read?_append.mp read with ⟨before, readBefore, followed⟩
  rcases follow?_cons followed with ⟨after, advanced, rest⟩
  exact ⟨before, after, readBefore, advanced, rest⟩

variable {standing next : Standing} {stage : Lifecycle}

/-- Everything that a stage in its place can be. -/
theorem advance?_cases (advanced : standing.advance? stage = some next) :
    (standing = .vacant ∧ stage = .blocked ∧ next = .vacant) ∨
    ((standing = .vacant ∨ standing = .bereaved) ∧ stage = .starting ∧ next = .begun) ∨
    (standing = .begun ∧ (exists reason, stage = .aborted reason) ∧ next = .vacant) ∨
    (standing = .begun ∧ stage = .running ∧ next = .alive) ∨
    (standing = .alive ∧ stage.isEnding = true ∧
      next = if stage.isCrash then .bereaved else .vacant) ∨
    (standing = .alive ∧ stage.isReport = true ∧ next = .alive) := by
  cases standing <;> cases stage <;> cases advanced <;>
    simp [Lifecycle.isEnding, Lifecycle.isReport, Lifecycle.isCrash]

/-- Reports are in their place as long as the compiler lives. -/
theorem follow?_reports {reports : List Lifecycle}
    (work : forall stage, stage ∈ reports -> stage.isReport = true) :
    Standing.alive.follow? reports = some .alive := by
  induction reports with
  | nil => rfl
  | cons stage rest inductionHypothesis =>
      have advanced : Standing.alive.advance? stage = some .alive := by
        have isReport := work stage List.mem_cons_self
        cases stage <;> cases isReport <;> rfl
      rw [follow?, List.foldlM_cons, advanced]
      exact inductionHypothesis (fun other member => work other (List.mem_cons_of_mem _ member))

/-- A compiler lives until its life ends. -/
theorem alive_of_follow? {stages : List Lifecycle}
    (unended : forall stage, stage ∈ stages -> stage.isEnding = false)
    (followed : Standing.alive.follow? stages = some next) : next = .alive := by
  induction stages with
  | nil => exact (Option.some.inj followed).symm
  | cons stage rest inductionHypothesis =>
      rcases follow?_cons followed with ⟨middle, advanced, later⟩
      have alive : middle = .alive := by
        have continues := unended stage List.mem_cons_self
        cases stage <;> cases continues <;> cases advanced <;> rfl
      rw [alive] at later
      exact inductionHypothesis
        (fun other member => unended other (List.mem_cons_of_mem _ member)) later

/-! ## What was read -/

/-- The stages of a life that is not complete. -/
def Unfinished : Standing -> List Lifecycle -> Prop
  | .vacant, stages | .bereaved, stages => stages = []
  | .begun, stages => stages = [.starting]
  | .alive, stages => exists reports, stages = .starting :: .running :: reports ∧
      forall stage, stage ∈ reports -> stage.isReport = true

/-- The stages are whole lives, and then one that is not complete. -/
def Told (stages : List Lifecycle) (standing : Standing) : Prop :=
  exists (lives : List (List Lifecycle)) (rest : List Lifecycle),
    (forall life, life ∈ lives -> Life life) ∧ stages = lives.flatten ++ rest ∧
      standing.Unfinished rest

/-- A life is completed. -/
private theorem told_of_life {lives : List (List Lifecycle)} {life : List Lifecycle}
    (whole : forall life, life ∈ lives -> Life life) (last : Life life)
    (closed : next.Unfinished []) : Told (lives.flatten ++ life) next := by
  refine ⟨lives ++ [life], [], ?_, ?_, closed⟩
  · intro other member
    rcases List.mem_append.mp member with earlier | new
    · exact whole other earlier
    · exact List.mem_singleton.mp new ▸ last
  · rw [List.flatten_append, List.flatten_singleton, List.append_nil]

theorem Told.advance {stages : List Lifecycle} (told : Told stages standing)
    (advanced : standing.advance? stage = some next) : Told (stages ++ [stage]) next := by
  rcases told with ⟨lives, rest, whole, split, unfinished⟩
  subst split
  rw [List.append_assoc]
  rcases advance?_cases advanced with ⟨origin, kind, target⟩ | ⟨origin, kind, target⟩ |
    ⟨origin, ⟨reason, kind⟩, target⟩ | ⟨origin, kind, target⟩ | ⟨origin, ends, target⟩ |
    ⟨origin, work, target⟩
  · subst origin kind target
    rw [show rest = [] from unfinished]
    exact told_of_life whole .forbidden rfl
  · have empty : rest = [] := by
      rcases origin with vacant | bereaved
      · subst vacant
        exact unfinished
      · subst bereaved
        exact unfinished
    subst kind target
    rw [empty]
    exact ⟨lives, [.starting], whole, rfl, rfl⟩
  · subst origin kind target
    rw [show rest = [.starting] from unfinished]
    exact told_of_life whole (.stillborn reason) rfl
  · subst origin kind target
    rw [show rest = [.starting] from unfinished]
    exact ⟨lives, [.starting, .running], whole, rfl, [], rfl, nofun⟩
  · subst origin
    rcases unfinished with ⟨reports, same, reported⟩
    subst same
    refine told_of_life whole (.lived reported ends) ?_
    rw [target]
    split <;> rfl
  · subst origin target
    rcases unfinished with ⟨reports, same, reported⟩
    subst same
    refine ⟨lives, _, whole, rfl, reports ++ [stage], rfl, ?_⟩
    intro other member
    rcases List.mem_append.mp member with earlier | last
    · exact reported other earlier
    · exact List.mem_singleton.mp last ▸ work

theorem told_of_read? {stages : List Lifecycle} (read : read? stages = some standing) :
    Told stages standing := by
  have start : Told [] .vacant := ⟨[], [], nofun, rfl, rfl⟩
  exact foldlM_induction start (fun _ _ _ _ told advanced => told.advance advanced) read

/-- What is open can be brought to an end. -/
theorem Told.chronicle {stages : List Lifecycle} (told : Told stages standing) :
    Chronicle stages := by
  rcases told with ⟨lives, rest, whole, split, unfinished⟩
  subst split
  have completed : forall ending, Life (rest ++ ending) -> Chronicle (lives.flatten ++ rest) := by
    intro ending life
    refine ⟨lives ++ [rest ++ ending], ?_, ⟨ending, ?_⟩⟩
    · intro other member
      rcases List.mem_append.mp member with earlier | last
      · exact whole other earlier
      · exact List.mem_singleton.mp last ▸ life
    · rw [List.flatten_append, List.flatten_singleton, List.append_assoc]
  cases standing with
  | vacant =>
      rw [show rest = [] from unfinished, List.append_nil]
      exact ⟨lives, whole, List.prefix_refl _⟩
  | bereaved =>
      rw [show rest = [] from unfinished, List.append_nil]
      exact ⟨lives, whole, List.prefix_refl _⟩
  | begun =>
      refine completed [.aborted ""] ?_
      rw [show rest = [.starting] from unfinished]
      exact .stillborn ""
  | alive =>
      rcases unfinished with ⟨reports, same, reported⟩
      refine completed [.killed] ?_
      rw [same]
      exact .lived reported rfl

/-- While a compiler lives, nothing but reports has come since its launch. -/
theorem alive_since {stages : List Lifecycle} (read : read? stages = some .alive) :
    exists earlier reports, stages = earlier ++ .running :: reports ∧
      forall stage, stage ∈ reports -> stage.isReport = true := by
  rcases told_of_read? read with ⟨lives, rest, _, split, reports, same, work⟩
  refine ⟨lives.flatten ++ [.starting], reports, ?_, work⟩
  rw [split, same, List.append_assoc]
  rfl

/-- A launch and then only reports: the compiler lives. -/
theorem alive_of_reports {earlier reports : List Lifecycle}
    (read : read? (earlier ++ .running :: reports) = some standing)
    (work : forall stage, stage ∈ reports -> stage.isReport = true) : standing = .alive := by
  rcases read?_split read with ⟨before, after, _, advanced, followed⟩
  have alive : after = .alive := by
    cases before <;> cases advanced
    rfl
  rw [alive, follow?_reports work] at followed
  exact (Option.some.inj followed).symm

/-- After a crash the next stage is another launch. -/
theorem crash_followed {earlier later : List Lifecycle} {status : String}
    (read : read? (earlier ++ .crashed status :: later) = some standing)
    (settled : standing ≠ .bereaved) : exists rest, later = .starting :: rest := by
  rcases read?_split read with ⟨before, after, _, advanced, followed⟩
  have bereaved : after = .bereaved := by
    cases before <;> cases advanced
    rfl
  subst bereaved
  cases later with
  | nil => exact absurd (Option.some.inj followed).symm settled
  | cons stage rest =>
      rcases follow?_cons followed with ⟨next, begins, _⟩
      cases stage <;> cases begins
      exact ⟨rest, rfl⟩

/-- Between two launches a life ends. -/
theorem ending_between {earlier between later : List Lifecycle}
    (read : read? (earlier ++ .running :: (between ++ .running :: later)) = some standing) :
    exists ending, ending ∈ between ∧ ending.isEnding = true := by
  rcases read?_split read with ⟨before, after, _, launched, followed⟩
  have alive : after = .alive := by
    cases before <;> cases launched
    rfl
  subst alive
  apply Decidable.byContradiction
  intro never
  have unended : forall stage, stage ∈ between -> stage.isEnding = false := by
    intro stage member
    cases ends : stage.isEnding with
    | false => rfl
    | true => exact absurd ⟨stage, member, ends⟩ never
  rw [follow?, List.foldlM_append] at followed
  rcases Option.bind_eq_some_iff.mp followed with ⟨middle, through, again⟩
  rw [alive_of_follow? unended through] at again
  cases again

/-- A report is about a compiler that lives. -/
theorem report_alive {earlier later : List Lifecycle}
    (read : read? (earlier ++ stage :: later) = some standing) (work : stage.isReport = true) :
    read? earlier = some .alive := by
  rcases read?_split read with ⟨before, after, readBefore, advanced, _⟩
  have alive : before = .alive := by
    cases stage <;> cases work <;> cases before <;> cases advanced <;> rfl
  rw [← alive]
  exact readBefore

end Standing

/-! ## Turns of the supervisor -/

namespace Supervisor

/-- The stages that were reported so far have come to this standing. -/
def Reads (supervisor : Supervisor) (standing : Standing) : Prop :=
  Standing.read? (Effect.stages supervisor.outbox) = some standing

/-- The stages agree with the processes, as long as the session goes on. -/
structure Chronicled (supervisor : Supervisor) : Prop where
  told : exists standing, supervisor.Reads standing ∧ standing ≠ .bereaved
  live : supervisor.ended = false -> supervisor.processes.current.isSome ->
    supervisor.Reads .alive
  idle : supervisor.ended = false -> supervisor.processes.current = none ->
    supervisor.Reads .vacant

variable {supervisor next : Supervisor} {standing : Standing}

theorem Reads.announce (reads : supervisor.Reads standing) {stages : List Lifecycle}
    {after : Standing} (announced : Pipeline.Announces supervisor.pipeline stages next.pipeline)
    (followed : standing.follow? stages = some after) : next.Reads after := by
  rw [Reads, Supervisor.outbox, announced]
  exact Standing.read?_append.mpr ⟨standing, reads, followed⟩

theorem Chronicled.of_live (live : supervisor.processes.current.isSome)
    (reads : supervisor.Reads .alive) : supervisor.Chronicled := by
  refine ⟨⟨_, reads, nofun⟩, fun _ _ => reads, ?_⟩
  intro _ idle
  rw [idle] at live
  cases live

theorem Chronicled.of_idle (idle : supervisor.processes.current = none)
    (reads : supervisor.Reads .vacant) : supervisor.Chronicled := by
  refine ⟨⟨_, reads, nofun⟩, ?_, fun _ _ => reads⟩
  intro _ live
  rw [idle] at live
  cases live

theorem Chronicled.of_ended (ended : supervisor.ended = true) (reads : supervisor.Reads standing)
    (settled : standing ≠ .bereaved) : supervisor.Chronicled := by
  refine ⟨⟨_, reads, settled⟩, ?_, ?_⟩
  · intro going
    cases ended.symm.trans going
  · intro going
    cases ended.symm.trans going

/-- A turn that reports nothing and leaves the processes alone. -/
theorem Chronicled.silent (chronicled : supervisor.Chronicled)
    (processes : next.processes.current = supervisor.processes.current)
    (ended : next.ended = supervisor.ended)
    (announced : Pipeline.Announces supervisor.pipeline [] next.pipeline) : next.Chronicled := by
  have same : forall standing, supervisor.Reads standing -> next.Reads standing :=
    fun _ reads => reads.announce announced rfl
  rcases chronicled.told with ⟨standing, reads, settled⟩
  refine ⟨⟨standing, same _ reads, settled⟩, ?_, ?_⟩
  · rw [processes, ended]
    exact fun going live => same _ (chronicled.live going live)
  · rw [processes, ended]
    exact fun going idle => same _ (chronicled.idle going idle)

theorem killCompiler_announces (supervisor : Supervisor) :
    Pipeline.Announces supervisor.pipeline [] supervisor.killCompiler.pipeline := by
  have performed := Pipeline.perform_announces supervisor.pipeline
    (supervisor.processes.current.toList.map .kill)
  rw [Effect.stages_kill] at performed
  exact performed

theorem breakDown_announces (supervisor : Supervisor) :
    Pipeline.Announces supervisor.pipeline [] supervisor.breakDown.pipeline :=
  (killCompiler_announces supervisor).trans (Pipeline.settle_announces _ _)

/-- Once its compiler is stopped, the supervisor has told a whole number of lives. -/
theorem Chronicled.stopCompiler (chronicled : supervisor.Chronicled)
    (going : supervisor.ended = false) : supervisor.stopCompiler.Reads .vacant := by
  cases live : supervisor.processes.current with
  | none =>
      rw [stopCompiler_of_idle live]
      exact chronicled.idle going live
  | some generation =>
      have alive := chronicled.live going (by rw [live]; rfl)
      rcases @Pipeline.operate?_announces supervisor.killCompiler.pipeline _ .stopped rfl with
        ⟨stages, announced, reports⟩
      rw [Supervisor.stopCompiler, Processes.isRunning, live, if_pos Option.isSome_some]
      refine alive.announce ((killCompiler_announces supervisor).trans announced) ?_
      rw [reports]
      rfl

/-- What is reported when a compiler is to be launched, and what comes of it. -/
theorem spawnCompiler_announces (idle : supervisor.processes.current = none) (launch : Launcher)
    (now : Instant) :
    exists stages, Pipeline.Announces supervisor.pipeline stages
        (supervisor.spawnCompiler launch now).pipeline ∧
      ((supervisor.plan.compiler.block = true ∧ stages = [.blocked] ∧
          (supervisor.spawnCompiler launch now).processes.current = none) ∨
        (exists reason, stages = [.starting, .aborted reason] ∧
          (supervisor.spawnCompiler launch now).processes.current = none) ∨
        (stages = [.starting, .running] ∧
          (supervisor.spawnCompiler launch now).processes.current.isSome) ∨
        (stages = [.starting] ∧ (supervisor.spawnCompiler launch now).ended = true)) := by
  by_cases blocked : supervisor.plan.compiler.block = true
  · rcases @Pipeline.operate?_announces supervisor.pipeline _ .block rfl with
      ⟨stages, announced, reports⟩
    rw [spawnCompiler, if_pos blocked]
    exact ⟨stages, announced, Or.inl ⟨blocked, reports, idle⟩⟩
  have starts : Pipeline.Announces supervisor.pipeline [.starting]
      { supervisor with pipeline := supervisor.pipeline.starting }.killCompiler.pipeline :=
    (Pipeline.emit_announces supervisor.pipeline .starting).trans (killCompiler_announces _)
  rw [spawnCompiler, if_neg blocked]
  cases launch supervisor.plan with
  | error fault =>
      rcases @Pipeline.operate?_announces { supervisor with
          pipeline := supervisor.pipeline.starting }.killCompiler.pipeline _
        (.spawnFailed fault.message) rfl with ⟨stages, announced, reports⟩
      subst reports
      exact ⟨_, starts.trans announced, Or.inr (Or.inl ⟨fault.message, rfl,
        Processes.stop_current _⟩)⟩
  | ok _ =>
      have launched := starts.trans (Pipeline.perform_announces _ [.launch
        { supervisor with
          pipeline := supervisor.pipeline.starting }.killCompiler.processes.beginLaunch.generation
        supervisor.plan])
      show exists stages, Pipeline.Announces _ stages (Supervisor.attach _ now).pipeline ∧
        (_ ∨ _ ∨ (_ ∧ (Supervisor.attach _ now).processes.current.isSome = true) ∨
          (_ ∧ (Supervisor.attach _ now).ended = true))
      unfold Supervisor.attach
      split
      · exact ⟨_, launched.trans (Pipeline.emit_announces _ .running),
          Or.inr (Or.inr (Or.inl ⟨rfl, rfl⟩))⟩
      · exact ⟨_, launched.trans (breakDown_announces _), Or.inr (Or.inr (Or.inr ⟨rfl, rfl⟩))⟩

/-- A launch may be attempted when no life is open.  After a crash the plan has to permit it. -/
theorem Reads.spawnCompiler (reads : supervisor.Reads standing)
    (idle : supervisor.processes.current = none)
    (free : standing = .vacant ∨ standing = .bereaved ∧ supervisor.plan.compiler.block = false)
    (launch : Launcher) (now : Instant) : (supervisor.spawnCompiler launch now).Chronicled := by
  have begins : standing.advance? .starting = some .begun := by
    rcases free with vacant | ⟨bereaved, _⟩
    · rw [vacant]
      rfl
    · rw [bereaved]
      rfl
  have follows : forall later, standing.follow? (.starting :: later) =
      Standing.begun.follow? later := by
    intro later
    rw [Standing.follow?, List.foldlM_cons, begins]
    rfl
  rcases spawnCompiler_announces idle launch now with ⟨stages, announced, outcome⟩
  rcases outcome with ⟨blocked, same, gone⟩ | ⟨reason, same, gone⟩ | ⟨same, live⟩ | ⟨same, ended⟩
  · subst same
    rcases free with vacant | ⟨_, permitted⟩
    · subst vacant
      exact Chronicled.of_idle gone (reads.announce announced rfl)
    · cases blocked.symm.trans permitted
  · subst same
    exact Chronicled.of_idle gone (reads.announce announced (follows _))
  · subst same
    exact Chronicled.of_live live (reads.announce announced (follows _))
  · subst same
    exact Chronicled.of_ended ended (reads.announce announced (follows _)) nofun

/-- An operation that is silent, as a turn. -/
theorem Chronicled.operate (chronicled : supervisor.Chronicled) (operation : Operation)
    {pipeline : Pipeline} (applied : supervisor.pipeline.operate? operation = some pipeline)
    (quiet : forall stages, operation.Reports stages -> stages = []) :
    { supervisor with pipeline := pipeline }.Chronicled := by
  rcases Pipeline.operate?_announces applied with ⟨stages, announced, reports⟩
  rw [quiet stages reports] at announced
  exact chronicled.silent rfl rfl announced

theorem Chronicled.obey (chronicled : supervisor.Chronicled) (going : supervisor.ended = false)
    (launch : Launcher) (now : Instant) (given : Order) :
    (supervisor.obey launch now given).Chronicled := by
  cases given with
  | start documents =>
      have stopped := chronicled.stopCompiler going
      rcases @Pipeline.operate?_announces supervisor.stopCompiler.pipeline _
        (.load documents now) rfl with ⟨stages, announced, quiet⟩
      rw [show stages = [] from quiet] at announced
      have loaded : { supervisor.stopCompiler with
          pipeline := supervisor.stopCompiler.pipeline.load documents now }.Reads .vacant :=
        stopped.announce announced rfl
      exact loaded.spawnCompiler (stopCompiler_current supervisor) (Or.inl rfl) launch now
  | edit document version =>
      exact chronicled.operate (.edit document version now) rfl (fun _ quiet => quiet)
  | flush => exact chronicled.operate (.flush now) rfl (fun _ quiet => quiet)
  | request id query =>
      rw [Supervisor.obey]
      split
      next pipeline submitted =>
        exact chronicled.operate (.submit id query now) submitted
          (fun _ quiet => quiet)
      next =>
        rcases chronicled.told with ⟨standing, reads, settled⟩
        have broken : Pipeline.Announces supervisor.pipeline []
            (supervisor.choke id).pipeline :=
          (breakDown_announces supervisor).trans (Pipeline.settle_announces _ [_])
        exact Chronicled.of_ended rfl (reads.announce broken rfl) settled
  | requestRestart =>
      exact chronicled.operate .requestRestart rfl (fun _ quiet => quiet)
  | restart plan =>
      have planned : { supervisor with
          plan := plan, pipeline := supervisor.pipeline.applyTiming plan.timing }.Chronicled :=
        chronicled.silent rfl rfl (Pipeline.Announces.silent rfl)
      exact (planned.stopCompiler going).spawnCompiler (stopCompiler_current _) (Or.inl rfl)
        launch now
  | shutdown => exact Chronicled.of_ended rfl (chronicled.stopCompiler going) (by decide)

/-- Giving up a compiler ends its life. -/
theorem Reads.giveUp (alive : supervisor.Reads .alive) : supervisor.giveUp.Chronicled := by
  rcases @Pipeline.operate?_announces supervisor.pipeline _ .watchdogExpired rfl with
    ⟨stages, announced, reason, reports⟩
  subst reports
  have told : supervisor.giveUp.Reads .vacant :=
    alive.announce (announced.trans (killCompiler_announces
      { supervisor with pipeline := supervisor.pipeline.watchdogExpired })) rfl
  exact Chronicled.of_idle (Processes.stop_current _) told

/-- Output of the live process brings only reports. -/
theorem Chronicled.hearOutput (chronicled : supervisor.Chronicled)
    (going : supervisor.ended = false) (launch : Launcher) (now : Instant) (generation : Nat)
    (chunk : List UInt8) :
    (supervisor.hear launch now (.output generation chunk)).Chronicled := by
  rw [hear]
  split
  next current =>
    have live : supervisor.processes.current.isSome := by
      rw [of_decide_eq_true current]
      rfl
    rcases @Pipeline.operate?_announces supervisor.pipeline _ (.chunk chunk now) rfl with
      ⟨stages, announced, reports⟩
    have alive := chronicled.live going live
    exact Chronicled.of_live live (alive.announce announced (Standing.follow?_reports reports))
  next => exact chronicled

/-- A crash ends a life, and another one begins. -/
theorem Reads.recover (alive : supervisor.Reads .alive)
    (permitted : supervisor.plan.compiler.block = false) (processes : Processes)
    (idle : processes.current = none) (status : String) (launch : Launcher) (now : Instant) :
    ({ supervisor with
      processes := processes
      pipeline := supervisor.pipeline.recover status }.spawnCompiler launch now).Chronicled := by
  rcases @Pipeline.operate?_announces supervisor.pipeline _ (.recover status) rfl with
    ⟨stages, announced, reports⟩
  rw [show stages = [.crashed status] from reports] at announced
  have bereaved : { supervisor with
      processes := processes
      pipeline := supervisor.pipeline.recover status }.Reads .bereaved :=
    alive.announce announced rfl
  exact bereaved.spawnCompiler idle (Or.inr ⟨rfl, permitted⟩) launch now

end Supervisor

/-! ## Every session -/

namespace World

variable {world next : World} {around : Circumstances} {happening : Happening}

/-- Nothing is reported in a session that has ended. -/
theorem chronicled_of_ended (ended : world.supervisor.ended = true)
    (chronicled : world.supervisor.Chronicled)
    (taken : world.take? around happening = some next) : next.supervisor.Chronicled := by
  rcases chronicled.told with ⟨standing, reads, settled⟩
  suffices same : next.supervisor.Reads standing from
    Supervisor.Chronicled.of_ended (take?_ended ended taken) same settled
  rw [take?_supervisor taken]
  cases world.input? happening with
  | none => exact reads
  | some input =>
      show (world.supervisor.step around.launcher around.now input).Reads standing
      cases input with
      | order given =>
          rw [Supervisor.step, if_pos ended]
          cases given with
          | request id query =>
              exact reads.announce (Pipeline.settle_announces world.supervisor.pipeline [_]) rfl
          | _ => exact reads
      | signal received =>
          rw [Supervisor.step, if_pos ended]
          exact reads
      | editTimer =>
          rw [Supervisor.step, if_pos ended]
          exact reads
      | watchdogTimer =>
          rw [Supervisor.step, if_pos ended]
          exact reads

theorem chronicled_hear {oldest : Signal} {rest : List Signal}
    (chronicled : world.supervisor.Chronicled) (going : world.supervisor.ended = false)
    (orderly : world.Orderly) (permitted : world.supervisor.Permitted)
    (signals : world.signals = oldest :: rest) (launch : Launcher) (now : Instant) :
    (world.supervisor.hear launch now oldest).Chronicled := by
  cases oldest with
  | output generation chunk => exact chronicled.hearOutput going launch now generation chunk
  | exited generation status =>
      rcases orderly.hear_exited signals launch now with ⟨live, crash⟩ | ⟨_, noted⟩
      · rw [crash]
        have alive := chronicled.live going (by rw [live]; rfl)
        exact alive.recover (permitted generation live) _ rfl status launch now
      · rw [noted]
        exact chronicled.silent rfl rfl (Pipeline.Announces.silent rfl)

/-- The watchdog barks only at a live process. -/
theorem live_of_watchdogTimer (rests : world.supervisor.Rests)
    (taken : world.take? around .watchdogTimer = some next) :
    world.supervisor.processes.current.isSome := by
  cases live : world.supervisor.processes.current with
  | some generation => rfl
  | none =>
      rw [take?, (rests live).watchdogDeadline] at taken
      cases taken

theorem chronicled_take (chronicled : world.supervisor.Chronicled)
    (going : world.supervisor.ended = false) (orderly : world.Orderly)
    (rests : world.supervisor.Rests) (permitted : world.supervisor.Permitted)
    (taken : world.take? around happening = some next) : next.supervisor.Chronicled := by
  have notEnded : ¬world.supervisor.ended = true := by simp [going]
  have steps : forall input, world.input? happening = some input ->
      (world.supervisor.step around.launcher around.now input).Chronicled ->
      next.supervisor.Chronicled := by
    intro input given held
    rw [take?_supervisor taken, given]
    exact held
  cases happening with
  | order given =>
      refine steps _ rfl ?_
      rw [Supervisor.step, if_neg notEnded]
      exact chronicled.obey going _ _ given
  | hear =>
      cases signals : world.signals with
      | nil =>
          rw [take?, signals] at taken
          cases taken
      | cons oldest rest =>
          refine steps (.signal oldest) (by rw [input?, signals]; rfl) ?_
          rw [Supervisor.step, if_neg notEnded]
          exact chronicled_hear chronicled going orderly permitted signals _ _
  | editTimer =>
      refine steps _ rfl ?_
      rw [Supervisor.step, if_neg notEnded]
      exact chronicled.operate (.flush around.now) rfl (fun _ quiet => quiet)
  | watchdogTimer =>
      refine steps _ rfl ?_
      rw [Supervisor.step, if_neg notEnded]
      exact (chronicled.live going (live_of_watchdogTimer rests taken)).giveUp
  | print generation chunk =>
      rw [take?_supervisor taken]
      exact chronicled
  | exit status =>
      rw [take?_supervisor taken]
      exact chronicled

theorem chronicled_run {plan : Plan} {course : List (Circumstances × Happening)}
    (ran : (World.new plan).run? course = some world) : world.supervisor.Chronicled := by
  have held := run?_resting (motive := fun _ world => world.supervisor.Chronicled ∧
    world.supervisor.Permitted) ?_ ?_ ran
  · exact held.1.1
  · exact ⟨Supervisor.Chronicled.of_idle rfl rfl, Supervisor.Permitted.idle rfl⟩
  · rintro earlier world next around happening ⟨chronicled, permitted⟩ resting taken
    refine ⟨?_, take?_keeps permitted (permitted.step _ _) taken⟩
    cases ended : world.supervisor.ended with
    | true => exact chronicled_of_ended ended chronicled taken
    | false =>
        rcases resting ended with ⟨orderly, rests⟩
        exact chronicled_take chronicled ended orderly rests permitted taken

/-- The stages that a session reports tell lives of compilers, one after the other.  At every point
of every session they are the beginning of a sequence of whole lives, and every crash is followed
by another launch.

So between two launches a life ends, and every report comes after a launch with nothing but reports
between them: it is about a compiler that was not reported gone.  And as long as the session goes
on, there is a live process exactly when the last life is open. -/
theorem stages_tell_lives {plan : Plan} {course : List (Circumstances × Happening)} {world : World}
    (ran : (World.new plan).run? course = some world) {stages : List Lifecycle}
    (reported : Effect.stages world.supervisor.outbox = stages) :
    Chronicle stages ∧
    (forall earlier status later, stages = earlier ++ .crashed status :: later ->
      exists rest, later = .starting :: rest) ∧
    (forall earlier between later,
      stages = earlier ++ .running :: (between ++ .running :: later) ->
      exists ending, ending ∈ between ∧ ending.isEnding = true) ∧
    (forall earlier report later, stages = earlier ++ report :: later ->
      report.isReport = true ->
      exists before reports, earlier = before ++ .running :: reports ∧
        forall stage, stage ∈ reports -> stage.isReport = true) ∧
    (world.supervisor.ended = false ->
      (world.supervisor.processes.isRunning = true ↔
        exists before reports, stages = before ++ .running :: reports ∧
          forall stage, stage ∈ reports -> stage.isReport = true)) := by
  have chronicled := chronicled_run ran
  rcases chronicled.told with ⟨standing, reads, settled⟩
  rw [Supervisor.Reads, reported] at reads
  refine ⟨(Standing.told_of_read? reads).chronicle, ?_, ?_, ?_, ?_⟩
  · intro earlier status later split
    rw [split] at reads
    exact Standing.crash_followed reads settled
  · intro earlier between later split
    rw [split] at reads
    exact Standing.ending_between reads
  · intro earlier report later split work
    rw [split] at reads
    exact Standing.alive_since (Standing.report_alive reads work)
  · intro going
    constructor
    · intro running
      have alive := chronicled.live going running
      rw [Supervisor.Reads, reported] at alive
      exact Standing.alive_since alive
    · rintro ⟨before, reports, split, work⟩
      cases live : world.supervisor.processes.current with
      | some generation =>
          rw [Processes.isRunning, live]
          rfl
      | none =>
          have vacant := chronicled.idle going live
          rw [Supervisor.Reads, reported, split] at vacant
          cases Standing.alive_of_reports vacant work

/-- A compiler greets, crashes, and is followed by one that prints what is no frame. -/
def twoLives : List (Circumstances × Happening) :=
  let around : Circumstances := ⟨0, fun _ => .ok (), "killed"⟩
  [(around, .order (.start [])), (around, .print 1 (Text.Utf8.bytesOf "LISTEN\n\x0c")),
    (around, .hear), (around, .exit "1"), (around, .hear), (around, .print 2 [0x0C]),
    (around, .hear)]

def secondLife : World :=
  ((World.new ⟨CompilerPlan.default, [], Timing.default⟩).run? twoLives).get (by decide +kernel)

theorem secondLife_tells_lives :
    Effect.stages secondLife.supervisor.outbox = [.starting, .running, .listening, .crashed "1",
      .starting, .running, .protocolError Wire.FrameFault.emptyFrame.message] ∧
    Chronicle (Effect.stages secondLife.supervisor.outbox) ∧
    secondLife.supervisor.processes.isRunning = true := by
  have ran : (World.new ⟨CompilerPlan.default, [], Timing.default⟩).run? twoLives =
      some secondLife :=
    (Option.some_get _).symm
  have reported : Effect.stages secondLife.supervisor.outbox = [.starting, .running, .listening,
      .crashed "1", .starting, .running, .protocolError Wire.FrameFault.emptyFrame.message] := by
    decide +kernel
  have going : secondLife.supervisor.ended = false := by decide +kernel
  rcases stages_tell_lives ran rfl with ⟨chronicle, _, _, _, unfinished⟩
  refine ⟨reported, chronicle, (unfinished going).mpr ?_⟩
  refine ⟨[.starting, .running, .listening, .crashed "1", .starting],
    [.protocolError Wire.FrameFault.emptyFrame.message], reported, ?_⟩
  intro stage member
  rw [List.mem_singleton.mp member]
  rfl

end World

end Session
end LanguageServer
