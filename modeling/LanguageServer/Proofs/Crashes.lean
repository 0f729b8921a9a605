import LanguageServer.Proofs.Fleet
import LanguageServer.Proofs.Stages
import LanguageServer.Proofs.Turns

namespace LanguageServer
namespace Session

/-!
# Every crash is answered once

What holds of the books on processes in any order of starts, stops and exits holds in every session,
because a session drives them in one of these orders: each move of the supervisor is an action of
the fleet, or none, and hearing a signal is a delivery.  So the exit that a session hears is a crash
exactly if the supervisor never killed the process.

A crash is answered by recovering and by one attempt to launch another process.  Recoveries are
counted by the crashes that are reported, and attempts by generations; both are sums over the moves
of a turn.
-/

/-! ## Sessions drive the books like fleets -/

/-- The processes that were killed, in order. -/
def Effect.kills (effects : List Effect) : List Nat :=
  effects.filterMap (fun effect =>
    match effect with | .kill generation => some generation | _ => none)

theorem Effect.kills_append_words {effects words : List Effect}
    (spoken : forall word, word ∈ words -> word.isWord = true) :
    kills (effects ++ words) = kills effects := by
  have none_killed : kills words = [] := by
    apply List.filterMap_eq_nil_iff.mpr
    intro word member
    have isWord := spoken word member
    cases word with
    | kill generation => cases isWord
    | _ => rfl
  rw [kills, List.filterMap_append]
  exact (congrArg _ none_killed).trans (List.append_nil _)

theorem Effect.kills_append_kills (effects : List Effect) (generations : List Nat) :
    kills (effects ++ generations.map .kill) = kills effects ++ generations := by
  rw [kills, List.filterMap_append, List.filterMap_map]
  exact congrArg _ (List.filterMap_some)

namespace World

/-- The fleet stands where the world stands. -/
structure Mirrors (world : World) (fleet : Fleet) : Prop where
  processes : fleet.processes = world.supervisor.processes
  running : fleet.running = world.running
  signals : fleet.signals = world.signals
  stopped : fleet.stopped = Effect.kills world.supervisor.outbox

/-- Some run of a fleet leads to where the world stands. -/
def Mirrored (world : World) : Prop :=
  exists actions fleet, Fleet.new.run? actions = some fleet ∧ world.Mirrors fleet

variable {world : World} {status : String}

theorem Mirrored.act {actions : List Fleet.Action} {fleet next : Fleet} (action : Fleet.Action)
    (ran : Fleet.new.run? actions = some fleet) (acted : fleet.act? action = some next)
    (mirrors : world.Mirrors next) : world.Mirrored := by
  refine ⟨actions ++ [action], next, ?_, mirrors⟩
  rw [Fleet.run?] at ran ⊢
  rw [List.foldlM_append, ran]
  show (Option.bind (fleet.act? action) some) = some next
  rw [acted]
  rfl

theorem Mirrors.kill {fleet : Fleet} (mirrors : world.Mirrors fleet) :
    (world.adopt status world.supervisor.killCompiler).Mirrors (fleet.halt status) := by
  rcases mirrors with ⟨processes, running, signals, stopped⟩
  cases live : world.supervisor.processes.current with
  | none =>
      rw [Supervisor.killCompiler_of_idle live, adopt_same, Fleet.halt, processes, live]
      exact ⟨processes, running, signals, stopped⟩
  | some generation =>
      have outbox : world.supervisor.killCompiler.outbox =
          world.supervisor.outbox ++ [generation].map .kill := by
        show world.supervisor.outbox ++ _ = _
        rw [live]
        rfl
      have kills : Effect.kills world.supervisor.killCompiler.outbox =
          fleet.stopped ++ [generation] := by
        rw [outbox, Effect.kills_append_kills, stopped]
      rw [adopt_eq outbox, Fleet.halt, processes, live]
      simp only [List.map_cons, List.map_nil, List.foldl_cons, List.foldl_nil, enact, running]
      by_cases runs : world.running = some generation
      · simp only [if_pos runs]
        exact ⟨rfl, rfl, by rw [signals], kills.symm⟩
      · simp only [if_neg runs]
        exact ⟨rfl, running, signals, kills.symm⟩

theorem Mirrored.move {move : Supervisor.Move} {next : Supervisor} (mirrored : world.Mirrored)
    (made : world.supervisor.move? move = some next) : (world.adopt status next).Mirrored := by
  rcases mirrored with ⟨actions, fleet, ran, mirrors⟩
  have unhalted : world.supervisor.processes.current = none -> fleet.halt status = fleet := by
    intro idle
    rw [Fleet.halt, mirrors.processes, idle]
  refine Supervisor.move?_cases (motive := fun next => (world.adopt status next).Mirrored) made
    ?_ ?_ ?_ ?_
  · intro _
    exact Mirrored.act (.stop status) ran rfl mirrors.kill
  · intro _ idle
    refine Mirrored.act (.start true status) ran rfl ?_
    rw [unhalted idle, adopt_eq rfl]
    refine ⟨?_, ?_, mirrors.signals, ?_⟩
    · show fleet.processes.beginLaunch.launched = _
      rw [mirrors.processes]
      rfl
    · show some fleet.processes.beginLaunch.generation = _
      rw [mirrors.processes]
      rfl
    · refine mirrors.stopped.trans ?_
      show _ = Effect.kills (world.supervisor.outbox ++ _)
      rw [Effect.kills, Effect.kills, List.filterMap_append]
      exact (List.append_nil _).symm
  · intro _ idle
    refine Mirrored.act (.start false status) ran rfl ?_
    have placed : world.adopt status { world.supervisor with
          processes := world.supervisor.processes.beginLaunch } =
        { world with supervisor := { world.supervisor with
          processes := world.supervisor.processes.beginLaunch } } :=
      adopt_of_speaks ⟨[], Pipeline.Speaks.silent rfl⟩
    rw [unhalted idle, placed]
    refine ⟨?_, mirrors.running, mirrors.signals, mirrors.stopped⟩
    show fleet.processes.beginLaunch = _
    rw [mirrors.processes]
  · intro next _ _ processes speech
    refine ⟨actions, fleet, ran, ?_⟩
    rw [adopt_of_speaks speech]
    rcases speech with ⟨texts, words, outbox, spoken, _⟩
    refine ⟨mirrors.processes.trans processes.symm, mirrors.running, mirrors.signals, ?_⟩
    show fleet.stopped = Effect.kills next.pipeline.outbox
    rw [outbox, Effect.kills_append_words spoken]
    exact mirrors.stopped

theorem Mirrored.react {around : Circumstances} {input : Input}
    (mirrored : Mirrored { world with supervisor := world.supervisor.noted input }) :
    (world.react around input).Mirrored := by
  rw [react_eq_adopt]
  exact adopt_moves (fun _ _ _ _ mirrored made => mirrored.move made) mirrored
    (Supervisor.moves?_turn world.supervisor around.launcher around.now input)

/-- Hearing a signal is a delivery. -/
theorem Mirrored.hear {oldest : Signal} {rest : List Signal} (mirrored : world.Mirrored)
    (going : world.supervisor.ended = false) (signals : world.signals = oldest :: rest) :
    Mirrored { world with
      signals := rest, supervisor := world.supervisor.noted (.signal oldest) } := by
  rcases mirrored with ⟨actions, fleet, ran, mirrors⟩
  cases oldest with
  | output generation chunk =>
      have waits := mirrors.signals.trans signals
      exact Mirrored.act .deliver ran (Fleet.deliver?_output waits)
        ⟨mirrors.processes, mirrors.running, rfl, mirrors.stopped⟩
  | exited generation exitStatus =>
      have waits := mirrors.signals.trans signals
      refine Mirrored.act .deliver ran (Fleet.deliver?_exited waits) ?_
      rw [Supervisor.noted, if_neg (by simp [going]), mirrors.processes]
      exact ⟨rfl, mirrors.running, rfl, mirrors.stopped⟩

theorem Mirrored.take {next : World} {around : Circumstances} {happening : Happening}
    (mirrored : world.Mirrored) (going : world.supervisor.ended = false)
    (taken : world.take? around happening = some next) : next.Mirrored := by
  have notEnded : ¬world.supervisor.ended = true := by simp [going]
  refine take?_cases (motive := Mirrored) taken ?_ ?_ ?_ ?_ ?_ ?_
  · intro given
    rw [if_neg notEnded]
    refine Mirrored.react ?_
    rcases mirrored with ⟨actions, fleet, ran, processes, running, signals, stopped⟩
    refine ⟨actions, fleet, ran, ?_⟩
    cases given <;> exact ⟨processes, running, signals, stopped⟩
  · exact fun oldest rest signals => Mirrored.react (mirrored.hear going signals)
  · exact Mirrored.react mirrored
  · exact Mirrored.react mirrored
  · intro generation chunk launched
    rcases mirrored with ⟨actions, fleet, ran, mirrors⟩
    refine Mirrored.act (.print generation chunk) ran
      (if_pos (by rw [mirrors.processes]; exact launched)) ?_
    exact ⟨mirrors.processes, mirrors.running, congrArg (· ++ _) mirrors.signals, mirrors.stopped⟩
  · intro generation exitStatus runs
    rcases mirrored with ⟨actions, fleet, ran, mirrors⟩
    refine Mirrored.act (.exit exitStatus) ran
      (by rw [Fleet.act?, mirrors.running, runs]; rfl) ?_
    exact ⟨mirrors.processes, rfl, congrArg (· ++ _) mirrors.signals, mirrors.stopped⟩

end World

/-! ## Recoveries and attempts -/

def Lifecycle.isCrash : Lifecycle -> Bool
  | .crashed _ => true
  | _ => false

/-- How many crashes were reported. -/
def Effect.crashes (effects : List Effect) : Nat :=
  (stages effects).countP Lifecycle.isCrash

def Operation.isRecovery : Operation -> Bool
  | .recover _ => true
  | _ => false

theorem Operation.Reports.crashes {operation : Operation} {stages : List Lifecycle}
    (reported : operation.Reports stages) :
    stages.countP Lifecycle.isCrash = if operation.isRecovery then 1 else 0 := by
  cases operation with
  | chunk bytes now =>
      apply List.countP_eq_zero.mpr
      intro stage member
      have report := reported stage member
      cases stage <;> simp [Lifecycle.isReport, Lifecycle.isCrash] at report ⊢
  | watchdogExpired =>
      rcases reported with ⟨reason, same⟩
      subst same
      rfl
  | _ =>
      rw [Operation.Reports] at reported
      subst reported
      rfl

namespace Supervisor

def Move.isRecovery : Move -> Bool
  | .operate operation => operation.isRecovery
  | _ => false

/-- An attempt to launch a process, whether it succeeds or not. -/
def Move.isAttempt : Move -> Bool
  | .launch | .fail => true
  | _ => false

variable {supervisor next : Supervisor}

theorem move?_crashes {move : Move} (made : supervisor.move? move = some next) :
    Effect.crashes next.outbox =
      Effect.crashes supervisor.outbox + [move].countP Move.isRecovery := by
  -- every move but an operation adds effects that report nothing
  have quiet : forall effects, Effect.stages effects = [] ->
      Effect.crashes (supervisor.outbox ++ effects) = Effect.crashes supervisor.outbox := by
    intro effects nothing
    rw [Effect.crashes, Effect.stages_append, nothing, List.append_nil]
    rfl
  cases move with
  | operate operation =>
      rcases Option.map_eq_some_iff.mp made with ⟨pipeline, applied, same⟩
      rcases Pipeline.operate?_announces applied with ⟨stages, announced, reported⟩
      rw [← same, List.countP_singleton, Move.isRecovery, ← reported.crashes]
      show (Effect.stages pipeline.outbox).countP _ = _
      rw [announced, List.countP_append]
      rfl
  | kill =>
      cases made
      exact quiet _ (Effect.stages_kill _)
  | launch =>
      rw [move?, Option.ite_none_right_eq_some] at made
      rw [← Option.some.inj made.2]
      exact quiet _ rfl
  | fail =>
      rw [move?, Option.ite_none_right_eq_some] at made
      rw [← Option.some.inj made.2]
      rfl
  | replan plan => cases made; rfl
  | dismiss =>
      cases made
      exact quiet _ (Effect.stages_settle _)
  | decline request =>
      cases made
      exact quiet _ (Effect.stages_settle [_])
  | close => cases made; rfl

theorem move?_generation {move : Move} (made : supervisor.move? move = some next) :
    next.processes.generation =
      supervisor.processes.generation + [move].countP Move.isAttempt := by
  refine move?_cases (motive := fun next => next.processes.generation =
    supervisor.processes.generation + [move].countP Move.isAttempt) made ?_ ?_ ?_ ?_
  · intro kill
    subst kill
    exact Processes.stop_generation _
  · intro launch _
    subst launch
    rfl
  · intro fail _
    subst fail
    rfl
  · intro next notLaunch notFail processes _
    rw [processes]
    cases move with
    | launch => exact absurd rfl notLaunch
    | fail => exact absurd rfl notFail
    | _ => rfl

theorem moves?_counts {moves : List Move} (moved : supervisor.moves? moves = some next) :
    Effect.crashes next.outbox =
        Effect.crashes supervisor.outbox + moves.countP Move.isRecovery ∧
      next.processes.generation =
        supervisor.processes.generation + moves.countP Move.isAttempt := by
  refine moves?_induction (motive := fun moves next =>
    Effect.crashes next.outbox =
        Effect.crashes supervisor.outbox + moves.countP Move.isRecovery ∧
      next.processes.generation =
        supervisor.processes.generation + moves.countP Move.isAttempt) ⟨rfl, rfl⟩ ?_ moved
  rintro earlier before after move ⟨crashes, generation⟩ made
  rw [List.countP_append, List.countP_append, move?_crashes made, move?_generation made, crashes,
    generation]
  exact ⟨Nat.add_assoc _ _ _, Nat.add_assoc _ _ _⟩

/-! ## The moves of a turn, counted -/

variable (supervisor) (launch : Launcher) (now : Instant)

theorem stopMoves_recoveries : supervisor.stopMoves.countP Move.isRecovery = 0 := by
  unfold stopMoves
  split <;> rfl

theorem attachMoves_counts : (supervisor.attachMoves now).countP Move.isRecovery = 0 ∧
    (supervisor.attachMoves now).countP Move.isAttempt = 0 := by
  unfold attachMoves
  split <;> exact ⟨rfl, rfl⟩

theorem spawnMoves_recoveries :
    (supervisor.spawnMoves launch now).countP Move.isRecovery = 0 := by
  unfold spawnMoves
  split
  · rfl
  · cases launch supervisor.plan with
    | ok _ => exact (attachMoves_counts supervisor now).1
    | error fault => rfl

/-- Unless the plan forbids it, there is one attempt. -/
theorem spawnMoves_attempts (permitted : supervisor.plan.compiler.block = false) :
    (supervisor.spawnMoves launch now).countP Move.isAttempt = 1 := by
  rw [spawnMoves, if_neg (by simp [permitted])]
  cases launch supervisor.plan with
  | ok _ =>
      show List.countP _ (_ ++ Move.launch :: supervisor.attachMoves now) = 1
      simp [List.countP_cons, Move.isAttempt, (attachMoves_counts supervisor now).2]
  | error fault => rfl

theorem obeyMoves_recoveries (given : Order) :
    (supervisor.obeyMoves launch now given).countP Move.isRecovery = 0 := by
  cases given with
  | start documents =>
      rw [obeyMoves, List.countP_append, stopMoves_recoveries]
      exact (Nat.zero_add _).trans (spawnMoves_recoveries _ launch now)
  | request id query =>
      rw [obeyMoves]
      split <;> rfl
  | restart plan =>
      rw [obeyMoves, List.countP_append, List.countP_append, stopMoves_recoveries,
        spawnMoves_recoveries]
      rfl
  | shutdown =>
      rw [obeyMoves, List.countP_append, stopMoves_recoveries]
      rfl
  | edit document version => rfl
  | flush => rfl
  | requestRestart => rfl

/-- A live process is one that the plan permits. -/
def Permitted (supervisor : Supervisor) : Prop :=
  forall generation, supervisor.processes.current = some generation ->
    supervisor.plan.compiler.block = false

/-- The input is an exit that the books take for a crash. -/
def judgesCrash (supervisor : Supervisor) : Input -> Bool
  | .signal (.exited generation _) =>
      (supervisor.processes.classifyExit generation).1 = .unexpected
  | _ => false

variable {supervisor}

theorem turn_recoveries (going : supervisor.ended = false) (input : Input) :
    (supervisor.turn launch now input).countP Move.isRecovery =
      if supervisor.judgesCrash input then 1 else 0 := by
  unfold turn
  rw [if_neg (by simp [going])]
  cases input with
  | order given => exact obeyMoves_recoveries supervisor launch now given
  | editTimer => rfl
  | watchdogTimer => rfl
  | signal received =>
      cases received with
      | output generation chunk =>
          show List.countP _ (hearMoves _ _ _ _) = _
          rw [hearMoves]
          split <;> rfl
      | exited generation status =>
          show List.countP _ (hearMoves _ _ _ _) = _
          rw [hearMoves, judgesCrash]
          rcases supervisor.processes.classifyExit generation with ⟨verdict, processes⟩
          cases verdict with
          | expected => rfl
          | unexpected =>
              show List.countP _ (Move.operate (.recover status) :: spawnMoves _ launch now) = 1
              rw [List.countP_cons, spawnMoves_recoveries]
              rfl

theorem hearMoves_attempts (permitted : supervisor.Permitted) (received : Signal) :
    (supervisor.hearMoves launch now received).countP Move.isAttempt =
      if supervisor.judgesCrash (.signal received) then 1 else 0 := by
  cases received with
  | output generation chunk =>
      rw [hearMoves]
      split <;> rfl
  | exited generation status =>
      have live : (supervisor.processes.classifyExit generation).1 = .unexpected ->
          supervisor.processes.current = some generation := by
        rw [Processes.classifyExit]
        split
        next current => exact fun _ => of_decide_eq_true current
        next =>
          intro unexpected
          cases unexpected
      rw [hearMoves, judgesCrash]
      revert live
      rcases supervisor.processes.classifyExit generation with ⟨verdict, processes⟩
      intro live
      cases verdict with
      | expected => rfl
      | unexpected => exact spawnMoves_attempts _ launch now (permitted generation (live rfl))

theorem noted_generation (supervisor : Supervisor) (input : Input) :
    (supervisor.noted input).processes.generation = supervisor.processes.generation := by
  unfold noted
  split
  · split
    · rfl
    · show (Processes.classifyExit _ _).2.generation = _
      rw [Processes.classifyExit]
      split <;> rfl
  · rfl

theorem step_crashes (going : supervisor.ended = false) (input : Input) :
    Effect.crashes (supervisor.step launch now input).outbox =
      Effect.crashes supervisor.outbox + if supervisor.judgesCrash input then 1 else 0 := by
  have counts := (moves?_counts (moves?_turn supervisor launch now input)).1
  rw [turn_recoveries launch now going] at counts
  rw [counts, outbox, outbox, noted_pipeline]

theorem hear_generation (going : supervisor.ended = false) (permitted : supervisor.Permitted)
    (received : Signal) :
    (supervisor.step launch now (.signal received)).processes.generation =
      supervisor.processes.generation +
        if supervisor.judgesCrash (.signal received) then 1 else 0 := by
  have counts := (moves?_counts (moves?_turn supervisor launch now (.signal received))).2
  have moves : supervisor.turn launch now (.signal received) =
      supervisor.hearMoves launch now received := by
    rw [turn, if_neg (by simp [going])]
  rw [counts, noted_generation, moves, hearMoves_attempts launch now permitted]

/-! ## No process against the plan -/

theorem spawnCompiler_plan (supervisor : Supervisor) :
    (supervisor.spawnCompiler launch now).plan = supervisor.plan := by
  unfold spawnCompiler
  split
  · rfl
  · cases launch supervisor.plan with
    | error fault => rfl
    | ok _ =>
        show (attach _ now).plan = _
        unfold attach
        split <;> rfl

theorem spawnCompiler_permitted (idle : supervisor.processes.current = none) :
    (supervisor.spawnCompiler launch now).Permitted := by
  intro generation live
  rw [spawnCompiler_plan]
  cases blocked : supervisor.plan.compiler.block with
  | false => rfl
  | true =>
      rw [spawnCompiler, if_pos blocked] at live
      cases idle.symm.trans live

theorem Permitted.idle (idle : supervisor.processes.current = none) : supervisor.Permitted := by
  intro generation live
  cases idle.symm.trans live

theorem Permitted.obey (permitted : supervisor.Permitted) (given : Order) :
    (supervisor.obey launch now given).Permitted := by
  cases given with
  | start documents => exact spawnCompiler_permitted launch now (stopCompiler_current supervisor)
  | edit document version => exact permitted
  | flush => exact permitted
  | request id query =>
      rw [Supervisor.obey]
      split
      · exact permitted
      · exact Permitted.idle (Processes.stop_current _)
  | requestRestart => exact permitted
  | restart plan => exact spawnCompiler_permitted launch now (stopCompiler_current _)
  | shutdown => exact Permitted.idle (stopCompiler_current supervisor)

theorem Permitted.step (permitted : supervisor.Permitted) (input : Input) :
    (supervisor.step launch now input).Permitted := by
  unfold Supervisor.step
  split
  next =>
    cases input with
    | order given => cases given <;> exact permitted
    | signal received => exact permitted
    | editTimer => exact permitted
    | watchdogTimer => exact permitted
  next =>
    cases input with
    | order given => exact permitted.obey launch now given
    | editTimer => exact permitted
    | watchdogTimer => exact Permitted.idle (Processes.stop_current _)
    | signal received =>
        show (hear _ _ _ _).Permitted
        cases received with
        | output generation chunk =>
            rw [hear]
            split <;> exact permitted
        | exited generation status =>
            rw [hear, Processes.classifyExit]
            by_cases current : supervisor.processes.isCurrent generation = true
            · rw [if_pos current]
              cases supervisor.processes.expectingExit with
              | true => exact Permitted.idle rfl
              | false => exact spawnCompiler_permitted launch now rfl
            · rw [if_neg current]
              exact permitted

end Supervisor

/-! ## The law of exits -/

namespace World

variable {world : World}

/-- The supervisor hears the exit of a process that it never killed.  This is told by what the
supervisor has done, and not by its books. -/
def hearsCrash (world : World) : Happening -> Bool
  | .hear =>
      match world.signals with
      | .exited generation _ :: _ => generation ∉ Effect.kills world.supervisor.outbox
      | _ => false
  | _ => false

theorem Mirrored.verdict (mirrored : world.Mirrored) {generation : Nat} {status : String}
    {rest : List Signal} (signals : world.signals = .exited generation status :: rest) :
    ((world.supervisor.processes.classifyExit generation).1 = .unexpected ↔
        world.supervisor.processes.current = some generation) ∧
      (world.supervisor.processes.current = some generation ↔
        generation ∉ Effect.kills world.supervisor.outbox) := by
  rcases mirrored with ⟨actions, fleet, ran, mirrors⟩
  have judged := (Fleet.Accurate.new.run ran).verdict (mirrors.signals.trans signals)
  rw [mirrors.processes, mirrors.stopped] at judged
  exact judged

theorem Mirrored.judgesCrash (mirrored : world.Mirrored) (happening : Happening) :
    (world.input? happening).any world.supervisor.judgesCrash = world.hearsCrash happening := by
  cases happening with
  | hear =>
      cases signals : world.signals with
      | nil => simp [input?, hearsCrash, signals]
      | cons oldest rest =>
          cases oldest with
          | output generation chunk =>
              simp [input?, Supervisor.judgesCrash, hearsCrash, signals]
          | exited generation status =>
              rcases mirrored.verdict signals with ⟨crash, never⟩
              simp only [input?, hearsCrash, signals]
              exact decide_eq_decide.mpr (crash.trans never)
  | _ => rfl

theorem take_crashes {next : World} {around : Circumstances} {happening : Happening}
    (mirrored : world.Mirrored) (going : world.supervisor.ended = false)
    (taken : world.take? around happening = some next) :
    Effect.crashes next.supervisor.outbox = Effect.crashes world.supervisor.outbox +
      if world.hearsCrash happening then 1 else 0 := by
  rw [take?_supervisor taken, ← mirrored.judgesCrash]
  cases world.input? happening with
  | none => rfl
  | some input => exact Supervisor.step_crashes around.launcher around.now going input

theorem hear_attempts {next : World} {around : Circumstances} (mirrored : world.Mirrored)
    (permitted : world.supervisor.Permitted) (going : world.supervisor.ended = false)
    (taken : world.take? around .hear = some next) :
    next.supervisor.processes.generation = world.supervisor.processes.generation +
      if world.hearsCrash .hear then 1 else 0 := by
  rw [take?_supervisor taken, ← mirrored.judgesCrash, input?]
  cases world.signals with
  | nil => rfl
  | cons oldest rest =>
      exact Supervisor.hear_generation around.launcher around.now going permitted oldest

theorem Mirrored.new (plan : Plan) : (World.new plan).Mirrored :=
  ⟨[], Fleet.new, rfl, rfl, rfl, rfl, rfl⟩

/-- Exits are judged exactly.  However processes are started, stopped and exit, and whenever their
signals are delivered, the exit at the front of the queue is taken for a crash if and only if it is
that of the live process and this was never stopped.  No exit is lost or judged twice: the exits
that were judged, those on their way and the process that runs are together all launches, in order.
Every verdict stands: it was a crash exactly if the process was never stopped, then or later.

So in every session that goes on, hearing the exit of a process that the supervisor never killed
has one crash reported and one launch attempted, and hearing anything else has neither.  Nothing but
hearing such an exit ever has a crash reported. -/
theorem exits_judged_exactly :
    (forall actions fleet, Fleet.new.run? actions = some fleet ->
      (forall generation status rest, fleet.signals = .exited generation status :: rest ->
        ((fleet.processes.classifyExit generation).1 = .unexpected ↔
          fleet.processes.current = some generation ∧ generation ∉ fleet.stopped)) ∧
      fleet.verdicts.map Prod.fst ++ Signal.exits fleet.signals ++ fleet.running.toList =
        fleet.launched ∧
      fleet.launched.Nodup ∧
      forall generation verdict, (generation, verdict) ∈ fleet.verdicts ->
        (verdict = .unexpected ↔ generation ∉ fleet.stopped)) ∧
    (forall plan course world, (World.new plan).run? course = some world ->
      world.supervisor.ended = false ->
      (forall generation status rest, world.signals = .exited generation status :: rest ->
        ((world.supervisor.processes.classifyExit generation).1 = .unexpected ↔
          world.supervisor.processes.current = some generation ∧
            generation ∉ Effect.kills world.supervisor.outbox)) ∧
      forall around happening next, world.take? around happening = some next ->
        Effect.crashes next.supervisor.outbox = Effect.crashes world.supervisor.outbox +
          (if world.hearsCrash happening then 1 else 0) ∧
        (happening = .hear -> next.supervisor.processes.generation =
          world.supervisor.processes.generation +
            if world.hearsCrash happening then 1 else 0)) := by
  constructor
  · intro actions fleet ran
    have accurate := Fleet.Accurate.new.run ran
    refine ⟨?_, accurate.ledger, ?_, accurate.judged⟩
    · intro generation status rest signals
      rcases accurate.verdict signals with ⟨crash, never⟩
      rw [crash, ← never, and_self]
    · exact accurate.ascending.imp Nat.ne_of_lt
  · intro plan course world ran going
    have mirrored : world.Mirrored :=
      run?_going (motive := Mirrored) (Mirrored.new plan)
        (fun _ _ _ _ mirrored begun _ taken => mirrored.take begun taken) ran going
    have permitted : world.supervisor.Permitted :=
      run?_induction (motive := fun _ world => world.supervisor.Permitted)
        (Supervisor.Permitted.idle rfl)
        (fun _ _ _ _ _ permitted taken => take?_keeps permitted (permitted.step _ _) taken) ran
    constructor
    · intro generation status rest signals
      rcases mirrored.verdict signals with ⟨crash, never⟩
      rw [crash, ← never, and_self]
    · intro around happening next taken
      refine ⟨take_crashes mirrored going taken, ?_⟩
      intro heard
      subst heard
      exact hear_attempts mirrored permitted going taken

/-- A process is replaced, and the next one exits by itself before the exit of the first one is
heard. -/
def crashAfterRestart : List (Circumstances × Happening) :=
  let around : Circumstances := ⟨0, fun _ => .ok (), "killed"⟩
  [(around, .order (.start [])),
    (around, .order (.restart ⟨CompilerPlan.default, [], Timing.default⟩)), (around, .exit "1"),
    (around, .hear)]

/-- The session that is about to hear of the crash. -/
def bereft : World :=
  ((World.new ⟨CompilerPlan.default, [], Timing.default⟩).run? crashAfterRestart).get
    (by decide +kernel)

theorem bereft_hears_crash :
    (exists fleet, Fleet.new.run? [.start true "killed", .start true "killed", .exit "1",
        .deliver] = some fleet ∧
      fleet.stopped = [1] ∧ fleet.verdicts = [(1, .expected)] ∧
      (fleet.processes.classifyExit 2).1 = .unexpected) ∧
    Effect.kills bereft.supervisor.outbox = [1] ∧
    exists next, bereft.take? ⟨0, fun _ => .error (.notFound "ghul-compiler"), "killed"⟩ .hear =
        some next ∧
      Effect.crashes next.supervisor.outbox = 1 ∧ next.supervisor.processes.generation = 3 := by
  have law := exits_judged_exactly
  constructor
  · refine ⟨_, rfl, rfl, rfl, ?_⟩
    rw [(law.1 [.start true "killed", .start true "killed", .exit "1", .deliver] _ rfl).1 2 "1" []
      rfl]
    decide
  · have ran : (World.new ⟨CompilerPlan.default, [], Timing.default⟩).run? crashAfterRestart =
        some bereft :=
      (Option.some_get _).symm
    have going : bereft.supervisor.ended = false := by decide +kernel
    have killed : Effect.kills bereft.supervisor.outbox = [1] := by decide +kernel
    have ahead : bereft.hearsCrash .hear = true := by decide +kernel
    have quiet : Effect.crashes bereft.supervisor.outbox = 0 := by decide +kernel
    have second : bereft.supervisor.processes.generation = 2 := by decide +kernel
    have heard : (bereft.take? ⟨0, fun _ => .error (.notFound "ghul-compiler"), "killed"⟩
        .hear).isSome := by decide +kernel
    rcases Option.isSome_iff_exists.mp heard with ⟨next, taken⟩
    rcases (law.2 _ _ bereft ran going).2 _ .hear next taken with ⟨crashes, attempts⟩
    refine ⟨killed, next, taken, ?_, ?_⟩
    · rw [crashes, quiet, ahead]
      rfl
    · rw [attempts rfl, second, ahead]
      rfl

end World

end Session
end LanguageServer
