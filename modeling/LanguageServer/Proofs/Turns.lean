import LanguageServer.Proofs.Coupling

namespace LanguageServer
namespace Session

/-!
# Turns of the supervisor, move by move

A turn of the supervisor does several things one after the other: it drives the pipeline, kills the
live process, launches another one.  Which of them it does depends on the input, on the plan and on
whether the launch succeeds; the order in which it does them is the same in every run.

Here a turn is cut into moves.  `turn` lists the moves that an input leads to, and `moves?_turn`
says that carrying them out is what the supervisor does.  What every single move keeps is then kept
by every turn, and, since what a move does to the processes takes place before the next move, by
every world.  The only thing that a turn does besides its moves is to enter an exit in the books,
which comes first.
-/

/-- One move of the supervisor. -/
inductive Supervisor.Move where
  | operate (operation : Operation)
  /-- Kill the live process, if there is one. -/
  | kill
  | launch
  /-- A launch fails. -/
  | fail
  | replan (plan : Plan)
  /-- Tell everybody that waits that the session is over. -/
  | dismiss
  /-- Tell a request that came too late. -/
  | decline (request : Pending)
  | close

namespace Supervisor

/-- Make a move.  A process is launched only when none is live, and there is nothing after an
operation that cannot be carried out. -/
def move? (supervisor : Supervisor) : Move -> Option Supervisor
  | .operate operation =>
      (supervisor.pipeline.operate? operation).map (fun pipeline =>
        { supervisor with pipeline := pipeline })
  | .kill => some supervisor.killCompiler
  | .launch =>
      if supervisor.processes.current = none then
        some { supervisor with
          processes := supervisor.processes.beginLaunch.launched
          pipeline := supervisor.pipeline.perform
            [.launch supervisor.processes.beginLaunch.generation supervisor.plan] }
      else none
  | .fail =>
      if supervisor.processes.current = none then
        some { supervisor with processes := supervisor.processes.beginLaunch }
      else none
  | .replan plan => some { supervisor with plan := plan }
  | .dismiss => some { supervisor with pipeline := supervisor.pipeline.rejectAll .closed }
  | .decline request =>
      some { supervisor with
        pipeline := supervisor.pipeline.perform [.settle ⟨request.id, .error .closed⟩] }
  | .close => some { supervisor with ended := true }

def moves? (supervisor : Supervisor) (moves : List Move) : Option Supervisor :=
  moves.foldlM move? supervisor

theorem moves?_append (supervisor : Supervisor) (earlier later : List Move) :
    supervisor.moves? (earlier ++ later) =
      (supervisor.moves? earlier).bind (fun next => next.moves? later) := by
  rw [moves?, List.foldlM_append]
  rfl

theorem moves?_cons {supervisor last : Supervisor} {move : Move} {rest : List Move}
    (moved : supervisor.moves? (move :: rest) = some last) :
    exists next, supervisor.move? move = some next ∧ next.moves? rest = some last := by
  rw [moves?, List.foldlM_cons] at moved
  exact Option.bind_eq_some_iff.mp moved

/-! ## The moves of a turn -/

def stopMoves (supervisor : Supervisor) : List Move :=
  if supervisor.processes.isRunning then [.kill, .operate .stopped] else []

def breakMoves : List Move := [.kill, .dismiss, .close]

def attachMoves (supervisor : Supervisor) (now : Instant) : List Move :=
  if supervisor.pipeline.watchdog.canArm now then [.operate (.attach now)] else breakMoves

def spawnMoves (supervisor : Supervisor) (launch : Launcher) (now : Instant) : List Move :=
  if supervisor.plan.compiler.block then [.operate .block]
  else [.operate .starting, .kill] ++
    match launch supervisor.plan with
    | .ok () => .launch :: supervisor.attachMoves now
    | .error fault => [.fail, .operate (.spawnFailed fault.message)]

def obeyMoves (supervisor : Supervisor) (launch : Launcher) (now : Instant) : Order -> List Move
  | .start documents =>
      let stopped := supervisor.stopCompiler
      supervisor.stopMoves ++ .operate (.load documents now) ::
        { stopped with pipeline := stopped.pipeline.load documents now }.spawnMoves launch now
  | .edit document version => [.operate (.edit document version now)]
  | .flush => [.operate (.flush now)]
  | .request id query =>
      match supervisor.pipeline.submit? id query now with
      | some _ => [.operate (.submit id query now)]
      | none => breakMoves ++ [.decline ⟨query.kind, id⟩]
  | .requestRestart => [.operate .requestRestart]
  | .restart plan =>
      let planned := { supervisor with
        plan := plan, pipeline := supervisor.pipeline.applyTiming plan.timing }
      [.replan plan, .operate (.applyTiming plan.timing)] ++ planned.stopMoves ++
        planned.stopCompiler.spawnMoves launch now
  | .shutdown => supervisor.stopMoves ++ [.close]

def hearMoves (supervisor : Supervisor) (launch : Launcher) (now : Instant) : Signal -> List Move
  | .output generation chunk =>
      if supervisor.processes.isCurrent generation then [.operate (.chunk chunk now)] else []
  | .exited generation status =>
      match supervisor.processes.classifyExit generation with
      | (.expected, _) => []
      | (.unexpected, processes) =>
          .operate (.recover status) ::
            { supervisor with
              processes := processes
              pipeline := supervisor.pipeline.recover status }.spawnMoves launch now

def declineMoves : Order -> List Move
  | .request id query => [.decline ⟨query.kind, id⟩]
  | _ => []

/-- The moves that an input leads to. -/
def turn (supervisor : Supervisor) (launch : Launcher) (now : Instant) (input : Input) :
    List Move :=
  if supervisor.ended then
    match input with
    | .order given => declineMoves given
    | _ => []
  else
    match input with
    | .order given => supervisor.obeyMoves launch now given
    | .signal received => supervisor.hearMoves launch now received
    | .editTimer => [.operate (.flush now)]
    | .watchdogTimer => [.operate .watchdogExpired, .kill]

/-- Enter an exit in the books. -/
def noted (supervisor : Supervisor) : Input -> Supervisor
  | .signal (.exited generation _) =>
      if supervisor.ended then supervisor
      else { supervisor with
        processes := (supervisor.processes.classifyExit generation).2 }
  | _ => supervisor

/-! ## A turn is its moves -/

variable (supervisor : Supervisor) (launch : Launcher) (now : Instant)

theorem moves?_stopMoves :
    supervisor.moves? supervisor.stopMoves = some supervisor.stopCompiler := by
  unfold stopMoves stopCompiler
  split <;> rfl

theorem stopCompiler_current : supervisor.stopCompiler.processes.current = none := by
  unfold stopCompiler
  split
  · exact Processes.stop_current _
  next idle => simpa [Processes.isRunning] using idle

theorem moves?_attachMoves :
    supervisor.moves? (supervisor.attachMoves now) = some (supervisor.attach now) := by
  unfold attachMoves attach
  split <;> rfl

/-- The two moves that come before a launch leave no live process. -/
theorem moves?_clear : supervisor.moves? [.operate .starting, .kill] =
    some { supervisor with pipeline := supervisor.pipeline.starting }.killCompiler := rfl

theorem moves?_spawnMoves : supervisor.moves? (supervisor.spawnMoves launch now) =
    some (supervisor.spawnCompiler launch now) := by
  unfold spawnMoves spawnCompiler
  split
  · rfl
  have idle : { supervisor with
      pipeline := supervisor.pipeline.starting }.killCompiler.processes.current = none :=
    Processes.stop_current _
  rw [moves?_append, moves?_clear, Option.bind_some]
  cases launch supervisor.plan with
  | error fault =>
      show Option.bind (move? _ .fail) _ = _
      rw [move?, if_pos idle]
      rfl
  | ok _ =>
      show Option.bind (move? _ .launch) _ = _
      rw [move?, if_pos idle, Option.bind_some]
      exact moves?_attachMoves _ now

theorem moves?_obeyMoves (given : Order) :
    supervisor.moves? (supervisor.obeyMoves launch now given) =
      some (supervisor.obey launch now given) := by
  cases given with
  | start documents =>
      rw [obeyMoves, moves?_append, moves?_stopMoves, Option.bind_some]
      exact moves?_spawnMoves _ launch now
  | edit document version => rfl
  | flush => rfl
  | request id query =>
      cases submitted : supervisor.pipeline.submit? id query now with
      | none =>
          simp only [obeyMoves, obey, submitted]
          rfl
      | some pipeline =>
          simp only [obeyMoves, obey, submitted]
          show Option.bind (Option.map _ (supervisor.pipeline.submit? id query now)) _ = _
          rw [submitted]
          rfl
  | requestRestart => rfl
  | restart plan =>
      rw [obeyMoves, List.append_assoc, moves?_append]
      show Option.bind (some _) _ = _
      rw [Option.bind_some, moves?_append, moves?_stopMoves, Option.bind_some]
      exact moves?_spawnMoves _ launch now
  | shutdown =>
      rw [obeyMoves, moves?_append, moves?_stopMoves]
      rfl

/-- Carrying out the moves of a turn is what the supervisor does. -/
theorem moves?_turn (input : Input) :
    (supervisor.noted input).moves? (supervisor.turn launch now input) =
      some (supervisor.step launch now input) := by
  unfold turn step
  split
  next ended =>
    cases input with
    | order given => cases given <;> rfl
    | signal received =>
        cases received with
        | output generation chunk => rfl
        | exited generation status =>
            rw [noted, if_pos ended]
            rfl
    | editTimer => rfl
    | watchdogTimer => rfl
  next going =>
    cases input with
    | order given => exact moves?_obeyMoves supervisor launch now given
    | signal received =>
        cases received with
        | output generation chunk =>
            show supervisor.moves? (hearMoves _ _ _ _) = some (hear _ _ _ _)
            rw [hearMoves, hear]
            split <;> rfl
        | exited generation status =>
            rw [noted, if_neg going]
            show moves? _ (hearMoves _ _ _ _) = some (hear _ _ _ _)
            rw [hearMoves, hear]
            rcases supervisor.processes.classifyExit generation with ⟨verdict, processes⟩
            cases verdict with
            | expected => rfl
            | unexpected => exact moves?_spawnMoves _ launch now
    | editTimer => rfl
    | watchdogTimer => rfl

end Supervisor

/-! ## What a move does to the processes -/

/-- No operation launches or kills. -/
theorem Pipeline.operate?_speaks {before after : Pipeline} {operation : Operation}
    (applied : before.operate? operation = some after) :
    exists texts, Pipeline.Speaks before texts after := by
  cases operation with
  | submit id query now => exact (submit_keepsContact applied).speech
  | starting => cases applied; exact ⟨[], emit_speaks before .starting⟩
  | attach now => cases applied; exact ⟨[], emit_speaks before .running⟩
  | block => cases applied; exact ⟨[], block_speaks before⟩
  | spawnFailed reason => cases applied; exact ⟨[], spawnFailed_speaks before reason⟩
  | stopped => cases applied; exact ⟨[], stopped_speaks before⟩
  | recover status => cases applied; exact ⟨[], recover_speaks before status⟩
  | load documents now =>
      cases applied
      rw [load]
      split
      · exact (sendBatch_keepsContact { before with
          edits := before.edits.seed documents } now).speech
      · exact ⟨[], Speaks.silent rfl⟩
  | edit document version now =>
      cases applied
      exact (edit_keepsContact before document version now).speech
  | flush now => cases applied; exact (flush_keepsContact before now).speech
  | requestRestart => cases applied; exact (requestRestart_keepsContact before).speech
  | chunk bytes now =>
      cases applied
      exact (handleSegments_hears now (before.frames.push bytes).1
        { before with frames := (before.frames.push bytes).2 }).speech
  | watchdogExpired => cases applied; exact ⟨[], watchdogExpired_speaks before⟩
  | applyTiming timing => cases applied; exact ⟨[], Speaks.silent rfl⟩

namespace Supervisor

variable {supervisor next : Supervisor} {move : Move}

/-- A move kills, launches, fails to launch, or only speaks and leaves the processes alone. -/
theorem move?_cases {motive : Supervisor -> Prop} (made : supervisor.move? move = some next)
    (kill : move = .kill -> motive supervisor.killCompiler)
    (launch : move = .launch -> supervisor.processes.current = none ->
      motive { supervisor with
        processes := supervisor.processes.beginLaunch.launched
        pipeline := supervisor.pipeline.perform
          [.launch supervisor.processes.beginLaunch.generation supervisor.plan] })
    (fail : move = .fail -> supervisor.processes.current = none ->
      motive { supervisor with processes := supervisor.processes.beginLaunch })
    (speak : forall next, move ≠ .launch -> move ≠ .fail ->
      next.processes = supervisor.processes ->
      (exists texts, Pipeline.Speaks supervisor.pipeline texts next.pipeline) -> motive next) :
    motive next := by
  cases move with
  | operate operation =>
      rcases Option.map_eq_some_iff.mp made with ⟨pipeline, applied, same⟩
      rw [← same]
      exact speak _ nofun nofun rfl (Pipeline.operate?_speaks applied)
  | kill =>
      cases made
      exact kill rfl
  | launch =>
      rw [move?, Option.ite_none_right_eq_some] at made
      rw [← Option.some.inj made.2]
      exact launch rfl made.1
  | fail =>
      rw [move?, Option.ite_none_right_eq_some] at made
      rw [← Option.some.inj made.2]
      exact fail rfl made.1
  | replan plan =>
      cases made
      exact speak _ nofun nofun rfl ⟨[], Pipeline.Speaks.silent rfl⟩
  | dismiss =>
      cases made
      exact speak _ nofun nofun rfl ⟨[], Pipeline.settle_speaks supervisor.pipeline _⟩
  | decline request =>
      cases made
      exact speak _ nofun nofun rfl ⟨[], Pipeline.settle_speaks supervisor.pipeline [_]⟩
  | close =>
      cases made
      exact speak _ nofun nofun rfl ⟨[], Pipeline.Speaks.silent rfl⟩

theorem move?_grows (made : supervisor.move? move = some next) : supervisor.Grows next := by
  refine move?_cases (motive := supervisor.Grows) made ?_ ?_ ?_ ?_
  · exact fun _ => killCompiler_grows supervisor
  · exact fun _ _ => ⟨_, rfl⟩
  · exact fun _ _ => ⟨[], (List.append_nil _).symm⟩
  · rintro next _ _ _ ⟨texts, speech⟩
    exact Grows.of_speaks speech

/-- What every move keeps is kept by all of them.  The property may speak of the moves that were
made. -/
theorem moves?_induction {motive : List Move -> Supervisor -> Prop} {last : Supervisor}
    {moves : List Move} (start : motive [] supervisor)
    (step : forall (earlier : List Move) (before after : Supervisor) (move : Move),
      motive earlier before -> before.move? move = some after -> motive (earlier ++ [move]) after)
    (moved : supervisor.moves? moves = some last) : motive moves last :=
  foldlM_induction start step moved

theorem moves?_grows {last : Supervisor} {moves : List Move}
    (moved : supervisor.moves? moves = some last) : supervisor.Grows last :=
  moves?_induction (motive := fun _ last => supervisor.Grows last)
    ⟨[], (List.append_nil _).symm⟩ (fun _ _ _ _ grows made => grows.trans (move?_grows made)) moved

theorem noted_pipeline (supervisor : Supervisor) (input : Input) :
    (supervisor.noted input).pipeline = supervisor.pipeline := by
  unfold noted
  split
  · split <;> rfl
  · rfl

theorem step_grows (supervisor : Supervisor) (launch : Launcher) (now : Instant) (input : Input) :
    supervisor.Grows (supervisor.step launch now input) := by
  rcases moves?_grows (moves?_turn supervisor launch now input) with ⟨effects, outbox⟩
  refine ⟨effects, ?_⟩
  rw [outbox, Supervisor.outbox, noted_pipeline, Supervisor.outbox]

end Supervisor

namespace World

variable {world : World} {status : String}

/-- What every move keeps is kept by all of them, each taking place before the next. -/
theorem adopt_moves {motive : World -> Prop} {moves : List Supervisor.Move} {last : Supervisor}
    (step : forall (world : World) (move : Supervisor.Move) (next : Supervisor), move ∈ moves ->
      motive world -> world.supervisor.move? move = some next -> motive (world.adopt status next))
    (held : motive world) (moved : world.supervisor.moves? moves = some last) :
    motive (world.adopt status last) := by
  induction moves generalizing world with
  | nil =>
      cases moved
      rw [adopt_same]
      exact held
  | cons move rest inductionHypothesis =>
      rcases Supervisor.moves?_cons moved with ⟨next, made, movedNext⟩
      have grows := Supervisor.move?_grows made
      have growsNext := Supervisor.moves?_grows movedNext
      have later : motive ((world.adopt status next).adopt status last) := by
        refine inductionHypothesis ?_ (step world move next List.mem_cons_self held made) ?_
        · exact fun world move next member =>
            step world move next (List.mem_cons_of_mem _ member)
        · rw [adopt_supervisor]
          exact movedNext
      rw [adopt_then grows growsNext] at later
      exact later

/-- A reaction is the entry in the books, and then the moves of the turn. -/
theorem react_eq_adopt (world : World) (around : Circumstances) (input : Input) :
    world.react around input =
      { world with supervisor := world.supervisor.noted input }.adopt around.killed
        (world.supervisor.step around.launcher around.now input) := by
  have sameOutbox : (world.supervisor.noted input).outbox = world.supervisor.outbox :=
    congrArg Pipeline.outbox (Supervisor.noted_pipeline world.supervisor input)
  rw [react, adopt, adopt, sameOutbox]

/-! ## Every run -/

/-- What the supervisor is given to react to when something happens. -/
def input? (world : World) : Happening -> Option Input
  | .order given => some (.order given)
  | .hear => world.signals.head?.map .signal
  | .editTimer => some .editTimer
  | .watchdogTimer => some .watchdogTimer
  | .print .. | .exit _ => none

/-- The supervisor changes only by its own turns. -/
theorem take?_supervisor {next : World} {around : Circumstances} {happening : Happening}
    (taken : world.take? around happening = some next) :
    next.supervisor =
      match world.input? happening with
      | some input => world.supervisor.step around.launcher around.now input
      | none => world.supervisor := by
  cases happening with
  | order given =>
      rw [take?] at taken
      rw [← Option.some.inj taken, react, adopt_supervisor]
      split
      · rfl
      · rw [note_supervisor]
        rfl
  | hear =>
      rw [take?] at taken
      split at taken
      next => cases taken
      next oldest rest signals =>
        rw [← Option.some.inj taken, react, adopt_supervisor, input?, signals]
        rfl
  | editTimer =>
      rw [take?, Option.ite_none_right_eq_some] at taken
      rw [← Option.some.inj taken.2, react, adopt_supervisor]
      rfl
  | watchdogTimer =>
      rw [take?, Option.ite_none_right_eq_some] at taken
      rw [← Option.some.inj taken.2, react, adopt_supervisor]
      rfl
  | print generation chunk =>
      rw [take?, Option.ite_none_right_eq_some] at taken
      rw [← Option.some.inj taken.2]
      rfl
  | exit status =>
      rcases Option.map_eq_some_iff.mp taken with ⟨generation, _, same⟩
      rw [← same]
      rfl

/-- What every turn keeps is kept by everything that happens. -/
theorem take?_keeps {motive : Supervisor -> Prop} {next : World} {around : Circumstances}
    {happening : Happening} (held : motive world.supervisor)
    (step : forall input, motive (world.supervisor.step around.launcher around.now input))
    (taken : world.take? around happening = some next) : motive next.supervisor := by
  rw [take?_supervisor taken]
  split
  · exact step _
  · exact held

/-- What holds at the start and is kept by everything that happens holds after the run.  The
property may speak of what has happened. -/
theorem run?_induction {motive : List (Circumstances × Happening) -> World -> Prop}
    {first last : World} {course : List (Circumstances × Happening)} (start : motive [] first)
    (step : forall (earlier : List (Circumstances × Happening)) (world next : World)
      (around : Circumstances) (happening : Happening), motive earlier world ->
        world.take? around happening = some next -> motive (earlier ++ [(around, happening)]) next)
    (ran : first.run? course = some last) : motive course last := by
  refine foldlM_induction start ?_ ran
  intro earlier world next moment held taken
  exact step earlier world next moment.1 moment.2 held taken

/-- A session that goes on has gone on all the time. -/
theorem run?_going {motive : World -> Prop} {first last : World}
    {course : List (Circumstances × Happening)} (start : motive first)
    (step : forall (world next : World) (around : Circumstances) (happening : Happening),
      motive world -> world.supervisor.ended = false -> next.supervisor.ended = false ->
        world.take? around happening = some next -> motive next)
    (ran : first.run? course = some last) (going : last.supervisor.ended = false) :
    motive last := by
  refine run?_induction (motive := fun _ world => world.supervisor.ended = false -> motive world)
    (fun _ => start) ?_ ran going
  intro _ world next around happening held taken still
  have begun := going_of_take taken still
  exact step world next around happening (held begun) begun still taken

end World

end Session
end LanguageServer
