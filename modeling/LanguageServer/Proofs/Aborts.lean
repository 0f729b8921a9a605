import LanguageServer.Proofs.Attachment
import LanguageServer.Proofs.Occasions

namespace LanguageServer
namespace Session

/-!
# An abort lasts until the next start

A compiler that hangs or cannot be launched leaves the pipeline forsaken: it is aborted, writes to
nobody and is at rest.  Edits, loads, requests and output may still come, in any order, and output
may be any bytes.  Edits and documents are kept for a compiler to come, but nothing is written, no
diagnostics are shown, no timer starts, and a request is refused on the spot.

Frames are ignored after an abort, but bytes that are no frame are not: a fault is reported in
every phase, and the watchdog is asked whether it should run.  It rests because a forsaken pipeline
expects nothing, so that this has to be part of what is kept.

In a session there is no live process then.  The exit of the process that was given up is not the
exit of a live one, so nothing is launched in its place.
-/

/-- An operation that neither begins nor ends the life of a compiler. -/
def Operation.isRoutine : Operation -> Bool
  | .load .. | .edit .. | .flush _ | .submit .. | .requestRestart | .chunk .. | .applyTiming _ =>
      true
  | .starting | .attach _ | .block | .spawnFailed _ | .stopped | .recover _ | .watchdogExpired =>
      false

/-- An order after which the supervisor tries to launch a compiler. -/
def Happening.isStart : Happening -> Bool
  | .order (.start _) | .order (.restart _) => true
  | _ => false

namespace Pipeline

/-- The compiler was given up, and nothing is expected any more. -/
structure Forsaken (pipeline : Pipeline) : Prop extends AtRest pipeline where
  phase : pipeline.phase = .aborted
  detached : pipeline.attached = false

/-- Nothing is written or shown on the way from one pipeline to another, and nobody but these
requests is told anything: they are refused. -/
def Refuses (before : Pipeline) (requests : List Pending) (after : Pipeline) : Prop :=
  exists effects, after.outbox = before.outbox ++ effects ∧
    Effect.texts effects = [] ∧ Effect.publications effects = [] ∧
    settlements effects = requests.map (fun request => ⟨request.id, .error .aborted⟩)

variable {before after : Pipeline}

theorem Refuses.silent (same : after.outbox = before.outbox) : Refuses before [] after :=
  ⟨[], by rw [same, List.append_nil], rfl, rfl, rfl⟩

theorem Refuses.trans {last : Pipeline} {earlier later : List Pending}
    (one : Refuses before earlier after) (two : Refuses after later last) :
    Refuses before (earlier ++ later) last := by
  rcases one with ⟨effects, outbox, texts, publications, settled⟩
  rcases two with ⟨more, outboxNext, textsNext, publicationsNext, settledNext⟩
  refine ⟨effects ++ more, by rw [outboxNext, outbox, List.append_assoc], ?_, ?_, ?_⟩
  · rw [Effect.texts_append, texts, textsNext, List.append_nil]
  · rw [Effect.publications_append, publications, publicationsNext, List.append_nil]
  · rw [settlements_append, settled, settledNext, List.map_append]

theorem watchdogExpired_forsaken (pipeline : Pipeline) : pipeline.watchdogExpired.Forsaken :=
  ⟨⟨rfl, rfl, rfl, rfl⟩, rfl, rfl⟩

theorem spawnFailed_forsaken (pipeline : Pipeline) (reason : String) :
    (pipeline.spawnFailed reason).Forsaken :=
  ⟨spawnFailed_atRest pipeline reason, rfl, rfl⟩

namespace Forsaken

theorem canSend (forsaken : before.Forsaken) : before.canSend = false := by
  rw [Pipeline.canSend, forsaken.detached, Bool.false_and]

/-! ## One operation -/

theorem load (forsaken : before.Forsaken) (documents : List Document) (now : Instant) :
    (before.load documents now).Forsaken ∧ Refuses before [] (before.load documents now) := by
  rw [Pipeline.load, forsaken.canSend]
  exact ⟨⟨⟨forsaken.waiting, forsaken.analysesPending, forsaken.editDeadline,
    forsaken.watchdogDeadline⟩, forsaken.phase, forsaken.detached⟩, Refuses.silent rfl⟩

theorem edit (forsaken : before.Forsaken) (document : Document) (version : Option Int)
    (now : Instant) :
    (before.edit document version now).1.Forsaken ∧
      Refuses before [] (before.edit document version now).1 := by
  have atRest := forsaken.toAtRest.edit forsaken.canSend document version now
  rcases edit_files before document version now with ⟨edits, filed, _⟩
  rw [filed] at atRest ⊢
  exact ⟨⟨atRest, forsaken.phase, forsaken.detached⟩, Refuses.silent rfl⟩

theorem flush (forsaken : before.Forsaken) (now : Instant) :
    (before.flush now).Forsaken ∧ Refuses before [] (before.flush now) := by
  have atRest := forsaken.toAtRest.flush forsaken.canSend now
  rw [Pipeline.flush, forsaken.canSend] at atRest ⊢
  exact ⟨⟨atRest, forsaken.phase, forsaken.detached⟩, Refuses.silent rfl⟩

/-- A request is refused before it is put into words, so that its place does not matter. -/
theorem submit (forsaken : before.Forsaken) (id : RequestId) (query : Wire.Query)
    (now : Instant) :
    exists after, before.submit? id query now = some after ∧ after.Forsaken ∧
      Refuses before [⟨query.kind, id⟩] after := by
  refine ⟨before.perform [.settle ⟨id, .error .aborted⟩], ?_, ?_, ?_⟩
  · rw [submit?, if_pos forsaken.phase]
  · exact ⟨⟨forsaken.waiting, forsaken.analysesPending, forsaken.editDeadline,
      forsaken.watchdogDeadline⟩, forsaken.phase, forsaken.detached⟩
  · exact ⟨_, rfl, rfl, rfl, rfl⟩

theorem requestRestart (forsaken : before.Forsaken) : before.requestRestart = before := by
  rw [Pipeline.requestRestart, forsaken.canSend]
  rfl

theorem applyTiming (forsaken : before.Forsaken) (timing : Timing) :
    (before.applyTiming timing).Forsaken :=
  ⟨⟨forsaken.waiting, forsaken.analysesPending, forsaken.editDeadline,
    forsaken.watchdogDeadline⟩, forsaken.phase, forsaken.detached⟩

/-- A fault finds nobody waiting, and the watchdog has nothing to wait for. -/
theorem protocolError (forsaken : before.Forsaken) (fault : Wire.FrameFault) (now : Instant) :
    (before.protocolError fault now).Forsaken ∧
      Refuses before [] (before.protocolError fault now) := by
  have nobody : before.waiting.rejected (.protocol fault) = [] := by
    rw [forsaken.waiting]
    rfl
  have unexpecting : ¬(((before.rejectAll (.protocol fault)).emit
      (.protocolError fault.message)).analysesPending > 0 ||
      ((before.rejectAll (.protocol fault)).emit
        (.protocolError fault.message)).waiting.count > 0) = true := by
    show ¬((before.analysesPending > 0 : Bool) || false) = true
    rw [forsaken.analysesPending]
    decide
  rw [Pipeline.protocolError, progress, if_neg unexpecting]
  refine ⟨⟨⟨rfl, forsaken.analysesPending, forsaken.editDeadline, rfl⟩, forsaken.phase,
    forsaken.detached⟩, [.emit (.lifecycle (.protocolError fault.message))], ?_, rfl, rfl, rfl⟩
  show (before.outbox ++ (before.waiting.rejected (.protocol fault)).map .settle) ++ _ = _
  rw [nobody, List.map_nil, List.append_nil]

theorem handleSegment (forsaken : before.Forsaken) (now : Instant)
    (segment : Except Wire.FrameFault Wire.Frame) :
    (before.handleSegment now segment).Forsaken ∧
      Refuses before [] (before.handleSegment now segment) := by
  cases segment with
  | error fault => exact forsaken.protocolError fault now
  | ok frame =>
      have ignored : before.handleSegment now (.ok frame) = before := by
        show before.handleFrame frame now = before
        rw [handleFrame, if_pos forsaken.phase]
      rw [ignored]
      exact ⟨forsaken, Refuses.silent rfl⟩

theorem handleChunk (forsaken : before.Forsaken) (chunk : List UInt8) (now : Instant) :
    (before.handleChunk chunk now).Forsaken ∧
      Refuses before [] (before.handleChunk chunk now) := by
  refine handleChunk_induction
    (motive := fun pipeline => pipeline.Forsaken ∧ Refuses before [] pipeline) ?_ ?_ ?_ chunk
  · rintro pipeline frames ⟨held, refused⟩
    exact ⟨⟨⟨held.waiting, held.analysesPending, held.editDeadline, held.watchdogDeadline⟩,
      held.phase, held.detached⟩, refused.trans (Refuses.silent rfl)⟩
  · rintro pipeline segment ⟨held, refused⟩
    rcases held.handleSegment now segment with ⟨heldNext, refusedNext⟩
    exact ⟨heldNext, refused.trans refusedNext⟩
  · exact ⟨forsaken, Refuses.silent rfl⟩

theorem operate (forsaken : before.Forsaken) {operation : Operation}
    (routine : operation.isRoutine = true) :
    exists after, before.operate? operation = some after ∧ after.Forsaken ∧
      Refuses before operation.request?.toList after := by
  cases operation with
  | load documents now => exact ⟨_, rfl, forsaken.load documents now⟩
  | edit document version now => exact ⟨_, rfl, forsaken.edit document version now⟩
  | flush now => exact ⟨_, rfl, forsaken.flush now⟩
  | submit id query now => exact forsaken.submit id query now
  | requestRestart =>
      refine ⟨before, ?_, forsaken, Refuses.silent rfl⟩
      rw [operate?, forsaken.requestRestart]
  | chunk bytes now => exact ⟨_, rfl, forsaken.handleChunk bytes now⟩
  | applyTiming timing => exact ⟨_, rfl, forsaken.applyTiming timing, Refuses.silent rfl⟩
  | _ => cases routine

/-! ## Any number of operations -/

theorem run (forsaken : before.Forsaken) {operations : List Operation}
    (routine : forall operation, operation ∈ operations -> operation.isRoutine = true) :
    exists after, before.run? operations = some after ∧ after.Forsaken ∧
      Refuses before (Operation.requests operations) after := by
  induction operations generalizing before with
  | nil => exact ⟨before, rfl, forsaken, Refuses.silent rfl⟩
  | cons operation rest inductionHypothesis =>
      rcases forsaken.operate (routine operation List.mem_cons_self) with
        ⟨middle, operated, held, refused⟩
      rcases inductionHypothesis held
          (fun other member => routine other (List.mem_cons_of_mem _ member)) with
        ⟨last, ran, heldNext, refusedNext⟩
      refine ⟨last, ?_, heldNext, ?_⟩
      · rw [run?, List.foldlM_cons, operated]
        exact ran
      · have requests : Operation.requests (operation :: rest) =
            operation.request?.toList ++ Operation.requests rest := by
          rw [Operation.requests, List.filterMap_cons]
          cases operation.request? <;> rfl
        rw [requests]
        exact refused.trans refusedNext

end Forsaken
end Pipeline

/-! ## In a session -/

namespace Supervisor

variable {supervisor : Supervisor}

/-- A session in which the compiler was given up has no live process. -/
theorem Coupled.idle_of_aborted (coupled : supervisor.Coupled)
    (aborted : supervisor.pipeline.phase = .aborted) : supervisor.processes.current = none := by
  cases live : supervisor.processes.current with
  | none => rfl
  | some generation =>
      have phase := (coupled.live generation live).2
      simp [Pipeline.Live, Pipeline.Taking, aborted] at phase

theorem Coupled.forsaken (coupled : supervisor.Coupled) (rests : supervisor.Rests)
    (aborted : supervisor.pipeline.phase = .aborted) : supervisor.pipeline.Forsaken :=
  have idle := coupled.idle_of_aborted aborted
  ⟨rests idle, aborted, (coupled.idle idle).1⟩

/-- The pipeline stays forsaken, nothing is launched, and these requests are refused. -/
structure StaysForsaken (before : Supervisor) (requests : List Pending) (after : Supervisor) :
    Prop where
  forsaken : after.pipeline.Forsaken
  generation : after.processes.generation = before.processes.generation
  refuses : Pipeline.Refuses before.pipeline requests after.pipeline

theorem StaysForsaken.same {after : Supervisor} (forsaken : supervisor.pipeline.Forsaken)
    (pipeline : after.pipeline = supervisor.pipeline)
    (generation : after.processes.generation = supervisor.processes.generation) :
    StaysForsaken supervisor [] after :=
  ⟨pipeline ▸ forsaken, generation, Pipeline.Refuses.silent (congrArg Pipeline.outbox pipeline)⟩

theorem StaysForsaken.obey (forsaken : supervisor.pipeline.Forsaken)
    (idle : supervisor.processes.current = none) (launch : Launcher) (now : Instant)
    {given : Order} (remains : Happening.isStart (.order given) = false) :
    StaysForsaken supervisor given.request?.toList (supervisor.obey launch now given) := by
  cases given with
  | start documents => cases remains
  | restart plan => cases remains
  | edit document version =>
      rcases forsaken.edit document version now with ⟨held, refused⟩
      exact ⟨held, rfl, refused⟩
  | flush =>
      rcases forsaken.flush now with ⟨held, refused⟩
      exact ⟨held, rfl, refused⟩
  | request id query =>
      rcases forsaken.submit id query now with ⟨after, submitted, held, refused⟩
      rw [Supervisor.obey, submitted]
      exact ⟨held, rfl, refused⟩
  | requestRestart => exact StaysForsaken.same forsaken forsaken.requestRestart rfl
  | shutdown =>
      rw [Supervisor.obey, stopCompiler_of_idle idle]
      exact StaysForsaken.same forsaken rfl rfl

end Supervisor

namespace World

variable {world next : World} {around : Circumstances} {happening : Happening}

/-- What holds at the start of a session, and is kept by everything that happens as long as the
session is orderly and at rest without a live process until it ends, holds after the run. -/
theorem run?_resting {motive : List (Circumstances × Happening) -> World -> Prop} {plan : Plan}
    {course : List (Circumstances × Happening)} {last : World}
    (start : motive [] (World.new plan))
    (step : forall (earlier : List (Circumstances × Happening)) (world next : World)
      (around : Circumstances) (happening : Happening), motive earlier world ->
        (world.supervisor.ended = false -> world.Orderly ∧ world.supervisor.Rests) ->
        world.take? around happening = some next -> motive (earlier ++ [(around, happening)]) next)
    (ran : (World.new plan).run? course = some last) :
    motive course last ∧
      (last.supervisor.ended = false -> last.Orderly ∧ last.supervisor.Rests) := by
  have held := run?_orderly (motive := fun course world =>
    motive course world ∧ (world.supervisor.ended = false -> world.supervisor.Rests)) ?_ ?_ ran
  · exact ⟨held.1.1, fun going => ⟨held.2 going, held.1.2 going⟩⟩
  · exact ⟨start, fun _ _ => ⟨rfl, rfl, rfl, rfl⟩⟩
  · rintro earlier world next around happening ⟨kept, rests⟩ orderly taken
    refine ⟨?_, ?_⟩
    · exact step earlier world next around happening kept
        (fun going => ⟨orderly going, rests going⟩) taken
    · intro still
      have begun := going_of_take taken still
      exact rests_take (orderly begun) (rests begun) begun still taken

/-- While the session goes on, only an order to start leads out of an abort. -/
theorem staysForsaken_take (orderly : world.Orderly) (rests : world.supervisor.Rests)
    (going : world.supervisor.ended = false)
    (aborted : world.supervisor.pipeline.phase = .aborted)
    (remains : happening.isStart = false) (taken : world.take? around happening = some next) :
    Supervisor.StaysForsaken world.supervisor happening.request?.toList next.supervisor := by
  have notEnded : ¬world.supervisor.ended = true := by simp [going]
  have idle := orderly.coupled.idle_of_aborted aborted
  have forsaken := orderly.coupled.forsaken rests aborted
  have unchanged : forall after : Supervisor, after.pipeline = world.supervisor.pipeline ->
      after.processes.generation = world.supervisor.processes.generation ->
      Supervisor.StaysForsaken world.supervisor [] after := fun after =>
    Supervisor.StaysForsaken.same forsaken
  rw [take?_supervisor taken]
  cases happening with
  | order given =>
      show Supervisor.StaysForsaken _ _ (Supervisor.step _ _ _ _)
      rw [Supervisor.step, if_neg notEnded]
      exact Supervisor.StaysForsaken.obey forsaken idle _ _ remains
  | hear =>
      rw [take?] at taken
      split at taken
      next => cases taken
      next oldest rest signals =>
        rw [input?, signals]
        show Supervisor.StaysForsaken _ _ (Supervisor.step _ _ _ _)
        rw [Supervisor.step, if_neg notEnded]
        cases oldest with
        | output generation chunk =>
            have stale : world.supervisor.processes.isCurrent generation = false := by
              simp [Processes.isCurrent, idle]
            show Supervisor.StaysForsaken _ _ (Supervisor.hear _ _ _ _)
            rw [Supervisor.hear, stale]
            exact unchanged _ rfl rfl
        | exited generation status =>
            rcases orderly.hear_exited signals around.launcher around.now with
              ⟨live, _⟩ | ⟨_, noted⟩
            · cases idle.symm.trans live
            · show Supervisor.StaysForsaken _ _ (Supervisor.hear _ _ _ _)
              rw [noted]
              exact unchanged _ rfl rfl
  | editTimer =>
      show Supervisor.StaysForsaken _ _ (Supervisor.step _ _ _ _)
      rw [Supervisor.step, if_neg notEnded]
      rcases forsaken.flush around.now with ⟨held, refused⟩
      exact ⟨held, rfl, refused⟩
  | watchdogTimer =>
      -- the timer does not run
      rw [take?, forsaken.watchdogDeadline] at taken
      cases taken
  | print generation chunk => exact unchanged _ rfl rfl
  | exit status => exact unchanged _ rfl rfl

/-- An ended session changes nothing. -/
theorem take?_phase_of_ended (ended : world.supervisor.ended = true)
    (taken : world.take? around happening = some next) :
    next.supervisor.pipeline.phase = world.supervisor.pipeline.phase := by
  rw [take?_supervisor taken]
  cases world.input? happening with
  | none => rfl
  | some input =>
      show (world.supervisor.step around.launcher around.now input).pipeline.phase = _
      cases input with
      | order given =>
          rw [Supervisor.step, if_pos ended]
          cases given <;> rfl
      | signal received => rw [Supervisor.step, if_pos ended]
      | editTimer => rw [Supervisor.step, if_pos ended]
      | watchdogTimer => rw [Supervisor.step, if_pos ended]

/-- An abort lasts.  Whatever the pipeline was before the watchdog expired or a launch failed, any
sequence of loads, edits, flushes, requests, orders to start the analysis afresh, changes of the
timing and chunks of arbitrary bytes can be carried out, and leaves it aborted: nothing is written,
no diagnostics are shown, neither timer runs, and the settlements are those of the requests that
were made, in order, each of them refused.

In every session nothing but an order to start or to restart leads out of an abort.  Until then no
launch is attempted, and as long as the session goes on, the same holds as for the pipeline. -/
theorem abort_lasts_until_start :
    (forall (before gone : Pipeline) (operations : List Operation),
      (gone = before.watchdogExpired ∨ exists reason, gone = before.spawnFailed reason) ->
      (forall operation, operation ∈ operations -> operation.isRoutine = true) ->
      exists last, gone.run? operations = some last ∧ last.phase = .aborted ∧
        last.editDeadline = none ∧ last.watchdogDeadline = none ∧
        Pipeline.Refuses gone (Operation.requests operations) last) ∧
    (forall plan course world, (World.new plan).run? course = some world ->
      world.supervisor.pipeline.phase = .aborted ->
      forall around happening next, world.take? around happening = some next ->
        (next.supervisor.pipeline.phase ≠ .aborted -> happening.isStart = true) ∧
        (world.supervisor.ended = false -> happening.isStart = false ->
          next.supervisor.processes.generation = world.supervisor.processes.generation ∧
          next.supervisor.pipeline.editDeadline = none ∧
          next.supervisor.pipeline.watchdogDeadline = none ∧
          Pipeline.Refuses world.supervisor.pipeline happening.request?.toList
            next.supervisor.pipeline)) := by
  constructor
  · intro before gone operations aborts routine
    have forsaken : gone.Forsaken := by
      rcases aborts with expired | ⟨reason, failed⟩
      · rw [expired]
        exact Pipeline.watchdogExpired_forsaken before
      · rw [failed]
        exact Pipeline.spawnFailed_forsaken before reason
    rcases forsaken.run routine with ⟨last, ran, held, refused⟩
    exact ⟨last, ran, held.phase, held.editDeadline, held.watchdogDeadline, refused⟩
  · intro plan course world ran aborted around happening next taken
    have stays : world.supervisor.ended = false -> happening.isStart = false ->
        Supervisor.StaysForsaken world.supervisor happening.request?.toList next.supervisor := by
      intro going remains
      have held := run?_resting (motive := fun _ _ => True) trivial
        (fun _ _ _ _ _ _ _ _ => trivial) ran
      rcases held.2 going with ⟨orderly, rests⟩
      exact staysForsaken_take orderly rests going aborted remains taken
    constructor
    · intro left
      cases ended : world.supervisor.ended with
      | true => exact absurd ((take?_phase_of_ended ended taken).trans aborted) left
      | false =>
          cases remains : happening.isStart with
          | true => rfl
          | false => exact absurd (stays ended remains).forsaken.phase left
    · intro going remains
      have held := stays going remains
      exact ⟨held.generation, held.forsaken.editDeadline, held.forsaken.watchdogDeadline,
        held.refuses⟩

/-- After an abort: two edits, of which the second would start the quiet period, output without a
frame and a greeting, a flush, and a request whose place has no number on the wire. -/
def afterthoughts : List Operation :=
  [.edit ⟨"file:///a", "x"⟩ (some 1) 0, .edit ⟨"file:///a", "y"⟩ (some 2) 0, .chunk [0x0C] 0,
    .chunk (Text.Utf8.bytesOf "LISTEN\n\x0c") 0, .flush 0,
    .submit 7 (.hover ⟨"file:///a", ⟨4294967295, 0⟩⟩) 0]

/-- A compiler that never greets is given up when its time is over. -/
def neverGreets : List (Circumstances × Happening) :=
  let launcher : Launcher := fun _ => .ok ()
  [(⟨0, launcher, "killed"⟩, .order (.start [])),
    (⟨Span.ofSeconds 120, launcher, "killed"⟩, .watchdogTimer)]

/-- The session in which the exit of that compiler is on its way. -/
def deserted : World :=
  ((World.new ⟨CompilerPlan.default, [], Timing.default⟩).run? neverGreets).get
    (by decide +kernel)

theorem deserted_stays_aborted :
    (exists last, ((Pipeline.new Timing.default).attach 0).watchdogExpired.run? afterthoughts =
        some last ∧ last.phase = .aborted ∧ last.editDeadline = none ∧
      last.watchdogDeadline = none ∧
      Pipeline.Refuses ((Pipeline.new Timing.default).attach 0).watchdogExpired
        [⟨.hover, 7⟩] last) ∧
    deserted.supervisor.pipeline.phase = .aborted ∧
    exists next, deserted.take? ⟨Span.ofSeconds 121, fun _ => .ok (), "killed"⟩ .hear = some next ∧
      next.supervisor.pipeline.phase = .aborted ∧ next.supervisor.processes.generation = 1 := by
  have law := abort_lasts_until_start
  constructor
  · exact law.1 ((Pipeline.new Timing.default).attach 0) _ afterthoughts (Or.inl rfl)
      (by decide +kernel)
  · have ran : (World.new ⟨CompilerPlan.default, [], Timing.default⟩).run? neverGreets =
        some deserted :=
      (Option.some_get _).symm
    have aborted : deserted.supervisor.pipeline.phase = .aborted := by decide +kernel
    have going : deserted.supervisor.ended = false := by decide +kernel
    have first : deserted.supervisor.processes.generation = 1 := by decide +kernel
    have heard : (deserted.take? ⟨Span.ofSeconds 121, fun _ => .ok (), "killed"⟩ .hear).isSome := by
      decide +kernel
    rcases Option.isSome_iff_exists.mp heard with ⟨next, taken⟩
    rcases law.2 _ _ deserted ran aborted _ .hear next taken with ⟨leaves, stays⟩
    have lasts : next.supervisor.pipeline.phase = .aborted := by
      apply Decidable.byContradiction
      intro left
      cases leaves left
    exact ⟨aborted, next, taken, lasts, (stays going rfl).1.trans first⟩

end World

end Session
end LanguageServer
