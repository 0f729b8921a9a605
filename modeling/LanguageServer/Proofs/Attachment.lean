import LanguageServer.Proofs.Requests
import LanguageServer.Proofs.Turns

namespace LanguageServer
namespace Session

/-!
# A session has a compiler, or it is at rest

The supervisor keeps the processes, and the pipeline keeps the contact with the compiler; the two
are brought up to date separately on every path.  As long as the session goes on they agree.  Either
there is a live process, and the pipeline writes to it, or there is none, and then the pipeline
expects nothing: no request waits, no analysis is pending and no timer runs.

Two things follow.  Output makes a difference only when it comes from the process that the pipeline
writes to, which is the one that was launched last.  And a session that is shut down owes no answer:
all requests that were ever made are settled, each as often as it was made.
-/

namespace Pipeline

/-- Nothing is expected: no answer, no analysis and no timer. -/
structure AtRest (pipeline : Pipeline) : Prop where
  waiting : pipeline.waiting = Waiting.empty
  analysesPending : pipeline.analysesPending = 0
  editDeadline : pipeline.editDeadline = none
  watchdogDeadline : pipeline.watchdogDeadline = none

variable {pipeline : Pipeline}

theorem block_atRest (pipeline : Pipeline) : pipeline.block.AtRest := ⟨rfl, rfl, rfl, rfl⟩

theorem spawnFailed_atRest (pipeline : Pipeline) (reason : String) :
    (pipeline.spawnFailed reason).AtRest := ⟨rfl, rfl, rfl, rfl⟩

/-! ## Orders without a compiler -/

theorem AtRest.edit (atRest : pipeline.AtRest) (idle : pipeline.canSend = false)
    (document : Document) (version : Option Int) (now : Instant) :
    (pipeline.edit document version now).1.AtRest := by
  rcases EditQueue.edit_cases pipeline.edits document version now with
    ⟨stored, _⟩ | ⟨repeated, _⟩ | refused
  · rw [Pipeline.edit]
    generalize pipeline.edits.edit document version now = outcome at stored
    rcases outcome with ⟨edits, verdict⟩
    subst stored
    have held : ¬({ pipeline with edits := edits }.canSend = true) := by
      intro sends
      cases idle.symm.trans sends
    simp only [if_neg held]
    exact ⟨atRest.waiting, atRest.analysesPending, rfl, atRest.watchdogDeadline⟩
  · rw [Pipeline.edit, repeated]
    exact atRest
  · rw [Pipeline.edit, refused]
    exact atRest

theorem AtRest.flush (atRest : pipeline.AtRest) (idle : pipeline.canSend = false)
    (now : Instant) : (pipeline.flush now).AtRest := by
  rw [Pipeline.flush, idle]
  exact ⟨atRest.waiting, atRest.analysesPending, rfl, atRest.watchdogDeadline⟩

theorem AtRest.requestRestart (atRest : pipeline.AtRest) (idle : pipeline.canSend = false) :
    pipeline.requestRestart.AtRest := by
  rw [Pipeline.requestRestart, idle]
  exact atRest

/-- Without a compiler a request is settled at once. -/
theorem AtRest.submit {after : Pipeline} (atRest : pipeline.AtRest)
    (detached : pipeline.attached = false) {id : RequestId} {query : Wire.Query} {now : Instant}
    (submitted : pipeline.submit? id query now = some after) : after.AtRest := by
  have answers : ¬(pipeline.phase = .analysed ∧ pipeline.attached = true) := by simp [detached]
  rw [submit?, if_neg answers] at submitted
  split at submitted
  · cases submitted
    exact ⟨atRest.waiting, atRest.analysesPending, atRest.editDeadline, atRest.watchdogDeadline⟩
  · cases submitted
    exact ⟨atRest.waiting, atRest.analysesPending, atRest.editDeadline, atRest.watchdogDeadline⟩

end Pipeline

namespace Supervisor

/-- There is a live process, and the pipeline writes to a compiler that may answer. -/
structure Connected (supervisor : Supervisor) : Prop where
  running : supervisor.processes.isRunning = true
  attached : supervisor.pipeline.attached = true
  phase : supervisor.pipeline.phase = .starting ∨ supervisor.pipeline.phase = .listening ∨
    supervisor.pipeline.phase = .analysed

/-- There is no process, the pipeline knows it, and expects nothing. -/
structure Alone (supervisor : Supervisor) : Prop extends
    Pipeline.AtRest supervisor.pipeline where
  idle : supervisor.processes.isRunning = false
  detached : supervisor.pipeline.attached = false
  phase : supervisor.pipeline.phase = .stopped ∨ supervisor.pipeline.phase = .blocked ∨
    supervisor.pipeline.phase = .aborted

/-- Without a live process the pipeline is at rest. -/
def Rests (supervisor : Supervisor) : Prop :=
  supervisor.processes.current = none -> supervisor.pipeline.AtRest

variable {supervisor : Supervisor}

theorem connected_or_alone (coupled : supervisor.Coupled) (rests : supervisor.Rests) :
    (supervisor.Connected ∧ ¬supervisor.Alone) ∨ (supervisor.Alone ∧ ¬supervisor.Connected) := by
  cases live : supervisor.processes.current with
  | none =>
      have idle : supervisor.processes.isRunning = false := by
        rw [Processes.isRunning, live]
        rfl
      rcases coupled.idle live with ⟨detached, gone⟩
      refine Or.inr ⟨⟨rests live, idle, detached, gone⟩, ?_⟩
      intro connected
      cases idle.symm.trans connected.running
  | some generation =>
      have running : supervisor.processes.isRunning = true := by
        rw [Processes.isRunning, live]
        rfl
      rcases coupled.live generation live with ⟨attached, phase⟩
      refine Or.inl ⟨⟨running, attached, phase⟩, ?_⟩
      intro alone
      cases running.symm.trans alone.idle

/-! ## At rest after every turn -/

theorem Rests.of_live {generation : Nat} (live : supervisor.processes.current = some generation) :
    supervisor.Rests := by
  intro idle
  cases idle.symm.trans live

/-- A turn that leaves the processes alone only has to keep the rest of the pipeline. -/
theorem Rests.contact {next : Supervisor} (rests : supervisor.Rests) (coupled : supervisor.Coupled)
    (processes : next.processes = supervisor.processes)
    (keeps : supervisor.pipeline.attached = false -> supervisor.pipeline.AtRest ->
      next.pipeline.AtRest) : next.Rests := by
  intro idle
  rw [processes] at idle
  exact keeps (coupled.idle idle).1 (rests idle)

theorem spawnCompiler_rests (idle : supervisor.processes.current = none) {launcher : Launcher}
    {now : Instant} (still : (supervisor.spawnCompiler launcher now).ended = false) :
    (supervisor.spawnCompiler launcher now).Rests := by
  rcases spawnCompiler_cases idle launcher now with blocked | ⟨reason, failed⟩ | launched | broken
  · rw [blocked]
    exact fun _ => Pipeline.block_atRest _
  · rw [failed]
    exact fun _ => Pipeline.spawnFailed_atRest _ reason
  · rw [launched]
    exact Rests.of_live rfl
  · rw [broken] at still
    cases still

theorem giveUp_atRest (supervisor : Supervisor) : supervisor.giveUp.pipeline.AtRest :=
  ⟨rfl, rfl, rfl, rfl⟩

theorem canSend_of_detached (detached : supervisor.pipeline.attached = false) :
    supervisor.pipeline.canSend = false := by
  rw [Pipeline.canSend, detached, Bool.false_and]

theorem Rests.obey (rests : supervisor.Rests) (coupled : supervisor.Coupled) {launcher : Launcher}
    {now : Instant} {given : Order} (still : (supervisor.obey launcher now given).ended = false) :
    (supervisor.obey launcher now given).Rests := by
  cases given with
  | start documents =>
      refine spawnCompiler_rests ?_ still
      exact stopCompiler_current supervisor
  | edit document version =>
      exact rests.contact coupled rfl (fun detached atRest =>
        atRest.edit (canSend_of_detached detached) document version now)
  | flush =>
      exact rests.contact coupled rfl (fun detached atRest =>
        atRest.flush (canSend_of_detached detached) now)
  | request id query =>
      rw [Supervisor.obey] at still ⊢
      split at still
      next pipeline submitted =>
        exact rests.contact coupled rfl (fun detached atRest => atRest.submit detached submitted)
      next => cases still
  | requestRestart =>
      exact rests.contact coupled rfl (fun detached atRest =>
        atRest.requestRestart (canSend_of_detached detached))
  | restart plan => exact spawnCompiler_rests (stopCompiler_current _) still
  | shutdown => cases still

end Supervisor

namespace World

variable {world : World}

theorem rests_hear (orderly : world.Orderly) (rests : world.supervisor.Rests) {oldest : Signal}
    {rest : List Signal} (signals : world.signals = oldest :: rest) {launcher : Launcher}
    {now : Instant} (still : (world.supervisor.hear launcher now oldest).ended = false) :
    (world.supervisor.hear launcher now oldest).Rests := by
  cases oldest with
  | output generation chunk =>
      rw [Supervisor.hear]
      split
      next current => exact Supervisor.Rests.of_live (of_decide_eq_true current)
      next => exact rests
  | exited generation status =>
      rcases orderly.hear_exited signals launcher now with ⟨_, crash⟩ | ⟨_, noted⟩
      · rw [crash] at still ⊢
        exact Supervisor.spawnCompiler_rests rfl still
      · rw [noted]
        exact rests

theorem rests_take {next : World} {around : Circumstances} {happening : Happening}
    (orderly : world.Orderly) (rests : world.supervisor.Rests)
    (begun : world.supervisor.ended = false) (still : next.supervisor.ended = false)
    (taken : world.take? around happening = some next) : next.supervisor.Rests := by
  have notEnded : ¬world.supervisor.ended = true := by simp [begun]
  revert still
  refine take?_cases
    (motive := fun next => next.supervisor.ended = false -> next.supervisor.Rests) taken
    ?_ ?_ ?_ ?_ ?_ ?_
  · intro given
    rw [if_neg notEnded, react, adopt_supervisor, note_supervisor, Supervisor.step,
      if_neg notEnded]
    exact fun still => rests.obey orderly.coupled still
  · intro oldest rest signals
    rw [react, adopt_supervisor, Supervisor.step, if_neg notEnded]
    exact fun still => rests_hear orderly rests signals still
  · intro _
    rw [react, adopt_supervisor, Supervisor.step, if_neg notEnded]
    exact rests.contact orderly.coupled rfl (fun detached atRest =>
      atRest.flush (Supervisor.canSend_of_detached detached) around.now)
  · intro _
    rw [react, adopt_supervisor, Supervisor.step, if_neg notEnded]
    exact fun _ => Supervisor.giveUp_atRest world.supervisor
  · exact fun _ _ _ _ => rests
  · exact fun _ _ _ _ => rests

end World

/-! ## The process that is written to -/

/-- The process that was launched last: it gets what is written. -/
def Effect.addressee? (effects : List Effect) : Option Nat :=
  effects.foldl (fun addressee effect =>
    match effect with | .launch generation _ => some generation | _ => addressee) none

theorem Effect.addressee?_append_words {effects words : List Effect}
    (spoken : forall word, word ∈ words -> word.isWord = true) :
    addressee? (effects ++ words) = addressee? effects := by
  unfold addressee?
  rw [List.foldl_append]
  generalize effects.foldl _ none = addressee
  induction words generalizing addressee with
  | nil => rfl
  | cons word rest inductionHypothesis =>
      have isWord := spoken word List.mem_cons_self
      have later := inductionHypothesis (fun other member =>
        spoken other (List.mem_cons_of_mem _ member))
      cases word with
      | launch generation plan => cases isWord
      | _ => exact later addressee

theorem Effect.addressee?_append_launch (effects : List Effect) (generation : Nat) (plan : Plan) :
    addressee? (effects ++ [.launch generation plan]) = some generation := by
  rw [addressee?, List.foldl_append]
  rfl

namespace Supervisor

/-- The live process is the one that is written to. -/
def Addressed (supervisor : Supervisor) : Prop :=
  forall generation, supervisor.processes.current = some generation ->
    Effect.addressee? supervisor.outbox = some generation

variable {supervisor : Supervisor}

theorem Addressed.move {next : Supervisor} {move : Move} (addressed : supervisor.Addressed)
    (made : supervisor.move? move = some next) : next.Addressed := by
  refine move?_cases (motive := Addressed) made ?_ ?_ ?_ ?_
  · intro _ generation live
    cases (Processes.stop_current _).symm.trans live
  · intro _ _ generation live
    rw [← live]
    exact Effect.addressee?_append_launch _ _ _
  · intro _ idle generation live
    rw [Tracked.beginLaunch_of_idle idle] at live
    cases idle.symm.trans live
  · rintro next _ _ processes ⟨texts, words, outbox, spoken, _⟩ generation live
    rw [processes] at live
    rw [Supervisor.outbox, outbox, Effect.addressee?_append_words spoken]
    exact addressed generation live

theorem Addressed.noted (addressed : supervisor.Addressed) (input : Input) :
    (supervisor.noted input).Addressed := by
  unfold Supervisor.noted
  split
  next exited =>
    split
    · exact addressed
    · intro generation live
      rw [Processes.classifyExit] at live
      split at live
      · cases live
      · exact addressed generation live
  next => exact addressed

theorem Addressed.step (addressed : supervisor.Addressed) (launch : Launcher) (now : Instant)
    (input : Input) : (supervisor.step launch now input).Addressed :=
  moves?_induction (motive := fun _ next => next.Addressed) (addressed.noted input)
    (fun _ _ _ _ held made => held.move made) (moves?_turn supervisor launch now input)

/-- Output changes the pipeline only when it comes from the process that is written to. -/
theorem output_from_addressee (coupled : supervisor.Coupled) (addressed : supervisor.Addressed)
    (going : supervisor.ended = false) {launch : Launcher} {now : Instant} {generation : Nat}
    {chunk : List UInt8}
    (changed : (supervisor.step launch now (.signal (.output generation chunk))).pipeline ≠
      supervisor.pipeline) :
    supervisor.pipeline.attached = true ∧ supervisor.processes.isCurrent generation = true ∧
      Effect.addressee? supervisor.outbox = some generation := by
  rw [Supervisor.step, if_neg (by simp [going])] at changed
  cases current : supervisor.processes.isCurrent generation with
  | false =>
      rw [hear, if_neg (by simp [current])] at changed
      exact absurd rfl changed
  | true =>
      have live : supervisor.processes.current = some generation := of_decide_eq_true current
      exact ⟨(coupled.live generation live).1, rfl, addressed generation live⟩

/-! ## The requests of a session -/

/-- The request that a move makes or declines. -/
def Move.request? : Move -> Option Pending
  | .operate operation => operation.request?
  | .decline request => some request
  | _ => none

/-- A move that makes no request leaves the requests alone or settles them. -/
theorem move?_settling {motive : Pipeline -> Prop} (kept : Pipeline.KeptBySettling motive)
    {next : Supervisor} {move : Move} (held : motive supervisor.pipeline)
    (unasked : move.request? = none) (made : supervisor.move? move = some next) :
    motive next.pipeline := by
  cases move with
  | operate operation =>
      rcases Option.map_eq_some_iff.mp made with ⟨pipeline, applied, placed⟩
      rw [← placed]
      exact kept.operate held unasked applied
  | kill =>
      cases made
      apply kept.leaves held
      apply Pipeline.perform_leavesRequests
      simp [settlements]
  | launch =>
      rw [move?, Option.ite_none_right_eq_some] at made
      rw [← Option.some.inj made.2]
      exact kept.leaves held (Pipeline.perform_leavesRequests _ rfl)
  | fail =>
      rw [move?, Option.ite_none_right_eq_some] at made
      rw [← Option.some.inj made.2]
      exact held
  | replan plan => cases made; exact held
  | dismiss => cases made; exact kept.settlesAll held (Pipeline.rejectAll_settlesAll _ .closed)
  | decline request => cases unasked
  | close => cases made; exact held

theorem accounted_move {next : Supervisor} {move : Move} {requests : List Pending}
    (books : Pipeline.Accounted requests supervisor.pipeline)
    (made : supervisor.move? move = some next) :
    Pipeline.Accounted (requests ++ [move].filterMap Move.request?) next.pipeline := by
  cases asked : move.request? with
  | none =>
      have unchanged : [move].filterMap Move.request? = [] := by simp [asked]
      rw [unchanged, List.append_nil]
      exact move?_settling Pipeline.Accounted.kept books asked made
  | some request =>
      cases move with
      | operate operation =>
          rcases Option.map_eq_some_iff.mp made with ⟨pipeline, applied, placed⟩
          rw [← placed]
          exact books.step applied
      | decline request =>
          cases made
          have told : (supervisor.pipeline.perform
              [.settle ⟨request.id, .error .closed⟩]).settled =
                supervisor.pipeline.settled ++ [⟨request.id, .error .closed⟩] :=
            settlements_append _ _
          exact books.settlesAtOnce request rfl rfl told
      | _ => cases asked

end Supervisor

/-- The request that an order makes. -/
def Order.request? : Order -> Option Pending
  | .request id query => some ⟨query.kind, id⟩
  | _ => none

def Input.request? : Input -> Option Pending
  | .order given => given.request?
  | _ => none

def Happening.request? : Happening -> Option Pending
  | .order given => given.request?
  | _ => none

namespace Supervisor

section Requests

variable (supervisor : Supervisor) (launch : Launcher) (now : Instant)

theorem stopMoves_requests : supervisor.stopMoves.filterMap Move.request? = [] := by
  unfold stopMoves
  split <;> rfl

theorem spawnMoves_requests :
    (supervisor.spawnMoves launch now).filterMap Move.request? = [] := by
  have attaching : (supervisor.attachMoves now).filterMap Move.request? = [] := by
    unfold attachMoves
    split <;> rfl
  unfold spawnMoves
  split
  · rfl
  · cases launch supervisor.plan with
    | ok _ => exact attaching
    | error fault => rfl

theorem obeyMoves_requests (given : Order) :
    (supervisor.obeyMoves launch now given).filterMap Move.request? = given.request?.toList := by
  cases given with
  | start documents =>
      rw [obeyMoves, List.filterMap_append, stopMoves_requests]
      exact spawnMoves_requests _ launch now
  | request id query =>
      rw [obeyMoves]
      split <;> rfl
  | restart plan =>
      rw [obeyMoves, List.filterMap_append, List.filterMap_append, stopMoves_requests,
        spawnMoves_requests]
      rfl
  | shutdown =>
      rw [obeyMoves, List.filterMap_append, stopMoves_requests]
      rfl
  | edit document version => rfl
  | flush => rfl
  | requestRestart => rfl

/-- A turn makes or declines the request of its input and no other. -/
theorem turn_requests (input : Input) :
    (supervisor.turn launch now input).filterMap Move.request? = input.request?.toList := by
  unfold turn
  split
  · cases input with
    | order given => cases given <;> rfl
    | signal received => rfl
    | editTimer => rfl
    | watchdogTimer => rfl
  · cases input with
    | order given => exact obeyMoves_requests supervisor launch now given
    | editTimer => rfl
    | watchdogTimer => rfl
    | signal received =>
        show List.filterMap _ (hearMoves _ _ _ _) = []
        cases received with
        | output generation chunk =>
            rw [hearMoves]
            split <;> rfl
        | exited generation status =>
            rw [hearMoves]
            split
            · rfl
            · exact spawnMoves_requests _ launch now

end Requests

theorem accounted_step {supervisor : Supervisor} {requests : List Pending}
    (books : Pipeline.Accounted requests supervisor.pipeline) (launch : Launcher) (now : Instant)
    (input : Input) :
    Pipeline.Accounted (requests ++ input.request?.toList)
      (supervisor.step launch now input).pipeline := by
  rw [← turn_requests supervisor launch now input]
  refine moves?_induction (motive := fun moves next =>
    Pipeline.Accounted (requests ++ moves.filterMap Move.request?) next.pipeline) ?_ ?_
    (moves?_turn supervisor launch now input)
  · rw [noted_pipeline, List.filterMap_nil, List.append_nil]
    exact books
  · intro earlier before after move held made
    rw [List.filterMap_append, ← List.append_assoc]
    exact accounted_move held made

/-- Whoever still waits when the session is shut down gets the empty answer. -/
theorem shutdown_settlesAll {supervisor : Supervisor} (rests : supervisor.Rests)
    (going : supervisor.ended = false) (launch : Launcher) (now : Instant) :
    Pipeline.SettlesAll (fun kind => .ok (Answer.empty kind)) supervisor.pipeline
      (supervisor.step launch now (.order .shutdown)).pipeline := by
  rw [step, if_neg (by simp [going])]
  show Pipeline.SettlesAll _ _ supervisor.stopCompiler.pipeline
  cases live : supervisor.processes.current with
  | none =>
      have nobody := (rests live).waiting
      rw [stopCompiler_of_idle live]
      exact .ofNobody nobody
  | some generation =>
      have killed : Pipeline.LeavesRequests supervisor.pipeline
          supervisor.killCompiler.pipeline := by
        apply Pipeline.perform_leavesRequests
        simp [settlements]
      rw [stopCompiler, Processes.isRunning, live, if_pos Option.isSome_some]
      exact (Pipeline.stopped_settlesAll supervisor.killCompiler.pipeline).afterLeaves killed

end Supervisor

namespace World

variable {world : World}

/-- The requests that are made in the course of events, in order. -/
def requests (course : List (Circumstances × Happening)) : List Pending :=
  course.filterMap (fun moment => moment.2.request?)

theorem input?_request (world : World) (happening : Happening) :
    (world.input? happening).bind Input.request? = happening.request? := by
  cases happening with
  | hear =>
      rw [input?]
      cases world.signals.head? <;> rfl
  | _ => rfl

theorem accounted_take {next : World} {around : Circumstances} {happening : Happening}
    {asked : List Pending} (books : Pipeline.Accounted asked world.supervisor.pipeline)
    (taken : world.take? around happening = some next) :
    Pipeline.Accounted (asked ++ happening.request?.toList) next.supervisor.pipeline := by
  rw [take?_supervisor taken, ← input?_request world happening]
  cases world.input? happening with
  | none =>
      show Pipeline.Accounted (asked ++ []) _
      rw [List.append_nil]
      exact books
  | some input => exact Supervisor.accounted_step books around.launcher around.now input

theorem requests_append (earlier later : List (Circumstances × Happening)) :
    requests (earlier ++ later) = requests earlier ++ requests later :=
  List.filterMap_append

theorem requests_singleton (around : Circumstances) (happening : Happening) :
    requests [(around, happening)] = happening.request?.toList := by
  cases asked : happening.request? <;> simp [requests, asked]

/-- The books on requests are in order in every session, also after its end. -/
theorem accounted_run {plan : Plan} {course : List (Circumstances × Happening)}
    (ran : (World.new plan).run? course = some world) :
    Pipeline.Accounted (requests course) world.supervisor.pipeline := by
  refine run?_induction (motive := fun course world =>
    Pipeline.Accounted (requests course) world.supervisor.pipeline) ?_ ?_ ran
  · exact Pipeline.Accounted.new plan.timing
  intro earlier world next around happening books taken
  rw [requests_append, requests_singleton]
  exact accounted_take books taken

/-- At every point of a session that goes on, whatever has happened and whichever launches
succeeded, exactly one of two things holds: there is a live process and the pipeline writes to it,
or there is none and the pipeline is at rest.

Then output changes the pipeline only when it comes from the process that is written to, the one
that was launched last.  And a shutdown abandons nobody: whoever waits gets the empty answer, and
then all requests of the session are settled, each exactly as often as it was made. -/
theorem session_connected_or_alone {plan : Plan} {course : List (Circumstances × Happening)}
    {world : World} (ran : (World.new plan).run? course = some world)
    (going : world.supervisor.ended = false) :
    ((world.supervisor.Connected ∧ ¬world.supervisor.Alone) ∨
      (world.supervisor.Alone ∧ ¬world.supervisor.Connected)) ∧
    (forall launch now generation chunk,
      (world.supervisor.step launch now (.signal (.output generation chunk))).pipeline ≠
        world.supervisor.pipeline ->
      world.supervisor.pipeline.attached = true ∧
        world.supervisor.processes.isCurrent generation = true ∧
        Effect.addressee? world.supervisor.outbox = some generation) ∧
    (forall launch now,
      Pipeline.SettlesAll (fun kind => .ok (Answer.empty kind)) world.supervisor.pipeline
        (world.supervisor.step launch now (.order .shutdown)).pipeline ∧
      ((world.supervisor.step launch now (.order .shutdown)).pipeline.settled.map
        Settlement.id).Perm ((requests course).map Pending.id)) := by
  have held : world.Orderly ∧ world.supervisor.Rests := by
    refine run?_going (motive := fun world => world.Orderly ∧ world.supervisor.Rests)
      ⟨Orderly.new plan, ?_⟩ ?_ ran going
    · exact fun _ => ⟨rfl, rfl, rfl, rfl⟩
    · rintro world next around happening ⟨orderly, rests⟩ begun still taken
      exact ⟨orderly.take begun taken still, rests_take orderly rests begun still taken⟩
  have addressed : world.supervisor.Addressed := by
    refine run?_induction (motive := fun _ world => world.supervisor.Addressed) ?_ ?_ ran
    · intro generation live
      cases live
    · exact fun _ _ _ _ _ addressed taken => take?_keeps addressed (addressed.step _ _) taken
  rcases held with ⟨orderly, rests⟩
  refine ⟨Supervisor.connected_or_alone orderly.coupled rests, ?_, ?_⟩
  · intro launch now generation chunk changed
    exact Supervisor.output_from_addressee orderly.coupled addressed going changed
  · intro launch now
    have drained := Supervisor.shutdown_settlesAll rests going launch now
    have books := Supervisor.accounted_step (accounted_run ran) launch now (.order .shutdown)
    have tally := books.tally
    rw [drained.waiting] at tally
    refine ⟨drained, ?_⟩
    simpa [Waiting.empty, Input.request?, Order.request?] using tally

/-- A compiler is asked for a hover and has not answered. -/
def hoverUnanswered : List (Circumstances × Happening) :=
  let around : Circumstances := ⟨0, fun _ => .ok (), "killed"⟩
  [(around, .order (.start [])),
    (around, .print 1 (Text.Utf8.bytesOf "LISTEN\n\x0cANALYSED\n\x0c")), (around, .hear),
    (around, .order (.request 7 (.hover ⟨"file:///a", ⟨0, 4⟩⟩)))]

def awaiting : World :=
  ((World.new ⟨CompilerPlan.default, [], Timing.default⟩).run? hoverUnanswered).get
    (by decide +kernel)

theorem awaiting_connected :
    awaiting.supervisor.ended = false ∧ awaiting.supervisor.Connected ∧
    awaiting.supervisor.pipeline.waiting.requests = [⟨.hover, 7⟩] ∧
    forall launch now, (awaiting.supervisor.step launch now (.order .shutdown)).pipeline.settled =
      [⟨7, .ok (Answer.empty .hover)⟩] := by
  have ran : (World.new ⟨CompilerPlan.default, [], Timing.default⟩).run? hoverUnanswered =
      some awaiting :=
    (Option.some_get _).symm
  have going : awaiting.supervisor.ended = false := by decide +kernel
  have running : awaiting.supervisor.processes.isRunning = true := by decide +kernel
  have waits : awaiting.supervisor.pipeline.waiting.requests = [⟨.hover, 7⟩] := by decide +kernel
  have unsettled : awaiting.supervisor.pipeline.settled.length = 0 := by decide +kernel
  rcases session_connected_or_alone ran going with ⟨one, _, shutdown⟩
  refine ⟨going, ?_, waits, ?_⟩
  · rcases one with ⟨connected, _⟩ | ⟨alone, _⟩
    · exact connected
    · cases running.symm.trans alone.idle
  · intro launch now
    obtain ⟨told, settled, everybody⟩ := (shutdown launch now).1.perm
    rw [waits, List.map_singleton, List.perm_singleton] at everybody
    rw [settled, everybody, List.eq_nil_of_length_eq_zero unsettled, List.nil_append]

end World

end Session
end LanguageServer
