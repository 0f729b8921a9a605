import LanguageServer.Proofs.Requests
import LanguageServer.Proofs.Turns

namespace LanguageServer
namespace Session

/-!
# The occasions on which a supervisor drives its pipeline

The operations of a pipeline can be carried out in any order, and some laws hold in any order.
Others need that an operation comes on the right occasion: a launch is announced only when there is
no compiler, a compiler is attached only after its launch was announced, and documents are loaded
only while nothing can be sent.  A supervisor that agrees with its pipeline on whether there is a
compiler respects these occasions in every turn.

So a property of pipelines is kept by the whole session once it is kept by each operation on its
occasion.  It may speak of the documents that the session was given.  Output is treated apart,
because what it does depends on the compiler that sent it.

The first property of this kind is that nothing is expected of a compiler that takes no edits.
-/

/-- The operation comes on an occasion on which a supervisor carries it out, and is not output. -/
def Operation.Timely (pipeline : Pipeline) : Operation -> Prop
  | .starting | .block => pipeline.Gone
  | .attach _ | .spawnFailed _ => pipeline.phase = .starting
  | .load .. => pipeline.canSend = false
  | .chunk .. => False
  | .stopped | .recover _ | .watchdogExpired | .edit .. | .flush _ | .submit .. | .requestRestart
  | .applyTiming _ => True

/-- The documents that a session was given, in order: the edits that were accepted, and what there
was to load. -/
structure Intake where
  accepted : List Document
  loaded : List Document

/-- Enter the documents that an operation brings. -/
def Intake.enter (intake : Intake) (pipeline : Pipeline) : Operation -> Intake
  | .edit document version now =>
      { intake with accepted := intake.accepted ++
          if (pipeline.edit document version now).2.isNone then [document] else [] }
  | .load documents _ => { intake with loaded := intake.loaded ++ documents }
  | _ => intake

/-- What is kept by every operation on its occasion.  A process is launched only after the launch was
announced, and when a session breaks down, all requests are told. -/
structure Pipeline.Enduring (motive : Intake -> Pipeline -> Prop) : Prop where
  operate : forall {intake : Intake} {before after : Pipeline} (operation : Operation),
    motive intake before -> operation.Timely before ->
    before.operate? operation = some after -> motive (intake.enter before operation) after
  kill : forall {intake : Intake} {pipeline : Pipeline} (generations : List Nat),
    motive intake pipeline -> motive intake (pipeline.perform (generations.map .kill))
  launch : forall {intake : Intake} {pipeline : Pipeline} (generation : Nat) (plan : Plan),
    motive intake pipeline -> pipeline.phase = .starting ->
    motive intake (pipeline.perform [.launch generation plan])
  settle : forall {intake : Intake} {pipeline : Pipeline} (settlement : Settlement),
    motive intake pipeline -> motive intake (pipeline.perform [.settle settlement])
  dismiss : forall {intake : Intake} {pipeline : Pipeline},
    motive intake pipeline -> motive intake (pipeline.rejectAll .closed)

/-- What is kept by every operation on its occasion, and depends neither on the outbox nor on the
documents that were given. -/
structure Pipeline.Lasting (motive : Pipeline -> Prop) : Prop where
  operate : forall {before after : Pipeline} (operation : Operation), motive before ->
    operation.Timely before -> before.operate? operation = some after -> motive after
  perform : forall {pipeline : Pipeline} (effects : List Effect), motive pipeline ->
    motive (pipeline.perform effects)
  dismiss : forall {pipeline : Pipeline}, motive pipeline -> motive (pipeline.rejectAll .closed)

theorem Pipeline.Lasting.enduring {motive : Pipeline -> Prop} (lasting : Lasting motive) :
    Enduring (fun _ => motive) where
  operate := fun operation held timely applied => lasting.operate operation held timely applied
  kill := fun _ held => lasting.perform _ held
  launch := fun _ _ held _ => lasting.perform _ held
  settle := fun _ held => lasting.perform _ held
  dismiss := fun held => lasting.dismiss held

/-- After a crash no process is live. -/
theorem Processes.current_of_unexpected {processes next : Processes} {generation : Nat}
    (judged : processes.classifyExit generation = (.unexpected, next)) : next.current = none := by
  rw [Processes.classifyExit] at judged
  split at judged
  · rw [Prod.mk.injEq] at judged
    rw [← judged.2]
  · cases judged

namespace Supervisor

variable {motive : Intake -> Pipeline -> Prop} {intake : Intake} {supervisor : Supervisor}

section Enduring

variable (enduring : Pipeline.Enduring motive)

include enduring

theorem stopCompiler_keeps (held : motive intake supervisor.pipeline) :
    motive intake supervisor.stopCompiler.pipeline := by
  unfold stopCompiler
  split
  · exact enduring.operate .stopped (enduring.kill _ held) trivial rfl
  · exact held

theorem breakDown_keeps (held : motive intake supervisor.pipeline) :
    motive intake supervisor.breakDown.pipeline :=
  enduring.dismiss (enduring.kill _ held)

theorem spawnCompiler_keeps (supervisor : Supervisor) (held : motive intake supervisor.pipeline)
    (idle : supervisor.processes.current = none) (gone : supervisor.pipeline.Gone)
    (launch : Launcher) (now : Instant) :
    motive intake (supervisor.spawnCompiler launch now).pipeline := by
  have announced : motive intake supervisor.pipeline.starting :=
    enduring.operate .starting held gone rfl
  have launched : motive intake supervisor.afterLaunch.pipeline :=
    enduring.launch _ _ announced rfl
  rcases spawnCompiler_cases idle launch now with blocked | ⟨reason, failed⟩ | attached | broken
  · rw [blocked]
    exact enduring.operate .block held gone rfl
  · rw [failed]
    exact enduring.operate (.spawnFailed reason) announced rfl rfl
  · rw [attached]
    exact enduring.operate (.attach now) launched rfl rfl
  · rw [broken]
    exact breakDown_keeps enduring launched

end Enduring
end Supervisor

namespace World

variable {world : World}

def intake (world : World) : Intake := ⟨world.accepted, world.loaded⟩

section Enduring

variable {motive : Intake -> Pipeline -> Prop} (enduring : Pipeline.Enduring motive)

include enduring

/-- An order keeps what endures, for the documents that it brings as well. -/
theorem obey_keeps (held : motive world.intake world.supervisor.pipeline)
    (coupled : world.supervisor.Coupled) (launch : Launcher) (now : Instant) (given : Order) :
    motive (world.note now given).intake (world.supervisor.obey launch now given).pipeline := by
  cases given with
  | start documents =>
      rcases coupled.stopCompiler with ⟨idle, _, gone⟩
      have silent := coupled.canSend_stopCompiler
      have stopped := Supervisor.stopCompiler_keeps enduring held
      have loaded : motive (world.note now (.start documents)).intake
          (world.supervisor.stopCompiler.pipeline.load documents now) :=
        enduring.operate (.load documents now) stopped silent rfl
      refine Supervisor.spawnCompiler_keeps enduring { world.supervisor.stopCompiler with
        pipeline := world.supervisor.stopCompiler.pipeline.load documents now } loaded idle ?_
        launch now
      rw [Pipeline.load_of_idle silent]
      exact gone
  | edit document version =>
      exact enduring.operate (.edit document version now) held trivial rfl
  | flush => exact enduring.operate (.flush now) held trivial rfl
  | request id query =>
      rw [Supervisor.obey]
      split
      next submitted =>
        exact enduring.operate (.submit id query now) held trivial submitted
      next => exact enduring.settle _ (Supervisor.breakDown_keeps enduring held)
  | requestRestart => exact enduring.operate .requestRestart held trivial rfl
  | restart plan =>
      have timed : motive world.intake (world.supervisor.pipeline.applyTiming plan.timing) :=
        enduring.operate (.applyTiming plan.timing) held trivial rfl
      have agreed : Supervisor.Coupled { world.supervisor with
          plan := plan, pipeline := world.supervisor.pipeline.applyTiming plan.timing } :=
        coupled.contact rfl (Pipeline.applyTiming_leavesDocuments _ _).keepsContact
      rcases agreed.stopCompiler with ⟨idle, _, gone⟩
      have stopped : motive world.intake (Supervisor.stopCompiler { world.supervisor with
          plan := plan, pipeline := world.supervisor.pipeline.applyTiming plan.timing }).pipeline :=
        Supervisor.stopCompiler_keeps enduring timed
      exact Supervisor.spawnCompiler_keeps enduring _ stopped idle gone launch now
  | shutdown => exact Supervisor.stopCompiler_keeps enduring held

/-- A signal keeps what endures, if the output that it may bring does. -/
theorem hear_keeps (held : motive world.intake world.supervisor.pipeline) (launch : Launcher)
    (now : Instant) {received : Signal}
    (output : forall generation chunk, received = .output generation chunk ->
      world.supervisor.processes.current = some generation ->
      motive world.intake (world.supervisor.pipeline.handleChunk chunk now)) :
    motive world.intake (world.supervisor.hear launch now received).pipeline := by
  cases received with
  | output generation chunk =>
      rw [Supervisor.hear]
      split
      next current => exact output generation chunk rfl (of_decide_eq_true current)
      next => exact held
  | exited generation status =>
      rw [Supervisor.hear]
      split
      next => exact held
      next processes judged =>
        have recovered : motive world.intake (world.supervisor.pipeline.recover status) :=
          enduring.operate (.recover status) held trivial rfl
        exact Supervisor.spawnCompiler_keeps enduring _ recovered
          (Processes.current_of_unexpected judged) (Or.inl rfl) launch now

/-- A session that has ended still answers requests, and that is all. -/
theorem step_keeps_of_ended (held : motive world.intake world.supervisor.pipeline)
    (ended : world.supervisor.ended = true) (launch : Launcher) (now : Instant) (input : Input) :
    motive world.intake (world.supervisor.step launch now input).pipeline := by
  unfold Supervisor.step
  rw [if_pos ended]
  cases input with
  | order given =>
      cases given with
      | request id query => exact enduring.settle _ held
      | _ => exact held
  | _ => exact held

end Enduring

/-! ## Every run -/

/-- The supervisor hears the oldest signal. -/
theorem signals_of_input? {happening : Happening} {received : Signal}
    (given : world.input? happening = some (.signal received)) :
    exists rest, world.signals = received :: rest := by
  cases happening with
  | hear =>
      rw [input?, Option.map_eq_some_iff] at given
      rcases given with ⟨oldest, first, same⟩
      cases same
      exact List.head?_eq_some_iff.mp first
  | _ => cases given

/-- What takes place changes no account. -/
theorem adopt_accounts (world : World) (status : String) (next : Supervisor) :
    (world.adopt status next).accepted = world.accepted ∧
      (world.adopt status next).loaded = world.loaded ∧
      (world.adopt status next).printed = world.printed := by
  have along : forall (effects : List Effect) (world : World),
      (effects.foldl (enact status) world).accepted = world.accepted ∧
        (effects.foldl (enact status) world).loaded = world.loaded ∧
        (effects.foldl (enact status) world).printed = world.printed := by
    intro effects
    induction effects with
    | nil => exact fun _ => ⟨rfl, rfl, rfl⟩
    | cons effect rest inductionHypothesis =>
        intro world
        have one : (enact status world effect).accepted = world.accepted ∧
            (enact status world effect).loaded = world.loaded ∧
            (enact status world effect).printed = world.printed := by
          cases effect with
          | kill generation =>
              rw [enact]
              split <;> exact ⟨rfl, rfl, rfl⟩
          | launch generation plan => exact ⟨rfl, rfl, rfl⟩
          | write text => exact ⟨rfl, rfl, rfl⟩
          | emit event => exact ⟨rfl, rfl, rfl⟩
          | settle settlement => exact ⟨rfl, rfl, rfl⟩
        have others := inductionHypothesis (enact status world effect)
        exact ⟨others.1.trans one.1, others.2.1.trans one.2.1, others.2.2.trans one.2.2⟩
  exact along _ { world with supervisor := next }

/-- Whatever happens keeps what endures, if the output that may be heard does. -/
theorem take?_enduring {motive : Intake -> Pipeline -> Prop}
    (enduring : Pipeline.Enduring motive) {next : World} {around : Circumstances}
    {happening : Happening} (held : motive world.intake world.supervisor.pipeline)
    (orderly : world.supervisor.ended = false -> world.Orderly)
    (output : forall generation chunk rest, world.signals = .output generation chunk :: rest ->
      world.Orderly -> world.supervisor.processes.current = some generation ->
      motive world.intake (world.supervisor.pipeline.handleChunk chunk around.now))
    (taken : world.take? around happening = some next) :
    motive next.intake next.supervisor.pipeline := by
  have adopted : forall (noted : World) (turned : Supervisor),
      motive noted.intake turned.pipeline ->
      motive (noted.adopt around.killed turned).intake
        (noted.adopt around.killed turned).supervisor.pipeline := by
    intro noted turned held
    rcases adopt_accounts noted around.killed turned with ⟨accepted, loaded, _⟩
    rw [intake, adopt_supervisor, accepted, loaded]
    exact held
  by_cases ended : world.supervisor.ended = true
  · have stays := step_keeps_of_ended enduring held ended around.launcher around.now
    refine take?_cases (motive := fun next => motive next.intake next.supervisor.pipeline) taken
      ?_ ?_ ?_ ?_ ?_ ?_
    · intro given
      rw [if_pos ended]
      exact adopted world _ (stays (.order given))
    · exact fun oldest rest _ => adopted { world with signals := rest } _ (stays (.signal oldest))
    · exact adopted world _ (stays .editTimer)
    · exact adopted world _ (stays .watchdogTimer)
    · exact fun _ _ _ => held
    · exact fun _ _ _ => held
  · have orderly : world.Orderly := orderly (Bool.eq_false_iff.mpr ended)
    refine take?_cases (motive := fun next => motive next.intake next.supervisor.pipeline) taken
      ?_ ?_ ?_ ?_ ?_ ?_
    · intro given
      rw [if_neg ended, react, Supervisor.step, note_supervisor, if_neg ended]
      exact adopted _ _
        (obey_keeps enduring held orderly.coupled around.launcher around.now given)
    · intro oldest rest signals
      rw [react, Supervisor.step, if_neg ended]
      apply adopted { world with signals := rest }
      apply hear_keeps enduring held
      rintro generation chunk rfl live
      exact output generation chunk rest signals orderly live
    · rw [react, Supervisor.step, if_neg ended]
      exact adopted world _ (enduring.operate (.flush around.now) held trivial rfl)
    · rw [react, Supervisor.step, if_neg ended]
      exact adopted world _
        (enduring.kill _ (enduring.operate .watchdogExpired held trivial rfl))
    · exact fun _ _ _ => held
    · exact fun _ _ _ => held

/-- Whatever happens keeps what lasts, if the output that may be heard does. -/
theorem take?_lasting {motive : Pipeline -> Prop} (lasting : Pipeline.Lasting motive)
    {next : World} {around : Circumstances} {happening : Happening}
    (held : motive world.supervisor.pipeline)
    (orderly : world.supervisor.ended = false -> world.Orderly)
    (output : forall generation chunk rest, world.signals = .output generation chunk :: rest ->
      world.Orderly -> world.supervisor.processes.current = some generation ->
      motive (world.supervisor.pipeline.handleChunk chunk around.now))
    (taken : world.take? around happening = some next) : motive next.supervisor.pipeline :=
  take?_enduring lasting.enduring held orderly output taken

/-- What holds at the start of a session, and is kept by everything that happens as long as the
session is orderly until it ends, holds after the run. -/
theorem run?_orderly {motive : List (Circumstances × Happening) -> World -> Prop} {plan : Plan}
    {course : List (Circumstances × Happening)} {last : World}
    (start : motive [] (World.new plan))
    (step : forall (earlier : List (Circumstances × Happening)) (world next : World)
      (around : Circumstances) (happening : Happening), motive earlier world ->
        (world.supervisor.ended = false -> world.Orderly) ->
        world.take? around happening = some next -> motive (earlier ++ [(around, happening)]) next)
    (ran : (World.new plan).run? course = some last) :
    motive course last ∧ (last.supervisor.ended = false -> last.Orderly) := by
  refine run?_induction (motive := fun course world =>
    motive course world ∧ (world.supervisor.ended = false -> world.Orderly)) ?_ ?_ ran
  · exact ⟨start, fun _ => Orderly.new plan⟩
  · rintro earlier world next around happening ⟨held, orderly⟩ taken
    refine ⟨step earlier world next around happening held orderly taken, ?_⟩
    intro still
    have begun := going_of_take taken still
    exact (orderly begun).take begun taken still

theorem orderly_run {plan : Plan} {course : List (Circumstances × Happening)} {last : World}
    (ran : (World.new plan).run? course = some last) (going : last.supervisor.ended = false) :
    last.Orderly :=
  (run?_orderly (motive := fun _ _ => True) trivial (fun _ _ _ _ _ _ _ _ => trivial) ran).2 going

end World

/-! ## What is expected of a compiler -/

namespace Pipeline

/-- Nothing is expected while no compiler takes edits. -/
def Undemanding (pipeline : Pipeline) : Prop :=
  ¬pipeline.Taking -> pipeline.waiting = Waiting.empty ∧ pipeline.analysesPending = 0

namespace Undemanding

variable {before after : Pipeline}

theorem of_taking (taking : after.Taking) : after.Undemanding := fun idle => absurd taking idle

theorem leaves (undemanding : before.Undemanding)
    (phase : after.phase = before.phase) (waiting : after.waiting = before.waiting)
    (analyses : after.analysesPending = before.analysesPending) : after.Undemanding := by
  unfold Undemanding Taking
  rw [phase, waiting, analyses]
  exact undemanding

/-- All requests are settled, and no analysis is expected that was not expected before. -/
theorem drained (undemanding : before.Undemanding) (phase : after.phase = before.phase)
    (waiting : after.waiting = Waiting.empty)
    (analyses : after.analysesPending = before.analysesPending) : after.Undemanding := by
  intro idle
  rw [Taking, phase] at idle
  exact ⟨waiting, analyses.trans (undemanding idle).2⟩

theorem flush (undemanding : before.Undemanding) (now : Instant) :
    (before.flush now).Undemanding := by
  by_cases sendable : before.canSend = true
  · apply of_taking
    rw [Taking, flush_phase]
    exact (canSend_iff.mp sendable).2
  · rw [Pipeline.flush, if_neg sendable]
    exact undemanding.leaves rfl rfl rfl

theorem write (undemanding : before.Undemanding) (text : String) :
    (before.write text).Undemanding := by
  rw [write_eq]
  exact undemanding.leaves rfl rfl rfl

theorem submit (undemanding : before.Undemanding) {id : RequestId} {query : Wire.Query}
    {now : Instant} (submitted : before.submit? id query now = some after) :
    after.Undemanding := by
  have contact := submit_keepsContact submitted
  by_cases taking : before.Taking
  · apply of_taking
    rw [Taking, contact.phase]
    exact taking
  · have answers : ¬(before.phase = .analysed ∧ before.attached = true) :=
      fun ready => taking (Or.inr ready.1)
    rw [submit?, if_neg answers] at submitted
    split at submitted <;> cases submitted <;> exact undemanding.leaves rfl rfl rfl

theorem operate (undemanding : before.Undemanding) {operation : Operation}
    (timely : operation.Timely before) (applied : before.operate? operation = some after) :
    after.Undemanding := by
  cases operation with
  | starting =>
      cases applied
      exact fun _ => undemanding timely.not_taking
  | attach now =>
      cases applied
      have idle : ¬before.Taking := fun taking => taking.not_starting timely
      exact fun _ => ⟨(undemanding idle).1, rfl⟩
  | block => cases applied; exact fun _ => ⟨rfl, rfl⟩
  | spawnFailed reason => cases applied; exact fun _ => ⟨rfl, rfl⟩
  | stopped => cases applied; exact fun _ => ⟨rfl, rfl⟩
  | recover status => cases applied; exact fun _ => ⟨rfl, rfl⟩
  | watchdogExpired => cases applied; exact fun _ => ⟨rfl, rfl⟩
  | load documents now =>
      cases applied
      rw [load_of_idle timely]
      exact undemanding.leaves rfl rfl rfl
  | edit document version now =>
      cases applied
      rcases edit_files before document version now with ⟨edits, filed, _⟩
      rw [filed]
      exact undemanding.leaves rfl rfl rfl
  | flush now => cases applied; exact undemanding.flush now
  | submit id query now => exact undemanding.submit applied
  | requestRestart =>
      cases applied
      unfold Pipeline.requestRestart
      split
      · exact undemanding.write _
      · exact undemanding
  | applyTiming timing => cases applied; exact undemanding.leaves rfl rfl rfl
  | chunk bytes now => cases timely

theorem lasting : Lasting Undemanding where
  operate := fun _ undemanding timely applied => undemanding.operate timely applied
  perform := fun _ undemanding => undemanding.leaves rfl rfl rfl
  dismiss := fun undemanding => undemanding.drained rfl rfl rfl

theorem progress (undemanding : before.Undemanding) (now : Instant) :
    (before.progress now).Undemanding := by
  unfold Pipeline.progress
  split <;> exact undemanding.leaves rfl rfl rfl

theorem handleFrame (undemanding : before.Undemanding) (frame : Wire.Frame) (now : Instant) :
    (before.handleFrame frame now).Undemanding := by
  apply handleFrame_cases (motive := Undemanding)
  case ignored => exact fun _ => undemanding
  case listen => exact fun _ => of_taking (Or.inl (listen_fields before now).1)
  case report => exact fun _ _ => undemanding.leaves rfl rfl rfl
  case analysed => exact fun _ => of_taking (Or.inr (analysed_fields before now).1)
  case raised =>
    intro _
    apply progress
    exact undemanding.drained rfl rfl rfl
  case restarted => exact fun _ => of_taking (Or.inl (listen_fields _ now).1)
  case respond =>
    intro kind _
    by_cases taking : before.Taking
    · apply of_taking
      rw [Taking, (respond_leavesDocuments before kind frame.lines now).phase]
      exact taking
    · have nobody : before.waiting.ofKind kind = [] := by
        rw [(undemanding taking).1]
        rfl
      rw [respond_of_nobody nobody]
      exact undemanding

theorem handleSegment (undemanding : before.Undemanding) (now : Instant)
    (received : Except Wire.FrameFault Wire.Frame) :
    (before.handleSegment now received).Undemanding := by
  cases received with
  | ok frame => exact undemanding.handleFrame frame now
  | error fault =>
      apply progress
      exact undemanding.drained rfl rfl rfl

theorem handleChunk (undemanding : before.Undemanding) (chunk : List UInt8) (now : Instant) :
    (before.handleChunk chunk now).Undemanding := by
  apply handleChunk_induction (motive := Undemanding) _ _ undemanding chunk
  · exact fun _ _ held => held.leaves rfl rfl rfl
  · exact fun _ received held => held.handleSegment now received

end Undemanding
end Pipeline

namespace World

/-- Whatever happens, nothing is expected while no compiler takes edits. -/
theorem undemanding_take {world next : World} {around : Circumstances} {happening : Happening}
    (undemanding : world.supervisor.pipeline.Undemanding)
    (orderly : world.supervisor.ended = false -> world.Orderly)
    (taken : world.take? around happening = some next) :
    next.supervisor.pipeline.Undemanding :=
  take?_lasting Pipeline.Undemanding.lasting undemanding orderly
    (fun _ chunk _ _ _ _ => undemanding.handleChunk chunk around.now) taken

theorem undemanding_run {plan : Plan} {course : List (Circumstances × Happening)} {world : World}
    (ran : (World.new plan).run? course = some world) :
    world.supervisor.pipeline.Undemanding := by
  refine (run?_orderly (motive := fun _ world => world.supervisor.pipeline.Undemanding) ?_ ?_
    ran).1
  · exact fun _ => ⟨rfl, rfl⟩
  · exact fun _ _ _ _ _ undemanding orderly taken => undemanding_take undemanding orderly taken

end World
end Session
end LanguageServer
