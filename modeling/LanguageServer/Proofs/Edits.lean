import LanguageServer.Proofs.Occasions

namespace LanguageServer
namespace Session

/-!
# No edit is lost

Whatever happens in a session, the pipeline knows every edited document by the text of its last
accepted edit, and it knows every document that was given to load.  While the compiler takes edits,
a document without a pending draft is also known to the compiler that runs: the last batch that
mentions it carries that text.

One thing is asked of the compilers.  Each of them says that it takes edits before it completes its
first analysis.

That the pipeline is faithful is kept by every operation on its occasion: the ones that stop a
compiler put the documents away first, and a launch finds all drafts pending.  Only output needs a
compiler that greets, and only for the other half of security, that nothing is held back.
-/

namespace Pipeline

variable {before after : Pipeline}

theorem Faithful.operate {intake : Intake}
    (faithful : Faithful intake.accepted intake.loaded before) {operation : Operation}
    (timely : operation.Timely before) (applied : before.operate? operation = some after) :
    Faithful (intake.enter before operation).accepted (intake.enter before operation).loaded
      after := by
  have idle : before.phase = .starting -> ¬before.Taking :=
    fun starting taking => taking.not_starting starting
  cases operation with
  | starting => cases applied; exact faithful.starting timely.not_taking
  | attach now => cases applied; exact faithful.attach (idle timely) now
  | block => cases applied; exact faithful.block timely.not_taking
  | spawnFailed reason => cases applied; exact faithful.spawnFailed (idle timely) reason
  | stopped => cases applied; exact faithful.stopped
  | recover status => cases applied; exact faithful.recover status
  | watchdogExpired => cases applied; exact faithful.watchdogExpired
  | load documents now => cases applied; exact faithful.load timely documents now
  | edit document version now => cases applied; exact faithful.edit document version now
  | flush now => cases applied; exact faithful.flush now
  | submit id query now => exact faithful.submit applied
  | requestRestart => cases applied; exact faithful.requestRestart
  | applyTiming timing =>
      cases applied
      exact faithful.leaves (applyTiming_leavesDocuments before timing)
  | chunk bytes now => cases timely

theorem faithful_enduring :
    Enduring (fun intake => Faithful intake.accepted intake.loaded) where
  operate := fun _ faithful timely applied => faithful.operate timely applied
  kill := fun generations faithful => faithful.kill generations
  launch := fun generation plan faithful starting =>
    faithful.launch (fun taking => taking.not_starting starting) generation plan
  settle := fun settlement faithful => faithful.leaves (settle_leavesDocuments _ [settlement])
  dismiss := fun faithful => faithful.leaves (rejectAll_leavesDocuments _ _)

/-- Output of an attached compiler keeps what every segment keeps while there is one. -/
theorem handleChunk_attached {motive : Pipeline -> Prop} {now : Instant}
    (buffered : forall (pipeline : Pipeline) (frames : Wire.FrameBuffer),
      motive pipeline -> motive { pipeline with frames := frames })
    (step : forall (pipeline : Pipeline) (segment : Except Wire.FrameFault Wire.Frame),
      motive pipeline -> pipeline.attached = true -> motive (pipeline.handleSegment now segment))
    (held : motive before) (attached : before.attached = true) (chunk : List UInt8) :
    motive (before.handleChunk chunk now) := by
  suffices both : motive (before.handleChunk chunk now) ∧
      (before.handleChunk chunk now).attached = true from both.1
  apply handleChunk_induction (motive := fun pipeline => motive pipeline ∧ pipeline.attached = true)
    _ _ ⟨held, attached⟩ chunk
  · exact fun pipeline frames both => ⟨buffered pipeline frames both.1, both.2⟩
  · exact fun pipeline segment both => ⟨step pipeline segment both.1 both.2,
      (handleSegment_hears pipeline now segment).attached.trans both.2⟩

theorem Faithful.buffer {accepted loaded : List Document}
    (faithful : Faithful accepted loaded before) (frames : Wire.FrameBuffer) :
    Faithful accepted loaded { before with frames := frames } := by
  rcases faithful.keeps with ⟨sent, keeps⟩
  exact ⟨⟨sent, keeps.same ⟨rfl, rfl, Speaks.silent rfl⟩⟩, faithful.unsent⟩

theorem Faithful.handleSegment {accepted loaded : List Document}
    (faithful : Faithful accepted loaded before) (attached : before.attached = true)
    (now : Instant) (segment : Except Wire.FrameFault Wire.Frame) :
    Faithful accepted loaded (before.handleSegment now segment) := by
  cases segment with
  | error fault => exact faithful.leaves (protocolError_leavesDocuments before fault now)
  | ok frame => exact faithful.handleFrame attached frame now

/-- Nothing is held back from a compiler that takes edits. -/
def Served (pipeline : Pipeline) : Prop :=
  pipeline.Taking -> pipeline.attached = true ∧ pipeline.reload = []

theorem Served.leaves (served : before.Served) (phase : after.phase = before.phase)
    (attached : after.attached = before.attached) (reload : after.reload = before.reload) :
    after.Served := by
  rw [Served, Taking, phase, attached, reload]
  exact served

theorem Served.flush (served : before.Served) (now : Instant) : (before.flush now).Served := by
  refine served.leaves (flush_phase before now) (flush_attached before now) ?_
  rw [Pipeline.flush]
  split
  · exact sendBatch_reload before now
  · rfl

theorem Served.write (served : before.Served) (text : String) : (before.write text).Served := by
  rw [write_eq]
  exact served.leaves rfl rfl rfl

theorem Served.submit (served : before.Served) {id : RequestId} {query : Wire.Query}
    {now : Instant} (submitted : before.submit? id query now = some after) : after.Served := by
  have ready : (if needsLatestText query.kind then before.flush now else before).Served := by
    split
    · exact served.flush now
    · exact served
  rw [submit?] at submitted
  split at submitted
  · cases submitted
    exact served.leaves rfl rfl rfl
  split at submitted
  · cases encoded : query.encode? with
    | none => simp [encoded] at submitted
    | some text =>
        simp only [encoded, Option.some.injEq] at submitted
        subst after
        exact (ready.write text).leaves rfl rfl rfl
  · cases submitted
    exact served.leaves rfl rfl rfl

theorem Served.operate (served : before.Served) {operation : Operation}
    (timely : operation.Timely before) (applied : before.operate? operation = some after) :
    after.Served := by
  cases operation with
  | starting => cases applied; exact nofun
  | attach now => cases applied; exact nofun
  | block => cases applied; exact nofun
  | spawnFailed reason => cases applied; exact nofun
  | stopped => cases applied; exact nofun
  | recover status => cases applied; exact nofun
  | watchdogExpired => cases applied; exact nofun
  | load documents now =>
      cases applied
      rw [load_of_idle timely]
      intro taking
      have sendable := canSend_iff.mpr ⟨(served taking).1, taking⟩
      cases timely.symm.trans sendable
  | edit document version now =>
      cases applied
      rcases edit_files before document version now with ⟨edits, filed, _⟩
      rw [filed]
      exact served.leaves rfl rfl rfl
  | flush now => cases applied; exact served.flush now
  | submit id query now => exact served.submit applied
  | requestRestart =>
      cases applied
      unfold Pipeline.requestRestart
      split
      · exact served.write _
      · exact served
  | applyTiming timing => cases applied; exact served.leaves rfl rfl rfl
  | chunk bytes now => cases timely

theorem served_lasting : Lasting Served where
  operate := fun _ served timely applied => served.operate timely applied
  perform := fun _ served => served.leaves rfl rfl rfl
  dismiss := fun served => served.leaves rfl rfl rfl

/-- Nothing is held back, as long as the compiler takes edits before it completes an analysis. -/
theorem Served.handleSegment (served : before.Served) (attached : before.attached = true)
    {segment : Except Wire.FrameFault Wire.Frame}
    (greeted : Wire.concludes segment = true -> before.Taking) (now : Instant) :
    (before.handleSegment now segment).Served := by
  have listens : forall pipeline : Pipeline, pipeline.attached = true ->
      (pipeline.listen now).Served := by
    intro pipeline contact _
    rcases listen_fields pipeline now with ⟨_, reload, same, _⟩
    exact ⟨same.trans contact, reload⟩
  have quiet : forall after, LeavesDocuments before after -> after.Served :=
    fun _ left => served.leaves left.phase left.attached left.reload
  cases segment with
  | error fault => exact quiet _ (protocolError_leavesDocuments before fault now)
  | ok frame =>
      apply handleFrame_cases (motive := Served)
      case ignored => exact fun _ => served
      case listen => exact fun _ => listens before attached
      case report =>
        exact fun band _ => quiet _ (addProblems_leavesDocuments before band frame.lines)
      case analysed =>
        intro concluded _
        rcases analysed_fields before now with ⟨_, reload, contact, _⟩
        rw [contact, reload]
        exact served (greeted (decide_eq_true concluded))
      case raised => exact fun _ => quiet _ (raised_leavesDocuments before frame.lines now)
      case restarted => exact fun _ => listens _ attached
      case respond =>
        exact fun kind _ => quiet _ (respond_leavesDocuments before kind frame.lines now)

end Pipeline

namespace World

variable {world : World}

/-- The pipeline is secure for the documents that the world has taken note of. -/
def Secure (world : World) : Prop :=
  world.supervisor.pipeline.Secure world.accepted world.loaded

/-- Every process says that it takes edits before it completes its first analysis. -/
def Greeted (world : World) : Prop :=
  forall generation,
    Wire.greetsFirst (Wire.FrameBuffer.received (world.speech generation)) = true

/-- Whether every process has greeted can be seen from those that have printed. -/
theorem greeted_iff_printed : world.Greeted ↔ forall entry, entry ∈ world.printed ->
    Wire.greetsFirst (Wire.FrameBuffer.received (world.speech entry.1)) = true := by
  constructor
  · exact fun greeted entry _ => greeted entry.1
  · intro spoken generation
    cases printed : world.printed.filter (fun entry => entry.1 = generation) with
    | nil =>
        rw [speech, printed]
        rfl
    | cons entry rest =>
        have found : entry ∈ world.printed.filter (fun entry => entry.1 = generation) := by
          rw [printed]
          exact List.mem_cons_self
        rw [List.mem_filter, decide_eq_true_iff] at found
        rw [← found.2]
        exact spoken entry found.1

instance : Decidable world.Greeted := decidable_of_iff _ greeted_iff_printed.symm

/-- What every segment keeps is kept when output of the live process is heard, because a segment
that concludes then finds a compiler that takes edits. -/
theorem Greeted.handleChunk (greeted : world.Greeted) (orderly : world.Orderly)
    {motive : Pipeline -> Prop} {generation : Nat} {chunk : List UInt8} {rest : List Signal}
    (signals : world.signals = .output generation chunk :: rest)
    (live : world.supervisor.processes.current = some generation) {now : Instant}
    (buffered : motive { world.supervisor.pipeline with
      frames := (world.supervisor.pipeline.frames.push chunk).2 })
    (step : forall (pipeline : Pipeline) (segment : Except Wire.FrameFault Wire.Frame),
      motive pipeline -> pipeline.attached = true ->
      (Wire.concludes segment = true -> pipeline.Taking) ->
      motive (pipeline.handleSegment now segment)) :
    motive (world.supervisor.pipeline.handleChunk chunk now) := by
  rcases orderly.heard generation live with ⟨heard, printed, waiting, silent⟩
  have contact := orderly.coupled.live generation live
  have opening : Wire.greetsFirst (Wire.FrameBuffer.received heard ++
      (world.supervisor.pipeline.frames.push chunk).1) = true := by
    have whole := greeted generation
    rw [printed, signals, Signal.outputs_output, if_pos rfl, ← List.append_assoc,
      Wire.FrameBuffer.received_append, Wire.FrameBuffer.received_append, ← waiting] at whole
    exact Wire.greetsFirst_of_append whole
  exact Pipeline.handleSegments_greeted step buffered contact.1 contact.2 silent opening

/-- Whatever happens, the pipeline stays secure. -/
theorem Secure.take {next : World} {around : Circumstances} {happening : Happening}
    (secure : world.Secure) (orderly : world.supervisor.ended = false -> world.Orderly)
    (greeted : world.Greeted) (taken : world.take? around happening = some next) :
    next.Secure := by
  have faithful : next.supervisor.pipeline.Faithful next.accepted next.loaded := by
    refine take?_enduring Pipeline.faithful_enduring ⟨secure.keeps, secure.unsent⟩ orderly ?_ taken
    intro generation chunk rest _ orderly live
    have attached := (orderly.coupled.live generation live).1
    exact Pipeline.handleChunk_attached (fun _ frames held => held.buffer frames)
      (fun _ segment held contact => held.handleSegment contact around.now segment)
      ⟨secure.keeps, secure.unsent⟩ attached chunk
  have served : next.supervisor.pipeline.Served := by
    refine take?_lasting Pipeline.served_lasting secure.served orderly ?_ taken
    intro generation chunk rest signals orderly live
    refine greeted.handleChunk (motive := Pipeline.Served) orderly signals live ?_ ?_
    · exact fun taking => secure.served taking
    · exact fun pipeline segment held attached taking =>
        held.handleSegment attached taking around.now
  exact ⟨faithful.keeps, faithful.unsent, served⟩

/-! ## Every run -/

theorem Secure.new (plan : Plan) : (World.new plan).Secure := by
  refine ⟨⟨[], nofun, nofun, nofun, nofun, Wire.Conveys.nothing⟩, fun _ => nofun, ?_⟩
  rintro (listening | analysed)
  · exact nomatch listening
  · exact nomatch analysed

/-- A world in which every compiler has greeted comes from one in which that was so. -/
theorem Greeted.of_take {next : World} {around : Circumstances} {happening : Happening}
    (greeted : next.Greeted) (taken : world.take? around happening = some next) :
    world.Greeted := by
  intro generation
  have grows : exists more, next.speech generation = world.speech generation ++ more := by
    have reacts : forall (before : World) (input : Input), before.printed = world.printed ->
        exists more, (before.react around input).speech generation =
          world.speech generation ++ more := by
      intro before input same
      refine ⟨[], ?_⟩
      rw [speech, react, (adopt_accounts _ _ _).2.2, same, List.append_nil]
      rfl
    refine take?_cases (motive := fun next => exists more, next.speech generation =
      world.speech generation ++ more) taken ?_ ?_ ?_ ?_ ?_ ?_
    · intro given
      refine reacts _ _ ?_
      split
      · rfl
      · cases given <;> rfl
    · exact fun _ rest _ => reacts { world with signals := rest } _ rfl
    · exact reacts world _ rfl
    · exact reacts world _ rfl
    · intro source chunk _
      rw [speech, List.filter_append, List.flatMap_append]
      exact ⟨_, rfl⟩
    · exact fun _ _ _ => ⟨[], (List.append_nil _).symm⟩
  rcases grows with ⟨more, whole⟩
  have opening := greeted generation
  rw [whole, Wire.FrameBuffer.received_append] at opening
  exact Wire.greetsFirst_of_append opening

theorem Greeted.of_run {last : World} {course : List (Circumstances × Happening)}
    (greeted : last.Greeted) (ran : world.run? course = some last) : world.Greeted := by
  induction course generalizing world with
  | nil =>
      cases ran
      exact greeted
  | cons moment rest inductionHypothesis =>
      rcases run?_cons ran with ⟨next, taken, ranNext⟩
      exact (inductionHypothesis ranNext).of_take taken

theorem Secure.run {last : World} {course : List (Circumstances × Happening)}
    (secure : world.Secure) (orderly : world.supervisor.ended = false -> world.Orderly)
    (greeted : last.Greeted) (ran : world.run? course = some last) : last.Secure := by
  induction course generalizing world with
  | nil =>
      cases ran
      exact secure
  | cons moment rest inductionHypothesis =>
      rcases run?_cons ran with ⟨next, taken, ranNext⟩
      have orderlyNext : next.supervisor.ended = false -> next.Orderly := by
        intro still
        have begun : world.supervisor.ended = false := by
          cases ended : world.supervisor.ended with
          | false => rfl
          | true => exact nomatch still.symm.trans (take?_ended ended taken)
        exact (orderly begun).take begun taken still
      exact inductionHypothesis (secure.take orderly (greeted.of_run ran) taken) orderlyNext ranNext

/-- No edit is lost.  At every point of a session the pipeline knows an edited document by its last
accepted text.  While the compiler takes edits there is a draft of it, and if the draft is not
pending, the last batch for the present compiler that mentions the document carries this text.  A
document that was given to load is never forgotten. -/
theorem no_edit_lost {plan : Plan} {course : List (Circumstances × Happening)} {world : World}
    (ran : (World.new plan).run? course = some world) (greeted : world.Greeted) :
    (forall uri text, Document.latest? uri world.accepted = some text ->
      world.supervisor.pipeline.known? uri = some text) ∧
    (world.supervisor.pipeline.phase = .listening ∨ world.supervisor.pipeline.phase = .analysed ->
      exists messages : List Wire.Message,
        messages.map Wire.Message.encode? = (Effect.told world.supervisor.outbox).map some ∧
        forall uri text, Document.latest? uri world.accepted = some text ->
          exists draft, world.supervisor.pipeline.edits.drafts.find? uri = some draft ∧
            (draft.pending = false ->
              Document.latest? uri (messages.flatMap Wire.Message.documents) = some text)) ∧
    (forall document, document ∈ world.loaded ->
      (world.supervisor.pipeline.known? document.uri).isSome) := by
  have secure : world.Secure :=
    (Secure.new plan).run (fun _ => Orderly.new plan) greeted ran
  rcases secure.keeps with ⟨sent, keeps⟩
  refine ⟨keeps.edited, ?_, keeps.loaded⟩
  intro taking
  rcases keeps.conveyed with ⟨messages, encoded, carried⟩
  refine ⟨messages, encoded, ?_⟩
  intro uri text last
  -- Nothing is put away for another compiler, so the known text is that of a draft.
  have known := keeps.edited uri text last
  rw [Pipeline.known?, (secure.served taking).2, Document.first?_nil, Option.or_none,
    EditQueue.text?, Option.map_eq_some_iff] at known
  rcases known with ⟨draft, found, same⟩
  refine ⟨draft, found, ?_⟩
  intro notPending
  rw [carried, keeps.current uri draft found notPending]
  exact congrArg some same

/-- A compiler crashes while an edit waits for the end of the quiet period, and another one is
launched. -/
def crashBeforeFlush : List (Circumstances × Happening) :=
  let around : Circumstances := ⟨0, fun _ => .ok (), "killed"⟩
  let greeting := Text.Utf8.bytesOf "LISTEN\n\x0c"
  [(around, .order (.start [⟨"file:///a", "old"⟩])), (around, .print 1 greeting), (around, .hear),
    (around, .order (.edit ⟨"file:///a", "new"⟩ (some 1))), (around, .exit "1"), (around, .hear),
    (around, .print 2 greeting), (around, .hear)]

/-- The session after the crash. -/
def recovered : World :=
  ((World.new ⟨CompilerPlan.default, [], Timing.default⟩).run? crashBeforeFlush).get
    (by decide +kernel)

theorem recovered_told_edit : recovered.Greeted ∧
    Document.latest? "file:///a" recovered.accepted = some "new" ∧
    recovered.supervisor.pipeline.known? "file:///a" = some "new" ∧
    exists messages : List Wire.Message,
      messages.map Wire.Message.encode? = (Effect.told recovered.supervisor.outbox).map some ∧
      Document.latest? "file:///a" (messages.flatMap Wire.Message.documents) = some "new" := by
  have ran : (World.new ⟨CompilerPlan.default, [], Timing.default⟩).run? crashBeforeFlush =
      some recovered :=
    (Option.some_get _).symm
  have accepted : Document.latest? "file:///a" recovered.accepted = some "new" := by decide +kernel
  have greeted : recovered.Greeted := by
    have printed : recovered.printed = [(1, Text.Utf8.bytesOf "LISTEN\n\x0c"),
        (2, Text.Utf8.bytesOf "LISTEN\n\x0c")] := by decide +kernel
    intro generation
    by_cases first : generation = 1
    · subst first
      decide +kernel
    by_cases second : generation = 2
    · subst second
      decide +kernel
    · have silent : recovered.speech generation = [] := by
        simp [speech, printed, Ne.symm first, Ne.symm second]
      rw [silent]
      rfl
  have sent : (recovered.supervisor.pipeline.edits.drafts.find? "file:///a").map Draft.pending =
      some false := by decide +kernel
  rcases no_edit_lost ran greeted with ⟨known, told, _⟩
  rcases told (by decide +kernel) with ⟨messages, encoded, current⟩
  rcases current "file:///a" "new" accepted with ⟨draft, found, carried⟩
  rw [found] at sent
  exact ⟨greeted, accepted, known "file:///a" "new" accepted, messages, encoded,
    carried (Option.some.inj sent)⟩

end World
end Session
end LanguageServer
