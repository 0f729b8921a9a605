import LanguageServer.Session.Pipeline

namespace LanguageServer
namespace Session

/-!
# Operations of the pipeline

A pipeline is driven from outside by fourteen operations.  Laws about a whole session with one
compiler after another are laws about lists of operations in any order, also orders in which no
supervisor would call them.  An operation that cannot be carried out ends the run: there is no
pipeline after it.

The outbox is never emptied in a run, so that it holds everything that was done since the start.
-/

/-- What holds at the start, and is kept by every step that can be taken, holds after all of them.
The property may speak of the steps that were taken. -/
theorem foldlM_induction {State Step : Type} {take? : State -> Step -> Option State}
    {motive : List Step -> State -> Prop} {first last : State} {steps : List Step}
    (start : motive [] first)
    (step : forall (earlier : List Step) (before after : State) (one : Step),
      motive earlier before -> take? before one = some after -> motive (earlier ++ [one]) after)
    (ran : steps.foldlM take? first = some last) : motive steps last := by
  have along : forall (later earlier : List Step) (before : State),
      motive earlier before -> later.foldlM take? before = some last ->
        motive (earlier ++ later) last := by
    intro later
    induction later with
    | nil =>
        intro earlier before held finished
        cases finished
        simpa using held
    | cons one rest inductionHypothesis =>
        intro earlier before held finished
        rw [List.foldlM_cons] at finished
        rcases Option.bind_eq_some_iff.mp finished with ⟨after, taken, remaining⟩
        have whole := inductionHypothesis (earlier ++ [one]) after
          (step earlier before after one held taken) remaining
        simpa using whole
  exact along steps [] first start ran

/-- What can be done to a pipeline. -/
inductive Operation where
  | starting
  | attach (now : Instant)
  | block
  | spawnFailed (reason : String)
  | stopped
  | recover (status : String)
  | load (documents : List Document) (now : Instant)
  | edit (document : Document) (version : Option Int) (now : Instant)
  | flush (now : Instant)
  | submit (id : RequestId) (query : Wire.Query) (now : Instant)
  | requestRestart
  | chunk (bytes : List UInt8) (now : Instant)
  | watchdogExpired
  | applyTiming (timing : Timing)

namespace Operation

/-- The request that an operation makes. -/
def request? : Operation -> Option Pending
  | .submit id query _ => some ⟨query.kind, id⟩
  | _ => none

/-- The requests that are made by some operations, in the order in which they are made. -/
def requests (operations : List Operation) : List Pending :=
  operations.filterMap request?

@[simp] theorem requests_nil : requests [] = [] := rfl

theorem requests_append (earlier later : List Operation) :
    requests (earlier ++ later) = requests earlier ++ requests later :=
  List.filterMap_append

end Operation

namespace Effect

/-- The texts for the compiler among some effects, in order. -/
def texts (effects : List Effect) : List String :=
  effects.filterMap (fun effect => match effect with | .write text => some text | _ => none)

@[simp] theorem texts_nil : texts [] = [] := rfl

@[simp] theorem texts_append (earlier later : List Effect) :
    texts (earlier ++ later) = texts earlier ++ texts later :=
  List.filterMap_append

/-- Take note of a text for the compiler; a new compiler knows nothing of what came before. -/
def tell (texts : List String) : Effect -> List String
  | .launch .. => []
  | .write text => texts ++ [text]
  | .emit _ | .settle _ | .kill _ => texts

/-- The texts for the compiler since the last launch. -/
def told (effects : List Effect) : List String := effects.foldl tell []

/-- An effect that launches and kills nothing. -/
def isWord : Effect -> Bool
  | .write _ | .emit _ | .settle _ => true
  | .launch .. | .kill _ => false

theorem told_append_words {effects words : List Effect}
    (spoken : forall word, word ∈ words -> word.isWord = true) :
    told (effects ++ words) = told effects ++ texts words := by
  induction words generalizing effects with
  | nil => simp
  | cons word rest inductionHypothesis =>
      have next : told ((effects ++ [word]) ++ rest) = told (effects ++ [word]) ++ texts rest :=
        inductionHypothesis (fun other member => spoken other (List.mem_cons_of_mem _ member))
      have first : told (effects ++ [word]) = told effects ++ texts [word] := by
        have isWord := spoken word List.mem_cons_self
        rw [told, List.foldl_append]
        cases word with
        | write text => rfl
        | emit event => exact (List.append_nil _).symm
        | settle settlement => exact (List.append_nil _).symm
        | launch generation plan => exact nomatch isWord
        | kill generation => exact nomatch isWord
      rw [List.append_cons, next, first, List.append_assoc, ← texts_append, List.singleton_append]

theorem told_append_kills (effects : List Effect) (generations : List Nat) :
    told (effects ++ generations.map .kill) = told effects := by
  rw [told, List.foldl_append, List.foldl_map]
  induction generations with
  | nil => rfl
  | cons generation rest inductionHypothesis => exact inductionHypothesis

theorem told_append_launch (effects : List Effect) (generation : Nat) (plan : Plan) :
    told (effects ++ [.launch generation plan]) = [] := by
  rw [told, List.foldl_append]
  rfl

/-- The publications of diagnostics among some effects, in order. -/
def publications (effects : List Effect) : List (String × List Diagnostic) :=
  effects.filterMap (fun effect =>
    match effect with | .emit (.diagnostics uri items) => some (uri, items) | _ => none)

@[simp] theorem publications_append (earlier later : List Effect) :
    publications (earlier ++ later) = publications earlier ++ publications later :=
  List.filterMap_append

theorem publications_listing (listing : List (String × List Diagnostic)) :
    publications (listing.map (fun entry => .emit (.diagnostics entry.1 entry.2))) = listing := by
  induction listing with
  | nil => rfl
  | cons entry rest inductionHypothesis => exact congrArg (List.cons entry) inductionHypothesis

end Effect

namespace Pipeline

/-- Carry out an operation.  Nothing is left when it cannot be carried out. -/
def operate? (pipeline : Pipeline) : Operation -> Option Pipeline
  | .starting => some pipeline.starting
  | .attach now => some (pipeline.attach now)
  | .block => some pipeline.block
  | .spawnFailed reason => some (pipeline.spawnFailed reason)
  | .stopped => some pipeline.stopped
  | .recover status => some (pipeline.recover status)
  | .load documents now => some (pipeline.load documents now)
  | .edit document version now => some (pipeline.edit document version now).1
  | .flush now => some (pipeline.flush now)
  | .submit id query now => pipeline.submit? id query now
  | .requestRestart => some pipeline.requestRestart
  | .chunk bytes now => some (pipeline.handleChunk bytes now)
  | .watchdogExpired => some pipeline.watchdogExpired
  | .applyTiming timing => some (pipeline.applyTiming timing)

/-- Carry out operations one after the other. -/
def run? (pipeline : Pipeline) (operations : List Operation) : Option Pipeline :=
  operations.foldlM operate? pipeline

/-- What holds of the pipeline before any operation, and is kept by each of them, holds after the
run.  The property may speak of the operations that were carried out. -/
theorem run?_induction {motive : List Operation -> Pipeline -> Prop} {first last : Pipeline}
    {operations : List Operation} (start : motive [] first)
    (step : forall (earlier : List Operation) (before after : Pipeline) (operation : Operation),
      motive earlier before -> before.operate? operation = some after ->
        motive (earlier ++ [operation]) after)
    (ran : first.run? operations = some last) : motive operations last :=
  foldlM_induction start step ran

/-- Taking in a chunk keeps what acting on every single frame or fault keeps, as long as the bytes
that wait for their separator do not matter. -/
theorem handleChunk_induction {motive : Pipeline -> Prop} {now : Instant}
    (buffered : forall (pipeline : Pipeline) (frames : Wire.FrameBuffer),
      motive pipeline -> motive { pipeline with frames := frames })
    (segment : forall (pipeline : Pipeline) (received : Except Wire.FrameFault Wire.Frame),
      motive pipeline -> motive (pipeline.handleSegment now received))
    {pipeline : Pipeline} (held : motive pipeline) (chunk : List UInt8) :
    motive (pipeline.handleChunk chunk now) := by
  have along : forall (received : List (Except Wire.FrameFault Wire.Frame)) (pipeline : Pipeline),
      motive pipeline -> motive (received.foldl (handleSegment now) pipeline) := by
    intro received
    induction received with
    | nil => exact fun _ held => held
    | cons first rest inductionHypothesis =>
        intro pipeline held
        exact inductionHypothesis _ (segment pipeline first held)
  exact along _ _ (buffered pipeline _ held)

/-! ## What is said

No operation takes anything back, and none launches or kills. -/

/-- The operation only adds words to the outbox, among them these texts for the compiler. -/
def Speaks (before : Pipeline) (texts : List String) (after : Pipeline) : Prop :=
  exists words, after.outbox = before.outbox ++ words ∧
    (forall word, word ∈ words -> word.isWord = true) ∧ Effect.texts words = texts

theorem Speaks.silent {before after : Pipeline} (same : after.outbox = before.outbox) :
    Speaks before [] after :=
  ⟨[], by rw [same, List.append_nil], nofun, rfl⟩

theorem Speaks.trans {first second third : Pipeline} {earlier later : List String}
    (one : Speaks first earlier second) (two : Speaks second later third) :
    Speaks first (earlier ++ later) third := by
  rcases one with ⟨words, outbox, spoken, texts⟩
  rcases two with ⟨more, outboxNext, spokenNext, textsNext⟩
  refine ⟨words ++ more, by rw [outboxNext, outbox, List.append_assoc], ?_, ?_⟩
  · intro word member
    rcases List.mem_append.mp member with first | second
    · exact spoken word first
    · exact spokenNext word second
  · rw [Effect.texts_append, texts, textsNext]

theorem Speaks.texts {before after : Pipeline} {texts : List String}
    (spoken : Speaks before texts after) :
    Effect.texts after.outbox = Effect.texts before.outbox ++ texts := by
  rcases spoken with ⟨words, outbox, _, same⟩
  rw [outbox, Effect.texts_append, same]

theorem Speaks.told {before after : Pipeline} {texts : List String}
    (spoken : Speaks before texts after) :
    Effect.told after.outbox = Effect.told before.outbox ++ texts := by
  rcases spoken with ⟨words, outbox, allWords, same⟩
  rw [outbox, Effect.told_append_words allWords, same]

theorem emit_speaks (pipeline : Pipeline) (stage : Lifecycle) :
    Speaks pipeline [] (pipeline.emit stage) :=
  ⟨[.emit (.lifecycle stage)], rfl, by simp [Effect.isWord], rfl⟩

theorem settle_speaks (pipeline : Pipeline) (settlements : List Settlement) :
    Speaks pipeline [] (pipeline.perform (settlements.map .settle)) :=
  ⟨settlements.map .settle, rfl, by simp [Effect.isWord], by simp [Effect.texts]⟩

theorem publish_speaks (pipeline : Pipeline) (listing : List (String × List Diagnostic)) :
    Speaks pipeline [] (pipeline.publish listing) := by
  refine ⟨_, rfl, ?_, by simp [Effect.texts]⟩
  intro word member
  rcases List.mem_map.mp member with ⟨entry, _, same⟩
  rw [← same]
  rfl

theorem write_speaks {pipeline : Pipeline} (attached : pipeline.attached = true) (text : String) :
    Speaks pipeline [text] (pipeline.write text) := by
  rw [write, if_pos attached]
  exact ⟨[.write text], rfl, by simp [Effect.isWord], rfl⟩

/-! ## Writing and sending

Every text for the compiler goes through `write`, and every batch of edits through `sendBatch`, so
what the other operations do to the outside follows from the equations for these two. -/

theorem write_eq (pipeline : Pipeline) (text : String) :
    pipeline.write text = pipeline.perform (if pipeline.attached then [.write text] else []) := by
  rw [write]
  split
  · rfl
  · simp [perform]

/-- Without a pending draft nothing is sent, and the quiet period ends. -/
theorem sendBatch_of_nothing {pipeline : Pipeline}
    (nothing : pipeline.edits.pendingDocuments = []) (now : Instant) :
    pipeline.sendBatch now = { pipeline with edits := pipeline.edits.takeBatch.2 } := by
  rw [sendBatch]
  have none_taken : pipeline.edits.takeBatch.1 = none := by simp [EditQueue.takeBatch, nothing]
  split
  next rested taken => rw [taken]
  next batch taken both =>
    rw [both] at none_taken
    exact nomatch none_taken

/-- The pending drafts go out as one batch: problems that it makes worthless are cleared, and one
more analysis is expected. -/
theorem sendBatch_of_pending {pipeline : Pipeline}
    (pending : pipeline.edits.pendingDocuments ≠ []) (now : Instant) :
    pipeline.sendBatch now =
      { pipeline with
        edits := { pipeline.edits.takeBatch.2 with state := .idle }
        problems := clearProblems pipeline.problems pipeline.edits.pendingDocuments
        analysesPending := pipeline.analysesPending + 1
        watchdog := pipeline.watchdog.armIfIdle now
        outbox := pipeline.outbox ++
          (if pipeline.attached then [.write (Wire.editText pipeline.edits.pendingDocuments)]
            else []) } := by
  have some_taken : pipeline.edits.takeBatch = (some pipeline.edits.pendingDocuments,
      { pipeline.edits.takeBatch.2 with state := .sending }) := by
    simp [EditQueue.takeBatch, pending]
  rw [sendBatch, some_taken]
  simp only [write_eq, perform, EditQueue.finishSend?, if_true, Option.getD_some]

@[simp] theorem sendBatch_phase (pipeline : Pipeline) (now : Instant) :
    (pipeline.sendBatch now).phase = pipeline.phase := by
  by_cases nothing : pipeline.edits.pendingDocuments = []
  · rw [sendBatch_of_nothing nothing]
  · rw [sendBatch_of_pending nothing]

@[simp] theorem sendBatch_attached (pipeline : Pipeline) (now : Instant) :
    (pipeline.sendBatch now).attached = pipeline.attached := by
  by_cases nothing : pipeline.edits.pendingDocuments = []
  · rw [sendBatch_of_nothing nothing]
  · rw [sendBatch_of_pending nothing]

@[simp] theorem sendBatch_reload (pipeline : Pipeline) (now : Instant) :
    (pipeline.sendBatch now).reload = pipeline.reload := by
  by_cases nothing : pipeline.edits.pendingDocuments = []
  · rw [sendBatch_of_nothing nothing]
  · rw [sendBatch_of_pending nothing]

@[simp] theorem sendBatch_frames (pipeline : Pipeline) (now : Instant) :
    (pipeline.sendBatch now).frames = pipeline.frames := by
  by_cases nothing : pipeline.edits.pendingDocuments = []
  · rw [sendBatch_of_nothing nothing]
  · rw [sendBatch_of_pending nothing]

@[simp] theorem sendBatch_drafts (pipeline : Pipeline) (now : Instant) :
    (pipeline.sendBatch now).edits.drafts = pipeline.edits.takeBatch.2.drafts := by
  by_cases nothing : pipeline.edits.pendingDocuments = []
  · rw [sendBatch_of_nothing nothing]
  · rw [sendBatch_of_pending nothing]

theorem sendBatch_speaks {pipeline : Pipeline} (attached : pipeline.attached = true)
    (now : Instant) :
    Speaks pipeline (if pipeline.edits.pendingDocuments = [] then []
      else [Wire.editText pipeline.edits.pendingDocuments]) (pipeline.sendBatch now) := by
  by_cases nothing : pipeline.edits.pendingDocuments = []
  · rw [sendBatch_of_nothing nothing, if_pos nothing]
    exact Speaks.silent rfl
  · rw [sendBatch_of_pending nothing, if_neg nothing, if_pos attached]
    exact ⟨_, rfl, by simp [Effect.isWord], rfl⟩

@[simp] theorem flush_phase (pipeline : Pipeline) (now : Instant) :
    (pipeline.flush now).phase = pipeline.phase := by
  rw [flush]
  split
  · exact sendBatch_phase pipeline now
  · rfl

@[simp] theorem flush_attached (pipeline : Pipeline) (now : Instant) :
    (pipeline.flush now).attached = pipeline.attached := by
  rw [flush]
  split
  · exact sendBatch_attached pipeline now
  · rfl

@[simp] theorem progress_phase (pipeline : Pipeline) (now : Instant) :
    (pipeline.progress now).phase = pipeline.phase := by
  rw [progress]
  split <;> rfl

@[simp] theorem progress_attached (pipeline : Pipeline) (now : Instant) :
    (pipeline.progress now).attached = pipeline.attached := by
  rw [progress]
  split <;> rfl

@[simp] theorem progress_reload (pipeline : Pipeline) (now : Instant) :
    (pipeline.progress now).reload = pipeline.reload := by
  rw [progress]
  split <;> rfl

@[simp] theorem progress_frames (pipeline : Pipeline) (now : Instant) :
    (pipeline.progress now).frames = pipeline.frames := by
  rw [progress]
  split <;> rfl

@[simp] theorem progress_problems (pipeline : Pipeline) (now : Instant) :
    (pipeline.progress now).problems = pipeline.problems := by
  rw [progress]
  split <;> rfl

@[simp] theorem progress_outbox (pipeline : Pipeline) (now : Instant) :
    (pipeline.progress now).outbox = pipeline.outbox := by
  rw [progress]
  split <;> rfl

/-- The compiler has said that it listens, and the first batch for it is put together. -/
def welcome (pipeline : Pipeline) : Pipeline :=
  { { pipeline with phase := .listening }.emit .listening with
    edits := pipeline.edits.seed pipeline.reload, reload := [] }

theorem listen_eq (pipeline : Pipeline) (now : Instant) :
    pipeline.listen now = (pipeline.welcome.sendBatch now).progress now := rfl

theorem welcome_speaks (pipeline : Pipeline) : Speaks pipeline [] pipeline.welcome :=
  emit_speaks pipeline .listening

/-- An analysis is counted as complete and published. -/
def conclude (pipeline : Pipeline) : Pipeline :=
  ({ pipeline with
    phase := .analysed, analysesPending := pipeline.analysesPending - 1 }.publish
      pipeline.problems.listing).emit .analysed

theorem analysed_eq (pipeline : Pipeline) (now : Instant) :
    pipeline.analysed now = pipeline.conclude.progress now := rfl

theorem conclude_speaks (pipeline : Pipeline) : Speaks pipeline [] pipeline.conclude := by
  have published : Speaks pipeline [] ({ pipeline with
      phase := .analysed, analysesPending := pipeline.analysesPending - 1 }.publish
        pipeline.problems.listing) := publish_speaks pipeline _
  exact published.trans (emit_speaks _ _)

/-- The end of an analysis publishes what the store lists. -/
theorem analysed_publications (pipeline : Pipeline) (now : Instant) :
    Effect.publications (pipeline.analysed now).outbox =
      Effect.publications pipeline.outbox ++ pipeline.problems.listing := by
  rw [analysed_eq, progress_outbox, conclude, emit, perform, Effect.publications_append, publish,
    perform, Effect.publications_append, Effect.publications_listing]
  exact List.append_nil _

/-- Nothing is kept back from a compiler that listens. -/
theorem listen_fields (pipeline : Pipeline) (now : Instant) :
    (pipeline.listen now).phase = .listening ∧ (pipeline.listen now).reload = [] ∧
      (pipeline.listen now).attached = pipeline.attached ∧
      (pipeline.listen now).frames = pipeline.frames := by
  simp [listen_eq, welcome, emit, perform]

theorem analysed_fields (pipeline : Pipeline) (now : Instant) :
    (pipeline.analysed now).phase = .analysed ∧ (pipeline.analysed now).reload = pipeline.reload ∧
      (pipeline.analysed now).attached = pipeline.attached ∧
      (pipeline.analysed now).frames = pipeline.frames := by
  simp [analysed_eq, conclude, emit, publish, perform]

/-- An edit changes the queue and nothing else. -/
theorem edit_files (pipeline : Pipeline) (document : Document) (version : Option Int)
    (now : Instant) :
    exists edits, (pipeline.edit document version now).1 = { pipeline with edits := edits } ∧
      edits.drafts = (pipeline.edits.edit document version now).1.drafts := by
  rw [edit]
  split
  next edits stored =>
    rw [stored]
    dsimp only
    split
    · exact ⟨edits, rfl, rfl⟩
    · exact ⟨edits.hold, rfl, rfl⟩
  next edits repeated =>
    rw [repeated]
    exact ⟨edits, rfl, rfl⟩
  next edits refused =>
    rw [refused]
    exact ⟨edits, rfl, rfl⟩

@[simp] theorem edit_phase (pipeline : Pipeline) (document : Document) (version : Option Int)
    (now : Instant) : (pipeline.edit document version now).1.phase = pipeline.phase := by
  rcases edit_files pipeline document version now with ⟨edits, same, _⟩
  rw [same]

@[simp] theorem edit_attached (pipeline : Pipeline) (document : Document) (version : Option Int)
    (now : Instant) : (pipeline.edit document version now).1.attached = pipeline.attached := by
  rcases edit_files pipeline document version now with ⟨edits, same, _⟩
  rw [same]

/-- Outside an abort, a response goes to the queue of its kind. -/
theorem handleFrame_response {pipeline : Pipeline} {frame : Wire.Frame} {kind : RequestKind}
    (answers : responseKind? frame.command = some kind) (alive : pipeline.phase ≠ .aborted)
    (now : Instant) : pipeline.handleFrame frame now = pipeline.respond kind frame.lines now := by
  rcases frame with ⟨command, lines⟩
  cases command <;> cases answers <;> simp [handleFrame, alive, responseKind?]

/-- The command of the reports in a band. -/
def reportCommand : Band -> Wire.Command
  | .parse => .diagParse
  | .analysis => .diagAnalysis

/-- What a frame can lead to.  After an abort it is ignored. -/
theorem handleFrame_cases {motive : Pipeline -> Prop} {pipeline : Pipeline} {frame : Wire.Frame}
    {now : Instant} (ignored : pipeline.phase = .aborted -> motive pipeline)
    (listen : frame.command = .listen -> motive (pipeline.listen now))
    (report : forall band, frame.command = reportCommand band ->
      motive (pipeline.addProblems band frame.lines))
    (analysed : frame.command = .analysed -> motive (pipeline.analysed now))
    (raised : frame.command = .except -> motive (pipeline.raised frame.lines now))
    (restarted : frame.command = .restart -> motive (pipeline.restarted now))
    (respond : forall kind, responseKind? frame.command = some kind ->
      motive (pipeline.respond kind frame.lines now)) :
    motive (pipeline.handleFrame frame now) := by
  by_cases aborted : pipeline.phase = .aborted
  · rw [handleFrame, if_pos aborted]
    exact ignored aborted
  · cases answers : responseKind? frame.command with
    | some kind =>
        rw [handleFrame_response answers aborted]
        exact respond kind answers
    | none =>
        rw [handleFrame, if_neg aborted]
        rcases frame with ⟨command, lines⟩
        -- what is left are the commands that answer no request
        cases command with
        | listen => exact listen rfl
        | diagParse => exact report .parse rfl
        | diagAnalysis => exact report .analysis rfl
        | analysed => exact analysed rfl
        | except => exact raised rfl
        | restart => exact restarted rfl
        | _ => cases answers

end Pipeline
end Session
end LanguageServer
