import LanguageServer.Proofs.Operations
import LanguageServer.Proofs.Texts

namespace LanguageServer

namespace Wire

/-- The documents that a message carries. -/
def Message.documents : Message -> List Document
  | .edit documents => documents
  | .query _ | .restart => []

/-- The texts are those of messages that carry these documents, in order. -/
def Conveys (texts : List String) (documents : List Document) : Prop :=
  exists messages : List Message, messages.map Message.encode? = texts.map some ∧
    messages.flatMap Message.documents = documents

theorem Conveys.nothing : Conveys [] [] := ⟨[], rfl, rfl⟩

theorem Conveys.append {texts more : List String} {documents others : List Document}
    (first : Conveys texts documents) (second : Conveys more others) :
    Conveys (texts ++ more) (documents ++ others) := by
  rcases first with ⟨messages, encoded, carried⟩
  rcases second with ⟨further, encodedNext, carriedNext⟩
  exact ⟨messages ++ further, by rw [List.map_append, encoded, encodedNext, List.map_append],
    by rw [List.flatMap_append, carried, carriedNext]⟩

theorem Conveys.message (message : Message) {text : String}
    (encoded : message.encode? = some text) : Conveys [text] message.documents :=
  ⟨[message], by rw [List.map_singleton, encoded]; rfl, by simp⟩

end Wire

namespace Session
namespace Pipeline

/-!
# The pipeline loses no document

The text that the pipeline knows for a document is its draft in the edit queue or, failing that,
what is kept for the next compiler.  Whatever happens, an edited document is known by its last
accepted edit, and a loaded one stays known.

`Keeps` says so of one pipeline, together with what the present compiler was told: a draft that is
not pending has been sent to it.  `Faithful` adds that all drafts are pending while no compiler takes
edits.  Each operation gets one lemma; some of them pass through states that are not faithful.
`Secure` adds that nothing is held back from a compiler that takes edits.  That needs a compiler that
greets, and is left to the session.
-/

/-- The text that the pipeline has for a document. -/
def known? (pipeline : Pipeline) (uri : String) : Option String :=
  (pipeline.edits.text? uri).or (Document.first? uri pipeline.reload)

/-- The compiler takes edits. -/
def Taking (pipeline : Pipeline) : Prop :=
  pipeline.phase = .listening ∨ pipeline.phase = .analysed

/-- Edits are sent exactly when there is a compiler that takes them. -/
theorem canSend_iff {pipeline : Pipeline} :
    pipeline.canSend = true ↔ pipeline.attached = true ∧ pipeline.Taking := by
  simp [canSend, Taking]

/-- No draft has been sent. -/
def AllPending (pipeline : Pipeline) : Prop :=
  forall uri draft, pipeline.edits.drafts.find? uri = some draft -> draft.pending = true

/-- Every accepted edit and every loaded document is known, and what was sent is up to date. -/
structure Keeps (accepted loaded sent : List Document) (pipeline : Pipeline) : Prop where
  filed : pipeline.edits.Filed
  current : forall uri draft, pipeline.edits.drafts.find? uri = some draft ->
    draft.pending = false -> Document.latest? uri sent = some draft.document.text
  edited : forall uri text, Document.latest? uri accepted = some text ->
    pipeline.known? uri = some text
  loaded : forall document, document ∈ loaded -> (pipeline.known? document.uri).isSome
  conveyed : Wire.Conveys (Effect.told pipeline.outbox) sent

/-- While no compiler takes edits, no draft is taken for sent. -/
structure Faithful (accepted loaded : List Document) (pipeline : Pipeline) : Prop where
  keeps : exists sent, Keeps accepted loaded sent pipeline
  unsent : ¬pipeline.Taking -> pipeline.AllPending

structure Secure (accepted loaded : List Document) (pipeline : Pipeline) : Prop where
  keeps : exists sent, Keeps accepted loaded sent pipeline
  unsent : ¬pipeline.Taking -> pipeline.AllPending
  served : pipeline.Taking -> pipeline.attached = true ∧ pipeline.reload = []

/-! ## Steps that leave the documents alone -/

structure SameDocuments (before after : Pipeline) : Prop where
  drafts : after.edits.drafts = before.edits.drafts
  reload : after.reload = before.reload
  speech : Speaks before [] after

/-- The contact with the compiler stays as it is, too. -/
structure LeavesDocuments (before after : Pipeline) : Prop extends SameDocuments before after where
  phase : after.phase = before.phase
  attached : after.attached = before.attached
  frames : after.frames = before.frames

theorem SameDocuments.trans {first second third : Pipeline} (one : SameDocuments first second)
    (two : SameDocuments second third) : SameDocuments first third :=
  ⟨two.drafts.trans one.drafts, two.reload.trans one.reload, one.speech.trans two.speech⟩

theorem LeavesDocuments.trans {first second third : Pipeline} (one : LeavesDocuments first second)
    (two : LeavesDocuments second third) : LeavesDocuments first third :=
  ⟨one.toSameDocuments.trans two.toSameDocuments, two.phase.trans one.phase,
    two.attached.trans one.attached, two.frames.trans one.frames⟩

theorem LeavesDocuments.refl (pipeline : Pipeline) : LeavesDocuments pipeline pipeline :=
  ⟨⟨rfl, rfl, Speaks.silent rfl⟩, rfl, rfl, rfl⟩

theorem emit_leavesDocuments (pipeline : Pipeline) (stage : Lifecycle) :
    LeavesDocuments pipeline (pipeline.emit stage) :=
  ⟨⟨rfl, rfl, emit_speaks pipeline stage⟩, rfl, rfl, rfl⟩

theorem settle_leavesDocuments (pipeline : Pipeline) (settlements : List Settlement) :
    LeavesDocuments pipeline (pipeline.perform (settlements.map .settle)) :=
  ⟨⟨rfl, rfl, settle_speaks pipeline settlements⟩, rfl, rfl, rfl⟩

theorem resolveAll_leavesDocuments (pipeline : Pipeline) :
    LeavesDocuments pipeline pipeline.resolveAll :=
  ⟨⟨rfl, rfl, settle_speaks pipeline _⟩, rfl, rfl, rfl⟩

theorem rejectAll_leavesDocuments (pipeline : Pipeline) (failure : Failure) :
    LeavesDocuments pipeline (pipeline.rejectAll failure) :=
  ⟨⟨rfl, rfl, settle_speaks pipeline _⟩, rfl, rfl, rfl⟩

theorem holdEdits_leavesDocuments (pipeline : Pipeline) :
    LeavesDocuments pipeline pipeline.holdEdits :=
  ⟨⟨rfl, rfl, Speaks.silent rfl⟩, rfl, rfl, rfl⟩

theorem applyTiming_leavesDocuments (pipeline : Pipeline) (timing : Timing) :
    LeavesDocuments pipeline (pipeline.applyTiming timing) :=
  ⟨⟨rfl, rfl, Speaks.silent rfl⟩, rfl, rfl, rfl⟩

theorem progress_leavesDocuments (pipeline : Pipeline) (now : Instant) :
    LeavesDocuments pipeline (pipeline.progress now) := by
  rw [progress]
  split <;> exact ⟨⟨rfl, rfl, Speaks.silent rfl⟩, rfl, rfl, rfl⟩

theorem addProblems_leavesDocuments (pipeline : Pipeline) (band : Band) (lines : List String) :
    LeavesDocuments pipeline (pipeline.addProblems band lines) :=
  ⟨⟨rfl, rfl, Speaks.silent rfl⟩, rfl, rfl, rfl⟩

theorem respond_leavesDocuments (pipeline : Pipeline) (kind : RequestKind) (lines : List String)
    (now : Instant) : LeavesDocuments pipeline (pipeline.respond kind lines now) := by
  rw [respond]
  split
  next settlement rest _ =>
    have settled : LeavesDocuments pipeline
        ({ pipeline with waiting := rest }.perform [.settle settlement]) :=
      ⟨⟨rfl, rfl, settle_speaks pipeline [settlement]⟩, rfl, rfl, rfl⟩
    exact settled.trans (progress_leavesDocuments _ now)
  next => exact LeavesDocuments.refl pipeline

theorem raised_leavesDocuments (pipeline : Pipeline) (lines : List String) (now : Instant) :
    LeavesDocuments pipeline (pipeline.raised lines now) :=
  ((emit_leavesDocuments pipeline _).trans (rejectAll_leavesDocuments _ _)).trans
    (progress_leavesDocuments _ now)

theorem protocolError_leavesDocuments (pipeline : Pipeline) (fault : Wire.FrameFault)
    (now : Instant) : LeavesDocuments pipeline (pipeline.protocolError fault now) :=
  ((rejectAll_leavesDocuments pipeline _).trans (emit_leavesDocuments _ _)).trans
    (progress_leavesDocuments _ now)

/-! ## What is known -/

section Known

variable {pipeline after : Pipeline}

theorem SameDocuments.known? (same : SameDocuments pipeline after) (uri : String) :
    after.known? uri = pipeline.known? uri := by
  rw [Pipeline.known?, EditQueue.text?, same.drafts, same.reload]
  rfl

theorem known?_sendBatch (pipeline : Pipeline) (now : Instant) (uri : String) :
    (pipeline.sendBatch now).known? uri = pipeline.known? uri := by
  rw [known?, EditQueue.text?, sendBatch_drafts, EditQueue.find?_takeBatch, Option.map_map,
    sendBatch_reload]
  rfl

/-- A draft that is filed is known, in place of what was known before. -/
theorem known?_file {document : Document} {given : Int}
    (lookup : forall uri, after.edits.drafts.find? uri =
      if uri = document.uri then some ⟨document, given, true⟩
      else pipeline.edits.drafts.find? uri)
    (reload : after.reload = pipeline.reload) (uri : String) :
    after.known? uri = if uri = document.uri then some document.text else pipeline.known? uri := by
  rw [known?, EditQueue.text?, lookup, reload]
  split
  · rfl
  · rfl

/-- What is put away is known as before. -/
theorem known?_keepForReload (filed : pipeline.edits.Filed) (uri : String) :
    pipeline.keepForReload.known? uri = pipeline.known? uri := by
  have away : pipeline.keepForReload.known? uri =
      Document.first? uri (mergeDocuments pipeline.edits.snapshot pipeline.reload) := rfl
  rw [away, first?_mergeDocuments, filed.first?_snapshot]
  rfl

/-- What is fetched again is known as before. -/
theorem known?_seed (pipeline : Pipeline) (uri : String) :
    known? { pipeline with edits := pipeline.edits.seed pipeline.reload, reload := [] } uri =
      pipeline.known? uri := by
  rw [known?, EditQueue.text?_seed, Document.first?_nil, Option.or_none]
  rfl

/-- Documents are added to what is known. -/
theorem known?_mergeReload (pipeline : Pipeline) (documents : List Document) (uri : String) :
    (pipeline.mergeReload documents).known? uri =
      (pipeline.known? uri).or (Document.first? uri documents) := by
  show ((pipeline.edits.text? uri).or
    (Document.first? uri (mergeDocuments pipeline.reload documents))) = _
  rw [first?_mergeDocuments, ← Option.or_assoc]
  rfl

end Known

variable {accepted loaded sent : List Document} {pipeline : Pipeline}

/-- What is known may grow, but a known text stays. -/
theorem Keeps.of_remembers {after : Pipeline} {moreSent : List Document}
    (keeps : Keeps accepted loaded sent pipeline)
    (remembers : forall uri text, pipeline.known? uri = some text -> after.known? uri = some text)
    (filed : after.edits.Filed)
    (current : forall uri draft, after.edits.drafts.find? uri = some draft ->
      draft.pending = false -> Document.latest? uri moreSent = some draft.document.text)
    (conveyed : Wire.Conveys (Effect.told after.outbox) moreSent) :
    Keeps accepted loaded moreSent after := by
  refine ⟨filed, current, ?_, ?_, conveyed⟩
  · intro uri text last
    exact remembers uri text (keeps.edited uri text last)
  · intro document member
    rcases Option.isSome_iff_exists.mp (keeps.loaded document member) with ⟨text, known⟩
    rw [remembers document.uri text known]
    rfl

theorem Keeps.same {after : Pipeline} (keeps : Keeps accepted loaded sent pipeline)
    (same : SameDocuments pipeline after) : Keeps accepted loaded sent after := by
  refine keeps.of_remembers ?_ ?_ ?_ ?_
  · intro uri text known
    rw [same.known?]
    exact known
  · intro uri draft found
    rw [same.drafts] at found
    exact keeps.filed uri draft found
  · intro uri draft found
    rw [same.drafts] at found
    exact keeps.current uri draft found
  · rw [same.speech.told, List.append_nil]
    exact keeps.conveyed

theorem Faithful.leaves {after : Pipeline} (faithful : Faithful accepted loaded pipeline)
    (left : LeavesDocuments pipeline after) : Faithful accepted loaded after := by
  rcases faithful.keeps with ⟨sent, keeps⟩
  refine ⟨⟨sent, keeps.same left.toSameDocuments⟩, ?_⟩
  intro idle
  rw [Taking, left.phase] at idle
  rw [AllPending, left.drafts]
  exact faithful.unsent idle

/-! ## Edits -/

/-- A text that carries no document may be written at any time. -/
theorem Faithful.write {after : Pipeline} {text : String}
    (faithful : Faithful accepted loaded pipeline) (message : Wire.Message)
    (left : LeavesDocuments (pipeline.write text) after)
    (attached : pipeline.attached = true) (encoded : message.encode? = some text)
    (bare : message.documents = []) : Faithful accepted loaded after := by
  have written : Faithful accepted loaded (pipeline.write text) := by
    have fields : (pipeline.write text).edits = pipeline.edits ∧
        (pipeline.write text).reload = pipeline.reload ∧
        (pipeline.write text).phase = pipeline.phase := by
      rw [write_eq]
      exact ⟨rfl, rfl, rfl⟩
    rcases fields with ⟨edits, reload, phase⟩
    rcases faithful.keeps with ⟨sent, keeps⟩
    refine ⟨⟨sent, keeps.of_remembers ?_ ?_ ?_ ?_⟩, ?_⟩
    · intro uri known found
      rw [known?, edits, reload]
      exact found
    · rw [edits]
      exact keeps.filed
    · rw [edits]
      exact keeps.current
    · have more := keeps.conveyed.append (Wire.Conveys.message message encoded)
      rw [bare, List.append_nil] at more
      rw [(write_speaks attached text).told]
      exact more
    · rw [Taking, phase, AllPending, edits]
      exact faithful.unsent
  exact written.leaves left

/-- Sending the pending drafts brings the compiler up to date. -/
theorem Keeps.sendBatch (keeps : Keeps accepted loaded sent pipeline)
    (attached : pipeline.attached = true) (now : Instant) :
    Keeps accepted loaded (sent ++ pipeline.edits.pendingDocuments) (pipeline.sendBatch now) := by
  have drafts := fun uri => EditQueue.find?_takeBatch pipeline.edits uri
  refine keeps.of_remembers ?_ ?_ ?_ ?_
  · intro uri text known
    rw [known?_sendBatch]
    exact known
  · intro uri draft found
    rw [sendBatch_drafts, drafts, Option.map_eq_some_iff] at found
    rcases found with ⟨earlier, held, same⟩
    rw [← same]
    exact keeps.filed uri earlier held
  · intro uri draft found _
    rw [sendBatch_drafts, drafts, Option.map_eq_some_iff] at found
    rcases found with ⟨earlier, held, same⟩
    rw [Document.latest?_append, keeps.filed.latest?_pendingDocuments held, ← same]
    cases pending : earlier.pending with
    | true => simp
    | false => simpa using keeps.current uri earlier held pending
  · have batch : Wire.Conveys (if pipeline.edits.pendingDocuments = [] then []
        else [Wire.editText pipeline.edits.pendingDocuments]) pipeline.edits.pendingDocuments := by
      split
      next nothing =>
        rw [nothing]
        exact Wire.Conveys.nothing
      next => exact Wire.Conveys.message (.edit pipeline.edits.pendingDocuments) rfl
    rw [(sendBatch_speaks attached now).told]
    exact keeps.conveyed.append batch

theorem Faithful.flush (faithful : Faithful accepted loaded pipeline) (now : Instant) :
    Faithful accepted loaded (pipeline.flush now) := by
  rw [Pipeline.flush]
  split
  next sendable =>
    have contact := canSend_iff.mp sendable
    rcases faithful.keeps with ⟨sent, keeps⟩
    refine ⟨⟨_, keeps.sendBatch contact.1 now⟩, ?_⟩
    rw [Taking, sendBatch_phase]
    exact fun idle => absurd contact.2 idle
  next => exact faithful.leaves (holdEdits_leavesDocuments pipeline)

/-- The pipeline accepts an edit exactly when the queue does. -/
theorem edit_accepts (pipeline : Pipeline) (document : Document) (version : Option Int)
    (now : Instant) :
    (pipeline.edit document version now).2.isNone ↔
      (pipeline.edits.edit document version now).2 ≠ .refused := by
  rw [edit]
  split
  next stored => simp [stored]
  next repeated => simp [repeated]
  next refused => simp [refused]

/-- An edit whose text is known anyway is safe. -/
theorem Faithful.accept (faithful : Faithful accepted loaded pipeline) {document : Document}
    (known : pipeline.known? document.uri = some document.text) :
    Faithful (accepted ++ [document]) loaded pipeline := by
  rcases faithful.keeps with ⟨sent, keeps⟩
  refine ⟨⟨sent, keeps.filed, keeps.current, ?_, keeps.loaded, keeps.conveyed⟩, faithful.unsent⟩
  intro uri text last
  rw [Document.latest?_append, Document.latest?, Document.latest?_nil, Option.none_or] at last
  by_cases here : document.uri = uri
  · rw [if_pos here, Option.some_or] at last
    rw [← here, known]
    exact last
  · rw [if_neg here, Option.none_or] at last
    exact keeps.edited uri text last

/-- A draft that is filed by an edit is pending, so nothing has to be sent for it yet. -/
theorem Faithful.file {after : Pipeline} {document : Document} {given : Int}
    (faithful : Faithful accepted loaded pipeline)
    (lookup : forall uri, after.edits.drafts.find? uri =
      if uri = document.uri then some ⟨document, given, true⟩
      else pipeline.edits.drafts.find? uri)
    (reload : after.reload = pipeline.reload) (phase : after.phase = pipeline.phase)
    (speech : Speaks pipeline [] after) :
    Faithful (accepted ++ [document]) loaded after := by
  have known := known?_file lookup reload
  rcases faithful.keeps with ⟨sent, keeps⟩
  refine ⟨⟨sent, ?_, ?_, ?_, ?_, ?_⟩, ?_⟩
  · intro uri draft found
    rw [lookup] at found
    split at found
    next here =>
      rw [← Option.some.inj found]
      exact here.symm
    next => exact keeps.filed uri draft found
  · intro uri draft found notPending
    rw [lookup] at found
    split at found
    next =>
      rw [← Option.some.inj found] at notPending
      cases notPending
    next => exact keeps.current uri draft found notPending
  · intro uri text last
    rw [known]
    rw [Document.latest?_append, Document.latest?, Document.latest?_nil, Option.none_or] at last
    by_cases here : document.uri = uri
    · rw [if_pos here, Option.some_or] at last
      rw [if_pos here.symm]
      exact last
    · rw [if_neg here, Option.none_or] at last
      rw [if_neg (Ne.symm here)]
      exact keeps.edited uri text last
  · intro other member
    rw [known]
    split
    · rfl
    · exact keeps.loaded other member
  · rw [speech.told, List.append_nil]
    exact keeps.conveyed
  · intro idle uri draft found
    rw [Taking, phase] at idle
    rw [lookup] at found
    split at found
    next => rw [← Option.some.inj found]
    next => exact faithful.unsent idle uri draft found

/-- From now on the document is known by the text of the edit, if the edit is accepted. -/
theorem Faithful.edit (faithful : Faithful accepted loaded pipeline) (document : Document)
    (version : Option Int) (now : Instant) :
    Faithful (accepted ++ if (pipeline.edit document version now).2.isNone then [document] else [])
      loaded (pipeline.edit document version now).1 := by
  have verdict := edit_accepts pipeline document version now
  rcases edit_files pipeline document version now with ⟨edits, filed, drafts⟩
  have unchanged : (pipeline.edits.edit document version now).1 = pipeline.edits ->
      LeavesDocuments pipeline { pipeline with edits := edits } := by
    intro same
    exact ⟨⟨by rw [drafts, same], rfl, Speaks.silent rfl⟩, rfl, rfl, rfl⟩
  rw [filed]
  rcases EditQueue.edit_cases pipeline.edits document version now with
    ⟨stored, given, found⟩ | ⟨repeated, same⟩ | refused
  · rw [if_pos (verdict.mpr (by rw [stored]; exact nofun))]
    rw [← drafts] at found
    exact faithful.file found rfl rfl (Speaks.silent rfl)
  · rw [if_pos (verdict.mpr (by rw [repeated]; exact nofun))]
    refine (faithful.leaves (unchanged (by rw [repeated]))).accept ?_
    rw [known?, EditQueue.text?, drafts, repeated]
    exact Option.or_eq_some_iff.mpr (Or.inl same)
  · have notAccepted : ¬(pipeline.edit document version now).2.isNone = true := by
      rw [verdict, refused]
      exact fun accepted => accepted rfl
    rw [if_neg notAccepted, List.append_nil]
    exact faithful.leaves (unchanged (by rw [refused]))

/-! ## Requests -/

theorem Faithful.submit (faithful : Faithful accepted loaded pipeline) {id : RequestId}
    {query : Wire.Query} {now : Instant} {after : Pipeline}
    (submitted : pipeline.submit? id query now = some after) : Faithful accepted loaded after := by
  rw [submit?] at submitted
  split at submitted
  · cases submitted
    exact faithful.leaves (settle_leavesDocuments pipeline [_])
  split at submitted
  next ready =>
    have current : Faithful accepted loaded
          (if needsLatestText query.kind then pipeline.flush now else pipeline) ∧
        (if needsLatestText query.kind then pipeline.flush now else pipeline).attached = true := by
      split
      · exact ⟨faithful.flush now, (flush_attached pipeline now).trans ready.2⟩
      · exact ⟨faithful, ready.2⟩
    cases encoded : query.encode? with
    | none => simp [encoded] at submitted
    | some text =>
        simp only [encoded, Option.some.injEq] at submitted
        subst after
        exact current.1.write (.query query)
          ⟨⟨rfl, rfl, Speaks.silent rfl⟩, rfl, rfl, rfl⟩ current.2 encoded rfl
  · cases submitted
    exact faithful.leaves (settle_leavesDocuments pipeline [_])

theorem Faithful.requestRestart (faithful : Faithful accepted loaded pipeline) :
    Faithful accepted loaded pipeline.requestRestart := by
  rw [Pipeline.requestRestart]
  split
  next sendable =>
    exact faithful.write .restart (LeavesDocuments.refl _) (canSend_iff.mp sendable).1 rfl rfl
  next => exact faithful

/-! ## Putting documents away and sending them again -/

/-- What is put away is known as before, and nothing is left in the edit queue. -/
theorem Keeps.keepForReload (keeps : Keeps accepted loaded sent pipeline) :
    Keeps accepted loaded sent pipeline.keepForReload := by
  refine keeps.of_remembers ?_ nofun nofun keeps.conveyed
  intro uri text known
  rw [known?_keepForReload keeps.filed]
  exact known

theorem keepForReload_allPending (pipeline : Pipeline) : pipeline.keepForReload.AllPending := nofun

/-- The documents are put away: nothing is lost. -/
theorem Faithful.stow {middle after : Pipeline} (faithful : Faithful accepted loaded pipeline)
    (before : SameDocuments pipeline middle) (same : SameDocuments middle.keepForReload after) :
    Faithful accepted loaded after := by
  rcases faithful.keeps with ⟨sent, keeps⟩
  refine ⟨⟨sent, (keeps.same before).keepForReload.same same⟩, ?_⟩
  intro _
  rw [AllPending, same.drafts]
  exact keepForReload_allPending middle

theorem resetForReload_sameDocuments (pipeline : Pipeline) :
    SameDocuments pipeline.keepForReload pipeline.resetForReload :=
  ⟨rfl, rfl, publish_speaks pipeline _⟩

theorem Faithful.stopped (faithful : Faithful accepted loaded pipeline) :
    Faithful accepted loaded pipeline.stopped := by
  have quiet := (resolveAll_leavesDocuments pipeline).toSameDocuments
  refine faithful.stow quiet ((resetForReload_sameDocuments pipeline.resolveAll).trans ?_)
  exact ⟨rfl, rfl, emit_speaks _ _⟩

theorem Faithful.recover (faithful : Faithful accepted loaded pipeline) (status : String) :
    Faithful accepted loaded (pipeline.recover status) := by
  have quiet := (resolveAll_leavesDocuments pipeline).toSameDocuments
  refine faithful.stow quiet ((resetForReload_sameDocuments pipeline.resolveAll).trans ?_)
  exact ⟨rfl, rfl, emit_speaks _ _⟩

theorem Faithful.watchdogExpired (faithful : Faithful accepted loaded pipeline) :
    Faithful accepted loaded pipeline.watchdogExpired := by
  have quiet := rejectAll_leavesDocuments pipeline (.stalled pipeline.watchdog.timeout)
  refine faithful.stow quiet.toSameDocuments ?_
  exact ⟨rfl, rfl, emit_speaks _ _⟩

/-- Seeding the queue from what was put away changes no text. -/
theorem Keeps.seed (keeps : Keeps accepted loaded sent pipeline) :
    Keeps accepted loaded sent
      { pipeline with edits := pipeline.edits.seed pipeline.reload, reload := [] } := by
  refine keeps.of_remembers ?_ ?_ ?_ keeps.conveyed
  · intro uri text known
    rw [known?_seed]
    exact known
  · intro uri draft found
    rcases EditQueue.find?_seed found with held | added
    · exact keeps.filed uri draft held
    · exact added.2
  · intro uri draft found notPending
    rcases EditQueue.find?_seed found with held | added
    · exact keeps.current uri draft held notPending
    · rw [added.1] at notPending
      exact nomatch notPending

/-- A compiler that listens gets everything that was put away, together with what is pending. -/
theorem Keeps.listen (keeps : Keeps accepted loaded sent pipeline)
    (attached : pipeline.attached = true) (now : Instant) :
    Faithful accepted loaded (pipeline.listen now) := by
  have welcomed : Keeps accepted loaded sent pipeline.welcome := by
    have announced : SameDocuments pipeline
        ({ pipeline with phase := .listening }.emit .listening) := ⟨rfl, rfl, emit_speaks _ _⟩
    exact (keeps.same announced).seed
  have sent := welcomed.sendBatch attached now
  have quiet := progress_leavesDocuments (pipeline.welcome.sendBatch now) now
  refine ⟨⟨_, sent.same quiet.toSameDocuments⟩, ?_⟩
  intro idle
  exact absurd (Or.inl (listen_fields pipeline now).1) idle

theorem Faithful.restarted (faithful : Faithful accepted loaded pipeline)
    (attached : pipeline.attached = true) (now : Instant) :
    Faithful accepted loaded (pipeline.restarted now) := by
  rcases faithful.keeps with ⟨sent, keeps⟩
  have reset := keeps.keepForReload.same (resetForReload_sameDocuments pipeline)
  have cleared : SameDocuments pipeline.resetForReload
      { pipeline.resetForReload with analysesPending := 0 } := ⟨rfl, rfl, Speaks.silent rfl⟩
  exact (reset.same cleared).listen attached now

theorem analysed_sameDocuments (pipeline : Pipeline) (now : Instant) :
    SameDocuments pipeline (pipeline.analysed now) := by
  have rearmed := progress_leavesDocuments pipeline.conclude now
  exact ⟨rearmed.drafts, rearmed.reload, (conclude_speaks pipeline).trans rearmed.speech⟩

theorem Faithful.analysed (faithful : Faithful accepted loaded pipeline) (now : Instant) :
    Faithful accepted loaded (pipeline.analysed now) := by
  rcases faithful.keeps with ⟨sent, keeps⟩
  refine ⟨⟨sent, keeps.same (analysed_sameDocuments pipeline now)⟩, ?_⟩
  intro idle
  exact absurd (Or.inr (analysed_fields pipeline now).1) idle

/-- Whatever the compiler reports, nothing is lost. -/
theorem Faithful.handleFrame (faithful : Faithful accepted loaded pipeline)
    (attached : pipeline.attached = true) (frame : Wire.Frame) (now : Instant) :
    Faithful accepted loaded (pipeline.handleFrame frame now) := by
  refine handleFrame_cases (motive := Faithful accepted loaded) ?_ ?_ ?_ ?_ ?_ ?_ ?_
  · exact fun _ => faithful
  · intro _
    rcases faithful.keeps with ⟨sent, keeps⟩
    exact keeps.listen attached now
  · exact fun band _ => faithful.leaves (addProblems_leavesDocuments pipeline band frame.lines)
  · exact fun _ => faithful.analysed now
  · exact fun _ => faithful.leaves (raised_leavesDocuments pipeline frame.lines now)
  · exact fun _ => faithful.restarted attached now
  · exact fun kind _ => faithful.leaves (respond_leavesDocuments pipeline kind frame.lines now)

/-! ## From one compiler to the next -/

theorem load_of_idle (idle : pipeline.canSend = false) (documents : List Document)
    (now : Instant) : pipeline.load documents now = pipeline.mergeReload documents := by
  rw [Pipeline.load, idle, if_neg Bool.false_ne_true]

/-- Documents that are loaded without a compiler are kept; a text that is known stays. -/
theorem Faithful.load (faithful : Faithful accepted loaded pipeline) (idle : pipeline.canSend = false)
    (documents : List Document) (now : Instant) :
    Faithful accepted (loaded ++ documents) (pipeline.load documents now) := by
  rcases faithful.keeps with ⟨sent, keeps⟩
  have kept : Keeps accepted loaded sent (pipeline.mergeReload documents) := by
    refine keeps.of_remembers ?_ keeps.filed keeps.current keeps.conveyed
    intro uri text before
    rw [known?_mergeReload, before, Option.some_or]
  rw [load_of_idle idle]
  refine ⟨⟨sent, kept.filed, kept.current, kept.edited, ?_, kept.conveyed⟩, faithful.unsent⟩
  intro document member
  rcases List.mem_append.mp member with earlier | new
  · exact kept.loaded document earlier
  · have present : (Document.first? document.uri documents).isSome :=
      Document.first?_isSome.mpr ⟨document, new, rfl⟩
    rw [known?_mergeReload, Option.isSome_or, present, Bool.or_true]

/-- While no compiler takes edits, the phase does not matter. -/
theorem Faithful.idle {after : Pipeline} (faithful : Faithful accepted loaded pipeline)
    (same : SameDocuments pipeline after) (before : ¬pipeline.Taking) :
    Faithful accepted loaded after := by
  rcases faithful.keeps with ⟨sent, keeps⟩
  refine ⟨⟨sent, keeps.same same⟩, ?_⟩
  intro _
  rw [AllPending, same.drafts]
  exact faithful.unsent before

theorem Faithful.starting (faithful : Faithful accepted loaded pipeline) (idle : ¬pipeline.Taking) :
    Faithful accepted loaded pipeline.starting :=
  faithful.idle ⟨rfl, rfl, emit_speaks _ _⟩ idle

theorem Faithful.attach (faithful : Faithful accepted loaded pipeline) (idle : ¬pipeline.Taking)
    (now : Instant) : Faithful accepted loaded (pipeline.attach now) :=
  faithful.idle ⟨rfl, rfl, emit_speaks _ _⟩ idle

theorem Faithful.block (faithful : Faithful accepted loaded pipeline) (idle : ¬pipeline.Taking) :
    Faithful accepted loaded pipeline.block := by
  have quiet := (resolveAll_leavesDocuments pipeline).toSameDocuments
  exact faithful.idle (quiet.trans ⟨rfl, rfl, emit_speaks _ _⟩) idle

theorem Faithful.spawnFailed (faithful : Faithful accepted loaded pipeline) (idle : ¬pipeline.Taking)
    (reason : String) : Faithful accepted loaded (pipeline.spawnFailed reason) := by
  have quiet := (rejectAll_leavesDocuments pipeline .aborted).toSameDocuments
  exact faithful.idle (quiet.trans ⟨rfl, rfl, emit_speaks _ _⟩) idle

/-- A new compiler was told nothing, and no draft claims otherwise. -/
theorem Faithful.launch (faithful : Faithful accepted loaded pipeline) (idle : ¬pipeline.Taking)
    (generation : Nat) (plan : Plan) :
    Faithful accepted loaded (pipeline.perform [.launch generation plan]) := by
  rcases faithful.keeps with ⟨sent, keeps⟩
  refine ⟨⟨[], keeps.of_remembers (fun _ _ known => known) keeps.filed ?_ ?_⟩, faithful.unsent⟩
  · intro uri draft found notPending
    rw [faithful.unsent idle uri draft found] at notPending
    exact nomatch notPending
  · rw [perform, Effect.told_append_launch]
    exact Wire.Conveys.nothing

theorem Faithful.kill (faithful : Faithful accepted loaded pipeline) (generations : List Nat) :
    Faithful accepted loaded (pipeline.perform (generations.map .kill)) := by
  rcases faithful.keeps with ⟨sent, keeps⟩
  refine ⟨⟨sent, keeps.of_remembers (fun _ _ known => known) keeps.filed keeps.current ?_⟩,
    faithful.unsent⟩
  rw [perform, Effect.told_append_kills]
  exact keeps.conveyed

end Pipeline
end Session
end LanguageServer
