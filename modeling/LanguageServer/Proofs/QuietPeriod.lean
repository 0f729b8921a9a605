import LanguageServer.Proofs.Edits
import LanguageServer.Proofs.Occasions

namespace LanguageServer
namespace Session

/-!
# The quiet period runs exactly while edits can be sent

The edit queue knows when pending drafts are due, and the pipeline knows whether there is a compiler
that takes them.  The two meet only in a few places: an edit that cannot be sent is held, a batch
ends the quiet period, and a queue that is emptied forgets it.  Still, at every point of a session
there is a deadline exactly when a draft is pending and the compiler takes edits.

The first edit of all starts no quiet period.  This does no harm, because a compiler that greets is
sent the documents of the project, and from then on every edit starts one.  So, as in the
safekeeping of documents, each compiler has to say that it takes edits before it completes its
first analysis.
-/

namespace EditQueue

variable {queue : EditQueue}

theorem pendingDocuments_ne_nil : queue.pendingDocuments ≠ [] ↔
    exists uri draft, queue.drafts.find? uri = some draft ∧ draft.pending = true := by
  constructor
  · intro some_pending
    rcases List.exists_mem_of_ne_nil _ some_pending with ⟨document, member⟩
    rcases mem_pendingDocuments.mp member with ⟨uri, draft, found, pending, _⟩
    exact ⟨uri, draft, found, pending⟩
  · rintro ⟨uri, draft, found, pending⟩
    exact List.ne_nil_of_mem (mem_pendingDocuments.mpr ⟨uri, draft, found, pending, rfl⟩)

/-! ## Batches -/

theorem takeBatch_deadline (queue : EditQueue) : queue.takeBatch.2.deadline = none := by
  unfold takeBatch
  dsimp only
  split
  · split <;> rfl
  · rfl

theorem takeBatch_pendingDocuments (queue : EditQueue) :
    queue.takeBatch.2.pendingDocuments = [] := by
  apply List.eq_nil_iff_forall_not_mem.mpr
  intro document member
  rcases mem_pendingDocuments.mp member with ⟨uri, draft, found, pending, _⟩
  rw [find?_takeBatch, Option.map_eq_some_iff] at found
  rcases found with ⟨earlier, _, same⟩
  rw [← same] at pending
  cases pending

/-- Without a pending draft the queue only comes to rest. -/
theorem takeBatch_state (nothing : queue.pendingDocuments = []) :
    queue.takeBatch.2.state = if queue.state = .waiting then .idle else queue.state := by
  simp only [takeBatch, nothing, List.isEmpty_nil, if_true]
  split <;> rfl

/-- A batch that is taken can be reported as written. -/
theorem finishSend?_isSome {batch : List Document} {taken : EditQueue}
    (took : queue.takeBatch = (some batch, taken)) : taken.finishSend?.isSome := by
  unfold takeBatch at took
  dsimp only at took
  split at took
  · cases took
  · cases took
    rfl

theorem hold_ne_sending (written : queue.state ≠ .sending) : queue.hold.state ≠ .sending := by
  unfold hold
  dsimp only
  split
  · simp
  · exact written

theorem hold_ne_start (begun : queue.state ≠ .start) : queue.hold.state ≠ .start := by
  unfold hold
  dsimp only
  split
  · simp
  · exact begun

/-! ## Edits and documents of the project -/

theorem noteEdit_state_ne_sending (queue : EditQueue) (now : Instant) :
    (queue.noteEdit now).state ≠ .sending := by
  unfold noteEdit
  split <;> simp

/-- All edits but the first of all start the quiet period. -/
theorem noteEdit_of_begun (begun : queue.state ≠ .start) (now : Instant) :
    (queue.noteEdit now).state = .waiting ∧
      (queue.noteEdit now).deadline = some (now + queue.quietPeriod) := by
  unfold noteEdit
  split
  next start => exact absurd start begun
  next => exact ⟨rfl, rfl⟩

theorem edit_ne_refused (settled : queue.state ≠ .sending) (document : Document)
    (version : Option Int) (now : Instant) :
    (queue.edit document version now).2 ≠ .refused := by
  unfold edit
  rw [if_neg settled]
  cases version with
  | none => simp
  | some given =>
      dsimp only
      split <;> simp

/-- An edit that is stored moves the quiet period and nothing else but its draft. -/
theorem edit_notes {document : Document} {version : Option Int} {now : Instant}
    (stored : (queue.edit document version now).2 = .stored) :
    (queue.edit document version now).1.state = (queue.noteEdit now).state ∧
      (queue.edit document version now).1.deadline = (queue.noteEdit now).deadline := by
  unfold edit at stored ⊢
  by_cases sending : queue.state = .sending
  · rw [if_pos sending] at stored
    cases stored
  · rw [if_neg sending] at stored ⊢
    cases version with
    | none => exact ⟨rfl, rfl⟩
    | some given =>
        by_cases known : queue.repeats document given = true
        · simp only [known, if_true] at stored
          cases stored
        · simp only [known]
          exact ⟨rfl, rfl⟩

theorem edit_pendingDocuments {document : Document} {version : Option Int} {now : Instant}
    (stored : (queue.edit document version now).2 = .stored) :
    (queue.edit document version now).1.pendingDocuments ≠ [] := by
  rcases edit_cases queue document version now with ⟨_, given, found⟩ | ⟨repeated, _⟩ | refused
  · apply pendingDocuments_ne_nil.mpr
    exact ⟨document.uri, ⟨document, given, true⟩, by rw [found, if_pos rfl], rfl⟩
  · rw [repeated] at stored
    cases stored
  · rw [refused] at stored
    cases stored

theorem seed_state (queue : EditQueue) (documents : List Document) :
    (queue.seed documents).state = if queue.state = .start then .idle else queue.state := by
  have along : forall (documents : List Document) (queue : EditQueue),
      (documents.foldl seedOne queue).state = queue.state := by
    intro documents
    induction documents with
    | nil => exact fun _ => rfl
    | cons document rest inductionHypothesis =>
        intro queue
        rw [List.foldl_cons, inductionHypothesis, seedOne]
        split <;> rfl
  unfold seed
  simp only [along]
  split
  · rfl
  · exact along documents queue

end EditQueue

namespace Pipeline

/-- The quiet period runs exactly while drafts are pending that can be sent.  No batch is left half
written, and a compiler that takes edits is not the first to hear of a document. -/
structure Timed (pipeline : Pipeline) : Prop where
  written : pipeline.edits.state ≠ .sending
  begun : pipeline.Taking -> pipeline.edits.state ≠ .start
  due : pipeline.editDeadline.isSome ↔
    pipeline.canSend = true ∧ pipeline.edits.pendingDocuments ≠ []

namespace Timed

variable {before after : Pipeline}

theorem leaves (timed : before.Timed) (edits : after.edits = before.edits)
    (phase : after.phase = before.phase) (attached : after.attached = before.attached) :
    after.Timed := by
  refine ⟨?_, ?_, ?_⟩
  · rw [edits]
    exact timed.written
  · rw [Taking, phase, edits]
    exact timed.begun
  · rw [editDeadline, canSend, phase, attached, edits]
    exact timed.due

/-- No deadline is needed while no compiler takes edits. -/
theorem of_idle (idle : ¬after.Taking) (written : after.edits.state ≠ .sending)
    (deadline : after.edits.deadline = none) : after.Timed := by
  refine ⟨written, fun taking => absurd taking idle, ?_⟩
  rw [editDeadline, deadline]
  constructor
  · intro running
    cases running
  · rintro ⟨sendable, _⟩
    exact absurd (canSend_iff.mp sendable).2 idle

/-- Nothing is due while nothing can be sent. -/
theorem deadline_eq_none (timed : before.Timed) (idle : ¬before.canSend = true) :
    before.edits.deadline = none := by
  apply Option.not_isSome_iff_eq_none.mp
  intro running
  exact idle (timed.due.mp running).1

/-- Between phases in which no compiler takes edits the queue is not touched. -/
theorem idle (timed : before.Timed) (edits : after.edits = before.edits)
    (idleBefore : ¬before.Taking) (idleAfter : ¬after.Taking) : after.Timed := by
  apply of_idle idleAfter
  · rw [edits]
    exact timed.written
  · rw [edits]
    exact timed.deadline_eq_none (fun sendable => idleBefore (canSend_iff.mp sendable).2)

/-- Edits that cannot be sent are held. -/
theorem holdEdits (written : before.edits.state ≠ .sending)
    (begun : before.Taking -> before.edits.state ≠ .start) (idle : ¬before.canSend = true) :
    before.holdEdits.Timed := by
  refine ⟨EditQueue.hold_ne_sending written,
    fun taking => EditQueue.hold_ne_start (begun taking), ?_⟩
  constructor
  · intro running
    cases running
  · rintro ⟨sendable, _⟩
    exact absurd sendable idle

/-! ## Batches -/

/-- Sending a batch ends the quiet period, whatever it was before. -/
theorem sendBatch (written : before.edits.state ≠ .sending) (begun : before.edits.state ≠ .start)
    (now : Instant) : (before.sendBatch now).Timed := by
  have taken : forall state : QueueState, state ≠ .sending -> state ≠ .start ->
      forall after : Pipeline, after.edits.state = state ->
        after.edits.deadline = before.edits.takeBatch.2.deadline ->
        after.edits.drafts = before.edits.takeBatch.2.drafts -> after.Timed := by
    intro state notSending notStart after same deadline drafts
    have nothing : after.edits.pendingDocuments = [] := by
      rw [EditQueue.pendingDocuments, drafts]
      exact EditQueue.takeBatch_pendingDocuments before.edits
    refine ⟨by rw [same]; exact notSending, fun _ => by rw [same]; exact notStart, ?_⟩
    rw [editDeadline, deadline, EditQueue.takeBatch_deadline, nothing]
    simp
  by_cases nothing : before.edits.pendingDocuments = []
  · rw [sendBatch_of_nothing nothing]
    have rested := EditQueue.takeBatch_state nothing
    refine taken _ ?_ ?_ _ rested rfl rfl
    · split
      · simp
      · exact written
    · split
      · simp
      · exact begun
  · rw [sendBatch_of_pending nothing]
    exact taken .idle (by simp) (by simp) _ rfl rfl rfl

theorem flush (timed : before.Timed) (now : Instant) : (before.flush now).Timed := by
  unfold Pipeline.flush
  split
  next sendable => exact sendBatch timed.written (timed.begun (canSend_iff.mp sendable).2) now
  next idle => exact holdEdits timed.written timed.begun idle

/-! ## Edits -/

/-- An edit that is stored starts the quiet period if it can be sent, and is held otherwise. -/
theorem edit (timed : before.Timed) (document : Document) (version : Option Int)
    (now : Instant) : (before.edit document version now).1.Timed := by
  have queued := EditQueue.edit_ne_refused timed.written document version now
  unfold Pipeline.edit
  split
  next edits stored =>
    have verdict : (before.edits.edit document version now).2 = .stored := by rw [stored]
    have noted := EditQueue.edit_notes verdict
    have pending := EditQueue.edit_pendingDocuments verdict
    have written := EditQueue.noteEdit_state_ne_sending before.edits now
    rw [stored] at noted pending
    rw [← noted.1] at written
    dsimp only at noted pending written ⊢
    split
    next sendable =>
      have started := EditQueue.noteEdit_of_begun
        (timed.begun (canSend_iff.mp sendable).2) now
      rw [← noted.1, ← noted.2] at started
      refine ⟨written, fun _ => by rw [started.1]; simp, ?_⟩
      rw [editDeadline, started.2]
      exact ⟨fun _ => ⟨sendable, pending⟩, fun _ => rfl⟩
    next idle =>
      apply holdEdits written _ idle
      intro taking
      have started := EditQueue.noteEdit_of_begun (timed.begun taking) now
      rw [← noted.1] at started
      rw [started.1]
      simp
  next edits repeated =>
    have same : edits = before.edits := by
      rcases EditQueue.edit_cases before.edits document version now with
        ⟨stored, _⟩ | ⟨unchanged, _⟩ | refused
      · rw [repeated] at stored
        cases stored
      · rw [repeated, Prod.mk.injEq] at unchanged
        exact unchanged.1
      · rw [repeated] at refused
        cases refused
    exact timed.leaves same rfl rfl
  next edits refused =>
    rw [refused] at queued
    exact absurd rfl queued

theorem write (timed : before.Timed) (text : String) : (before.write text).Timed := by
  rw [write_eq]
  exact timed.leaves rfl rfl rfl

theorem submit (timed : before.Timed) {id : RequestId} {query : Wire.Query} {now : Instant}
    (submitted : before.submit? id query now = some after) : after.Timed := by
  unfold submit? at submitted
  split at submitted
  · cases submitted
    exact timed.leaves rfl rfl rfl
  split at submitted
  · have ready : (if needsLatestText query.kind then before.flush now else before).Timed := by
      split
      · exact timed.flush now
      · exact timed
    cases encoded : query.encode? with
    | none => simp [encoded] at submitted
    | some text =>
        simp only [encoded, Option.some.injEq] at submitted
        subst after
        exact (ready.write text).leaves rfl rfl rfl
  · cases submitted
    exact timed.leaves rfl rfl rfl

theorem operate (timed : before.Timed) {operation : Operation} (timely : operation.Timely before)
    (applied : before.operate? operation = some after) : after.Timed := by
  cases operation with
  | starting => cases applied; exact timed.idle rfl timely.not_taking nofun
  | attach now =>
      cases applied
      exact timed.idle rfl (fun taking => taking.not_starting timely) nofun
  | block => cases applied; exact of_idle nofun (EditQueue.hold_ne_sending timed.written) rfl
  | spawnFailed reason =>
      cases applied
      exact of_idle nofun (EditQueue.hold_ne_sending timed.written) rfl
  | stopped => cases applied; exact of_idle nofun nofun rfl
  | recover status => cases applied; exact of_idle nofun nofun rfl
  | watchdogExpired => cases applied; exact of_idle nofun nofun rfl
  | load documents now =>
      cases applied
      rw [load_of_idle timely]
      exact timed.leaves rfl rfl rfl
  | edit document version now => cases applied; exact timed.edit document version now
  | flush now => cases applied; exact timed.flush now
  | submit id query now => exact timed.submit applied
  | requestRestart =>
      cases applied
      unfold Pipeline.requestRestart
      split
      · exact timed.write _
      · exact timed
  | applyTiming timing => cases applied; exact ⟨timed.written, timed.begun, timed.due⟩
  | chunk bytes now => cases timely

theorem lasting : Lasting Timed where
  operate := fun _ timed timely applied => timed.operate timely applied
  perform := fun _ timed => timed.leaves rfl rfl rfl
  dismiss := fun timed => timed.leaves rfl rfl rfl

/-! ## Output of the compiler -/

theorem progress (timed : before.Timed) (now : Instant) : (before.progress now).Timed := by
  unfold Pipeline.progress
  split <;> exact timed.leaves rfl rfl rfl

/-- A compiler that listens is sent everything that is pending. -/
theorem listen (written : before.edits.state ≠ .sending) (now : Instant) :
    (before.listen now).Timed := by
  have seeded := EditQueue.seed_state before.edits before.reload
  rw [listen_eq]
  apply progress
  apply sendBatch
  · change (before.edits.seed before.reload).state ≠ .sending
    rw [seeded]
    split
    · simp
    · exact written
  · change (before.edits.seed before.reload).state ≠ .start
    rw [seeded]
    split
    · simp
    next begun => exact begun

theorem analysed (timed : before.Timed) (taking : before.Taking) (now : Instant) :
    (before.analysed now).Timed := by
  rw [analysed_eq]
  apply progress
  have takes : before.conclude.Taking := Or.inr rfl
  refine ⟨timed.written, fun _ => timed.begun taking, ?_⟩
  have sendable : before.conclude.canSend = before.canSend := by
    rw [Bool.eq_iff_iff, canSend_iff, canSend_iff]
    exact ⟨fun contact => ⟨contact.1, taking⟩, fun contact => ⟨contact.1, takes⟩⟩
  rw [sendable]
  exact timed.due

theorem respond (timed : before.Timed) (kind : RequestKind) (lines : List String)
    (now : Instant) : (before.respond kind lines now).Timed := by
  unfold Pipeline.respond
  split
  · apply progress
    exact timed.leaves rfl rfl rfl
  · exact timed

theorem handleSegment (timed : before.Timed) (segment : Except Wire.FrameFault Wire.Frame)
    (greeted : Wire.concludes segment = true -> before.Taking) (now : Instant) :
    (before.handleSegment now segment).Timed := by
  cases segment with
  | error fault =>
      apply progress
      exact timed.leaves rfl rfl rfl
  | ok frame =>
      apply handleFrame_cases (motive := Timed)
      case ignored => exact fun _ => timed
      case listen => exact fun _ => listen timed.written now
      case report => exact fun _ _ => timed.leaves rfl rfl rfl
      case analysed =>
        exact fun concluded => timed.analysed (greeted (decide_eq_true concluded)) now
      case raised =>
        intro _
        apply progress
        exact timed.leaves rfl rfl rfl
      case restarted =>
        intro _
        apply listen
        exact nofun
      case respond => exact fun kind _ => timed.respond kind frame.lines now

/-- No edit is refused. -/
theorem edit_accepted (timed : before.Timed) (document : Document) (version : Option Int)
    (now : Instant) : (before.edit document version now).2 = none := by
  have queued := EditQueue.edit_ne_refused timed.written document version now
  unfold Pipeline.edit
  split
  next => rfl
  next => rfl
  next edits refused =>
    rw [refused] at queued
    exact absurd rfl queued

/-- When the quiet period is over, the pending drafts go out as one batch. -/
theorem flush_of_due (timed : before.Timed) (running : before.editDeadline.isSome = true)
    (now : Instant) :
    Speaks before [Wire.editText before.edits.pendingDocuments] (before.flush now) ∧
      (before.flush now).editDeadline = none ∧
      (before.flush now).edits.pendingDocuments = [] := by
  rcases timed.due.mp running with ⟨sendable, pending⟩
  have spoken := sendBatch_speaks (canSend_iff.mp sendable).1 now
  rw [if_neg pending] at spoken
  have sent : (before.sendBatch now).edits.pendingDocuments = [] := by
    rw [EditQueue.pendingDocuments, sendBatch_drafts]
    exact EditQueue.takeBatch_pendingDocuments before.edits
  rw [Pipeline.flush, if_pos sendable]
  refine ⟨spoken, ?_, sent⟩
  rw [sendBatch_of_pending pending]
  exact EditQueue.takeBatch_deadline before.edits

end Timed
end Pipeline

namespace World

variable {world : World}

/-- In a session whose compilers greet, the quiet period runs exactly while drafts are pending that
can be sent. -/
theorem timed_run {plan : Plan} {course : List (Circumstances × Happening)}
    (ran : (World.new plan).run? course = some world) (greeted : world.Greeted) :
    world.supervisor.pipeline.Timed := by
  refine (run?_orderly (motive := fun _ world => world.Greeted ->
    world.supervisor.pipeline.Timed) ?_ ?_ ran).1 greeted
  · exact fun _ => Pipeline.Timed.of_idle nofun nofun rfl
  · intro _ world next around happening held orderly taken greetedNext
    have greeted : world.Greeted := greetedNext.of_take taken
    have timed := held greeted
    refine take?_lasting Pipeline.Timed.lasting timed orderly ?_ taken
    intro generation chunk rest signals orderly live
    refine greeted.handleChunk (motive := Pipeline.Timed) orderly signals live ?_ ?_
    · exact timed.leaves rfl rfl rfl
    · exact fun pipeline segment held _ taking => held.handleSegment segment taking around.now

/-- No edit is stuck, and no timer is astray.  At every point of a session no batch is half written:
every edit is accepted, and a batch that is taken can be reported as written.  The quiet period runs
exactly while a draft is pending that can be sent.  So the timer goes off only for edits that can be
sent, and it can go off when it is due; then all pending drafts go out in one batch. -/
theorem edits_due_iff_sendable {plan : Plan} {course : List (Circumstances × Happening)}
    (ran : (World.new plan).run? course = some world) (greeted : world.Greeted) :
    world.supervisor.pipeline.edits.state ≠ .sending ∧
    (forall document version now,
      (world.supervisor.pipeline.edit document version now).2 = none) ∧
    (forall (queue taken : EditQueue) (batch : List Document),
      queue.takeBatch = (some batch, taken) -> taken.finishSend?.isSome) ∧
    (world.supervisor.pipeline.editDeadline.isSome ↔
      (world.supervisor.pipeline.attached = true ∧
        (world.supervisor.pipeline.phase = .listening ∨
          world.supervisor.pipeline.phase = .analysed)) ∧
      exists uri draft, world.supervisor.pipeline.edits.drafts.find? uri = some draft ∧
        draft.pending = true) ∧
    (forall around next, world.take? around .editTimer = some next ->
      world.supervisor.pipeline.canSend = true ∧
        world.supervisor.pipeline.edits.pendingDocuments ≠ []) ∧
    (world.supervisor.ended = false -> forall around : Circumstances,
      isDue world.supervisor.pipeline.editDeadline around.now = true ->
        exists next, world.take? around .editTimer = some next ∧
          Effect.told next.supervisor.outbox = Effect.told world.supervisor.outbox ++
            [Wire.editText world.supervisor.pipeline.edits.pendingDocuments] ∧
          (forall uri draft, world.supervisor.pipeline.edits.drafts.find? uri = some draft ->
            draft.pending = true ->
              draft.document ∈ world.supervisor.pipeline.edits.pendingDocuments) ∧
          next.supervisor.pipeline.editDeadline = none ∧
          next.supervisor.pipeline.edits.pendingDocuments = []) := by
  have timed := timed_run ran greeted
  have running : forall now, isDue world.supervisor.pipeline.editDeadline now = true ->
      world.supervisor.pipeline.editDeadline.isSome = true := by
    intro now due
    rcases isDue_iff.mp due with ⟨deadline, same, _⟩
    rw [same]
    rfl
  refine ⟨timed.written, timed.edit_accepted, fun _ _ _ took => EditQueue.finishSend?_isSome took,
    ?_, ?_, ?_⟩
  · rw [timed.due, Pipeline.canSend_iff, EditQueue.pendingDocuments_ne_nil]
    exact Iff.rfl
  · intro around next taken
    rw [take?, Option.ite_none_right_eq_some] at taken
    exact timed.due.mp (running around.now taken.1)
  · intro going around due
    rcases timed.flush_of_due (running around.now due) around.now with ⟨spoken, ended, sent⟩
    have turned : (world.react around .editTimer).supervisor.pipeline =
        world.supervisor.pipeline.flush around.now := by
      rw [react, adopt_supervisor, Supervisor.step, if_neg (Bool.eq_false_iff.mp going)]
    refine ⟨world.react around .editTimer, by rw [take?, if_pos due], ?_, ?_, ?_, ?_⟩
    · rw [Supervisor.outbox, turned]
      exact spoken.told
    · exact fun uri draft found pending =>
        EditQueue.mem_pendingDocuments.mpr ⟨uri, draft, found, pending, rfl⟩
    · rw [turned]
      exact ended
    · rw [turned]
      exact sent

/-- A document is edited after the compiler was sent it. -/
def editWhileListening : List (Circumstances × Happening) :=
  let around : Circumstances := ⟨0, fun _ => .ok (), "killed"⟩
  [(around, .order (.start [⟨"file:///a", "old"⟩])),
    (around, .print 1 (Text.Utf8.bytesOf "LISTEN\n\x0c")), (around, .hear),
    (around, .order (.edit ⟨"file:///a", "new"⟩ (some 1)))]

/-- The session in which the edit waits for the end of the quiet period. -/
def settling : World :=
  ((World.new ⟨CompilerPlan.default, [], Timing.default⟩).run? editWhileListening).get
    (by decide +kernel)

theorem settling_edit_delivered : settling.Greeted ∧
    settling.supervisor.pipeline.editDeadline.isSome = true ∧
    exists next, settling.take? ⟨Span.ofSeconds 1, fun _ => .ok (), "killed"⟩ .editTimer =
        some next ∧
      Effect.told next.supervisor.outbox = Effect.told settling.supervisor.outbox ++
        [Wire.editText [⟨"file:///a", "new"⟩]] ∧
      next.supervisor.pipeline.editDeadline = none := by
  have ran : (World.new ⟨CompilerPlan.default, [], Timing.default⟩).run? editWhileListening =
      some settling :=
    (Option.some_get _).symm
  have greeted : settling.Greeted := by decide +kernel
  have pending : settling.supervisor.pipeline.edits.pendingDocuments =
      [⟨"file:///a", "new"⟩] := by decide +kernel
  rcases edits_due_iff_sendable ran greeted with ⟨_, _, _, running, _, delivered⟩
  rcases delivered (by decide +kernel) ⟨Span.ofSeconds 1, fun _ => .ok (), "killed"⟩
    (by decide +kernel) with ⟨next, taken, told, _, ended, _⟩
  rw [pending] at told
  refine ⟨greeted, running.mpr ⟨by decide +kernel, "file:///a",
    ⟨⟨"file:///a", "new"⟩, 1, true⟩, by decide +kernel, rfl⟩, next, taken, told, ended⟩

end World
end Session
end LanguageServer
