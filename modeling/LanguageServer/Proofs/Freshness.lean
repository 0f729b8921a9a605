import LanguageServer.Proofs.Provenance

namespace LanguageServer
namespace Session

/-!
# Requests that need the latest text

A completion, or help on a signature, is asked for while the editor is still typing, so the edit
that made the editor ask is often pending.  Before such a request is written, everything pending is
sent, and nothing is put away for another compiler while this one answers.  So what was written to
the process before the request brings every document that the session was given up to date, however
many compilers there were before this one.

As in the safekeeping of documents, each compiler has to say that it takes edits before it completes
its first analysis.
-/

/-- A document that was edited or loaded has a text. -/
theorem Intake.text?_isSome {intake : Intake} {document : Document}
    (member : document ∈ intake.accepted ++ intake.loaded) :
    (intake.text? document.uri).isSome := by
  rw [text?, Option.isSome_or, Bool.or_eq_true]
  rcases List.mem_append.mp member with edited | loaded
  · exact Or.inl (Document.latest?_isSome.mpr ⟨document, edited, rfl⟩)
  · exact Or.inr (Document.first?_isSome.mpr ⟨document, loaded, rfl⟩)

namespace Pipeline

variable {before after : Pipeline} {now : Instant}

theorem told_settle (pipeline : Pipeline) (settlement : Settlement) :
    Effect.told (pipeline.perform [.settle settlement]).outbox = Effect.told pipeline.outbox :=
  (settle_speaks pipeline [settlement]).told.trans (List.append_nil _)

/-- A batch leaves nothing pending and no deadline. -/
theorem flush_settles (sendable : before.canSend = true) (now : Instant) :
    (before.flush now).edits.pendingDocuments = [] ∧ (before.flush now).editDeadline = none ∧
      (before.flush now).reload = before.reload := by
  rw [flush, if_pos sendable]
  refine ⟨?_, ?_, sendBatch_reload before now⟩
  · rw [EditQueue.pendingDocuments, sendBatch_drafts]
    exact EditQueue.takeBatch_pendingDocuments _
  · by_cases nothing : before.edits.pendingDocuments = []
    · rw [sendBatch_of_nothing nothing]
      exact EditQueue.takeBatch_deadline _
    · rw [sendBatch_of_pending nothing]
      exact EditQueue.takeBatch_deadline _

/-- A request for which the latest text matters is settled at once, or written behind everything
that was pending. -/
theorem submit_writes {id : RequestId} {query : Wire.Query}
    (submitted : before.submit? id query now = some after)
    (urgent : needsLatestText query.kind = true) :
    Effect.told after.outbox = Effect.told before.outbox ∨
      before.canSend = true ∧ after.edits = (before.flush now).edits ∧
        exists text, query.encode? = some text ∧
          Effect.told after.outbox = Effect.told (before.flush now).outbox ++ [text] := by
  rw [submit?] at submitted
  split at submitted
  · cases submitted
    exact Or.inl (told_settle before _)
  split at submitted
  next ready =>
    cases encoded : query.encode? with
    | none => simp [encoded] at submitted
    | some text =>
        simp only [encoded, Option.some.injEq] at submitted
        subst after
        have attached : (before.flush now).attached = true :=
          (flush_attached before now).trans ready.2
        refine Or.inr ⟨canSend_iff.mpr ⟨ready.2, Or.inr ready.1⟩, ?_, text, rfl, ?_⟩
        · rw [write_eq]
          rfl
        · exact (write_speaks attached text).told
  · cases submitted
    exact Or.inl (told_settle before _)

end Pipeline

namespace World

variable {plan : Plan} {course : List (Circumstances × Happening)} {world next : World}
  {around : Circumstances}

/-- A request leads to a text for the compiler only if the pipeline takes it. -/
theorem take?_request {id : RequestId} {query : Wire.Query}
    (taken : world.take? around (.order (.request id query)) = some next)
    (written : Effect.told next.supervisor.outbox ≠ Effect.told world.supervisor.outbox) :
    exists after, world.supervisor.pipeline.submit? id query around.now = some after ∧
      next.supervisor = { world.supervisor with pipeline := after } := by
  have turned := take?_supervisor taken
  rw [input?] at turned
  change next.supervisor = world.supervisor.step _ _ (.order (.request id query)) at turned
  by_cases ended : world.supervisor.ended = true
  · rw [Supervisor.step, if_pos ended] at turned
    rw [turned] at written
    exact absurd (Pipeline.told_settle _ _) written
  · rw [Supervisor.step, if_neg ended, Supervisor.obey] at turned
    split at turned
    next after submitted => exact ⟨after, submitted, turned⟩
    next =>
      -- A session that breaks down kills and settles, and writes nothing.
      have dismissed : Effect.told world.supervisor.breakDown.outbox =
          Effect.told world.supervisor.outbox := by
        have told := (Pipeline.rejectAll_leavesDocuments
          world.supervisor.killCompiler.pipeline .closed).speech.told
        rw [List.append_nil] at told
        exact told.trans (Effect.told_append_kills _ _)
      rw [turned] at written
      exact absurd ((Pipeline.told_settle _ _).trans dismissed) written

/-- A completion, or help on a signature, that is written to a process stands behind the latest text
of every document that is known, and every document that the session was given is.  Nothing is
pending then, and no edit is due. -/
theorem latest_text_told_before_request (ran : (World.new plan).run? course = some world)
    (greeted : world.Greeted) {id : RequestId} {query : Wire.Query}
    (urgent : query.kind = .completion ∨ query.kind = .signatureHelp)
    (taken : world.take? around (.order (.request id query)) = some next)
    (written : Effect.told next.supervisor.outbox ≠ Effect.told world.supervisor.outbox) :
    exists (messages : List Wire.Message) (more : List String) (text : String),
      Effect.told next.supervisor.outbox = Effect.told world.supervisor.outbox ++ more ++ [text] ∧
      query.encode? = some text ∧
      messages.map Wire.Message.encode? =
        (Effect.told world.supervisor.outbox ++ more).map some ∧
      (forall document, document ∈ world.accepted ++ world.loaded ->
        (next.supervisor.pipeline.known? document.uri).isSome) ∧
      (forall uri current, next.supervisor.pipeline.known? uri = some current ->
        world.intake.text? uri = some current ∧
          Document.latest? uri (messages.flatMap Wire.Message.documents) = some current) ∧
      next.supervisor.pipeline.edits.pendingDocuments = [] ∧
      next.supervisor.pipeline.editDeadline = none := by
  rcases take?_request taken written with ⟨after, submitted, turned⟩
  have pipeline : next.supervisor.pipeline = after := by rw [turned]
  have outbox : next.supervisor.outbox = after.outbox := by rw [Supervisor.outbox, pipeline]
  rw [outbox] at written
  have needs : Pipeline.needsLatestText query.kind = true := by
    simpa [Pipeline.needsLatestText] using urgent
  rcases Pipeline.submit_writes submitted needs with unwritten | ⟨sendable, edits, text, encoded, told⟩
  · exact absurd unwritten written
  have secure : world.Secure := (Secure.new plan).run (fun _ => Orderly.new plan) greeted ran
  have served := (secure.served (Pipeline.canSend_iff.mp sendable).2).2
  rcases Pipeline.flush_settles sendable around.now with ⟨pending, deadline, reload⟩
  have sourced : Pipeline.Sourced world.intake (world.supervisor.pipeline.flush around.now) :=
    Pipeline.sourced_enduring.operate (.flush around.now) (sourced_run ran) trivial rfl
  rcases sourced.told (reload.trans served) pending with ⟨messages, conveyed, latest⟩
  rcases (Pipeline.flush_keepsContact world.supervisor.pipeline around.now).speech with
    ⟨more, spoken⟩
  have known : forall uri, next.supervisor.pipeline.known? uri = world.intake.text? uri := by
    intro uri
    rw [pipeline, Pipeline.known?_submit submitted, (sourced_run ran).known]
  refine ⟨messages, more, text, ?_, encoded, ?_, ?_, ?_, ?_, ?_⟩
  · rw [outbox, told, spoken.told]
    rfl
  · rw [conveyed, spoken.told]
    rfl
  · intro document member
    rw [known]
    exact Intake.text?_isSome member
  · intro uri current found
    rw [known] at found
    exact ⟨found, latest uri current found⟩
  · rw [pipeline, edits]
    exact pending
  · rw [pipeline, Pipeline.editDeadline, edits]
    exact deadline

/-- A project is analysed, then one of its files is edited. -/
def typed : World :=
  ((World.new ⟨CompilerPlan.default, [], Timing.default⟩).run?
    [(smoothly, .order (.start [⟨"file:///a", "old"⟩, ⟨"file:///b", "other"⟩])),
      (smoothly, .print 1 (Text.Utf8.bytesOf "LISTEN\n\x0cANALYSED\n\x0c")), (smoothly, .hear),
      (smoothly, .order (.edit ⟨"file:///a", "new"⟩ (some 1)))]).get (by decide +kernel)

/-- The editor asks for a completion before the edit is due. -/
def completing : World :=
  (typed.take? smoothly (.order (.request 7 (.completion ⟨"file:///a", ⟨0, 3⟩⟩)))).get
    (by decide +kernel)

theorem completing_told_edit : typed.supervisor.pipeline.edits.pendingDocuments ≠ [] ∧
    exists (messages : List Wire.Message) (more : List String) (text : String),
      Effect.told completing.supervisor.outbox =
        Effect.told typed.supervisor.outbox ++ more ++ [text] ∧
      messages.map Wire.Message.encode? =
        (Effect.told typed.supervisor.outbox ++ more).map some ∧
      Document.latest? "file:///a" (messages.flatMap Wire.Message.documents) = some "new" ∧
      Document.latest? "file:///b" (messages.flatMap Wire.Message.documents) = some "other" ∧
      completing.supervisor.pipeline.edits.pendingDocuments = [] ∧
      completing.supervisor.pipeline.editDeadline = none := by
  rcases latest_text_told_before_request (Option.some_get (by decide +kernel)).symm
    (show typed.Greeted by decide +kernel) (Or.inl rfl) (Option.some_get (by decide +kernel)).symm
    (show Effect.told completing.supervisor.outbox ≠ Effect.told typed.supervisor.outbox by
      decide +kernel) with ⟨messages, more, text, told, _, encoded, _, latest, pending, deadline⟩
  have edited := latest "file:///a" "new" (by decide +kernel)
  have loaded := latest "file:///b" "other" (by decide +kernel)
  exact ⟨by decide +kernel, messages, more, text, told, encoded, edited.2, loaded.2, pending,
    deadline⟩

end World
end Session
end LanguageServer
