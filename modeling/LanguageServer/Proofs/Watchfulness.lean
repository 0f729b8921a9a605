import LanguageServer.Proofs.Operations

namespace LanguageServer
namespace Session

/-!
# The watchdog watches while something is expected

Two things are expected of a compiler: the answers to the requests that wait, and an analysis for
every batch that was sent.  As long as one of them is outstanding the watchdog runs, whatever was
done to the pipeline and in whatever order.  Conversely it runs for nothing else, but for the time
in which a compiler is starting and has yet to say that it listens.

Operations fall into four kinds.  Some touch neither the watchdog nor what is expected.  Some end
all work and stop the watchdog.  Sending a batch and making a request add work and start the
watchdog unless it is running.  And what the compiler says ends with `progress`, which decides
afresh, so that nothing has to be known about the pipeline before it.
-/

theorem Watchdog.armIfIdle_isSome (watchdog : Watchdog) (now : Instant) :
    (watchdog.armIfIdle now).deadline.isSome := by
  unfold armIfIdle
  split
  · rfl
  next running =>
    rw [Option.isNone_iff_eq_none] at running
    exact Option.isSome_iff_ne_none.mpr running

namespace Pipeline

/-- An answer or an analysis is outstanding. -/
def Expecting (pipeline : Pipeline) : Prop :=
  0 < pipeline.waiting.count ∨ 0 < pipeline.analysesPending

structure Watched (pipeline : Pipeline) : Prop where
  covered : pipeline.Expecting -> pipeline.watchdogDeadline.isSome
  needed : pipeline.watchdogDeadline.isSome -> pipeline.Expecting ∨ pipeline.phase = .starting

variable {before after : Pipeline}

/-! ## Four kinds of operations -/

/-- Neither the watchdog nor what is expected changes, and no compiler leaves its start. -/
structure LeavesWatch (before after : Pipeline) : Prop where
  waiting : after.waiting = before.waiting
  analyses : after.analysesPending = before.analysesPending
  deadline : after.watchdogDeadline = before.watchdogDeadline
  phase : after.phase = before.phase ∨ after.phase = .starting

theorem Watched.leaves (watched : before.Watched) (left : LeavesWatch before after) :
    after.Watched := by
  have expecting : after.Expecting ↔ before.Expecting := by
    rw [Expecting, left.waiting, left.analyses]
    rfl
  constructor
  · intro expected
    rw [left.deadline]
    exact watched.covered (expecting.mp expected)
  · intro armed
    rw [left.deadline] at armed
    rcases watched.needed armed with expected | starting
    · exact Or.inl (expecting.mpr expected)
    · rcases left.phase with same | startingNow
      · exact Or.inr (same.trans starting)
      · exact Or.inr startingNow

/-- Nothing is expected, and nobody watches. -/
structure Unburdened (pipeline : Pipeline) : Prop where
  waiting : pipeline.waiting = Waiting.empty
  analyses : pipeline.analysesPending = 0
  deadline : pipeline.watchdogDeadline = none

theorem Unburdened.watched (free : after.Unburdened) : after.Watched := by
  constructor
  · rintro (waits | analysed)
    · rw [free.waiting] at waits
      exact absurd waits (Nat.lt_irrefl 0)
    · rw [free.analyses] at analysed
      exact absurd analysed (Nat.lt_irrefl 0)
  · intro armed
    rw [free.deadline] at armed
    cases armed

/-- Work is outstanding, and the watchdog runs. -/
theorem Watched.of_busy (expected : after.Expecting) (armed : after.watchdogDeadline.isSome) :
    after.Watched :=
  ⟨fun _ => armed, fun _ => Or.inl expected⟩

theorem progress_watched (pipeline : Pipeline) (now : Instant) :
    (pipeline.progress now).Watched := by
  unfold progress
  split
  next busy =>
    have expected : pipeline.Expecting := by
      rw [Bool.or_eq_true, decide_eq_true_iff, decide_eq_true_iff] at busy
      exact busy.symm
    exact Watched.of_busy expected rfl
  next idle =>
    refine ⟨fun expected => absurd expected ?_, nofun⟩
    rintro (waits | analysed)
    · exact idle (by simpa using Or.inr waits)
    · exact idle (by simpa using Or.inl analysed)

/-! ## Operations of the editor's side -/

theorem Watched.sendBatch (watched : before.Watched) (now : Instant) :
    (before.sendBatch now).Watched := by
  by_cases nothing : before.edits.pendingDocuments = []
  · rw [sendBatch_of_nothing nothing]
    exact watched.leaves ⟨rfl, rfl, rfl, Or.inl rfl⟩
  · rw [sendBatch_of_pending nothing]
    exact Watched.of_busy (Or.inr (Nat.succ_pos _)) (Watchdog.armIfIdle_isSome _ now)

theorem Watched.load (watched : before.Watched) (documents : List Document) (now : Instant) :
    (before.load documents now).Watched := by
  unfold Pipeline.load
  split
  · have seeded : Watched { before with edits := before.edits.seed documents } :=
      watched.leaves ⟨rfl, rfl, rfl, Or.inl rfl⟩
    exact seeded.sendBatch now
  · exact watched.leaves ⟨rfl, rfl, rfl, Or.inl rfl⟩

theorem Watched.edit (watched : before.Watched) (document : Document) (version : Option Int)
    (now : Instant) : (before.edit document version now).1.Watched := by
  rcases edit_files before document version now with ⟨edits, filed, _⟩
  rw [filed]
  exact watched.leaves ⟨rfl, rfl, rfl, Or.inl rfl⟩

theorem Watched.flush (watched : before.Watched) (now : Instant) : (before.flush now).Watched := by
  unfold Pipeline.flush
  split
  · exact watched.sendBatch now
  · exact watched.leaves ⟨rfl, rfl, rfl, Or.inl rfl⟩

theorem Watched.write (watched : before.Watched) (text : String) : (before.write text).Watched := by
  rw [write_eq]
  exact watched.leaves ⟨rfl, rfl, rfl, Or.inl rfl⟩

theorem Watched.requestRestart (watched : before.Watched) : before.requestRestart.Watched := by
  unfold Pipeline.requestRestart
  split
  · exact watched.write _
  · exact watched

theorem Watched.submit (watched : before.Watched) {id : RequestId} {query : Wire.Query}
    {now : Instant} (submitted : before.submit? id query now = some after) : after.Watched := by
  have settled : forall outcome, Watched (before.perform [.settle ⟨id, outcome⟩]) :=
    fun _ => watched.leaves ⟨rfl, rfl, rfl, Or.inl rfl⟩
  unfold submit? at submitted
  split at submitted
  · cases submitted
    exact settled _
  split at submitted
  · cases encoded : query.encode? with
    | none => simp [encoded] at submitted
    | some text =>
        simp only [encoded, Option.some.injEq] at submitted
        subst after
        have waits : forall waiting : Waiting, 0 < (waiting.expect query.kind id).count := by
          intro waiting
          simp [Waiting.expect, Waiting.count]
        exact Watched.of_busy (Or.inl (waits _)) (Watchdog.armIfIdle_isSome _ now)
  · cases submitted
    exact settled _

/-! ## Output of the compiler -/

theorem Watched.respond (watched : before.Watched) (kind : RequestKind) (lines : List String)
    (now : Instant) : (before.respond kind lines now).Watched := by
  unfold Pipeline.respond
  split
  · exact progress_watched _ now
  · exact watched

theorem Watched.handleFrame (watched : before.Watched) (frame : Wire.Frame) (now : Instant) :
    (before.handleFrame frame now).Watched := by
  apply handleFrame_cases (motive := Watched)
  case ignored => exact fun _ => watched
  case listen => exact fun _ => progress_watched _ now
  case report => exact fun _ _ => watched.leaves ⟨rfl, rfl, rfl, Or.inl rfl⟩
  case analysed => exact fun _ => progress_watched _ now
  case raised => exact fun _ => progress_watched _ now
  case restarted => exact fun _ => progress_watched _ now
  case respond => exact fun kind _ => watched.respond kind frame.lines now

theorem Watched.handleSegment (watched : before.Watched) (now : Instant)
    (received : Except Wire.FrameFault Wire.Frame) :
    (before.handleSegment now received).Watched := by
  cases received with
  | ok frame => exact watched.handleFrame frame now
  | error fault => exact progress_watched _ now

/-! ## Every run -/

theorem Watched.operate (watched : before.Watched) {operation : Operation}
    (applied : before.operate? operation = some after) : after.Watched := by
  cases operation with
  | starting => cases applied; exact watched.leaves ⟨rfl, rfl, rfl, Or.inr rfl⟩
  | attach now =>
      cases applied
      -- The countdown starts again, and the phase says why.
      exact ⟨fun _ => rfl, fun _ => Or.inr rfl⟩
  | block => cases applied; exact Unburdened.watched ⟨rfl, rfl, rfl⟩
  | spawnFailed reason => cases applied; exact Unburdened.watched ⟨rfl, rfl, rfl⟩
  | stopped => cases applied; exact Unburdened.watched ⟨rfl, rfl, rfl⟩
  | recover status => cases applied; exact Unburdened.watched ⟨rfl, rfl, rfl⟩
  | load documents now => cases applied; exact watched.load documents now
  | edit document version now => cases applied; exact watched.edit document version now
  | flush now => cases applied; exact watched.flush now
  | submit id query now => exact watched.submit applied
  | requestRestart => cases applied; exact watched.requestRestart
  | chunk bytes now =>
      cases applied
      refine handleChunk_induction ?_ ?_ watched bytes
      · exact fun _ _ held => held.leaves ⟨rfl, rfl, rfl, Or.inl rfl⟩
      · exact fun _ received held => held.handleSegment now received
  | watchdogExpired => cases applied; exact Unburdened.watched ⟨rfl, rfl, rfl⟩
  | applyTiming timing => cases applied; exact watched.leaves ⟨rfl, rfl, rfl, Or.inl rfl⟩

theorem Watched.run {timing : Timing} {operations : List Operation} {last : Pipeline}
    (ran : (Pipeline.new timing).run? operations = some last) : last.Watched :=
  run?_induction (motive := fun _ pipeline => pipeline.Watched)
    (Unburdened.watched ⟨rfl, rfl, rfl⟩)
    (fun _ _ _ _ watched applied => watched.operate applied) ran

/-- After operations in any order, the watchdog runs while a request waits or a batch has not been
analysed; and if it runs, one of these is so or a compiler is starting.  So once no compiler is
starting, it runs exactly while work is expected. -/
theorem watchdog_armed_iff_expecting {timing : Timing} {operations : List Operation}
    {last : Pipeline} (ran : (Pipeline.new timing).run? operations = some last) :
    (0 < last.waiting.count ∨ 0 < last.analysesPending -> last.watchdogDeadline.isSome) ∧
    (last.watchdogDeadline.isSome ->
      0 < last.waiting.count ∨ 0 < last.analysesPending ∨ last.phase = .starting) ∧
    (last.phase ≠ .starting ->
      (last.watchdogDeadline.isSome ↔ 0 < last.waiting.count ∨ 0 < last.analysesPending)) := by
  have watched := Watched.run ran
  refine ⟨watched.covered, fun armed => or_assoc.mp (watched.needed armed), ?_⟩
  intro started
  constructor
  · intro armed
    exact (watched.needed armed).resolve_right started
  · exact watched.covered

/-- Two batches overlap, and one of them is analysed. -/
def overlappingBatches : List Operation :=
  [.starting, .attach 0, .load [⟨"file:///a", "x"⟩] 0,
    .chunk (Text.Utf8.bytesOf "LISTEN\n\x0c") 1, .edit ⟨"file:///a", "y"⟩ (some 1) 2, .flush 3,
    .chunk (Text.Utf8.bytesOf "ANALYSED\n\x0c") 4]

theorem overlappingBatches_watched : exists last,
    (Pipeline.new Timing.default).run? overlappingBatches = some last ∧
    last.phase ≠ .starting ∧ last.waiting.count = 0 ∧ 0 < last.analysesPending ∧
    last.watchdogDeadline.isSome := by
  have ran : ((Pipeline.new Timing.default).run? overlappingBatches).any (fun last =>
      last.phase = .analysed ∧ last.waiting.count = 0 ∧ last.analysesPending = 1) = true := by
    decide +kernel
  rcases (Option.any_eq_true _ _).mp ran with ⟨last, reached, facts⟩
  rcases of_decide_eq_true facts with ⟨phase, idle, pending⟩
  have law := watchdog_armed_iff_expecting reached
  have expected : 0 < last.analysesPending := by
    rw [pending]
    exact Nat.one_pos
  refine ⟨last, reached, ?_, idle, expected, law.1 (Or.inr expected)⟩
  rw [phase]
  decide

end Pipeline
end Session
end LanguageServer
