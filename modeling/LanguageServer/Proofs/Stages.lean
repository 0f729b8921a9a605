import LanguageServer.Proofs.Operations

namespace LanguageServer
namespace Session

/-!
# The stages that are reported

The editor follows the life of the compiler through the stages that the pipeline reports.  Every
operation that begins or ends the life of a compiler reports exactly one stage, and no two of them
share it.  Output of the compiler brings only reports of its work, and every other operation is
silent.
-/

namespace Effect

/-- The stages that are reported among some effects, in order. -/
def stages (effects : List Effect) : List Lifecycle :=
  effects.filterMap (fun effect =>
    match effect with | .emit (.lifecycle stage) => some stage | _ => none)

@[simp] theorem stages_append (earlier later : List Effect) :
    stages (earlier ++ later) = stages earlier ++ stages later :=
  List.filterMap_append

@[simp] theorem stages_settle (settlements : List Settlement) :
    stages (settlements.map .settle) = [] := by
  simp [stages]

@[simp] theorem stages_kill (generations : List Nat) : stages (generations.map .kill) = [] := by
  simp [stages]

end Effect

/-- A stage in the work of a compiler, as against the beginning or the end of its life. -/
def Lifecycle.isReport : Lifecycle -> Bool
  | .listening | .analysed | .exception _ | .protocolError _ => true
  | .starting | .running | .killed | .crashed _ | .aborted _ | .blocked => false

/-- The stages that an operation may report. -/
def Operation.Reports : Operation -> List Lifecycle -> Prop
  | .starting, stages => stages = [.starting]
  | .attach _, stages => stages = [.running]
  | .block, stages => stages = [.blocked]
  | .spawnFailed reason, stages => stages = [.aborted reason]
  | .stopped, stages => stages = [.killed]
  | .recover status, stages => stages = [.crashed status]
  | .chunk .., stages => forall stage, stage ∈ stages -> stage.isReport = true
  | .watchdogExpired, stages => exists reason, stages = [.aborted reason]
  | .load .., stages | .edit .., stages | .flush _, stages | .submit .., stages
  | .requestRestart, stages | .applyTiming _, stages => stages = []

namespace Pipeline

/-- These stages are reported on the way from one pipeline to another. -/
def Announces (before : Pipeline) (stages : List Lifecycle) (after : Pipeline) : Prop :=
  Effect.stages after.outbox = Effect.stages before.outbox ++ stages

namespace Announces

theorem silent {before after : Pipeline} (same : after.outbox = before.outbox) :
    Announces before [] after := by
  rw [Announces, same, List.append_nil]

theorem trans {first second third : Pipeline} {earlier later : List Lifecycle}
    (one : Announces first earlier second) (two : Announces second later third) :
    Announces first (earlier ++ later) third := by
  rw [Announces] at one two ⊢
  rw [two, one, List.append_assoc]

end Announces

theorem perform_announces (pipeline : Pipeline) (effects : List Effect) :
    Announces pipeline (Effect.stages effects) (pipeline.perform effects) :=
  Effect.stages_append _ _

theorem emit_announces (pipeline : Pipeline) (stage : Lifecycle) :
    Announces pipeline [stage] (pipeline.emit stage) :=
  perform_announces pipeline _

theorem settle_announces (pipeline : Pipeline) (settlements : List Settlement) :
    Announces pipeline [] (pipeline.perform (settlements.map .settle)) := by
  have performed := perform_announces pipeline (settlements.map .settle)
  rw [Effect.stages_settle] at performed
  exact performed

theorem publish_announces (pipeline : Pipeline) (listing : List (String × List Diagnostic)) :
    Announces pipeline [] (pipeline.publish listing) := by
  have performed := perform_announces pipeline
    (listing.map (fun entry => .emit (.diagnostics entry.1 entry.2)))
  have quiet : Effect.stages
      (listing.map (fun entry => .emit (.diagnostics entry.1 entry.2))) = [] := by
    simp [Effect.stages]
  rw [quiet] at performed
  exact performed

theorem write_announces (pipeline : Pipeline) (text : String) :
    Announces pipeline [] (pipeline.write text) := by
  rw [write]
  split
  · exact perform_announces pipeline [.write text]
  · exact Announces.silent rfl

theorem progress_announces (pipeline : Pipeline) (now : Instant) :
    Announces pipeline [] (pipeline.progress now) := by
  rw [progress]
  split <;> exact Announces.silent rfl

theorem sendBatch_announces (pipeline : Pipeline) (now : Instant) :
    Announces pipeline [] (pipeline.sendBatch now) := by
  rw [sendBatch]
  split
  · exact Announces.silent rfl
  · exact write_announces _ _

theorem flush_announces (pipeline : Pipeline) (now : Instant) :
    Announces pipeline [] (pipeline.flush now) := by
  rw [flush]
  split
  · exact sendBatch_announces pipeline now
  · exact Announces.silent rfl

theorem submit_announces {before after : Pipeline} {id : RequestId} {query : Wire.Query}
    {now : Instant} (submitted : before.submit? id query now = some after) :
    Announces before [] after := by
  rw [submit?] at submitted
  split at submitted
  · cases submitted
    exact settle_announces before [_]
  split at submitted
  · have ready : Announces before []
        (if needsLatestText query.kind then before.flush now else before) := by
      split
      · exact flush_announces before now
      · exact Announces.silent rfl
    cases encoded : query.encode? with
    | none => simp [encoded] at submitted
    | some text =>
        simp only [encoded, Option.some.injEq] at submitted
        subst after
        exact ready.trans (write_announces _ text)
  · cases submitted
    exact settle_announces before [_]

theorem resetForReload_announces (pipeline : Pipeline) :
    Announces pipeline [] pipeline.resetForReload :=
  publish_announces { pipeline.keepForReload with problems := ProblemStore.empty } _

/-- What a stop and a crash have in common. -/
private theorem gone_announces (pipeline : Pipeline) (stage : Lifecycle) :
    Announces pipeline [stage]
      ({ pipeline.resolveAll.resetForReload.detach with phase := .stopped }.emit stage) :=
  ((settle_announces pipeline pipeline.waiting.emptied).trans
    (resetForReload_announces pipeline.resolveAll)).trans
      (emit_announces { pipeline.resolveAll.resetForReload.detach with phase := .stopped } stage)

/-! ## Output -/

theorem listen_announces (pipeline : Pipeline) (now : Instant) :
    Announces pipeline [.listening] (pipeline.listen now) :=
  ((emit_announces pipeline .listening).trans (sendBatch_announces pipeline.welcome now)).trans
    (progress_announces _ now)

theorem analysed_announces (pipeline : Pipeline) (now : Instant) :
    Announces pipeline [.analysed] (pipeline.analysed now) :=
  ((publish_announces { pipeline with
    phase := .analysed, analysesPending := pipeline.analysesPending - 1 } _).trans
      (emit_announces _ .analysed)).trans (progress_announces _ now)

theorem raised_announces (pipeline : Pipeline) (lines : List String) (now : Instant) :
    Announces pipeline [.exception (Text.join "\n" lines)] (pipeline.raised lines now) :=
  ((emit_announces pipeline _).trans (settle_announces _ _)).trans (progress_announces _ now)

theorem respond_announces (pipeline : Pipeline) (kind : RequestKind) (lines : List String)
    (now : Instant) : Announces pipeline [] (pipeline.respond kind lines now) := by
  rw [respond]
  split
  next settlement rest _ =>
    exact (settle_announces { pipeline with waiting := rest } [settlement]).trans
      (progress_announces _ now)
  next => exact Announces.silent rfl

theorem protocolError_announces (pipeline : Pipeline) (fault : Wire.FrameFault) (now : Instant) :
    Announces pipeline [.protocolError fault.message] (pipeline.protocolError fault now) :=
  ((settle_announces pipeline _).trans (emit_announces _ _)).trans (progress_announces _ now)

/-- Nothing but reports of the compiler's work lies between two pipelines. -/
def OnlyReports (before after : Pipeline) : Prop :=
  exists stages, Announces before stages after ∧
    forall stage, stage ∈ stages -> stage.isReport = true

theorem Announces.onlyReports {before after : Pipeline} {stages : List Lifecycle}
    (announced : Announces before stages after)
    (reports : forall stage, stage ∈ stages -> stage.isReport = true) :
    OnlyReports before after :=
  ⟨stages, announced, reports⟩

theorem OnlyReports.trans {first second third : Pipeline} (one : OnlyReports first second)
    (two : OnlyReports second third) : OnlyReports first third := by
  rcases one with ⟨earlier, announced, reports⟩
  rcases two with ⟨later, announcedNext, reportsNext⟩
  refine ⟨earlier ++ later, announced.trans announcedNext, ?_⟩
  intro stage member
  rcases List.mem_append.mp member with first | second
  · exact reports stage first
  · exact reportsNext stage second

theorem handleSegment_onlyReports (pipeline : Pipeline) (now : Instant)
    (segment : Except Wire.FrameFault Wire.Frame) :
    OnlyReports pipeline (pipeline.handleSegment now segment) := by
  cases segment with
  | error fault =>
      exact (protocolError_announces pipeline fault now).onlyReports (by simp [Lifecycle.isReport])
  | ok frame =>
      refine handleFrame_cases (motive := OnlyReports pipeline) ?_ ?_ ?_ ?_ ?_ ?_ ?_
      · exact fun _ => (Announces.silent rfl).onlyReports nofun
      · exact fun _ => (listen_announces pipeline now).onlyReports (by simp [Lifecycle.isReport])
      · exact fun _ _ => Announces.onlyReports (Announces.silent rfl) nofun
      · exact fun _ => (analysed_announces pipeline now).onlyReports (by simp [Lifecycle.isReport])
      · exact fun _ => (raised_announces pipeline frame.lines now).onlyReports
          (by simp [Lifecycle.isReport])
      · intro _
        have greeted := listen_announces { pipeline.resetForReload with analysesPending := 0 } now
        exact ((resetForReload_announces pipeline).trans greeted).onlyReports
          (by simp [Lifecycle.isReport])
      · exact fun kind _ => (respond_announces pipeline kind frame.lines now).onlyReports nofun

/-! ## The report of each operation -/

theorem operate?_announces {before after : Pipeline} {operation : Operation}
    (applied : before.operate? operation = some after) :
    exists stages, Announces before stages after ∧ operation.Reports stages := by
  cases operation with
  | submit id query now => exact ⟨[], submit_announces applied, rfl⟩
  | starting => cases applied; exact ⟨_, emit_announces before .starting, rfl⟩
  | attach now => cases applied; exact ⟨_, emit_announces before .running, rfl⟩
  | block =>
      cases applied
      exact ⟨_, (settle_announces before _).trans (emit_announces _ .blocked), rfl⟩
  | spawnFailed reason =>
      cases applied
      exact ⟨_, (settle_announces before _).trans (emit_announces _ (.aborted reason)), rfl⟩
  | stopped => cases applied; exact ⟨_, gone_announces before .killed, rfl⟩
  | recover status => cases applied; exact ⟨_, gone_announces before (.crashed status), rfl⟩
  | load documents now =>
      cases applied
      rw [load]
      split
      · have sent := sendBatch_announces { before with edits := before.edits.seed documents } now
        exact ⟨[], sent, rfl⟩
      · exact ⟨[], Announces.silent rfl, rfl⟩
  | edit document version now =>
      cases applied
      rcases edit_files before document version now with ⟨edits, filed, _⟩
      rw [filed]
      exact ⟨[], Announces.silent rfl, rfl⟩
  | flush now => cases applied; exact ⟨[], flush_announces before now, rfl⟩
  | requestRestart =>
      cases applied
      rw [requestRestart]
      split
      · exact ⟨[], write_announces before _, rfl⟩
      · exact ⟨[], Announces.silent rfl, rfl⟩
  | chunk bytes now =>
      cases applied
      refine handleChunk_induction (motive := OnlyReports before) ?_ ?_ ?_ bytes
      · exact fun _ _ reported => reported.trans ((Announces.silent rfl).onlyReports nofun)
      · exact fun pipeline segment reported =>
          reported.trans (handleSegment_onlyReports pipeline now segment)
      · exact (Announces.silent rfl).onlyReports nofun
  | watchdogExpired =>
      cases applied
      exact ⟨_, (settle_announces before _).trans (emit_announces _ _), _, rfl⟩
  | applyTiming timing => cases applied; exact ⟨[], Announces.silent rfl, rfl⟩

end Pipeline
end Session
end LanguageServer
