import LanguageServer.Proofs.Problems
import LanguageServer.Proofs.Safekeeping
import LanguageServer.Proofs.Stages

namespace LanguageServer
namespace Session

/-!
# Problems, publications and batches

While the contact with a compiler lasts, four things can happen to the problem store and to what is
said about it, apart from reports of the compiler itself: nothing, or a batch goes out and clears
what it makes worthless, or everything that is listed is published, or everything is forgotten and
the editor is told so.  The first two come from orders of the editor and from output alike, the last
two from output only.

`KeptBySending` and `KeptByShowing` collect what has to be shown about each of them, and from these
follows what every single operation keeps.
-/

namespace ProblemStore

/-- A publication that takes back whatever was published for the documents of the store. -/
def retraction (store : ProblemStore) : List (String × List Diagnostic) :=
  store.uris.map (fun uri => (uri, []))

end ProblemStore

namespace Pipeline

/-- These texts are written and these diagnostics published, with no other stages than those in the
work of a compiler, and the contact stays as it is. -/
structure Utters (before : Pipeline) (texts : List String)
    (shown : List (String × List Diagnostic)) (after : Pipeline) : Prop where
  attached : after.attached = before.attached
  words : exists words, after.outbox = before.outbox ++ words ∧
    (forall word, word ∈ words -> word.isWord = true) ∧ Effect.texts words = texts ∧
    Effect.publications words = shown ∧
    forall stage, stage ∈ Effect.stages words -> stage.isReport = true

theorem Utters.silent {before after : Pipeline} (attached : after.attached = before.attached)
    (outbox : after.outbox = before.outbox) : Utters before [] [] after :=
  ⟨attached, [], by rw [outbox, List.append_nil], nofun, rfl, rfl, nofun⟩

theorem Utters.publications {before after : Pipeline} {texts : List String}
    {shown : List (String × List Diagnostic)} (uttered : Utters before texts shown after) :
    Effect.publications after.outbox = Effect.publications before.outbox ++ shown := by
  rcases uttered.words with ⟨words, outbox, _, _, published, _⟩
  rw [outbox, Effect.publications_append, published]

theorem emit_utters (pipeline : Pipeline) {stage : Lifecycle} (report : stage.isReport = true) :
    Utters pipeline [] [] (pipeline.emit stage) :=
  ⟨rfl, [.emit (.lifecycle stage)], rfl, by simp [Effect.isWord], rfl, rfl,
    by simpa [Effect.stages] using report⟩

theorem settle_utters (pipeline : Pipeline) (settlements : List Settlement) :
    Utters pipeline [] [] (pipeline.perform (settlements.map .settle)) :=
  ⟨rfl, settlements.map .settle, rfl, by simp [Effect.isWord], by simp [Effect.texts],
    by simp [Effect.publications], by simp⟩

theorem publish_utters (pipeline : Pipeline) (listing : List (String × List Diagnostic)) :
    Utters pipeline [] listing (pipeline.publish listing) := by
  refine ⟨rfl, _, rfl, ?_, by simp [Effect.texts], Effect.publications_listing listing,
    by simp [Effect.stages]⟩
  intro word member
  rcases List.mem_map.mp member with ⟨entry, _, same⟩
  rw [← same]
  rfl

theorem write_utters {pipeline : Pipeline} (attached : pipeline.attached = true) (text : String) :
    Utters pipeline [text] [] (pipeline.write text) := by
  rw [write, if_pos attached]
  refine ⟨rfl, [.write text], rfl, by simp [Effect.isWord], rfl, rfl, ?_⟩
  exact fun _ member => absurd member List.not_mem_nil

theorem resetForReload_utters (pipeline : Pipeline) :
    Utters pipeline [] pipeline.problems.retraction pipeline.resetForReload :=
  ⟨rfl, (publish_utters pipeline pipeline.problems.retraction).words⟩

theorem emit_publications (pipeline : Pipeline) (stage : Lifecycle) :
    Effect.publications (pipeline.emit stage).outbox = Effect.publications pipeline.outbox :=
  (Effect.publications_append _ _).trans (List.append_nil _)

/-- Settling requests and announcing a stage publishes nothing. -/
theorem dismissed_publications (pipeline : Pipeline) (settlements : List Settlement)
    (stage : Lifecycle) :
    Effect.publications ((pipeline.perform (settlements.map .settle)).emit stage).outbox =
      Effect.publications pipeline.outbox := by
  rw [emit_publications, (settle_utters pipeline settlements).publications, List.append_nil]

/-- The end of a compiler takes back everything that is listed. -/
theorem retired_publications (pipeline : Pipeline) (stage : Lifecycle) :
    Effect.publications (pipeline.resolveAll.resetForReload.emit stage).outbox =
      Effect.publications pipeline.outbox ++ pipeline.problems.retraction := by
  have settled : Effect.publications pipeline.resolveAll.outbox =
      Effect.publications pipeline.outbox ++ [] :=
    (settle_utters pipeline pipeline.waiting.emptied).publications
  rw [emit_publications, (resetForReload_utters _).publications, settled, List.append_nil]
  rfl

/-- What survives that nothing is shown, and that a batch goes out. -/
structure KeptBySending (motive : Pipeline -> Prop) : Prop where
  /-- No document is written, nothing is published, and the problems stay. -/
  quiet : forall {before after : Pipeline} {texts : List String}, motive before ->
    Utters before texts [] after -> Wire.Conveys texts [] ->
    after.problems = before.problems -> motive after
  /-- A batch goes out, if there is a compiler. -/
  sends : forall {before after : Pipeline} {batch : List Document}, motive before ->
    Utters before (if before.attached then [Wire.editText batch] else []) [] after -> batch ≠ [] ->
    after.problems = clearProblems before.problems batch -> motive after

/-- What survives publications of the whole store as well. -/
structure KeptByShowing (motive : Pipeline -> Prop) : Prop extends KeptBySending motive where
  /-- Everything that is listed is published. -/
  publishes : forall {before after : Pipeline}, motive before ->
    Utters before [] before.problems.listing after ->
    after.problems = before.problems -> motive after
  /-- Everything is forgotten, and the editor is told so. -/
  retracts : forall {before after : Pipeline}, motive before ->
    Utters before [] before.problems.retraction after ->
    after.problems = ProblemStore.empty -> motive after

variable {motive : Pipeline -> Prop} {before after : Pipeline}

namespace KeptBySending

theorem aside (kept : KeptBySending motive) (held : motive before)
    (attached : after.attached = before.attached) (outbox : after.outbox = before.outbox)
    (problems : after.problems = before.problems) : motive after :=
  kept.quiet held (Utters.silent attached outbox) Wire.Conveys.nothing problems

theorem progress (kept : KeptBySending motive) (held : motive before) (now : Instant) :
    motive (before.progress now) :=
  kept.aside held (progress_attached before now) (progress_outbox before now)
    (progress_problems before now)

theorem emit (kept : KeptBySending motive) (held : motive before) {stage : Lifecycle}
    (report : stage.isReport = true) : motive (before.emit stage) :=
  kept.quiet held (emit_utters before report) Wire.Conveys.nothing rfl

theorem settle (kept : KeptBySending motive) (held : motive before)
    (settlements : List Settlement) : motive (before.perform (settlements.map .settle)) :=
  kept.quiet held (settle_utters before settlements) Wire.Conveys.nothing rfl

theorem rejectAll (kept : KeptBySending motive) (held : motive before) (failure : Failure) :
    motive (before.rejectAll failure) :=
  kept.aside (kept.settle held (before.waiting.rejected failure)) rfl rfl rfl

/-- A text that carries no document is written. -/
theorem write (kept : KeptBySending motive) (held : motive before)
    (attached : before.attached = true) (message : Wire.Message) {text : String}
    (encoded : message.encode? = some text) (bare : message.documents = []) :
    motive (before.write text) := by
  have conveyed := Wire.Conveys.message message encoded
  rw [bare] at conveyed
  refine kept.quiet held (write_utters attached text) conveyed ?_
  rw [write_eq]
  rfl

theorem sendBatch (kept : KeptBySending motive) (held : motive before) (now : Instant) :
    motive (before.sendBatch now) := by
  by_cases nothing : before.edits.pendingDocuments = []
  · rw [sendBatch_of_nothing nothing]
    exact kept.aside held rfl rfl rfl
  · rw [sendBatch_of_pending nothing]
    refine kept.sends held ⟨rfl, _, rfl, ?_, ?_, ?_, ?_⟩ nothing rfl
    · split <;> simp [Effect.isWord]
    · split <;> rfl
    · split <;> rfl
    · split <;> exact fun _ member => absurd member List.not_mem_nil

theorem flush (kept : KeptBySending motive) (held : motive before) (now : Instant) :
    motive (before.flush now) := by
  rw [Pipeline.flush]
  split
  · exact kept.sendBatch held now
  · exact kept.aside held rfl rfl rfl

theorem load (kept : KeptBySending motive) (held : motive before) (documents : List Document)
    (now : Instant) : motive (before.load documents now) := by
  rw [Pipeline.load]
  split
  · have seeded : motive { before with edits := before.edits.seed documents } :=
      kept.aside held rfl rfl rfl
    exact kept.sendBatch seeded now
  · exact kept.aside held rfl rfl rfl

theorem edit (kept : KeptBySending motive) (held : motive before) (document : Document)
    (version : Option Int) (now : Instant) : motive (before.edit document version now).1 := by
  rcases edit_files before document version now with ⟨edits, same, _⟩
  rw [same]
  exact kept.aside held rfl rfl rfl

theorem requestRestart (kept : KeptBySending motive) (held : motive before) :
    motive before.requestRestart := by
  rw [Pipeline.requestRestart]
  split
  next sendable => exact kept.write held (canSend_iff.mp sendable).1 .restart rfl rfl
  next => exact held

theorem submit (kept : KeptBySending motive) (held : motive before) {id : RequestId}
    {query : Wire.Query} {now : Instant} (submitted : before.submit? id query now = some after) :
    motive after := by
  rw [submit?] at submitted
  split at submitted
  · cases submitted
    exact kept.settle held [⟨id, .error .aborted⟩]
  split at submitted
  next alive =>
    have ready : motive (if needsLatestText query.kind then before.flush now else before) := by
      split
      · exact kept.flush held now
      · exact held
    have attached : (if needsLatestText query.kind then before.flush now else before).attached =
        true := by
      split
      · rw [flush_attached]
        exact alive.2
      · exact alive.2
    cases encoded : query.encode? with
    | none => simp [encoded] at submitted
    | some text =>
        simp only [encoded, Option.some.injEq] at submitted
        subst after
        have written := kept.write ready attached (.query query) encoded rfl
        exact kept.aside written rfl rfl rfl
  · cases submitted
    exact kept.settle held [⟨id, .ok (Answer.empty query.kind)⟩]

/-! ## Output of the compiler -/

theorem listen (kept : KeptBySending motive) (held : motive before) (now : Instant) :
    motive (before.listen now) := by
  have welcomed : motive before.welcome := kept.aside (kept.emit held rfl) rfl rfl rfl
  exact kept.progress (kept.sendBatch welcomed now) now

theorem raised (kept : KeptBySending motive) (held : motive before) (lines : List String)
    (now : Instant) : motive (before.raised lines now) :=
  kept.progress (kept.rejectAll (kept.emit held rfl) _) now

theorem protocolError (kept : KeptBySending motive) (held : motive before)
    (fault : Wire.FrameFault) (now : Instant) : motive (before.protocolError fault now) :=
  kept.progress (kept.emit (kept.rejectAll held _) rfl) now

theorem respond (kept : KeptBySending motive) (held : motive before) (kind : RequestKind)
    (lines : List String) (now : Instant) : motive (before.respond kind lines now) := by
  rw [Pipeline.respond]
  split
  next settlement rest _ =>
    have taken : motive { before with waiting := rest } := kept.aside held rfl rfl rfl
    exact kept.progress (kept.settle taken [settlement]) now
  next => exact held

end KeptBySending

namespace KeptByShowing

theorem analysed (kept : KeptByShowing motive) (held : motive before) (now : Instant) :
    motive (before.analysed now) := by
  have counted : motive { before with
      phase := .analysed, analysesPending := before.analysesPending - 1 } :=
    kept.aside held rfl rfl rfl
  have published := kept.publishes counted (publish_utters _ before.problems.listing) rfl
  exact kept.progress (kept.emit published rfl) now

theorem restarted (kept : KeptByShowing motive) (held : motive before) (now : Instant) :
    motive (before.restarted now) := by
  have reset := kept.retracts held (resetForReload_utters before) rfl
  have recounted : motive { before.resetForReload with analysesPending := 0 } :=
    kept.aside reset rfl rfl rfl
  exact kept.listen recounted now

/-- A frame or a fault keeps it, if the report in the frame does. -/
theorem handleSegment (kept : KeptByShowing motive) (held : motive before) (now : Instant)
    {segment : Except Wire.FrameFault Wire.Frame}
    (report : forall band lines, segment = .ok ⟨reportCommand band, lines⟩ ->
      motive (before.addProblems band lines)) :
    motive (before.handleSegment now segment) := by
  cases segment with
  | error fault => exact kept.protocolError held fault now
  | ok frame =>
      apply handleFrame_cases (motive := motive)
      case ignored => exact fun _ => held
      case listen => exact fun _ => kept.listen held now
      case report =>
        intro band meant
        apply report band frame.lines
        rw [← meant]
      case analysed => exact fun _ => kept.analysed held now
      case raised => exact fun _ => kept.raised held frame.lines now
      case restarted => exact fun _ => kept.restarted held now
      case respond => exact fun kind _ => kept.respond held kind frame.lines now

end KeptByShowing

end Pipeline
end Session
end LanguageServer
