import LanguageServer.Proofs.Contact

namespace LanguageServer

/-!
# Where a chunk ends does not matter

A compiler writes a stream of bytes, and the pipeline gets it in chunks that are cut anywhere.
What becomes of the pipeline depends on the stream alone.  Taking in some chunks at one instant
leaves the same pipeline as taking in all their bytes at once: the same phase, queues, problems and
deadlines, the same bytes that wait for their separator, and the same effects in the same order.

Two facts carry this.  The frame buffer finds the same frames in two chunks as in their
concatenation.  And acting on a frame is aloof from the buffer: it neither reads the bytes that wait
nor touches them, so it cannot matter which bytes are waiting when a frame is dealt with.

The second fact needs no assumption.  Only that no chunk at all is as good as an empty one depends
on how the pipeline came about: a complete frame never waits in the buffer.
-/

namespace Text

variable {Symbol : Type} [BEq Symbol] [LawfulBEq Symbol] {separator : Symbol}

/-- Pieces hold no separator. -/
theorem not_mem_of_mem_pieces {text part : List Symbol} (member : part ∈ pieces separator text) :
    separator ∉ part := by
  induction text generalizing part with
  | nil =>
      rw [pieces, List.mem_singleton] at member
      rw [member]
      exact List.not_mem_nil
  | cons head tail inductionHypothesis =>
      rw [pieces] at member
      split at member
      · rcases List.mem_cons.mp member with first | later
        · rw [first]
          exact List.not_mem_nil
        · exact inductionHypothesis later
      next different =>
        cases found : pieces separator tail with
        | nil => exact absurd found (pieces_ne_nil separator tail)
        | cons first rest =>
            rw [found] at inductionHypothesis member
            rcases List.mem_cons.mp member with here | later
            · rw [here]
              intro inside
              rcases List.mem_cons.mp inside with same | behind
              · exact different (beq_iff_eq.mpr same.symm)
              · exact inductionHypothesis List.mem_cons_self behind
            · exact inductionHypothesis (List.mem_cons_of_mem first later)

/-- A text without a separator is one piece. -/
theorem pieces_of_not_mem {text : List Symbol} (absent : separator ∉ text) :
    pieces separator text = [text] := by
  induction text with
  | nil => rfl
  | cons head tail inductionHypothesis =>
      have different : ¬(head == separator) = true := by
        intro same
        exact absent (List.mem_cons.mpr (Or.inl (eq_of_beq same).symm))
      have rest := inductionHypothesis (fun behind => absent (List.mem_cons_of_mem head behind))
      rw [pieces, if_neg different, rest]

end Text

namespace Wire
namespace FrameBuffer

/-- No complete frame waits in the buffer. -/
def Partial (buffer : FrameBuffer) : Prop := separator ∉ buffer.pending

theorem empty_partial : empty.Partial := List.not_mem_nil

theorem push_partial (buffer : FrameBuffer) (chunk : List UInt8) :
    (buffer.push chunk).2.Partial := by
  have some_piece := Text.pieces_ne_nil separator (buffer.pending ++ chunk)
  have last : (buffer.push chunk).2.pending ∈ Text.pieces separator (buffer.pending ++ chunk) := by
    change (Text.pieces separator (buffer.pending ++ chunk)).getLast?.getD [] ∈ _
    rw [List.getLast?_eq_some_getLast some_piece, Option.getD_some]
    exact List.getLast_mem some_piece
  exact Text.not_mem_of_mem_pieces last

/-- An empty chunk completes nothing. -/
theorem Partial.push_nil {buffer : FrameBuffer} (incomplete : buffer.Partial) :
    buffer.push [] = ([], buffer) := by
  rw [push, List.append_nil, Text.pieces_of_not_mem incomplete]
  rfl

end FrameBuffer
end Wire

namespace Session
namespace Pipeline

/-! ## Acting on frames is aloof from the buffer -/

/-- The pipeline with other bytes waiting. -/
def withFrames (pipeline : Pipeline) (frames : Wire.FrameBuffer) : Pipeline :=
  { pipeline with frames := frames }

/-- An action that neither reads the bytes that wait for their separator nor touches them. -/
def Aloof (action : Pipeline -> Pipeline) : Prop :=
  forall (pipeline : Pipeline) (frames : Wire.FrameBuffer),
    action (pipeline.withFrames frames) = (action pipeline).withFrames frames

theorem Aloof.comp {first second : Pipeline -> Pipeline} (later : Aloof second)
    (earlier : Aloof first) : Aloof (fun pipeline => second (first pipeline)) := by
  intro pipeline frames
  change second (first (pipeline.withFrames frames)) = _
  rw [earlier, later]

theorem Aloof.foldl {Item : Type} {action : Pipeline -> Item -> Pipeline}
    (each : forall item, Aloof (fun pipeline => action pipeline item)) (items : List Item) :
    Aloof (fun pipeline => items.foldl action pipeline) := by
  induction items with
  | nil => exact fun _ _ => rfl
  | cons item rest inductionHypothesis => exact inductionHypothesis.comp (each item)

theorem progress_aloof (now : Instant) : Aloof (fun pipeline => pipeline.progress now) := by
  intro pipeline frames
  change (if pipeline.analysesPending > 0 || pipeline.waiting.count > 0 then _ else _) =
    (pipeline.progress now).withFrames frames
  unfold progress
  split <;> rfl

theorem sendBatch_aloof (now : Instant) : Aloof (fun pipeline => pipeline.sendBatch now) := by
  intro pipeline frames
  change (pipeline.withFrames frames).sendBatch now = (pipeline.sendBatch now).withFrames frames
  by_cases nothing : pipeline.edits.pendingDocuments = []
  · have same : (pipeline.withFrames frames).edits.pendingDocuments = [] := nothing
    rw [sendBatch_of_nothing nothing, sendBatch_of_nothing same]
    rfl
  · have same : (pipeline.withFrames frames).edits.pendingDocuments ≠ [] := nothing
    rw [sendBatch_of_pending nothing, sendBatch_of_pending same]
    rfl

theorem listen_aloof (now : Instant) : Aloof (fun pipeline => pipeline.listen now) := by
  have welcomed : Aloof welcome := fun _ _ => rfl
  exact (progress_aloof now).comp ((sendBatch_aloof now).comp welcomed)

theorem analysed_aloof (now : Instant) : Aloof (fun pipeline => pipeline.analysed now) := by
  have concluded : Aloof conclude := fun _ _ => rfl
  exact (progress_aloof now).comp concluded

theorem raised_aloof (lines : List String) (now : Instant) :
    Aloof (fun pipeline => pipeline.raised lines now) := by
  have rejected : Aloof (fun pipeline =>
      (pipeline.emit (.exception (Text.join "\n" lines))).rejectAll
        (.exception (Text.join "\n" lines))) := fun _ _ => rfl
  exact (progress_aloof now).comp rejected

theorem restarted_aloof (now : Instant) : Aloof (fun pipeline => pipeline.restarted now) := by
  have forgotten : Aloof (fun pipeline => { pipeline.resetForReload with analysesPending := 0 }) :=
    fun _ _ => rfl
  exact (listen_aloof now).comp forgotten

theorem respond_aloof (kind : RequestKind) (lines : List String) (now : Instant) :
    Aloof (fun pipeline => pipeline.respond kind lines now) := by
  intro pipeline frames
  change (pipeline.withFrames frames).respond kind lines now =
    (pipeline.respond kind lines now).withFrames frames
  rcases found : pipeline.waiting.handle kind lines with ⟨settlement, rest⟩
  have same : (pipeline.withFrames frames).waiting.handle kind lines = (settlement, rest) := found
  rw [respond, respond, found, same]
  cases settlement with
  | none => rfl
  | some settlement =>
      exact progress_aloof now
        ({ pipeline with waiting := rest }.perform [.settle settlement]) frames

theorem protocolError_aloof (fault : Wire.FrameFault) (now : Instant) :
    Aloof (fun pipeline => pipeline.protocolError fault now) := by
  have rejected : Aloof (fun pipeline => (pipeline.rejectAll (.protocol fault)).emit
      (.protocolError fault.message)) := fun _ _ => rfl
  exact (progress_aloof now).comp rejected

theorem handleFrame_aloof (frame : Wire.Frame) (now : Instant) :
    Aloof (fun pipeline => pipeline.handleFrame frame now) := by
  intro pipeline frames
  change (pipeline.withFrames frames).handleFrame frame now =
    (pipeline.handleFrame frame now).withFrames frames
  by_cases aborted : pipeline.phase = .aborted
  · have same : (pipeline.withFrames frames).phase = .aborted := aborted
    rw [handleFrame, handleFrame, if_pos aborted, if_pos same]
  · have alive : (pipeline.withFrames frames).phase ≠ .aborted := aborted
    cases answers : responseKind? frame.command with
    | some kind =>
        rw [handleFrame_response answers aborted, handleFrame_response answers alive]
        exact respond_aloof kind frame.lines now pipeline frames
    | none =>
        rw [handleFrame, handleFrame, if_neg aborted, if_neg alive]
        rcases frame with ⟨command, lines⟩
        cases command with
        | listen => exact listen_aloof now pipeline frames
        | diagParse => rfl
        | diagAnalysis => rfl
        | analysed => exact analysed_aloof now pipeline frames
        | except => exact raised_aloof lines now pipeline frames
        | restart => exact restarted_aloof now pipeline frames
        | _ => cases answers

theorem handleSegment_aloof (now : Instant) (segment : Except Wire.FrameFault Wire.Frame) :
    Aloof (fun pipeline => pipeline.handleSegment now segment) := by
  cases segment with
  | ok frame => exact handleFrame_aloof frame now
  | error fault => exact protocolError_aloof fault now

theorem handleSegments_aloof (now : Instant)
    (segments : List (Except Wire.FrameFault Wire.Frame)) :
    Aloof (fun pipeline => segments.foldl (handleSegment now) pipeline) :=
  Aloof.foldl (handleSegment_aloof now) segments

/-! ## Chunks -/

theorem handleChunk_frames (pipeline : Pipeline) (chunk : List UInt8) (now : Instant) :
    (pipeline.handleChunk chunk now).frames = (pipeline.frames.push chunk).2 :=
  (handleSegments_hears now (pipeline.frames.push chunk).1
    (pipeline.withFrames (pipeline.frames.push chunk).2)).frames

/-- Two chunks are as good as their concatenation. -/
theorem handleChunk_append (pipeline : Pipeline) (chunk more : List UInt8) (now : Instant) :
    (pipeline.handleChunk chunk now).handleChunk more now =
      pipeline.handleChunk (chunk ++ more) now := by
  -- what the first chunk leads to is the same with the bytes that wait after the second
  have first : (pipeline.handleChunk chunk now).withFrames
      ((pipeline.frames.push chunk).2.push more).2 =
        (pipeline.frames.push chunk).1.foldl (handleSegment now)
          (pipeline.withFrames ((pipeline.frames.push chunk).2.push more).2) :=
    (handleSegments_aloof now (pipeline.frames.push chunk).1
      (pipeline.withFrames (pipeline.frames.push chunk).2) _).symm
  calc (pipeline.handleChunk chunk now).handleChunk more now
      = ((pipeline.frames.push chunk).2.push more).1.foldl (handleSegment now)
          ((pipeline.handleChunk chunk now).withFrames
            ((pipeline.frames.push chunk).2.push more).2) := by
        rw [← handleChunk_frames pipeline chunk now]
        rfl
    _ = ((pipeline.frames.push chunk).2.push more).1.foldl (handleSegment now)
          ((pipeline.frames.push chunk).1.foldl (handleSegment now)
            (pipeline.withFrames ((pipeline.frames.push chunk).2.push more).2)) := by
        rw [first]
    _ = pipeline.handleChunk (chunk ++ more) now := by
        rw [← List.foldl_append, handleChunk, Wire.FrameBuffer.push_append]
        rfl

theorem handleChunk_nil {pipeline : Pipeline} (incomplete : pipeline.frames.Partial)
    (now : Instant) : pipeline.handleChunk [] now = pipeline := by
  rw [handleChunk, incomplete.push_nil]
  rfl

theorem handleChunks_flatten {pipeline : Pipeline} (incomplete : pipeline.frames.Partial)
    (chunks : List (List UInt8)) (now : Instant) :
    chunks.foldl (fun pipeline chunk => pipeline.handleChunk chunk now) pipeline =
      pipeline.handleChunk chunks.flatten now := by
  induction chunks generalizing pipeline with
  | nil => exact (handleChunk_nil incomplete now).symm
  | cons chunk rest inductionHypothesis =>
      have still : (pipeline.handleChunk chunk now).frames.Partial := by
        rw [handleChunk_frames]
        exact pipeline.frames.push_partial chunk
      rw [List.foldl_cons, inductionHypothesis still, handleChunk_append, List.flatten_cons]

/-- A complete frame never waits, whatever was done to the pipeline. -/
theorem operate?_partial {before after : Pipeline} {operation : Operation}
    (incomplete : before.frames.Partial) (applied : before.operate? operation = some after) :
    after.frames.Partial := by
  have kept : KeepsContact before after -> after.frames.Partial := by
    intro contact
    rw [contact.frames]
    exact incomplete
  cases operation with
  | submit id query now => exact kept (submit_keepsContact applied)
  | edit document version now =>
      cases applied
      exact kept (edit_keepsContact before document version now)
  | flush now => cases applied; exact kept (flush_keepsContact before now)
  | requestRestart => cases applied; exact kept (requestRestart_keepsContact before)
  | applyTiming timing => cases applied; exact incomplete
  | starting => cases applied; exact incomplete
  | load documents now =>
      cases applied
      rw [load]
      split
      · rw [sendBatch_frames]
        exact incomplete
      · exact incomplete
  | chunk bytes now =>
      cases applied
      rw [handleChunk_frames]
      exact before.frames.push_partial bytes
  | attach now => cases applied; exact Wire.FrameBuffer.empty_partial
  | block => cases applied; exact Wire.FrameBuffer.empty_partial
  | spawnFailed reason => cases applied; exact Wire.FrameBuffer.empty_partial
  | stopped => cases applied; exact Wire.FrameBuffer.empty_partial
  | recover status => cases applied; exact Wire.FrameBuffer.empty_partial
  | watchdogExpired => cases applied; exact Wire.FrameBuffer.empty_partial

theorem run?_partial {timing : Timing} {operations : List Operation} {pipeline : Pipeline}
    (ran : (Pipeline.new timing).run? operations = some pipeline) : pipeline.frames.Partial :=
  run?_induction (motive := fun _ pipeline => pipeline.frames.Partial)
    Wire.FrameBuffer.empty_partial (fun _ _ _ _ => operate?_partial) ran

/-- Whatever was done to a pipeline before, taking in some chunks one after the other at one instant
leaves the pipeline that their concatenation leaves, with the same effects in the same order. -/
theorem chunks_handled_as_one {timing : Timing} {operations : List Operation} {pipeline : Pipeline}
    (ran : (Pipeline.new timing).run? operations = some pipeline) (chunks : List (List UInt8))
    (now : Instant) :
    chunks.foldl (fun pipeline chunk => pipeline.handleChunk chunk now) pipeline =
      pipeline.handleChunk chunks.flatten now :=
  handleChunks_flatten (run?_partial ran) chunks now

/-- A compiler was launched and has said half a word. -/
def halfGreeted : List Operation :=
  [.starting, .attach 0, .load [⟨"file:///a", "x"⟩] 0, .chunk (Text.Utf8.bytesOf "LIS") 1]

/-- The other half, a report in the middle of a character, an exception and nonsense, a restart, and
the beginning of something else. -/
def crumbs : List (List UInt8) :=
  let stream := Text.Utf8.bytesOf
    "TEN\n\x0cDIAG PARSE\nerror\tfile:///a\t1\t1\t1\t2\tnaïve\n\x0cEXCEPT\nboom\n\x0c?\x0cRESTART\n\x0cANAL"
  [stream.take 2, [], (stream.drop 2).take 41, (stream.drop 43).take 12, stream.drop 55]

theorem crumbs_handled_as_one : exists pipeline,
    (Pipeline.new Timing.default).run? halfGreeted = some pipeline ∧
      pipeline.frames.pending = Text.Utf8.bytesOf "LIS" ∧
      crumbs.foldl (fun pipeline chunk => pipeline.handleChunk chunk 7) pipeline =
        pipeline.handleChunk crumbs.flatten 7 ∧
      Effect.texts (pipeline.handleChunk crumbs.flatten 7).outbox =
        [Wire.editText [⟨"file:///a", "x"⟩], Wire.editText [⟨"file:///a", "x"⟩]] := by
  have ran : ((Pipeline.new Timing.default).run? halfGreeted).isSome := by decide +kernel
  rcases Option.isSome_iff_exists.mp ran with ⟨pipeline, reached⟩
  have seen : ((Pipeline.new Timing.default).run? halfGreeted).map (fun pipeline =>
      (pipeline.frames.pending, Effect.texts (pipeline.handleChunk crumbs.flatten 7).outbox)) =
      some (Text.Utf8.bytesOf "LIS",
        [Wire.editText [⟨"file:///a", "x"⟩], Wire.editText [⟨"file:///a", "x"⟩]]) := by
    decide +kernel
  rw [reached, Option.map_some, Option.some.injEq, Prod.mk.injEq] at seen
  exact ⟨pipeline, reached, seen.1, chunks_handled_as_one reached crumbs 7, seen.2⟩

end Pipeline
end Session
end LanguageServer
