import LanguageServer.Proofs.Problems

namespace LanguageServer
namespace Session

/-!
# Whose diagnostics are published

Take a compiler that works through the batches of edits in the order in which they were sent.  For
each of them it reports diagnostics, in the parse only on documents of the batch, and then says that
the analysis is complete.  Further batches may be sent while it is still busy with an earlier one.

A batch makes problems worthless, and the pipeline clears them when it sends the batch.  What the
compiler goes on to report on an earlier batch arrives after that, and stays.  The review below
keeps the remarks on a batch itself apart from such strays.  The main result says what a publication
consists of, and that it is the outcome of the latest pass exactly when nothing has strayed.
-/

/-- The pass of the compiler over one batch. -/
structure Pass where
  batch : List Document
  /-- What was reported on the batch. -/
  own : List Remark
  /-- What was reported on earlier batches after the batch was sent. -/
  stray : List Remark
deriving DecidableEq, Repr, Inhabited

namespace Pass

def ofBatch (batch : List Document) : Pass := ⟨batch, [], []⟩

/-- The document is one of the batch. -/
def Covers (pass : Pass) (uri : String) : Prop := uri ∈ pass.batch.map Document.uri

instance (pass : Pass) (uri : String) : Decidable (pass.Covers uri) :=
  inferInstanceAs (Decidable (uri ∈ pass.batch.map Document.uri))

/-- A parse concerns only the documents of its batch. -/
def Permits (pass : Pass) (remarks : List Remark) : Prop :=
  forall remark, remark ∈ remarks -> remark.band = .parse -> pass.Covers remark.uri

instance (pass : Pass) (remarks : List Remark) : Decidable (pass.Permits remarks) :=
  inferInstanceAs (Decidable (forall remark, remark ∈ remarks ->
    remark.band = .parse -> pass.Covers remark.uri))

/-- The compiler reports on the batch. -/
def report (pass : Pass) (remarks : List Remark) : Pass :=
  { pass with own := pass.own ++ remarks }

/-- The compiler reports on an earlier batch. -/
def overhear (pass : Pass) (remarks : List Remark) : Pass :=
  { pass with stray := pass.stray ++ remarks }

/-- The last of some passes that covers a document. -/
def latestOn (uri : String) : List Pass -> Option Pass
  | [] => none
  | pass :: later => (latestOn uri later).or (if pass.Covers uri then some pass else none)

theorem latestOn_append (uri : String) (earlier later : List Pass) :
    latestOn uri (earlier ++ later) = (latestOn uri later).or (latestOn uri earlier) := by
  induction earlier with
  | nil => simp [latestOn]
  | cons pass rest inductionHypothesis => simp [latestOn, inductionHypothesis, Option.or_assoc]

theorem latestOn_overhear (uri : String) (passes : List Pass) (remarks : List Remark) :
    latestOn uri (passes.map (fun pass => pass.overhear remarks)) =
      (latestOn uri passes).map (fun pass => pass.overhear remarks) := by
  induction passes with
  | nil => rfl
  | cons pass rest inductionHypothesis =>
      rw [List.map_cons, latestOn, inductionHypothesis, latestOn]
      by_cases covered : pass.Covers uri
      · have same : (pass.overhear remarks).Covers uri := covered
        cases latestOn uri rest <;> simp [covered, same]
      · cases latestOn uri rest <;>
          simp [covered, show ¬(pass.overhear remarks).Covers uri from covered]

theorem mem_of_latestOn {uri : String} {passes : List Pass} {pass : Pass}
    (found : latestOn uri passes = some pass) : pass ∈ passes := by
  induction passes with
  | nil => exact nomatch found
  | cons first rest inductionHypothesis =>
      rw [latestOn, Option.or_eq_some_iff] at found
      rcases found with later | ⟨_, here⟩
      · exact List.mem_cons_of_mem _ (inductionHypothesis later)
      · rw [Option.ite_none_right_eq_some] at here
        rw [Option.some.inj here.2]
        exact List.mem_cons_self

end Pass

/-- What can happen between the editor and a compiler that analyses. -/
inductive Move where
  | edit (document : Document) (version : Option Int) (now : Instant)
  | flush (now : Instant)
  | load (documents : List Document) (now : Instant)
  /-- The compiler listens. -/
  | listen (now : Instant)
  /-- The compiler reports diagnostics on the oldest batch that it has not analysed. -/
  | diagnose (band : Band) (lines : List String) (now : Instant)
  /-- The compiler has analysed the oldest batch that it has not analysed. -/
  | analysed (now : Instant)

/-- A pipeline and a compiler that works through the batches in order. -/
structure Review where
  pipeline : Pipeline
  /-- The passes that are complete, in order. -/
  finished : List Pass
  /-- The passes over the batches that are sent and not analysed, the oldest first. -/
  awaited : List Pass

namespace Review

/-- A review in which the compiler owes no analysis. -/
def begin (pipeline : Pipeline) : Review := ⟨pipeline, [], []⟩

/-- All passes, in the order in which their batches were sent. -/
def passes (review : Review) : List Pass := review.finished ++ review.awaited

/-- The pipeline goes on, after sending a batch unless there was nothing to send. -/
def send (review : Review) (batch : List Document) (next : Pipeline) : Review :=
  { review with
    pipeline := next
    awaited := review.awaited ++ if batch = [] then [] else [Pass.ofBatch batch] }

/-- Take one move.  The compiler reports and completes only what it was sent. -/
def step? (review : Review) : Move -> Option Review
  | .edit document version now =>
      some { review with pipeline := (review.pipeline.edit document version now).1 }
  | .flush now =>
      let batch := if review.pipeline.canSend then review.pipeline.edits.pendingDocuments else []
      some (review.send batch (review.pipeline.flush now))
  | .load documents now =>
      let batch := if review.pipeline.canSend then
        (review.pipeline.edits.seed documents).pendingDocuments else []
      some (review.send batch (review.pipeline.load documents now))
  | .listen now =>
      let batch := (review.pipeline.edits.seed review.pipeline.reload).pendingDocuments
      some (review.send batch (review.pipeline.handleFrame ⟨.listen, []⟩ now))
  | .diagnose band lines now =>
      match review.awaited with
      | [] => none
      | pass :: later =>
          let remarks := Remark.readAll band lines
          if pass.Permits remarks then
            some
              { review with
                pipeline := review.pipeline.handleFrame ⟨Pipeline.reportCommand band, lines⟩ now
                awaited := pass.report remarks :: later.map (fun other => other.overhear remarks) }
          else none
  | .analysed now =>
      match review.awaited with
      | [] => none
      | pass :: later =>
          some
            { pipeline := review.pipeline.handleFrame ⟨.analysed, []⟩ now
              finished := review.finished ++ [pass]
              awaited := later }

/-- Take moves one after the other. -/
def run? (review : Review) (moves : List Move) : Option Review :=
  moves.foldlM step? review

/-- What was published after an earlier point of the review. -/
def publishedSince (review earlier : Review) : List (String × List Diagnostic) :=
  (Effect.publications review.pipeline.outbox).drop
    (Effect.publications earlier.pipeline.outbox).length

/-- The pass whose outcome is to be shown: for the parse of a document the latest one that covers
it, for the analysis the latest of all. -/
def passFor? (review : Review) : Band -> String -> Option Pass
  | .parse, uri => Pass.latestOn uri review.passes
  | .analysis, _ => review.passes.getLast?

/-- What the compiler reported in that pass. -/
def own (review : Review) (band : Band) (uri : String) : List Diagnostic :=
  Remark.about band uri ((review.passFor? band uri).elim [] Pass.own)

/-- What it reported in earlier passes after the batch of that pass was sent. -/
def stray (review : Review) (band : Band) (uri : String) : List Diagnostic :=
  Remark.about band uri ((review.passFor? band uri).elim [] Pass.stray)

end Review

namespace Pipeline

/-! ## Sending a batch -/

/-- A step that sends a batch, or nothing when the batch is empty. -/
structure Sends (before : Pipeline) (batch : List Document) (after : Pipeline) : Prop where
  problems : after.problems =
    if batch = [] then before.problems else clearProblems before.problems batch
  texts : Effect.texts after.outbox =
    Effect.texts before.outbox ++ if batch = [] then [] else [Wire.editText batch]
  alive : before.phase ≠ .aborted -> after.phase ≠ .aborted
  attached : after.attached = before.attached

theorem sendBatch_sends (pipeline : Pipeline) (attached : pipeline.attached = true)
    (now : Instant) :
    Sends pipeline pipeline.edits.pendingDocuments (pipeline.sendBatch now) := by
  refine ⟨?_, (sendBatch_speaks attached now).texts, by simp, by simp⟩
  by_cases nothing : pipeline.edits.pendingDocuments = []
  · rw [sendBatch_of_nothing nothing, if_pos nothing]
  · rw [sendBatch_of_pending nothing, if_neg nothing]

variable {pipeline : Pipeline}

theorem flush_sends (attached : pipeline.attached = true) (now : Instant) :
    Sends pipeline (if pipeline.canSend then pipeline.edits.pendingDocuments else [])
      (pipeline.flush now) := by
  rw [flush]
  split
  · exact sendBatch_sends pipeline attached now
  · exact ⟨rfl, by simp [holdEdits], fun alive => alive, rfl⟩

theorem load_sends (attached : pipeline.attached = true) (documents : List Document)
    (now : Instant) :
    Sends pipeline
      (if pipeline.canSend then (pipeline.edits.seed documents).pendingDocuments else [])
      (pipeline.load documents now) := by
  rw [load]
  split
  · have sent := sendBatch_sends { pipeline with edits := pipeline.edits.seed documents } attached
      now
    exact ⟨sent.problems, sent.texts, sent.alive, sent.attached⟩
  · exact ⟨rfl, by simp [mergeReload], fun alive => alive, rfl⟩

theorem listen_sends (attached : pipeline.attached = true) (now : Instant) :
    Sends pipeline (pipeline.edits.seed pipeline.reload).pendingDocuments
      (pipeline.listen now) := by
  have sent := sendBatch_sends pipeline.welcome attached now
  refine ⟨?_, ?_, ?_, ?_⟩
  · rw [listen_eq, progress_problems]
    exact sent.problems
  · have announced := (welcome_speaks pipeline).texts
    rw [List.append_nil] at announced
    rw [listen_eq, progress_outbox, ← announced]
    exact sent.texts
  · intro _
    rw [listen_eq, progress_phase]
    refine sent.alive ?_
    intro aborted
    cases aborted
  · rw [listen_eq, progress_attached]
    exact sent.attached

theorem handleFrame_report (alive : pipeline.phase ≠ .aborted) (band : Band)
    (lines : List String) (now : Instant) :
    pipeline.handleFrame ⟨reportCommand band, lines⟩ now = pipeline.addProblems band lines := by
  cases band <;> rw [handleFrame, if_neg alive] <;> rfl

end Pipeline

namespace Review

/-! ## The store holds what was reported since the batch was sent -/

/-- The store lists, for every document and band, what came after the batch of the pass to be shown
was sent.  A pass that has not begun has no report of its own. -/
structure Recorded (origin : Pipeline) (review : Review) : Prop where
  attached : review.pipeline.attached = true
  alive : review.pipeline.phase ≠ .aborted
  texts : Effect.texts review.pipeline.outbox =
    Effect.texts origin.outbox ++ review.passes.map (fun pass => Wire.editText pass.batch)
  begun : forall pass, pass ∈ review.awaited.tail -> pass.own = []
  listed : forall band uri,
    review.pipeline.problems.listed band uri = review.stray band uri ++ review.own band uri

theorem Recorded.begin {pipeline : Pipeline} (attached : pipeline.attached = true)
    (alive : pipeline.phase ≠ .aborted) (fresh : pipeline.problems = ProblemStore.empty) :
    Recorded pipeline (begin pipeline) := by
  refine ⟨attached, alive, by simp [Review.begin, passes], ?_, ?_⟩
  · intro pass member
    exact nomatch member
  intro band uri
  rw [Review.begin, fresh, ProblemStore.listed_empty]
  cases band <;> rfl

/-- A step that touches neither problems nor outbox keeps the record. -/
theorem Recorded.aside {origin next : Pipeline} {review : Review}
    (recorded : Recorded origin review) (attached : next.attached = true)
    (alive : next.phase ≠ .aborted) (outbox : next.outbox = review.pipeline.outbox)
    (problems : next.problems = review.pipeline.problems) :
    Recorded origin { review with pipeline := next } :=
  ⟨attached, alive, by rw [outbox]; exact recorded.texts, recorded.begun,
    fun band uri => by rw [problems]; exact recorded.listed band uri⟩

/-- A new batch is to be shown for its documents, and for the whole analysis. -/
theorem passFor?_of_sent {review next : Review} {batch : List Document}
    (sent : next.passes = review.passes ++ [Pass.ofBatch batch]) (band : Band) (uri : String) :
    next.passFor? band uri =
      if band = .analysis ∨ uri ∈ batch.map Document.uri then some (Pass.ofBatch batch)
      else review.passFor? band uri := by
  cases band with
  | analysis => simp [passFor?, sent]
  | parse =>
      rw [passFor?, passFor?, sent, Pass.latestOn_append, Pass.latestOn, Pass.latestOn,
        Option.none_or]
      by_cases covered : uri ∈ batch.map Document.uri
      · have inside : (Pass.ofBatch batch).Covers uri := covered
        simp [covered, inside]
      · have outside : ¬(Pass.ofBatch batch).Covers uri := covered
        simp [covered, outside]

/-- Sending a batch opens a pass without remarks, and clears what the pass is to replace. -/
theorem Recorded.sends {origin next : Pipeline} {review : Review} {batch : List Document}
    (recorded : Recorded origin review) (sent : Pipeline.Sends review.pipeline batch next) :
    Recorded origin (review.send batch next) := by
  have attached := sent.attached.trans recorded.attached
  have alive := sent.alive recorded.alive
  by_cases nothing : batch = []
  · have same : review.send batch next = { review with pipeline := next } := by
      simp [send, nothing]
    have problems := sent.problems
    have texts := sent.texts
    rw [if_pos nothing] at problems texts
    rw [same]
    exact ⟨attached, alive, by rw [texts, List.append_nil]; exact recorded.texts, recorded.begun,
      fun band uri => by rw [problems]; exact recorded.listed band uri⟩
  · have problems := sent.problems
    have texts := sent.texts
    rw [if_neg nothing] at problems texts
    have passes : (review.send batch next).passes = review.passes ++ [Pass.ofBatch batch] := by
      simp [send, Review.passes, nothing]
    refine ⟨attached, alive, ?_, ?_, ?_⟩
    · rw [passes, List.map_append, ← List.append_assoc, ← recorded.texts]
      exact texts
    · intro pass member
      have tail : pass ∈ (review.awaited ++ [Pass.ofBatch batch]).tail := by
        simpa [send, nothing] using member
      cases awaited : review.awaited with
      | nil =>
          rw [awaited] at tail
          exact nomatch tail
      | cons first later =>
          rw [awaited, List.cons_append, List.tail_cons, List.mem_append] at tail
          rcases tail with earlier | new
          · exact recorded.begun pass (by rw [awaited]; exact earlier)
          · rw [List.mem_singleton.mp new]
            rfl
    · intro band uri
      have shown := passFor?_of_sent passes band uri
      have kept := recorded.listed band uri
      show next.problems.listed band uri = _
      rw [problems, Pipeline.listed_clearProblems, own, stray, shown]
      split
      · rfl
      · exact kept

/-- A report belongs to the pass to be shown, strays into it, or does not concern the document. -/
theorem passFor?_of_report {review : Review} {pass : Pass} {later : List Pass}
    {remarks : List Remark} (next : Review) (awaited : review.awaited = pass :: later)
    (finished : next.finished = review.finished)
    (reported : next.awaited =
      pass.report remarks :: later.map (fun other => other.overhear remarks))
    (permitted : pass.Permits remarks) (band : Band) (uri : String) :
    (exists other, other ∈ later ∧ review.passFor? band uri = some other ∧
        next.passFor? band uri = some (other.overhear remarks)) ∨
      (review.passFor? band uri = some pass ∧
        next.passFor? band uri = some (pass.report remarks)) ∨
      (next.passFor? band uri = review.passFor? band uri ∧
        Remark.about band uri remarks = []) := by
  have before : review.passes = review.finished ++ pass :: later := by rw [passes, awaited]
  have after : next.passes = review.finished ++
      pass.report remarks :: later.map (fun other => other.overhear remarks) := by
    rw [passes, finished, reported]
  cases band with
  | analysis =>
      cases last : later.getLast? with
      | none =>
          have alone := List.getLast?_eq_none_iff.mp last
          exact Or.inr (Or.inl (by simp [passFor?, before, after, alone]))
      | some other =>
          refine Or.inl ⟨other, List.mem_of_getLast? last, ?_⟩
          simp [passFor?, before, after, List.getLast?_cons, List.getLast?_map, last]
  | parse =>
      have search : review.passFor? .parse uri = (Pass.latestOn uri later).or
          ((if pass.Covers uri then some pass else none).or
            (Pass.latestOn uri review.finished)) := by
        rw [passFor?, before, Pass.latestOn_append, Pass.latestOn, Option.or_assoc]
      have searchNext : next.passFor? .parse uri =
          ((Pass.latestOn uri later).map (fun other => other.overhear remarks)).or
            ((if pass.Covers uri then some (pass.report remarks) else none).or
              (Pass.latestOn uri review.finished)) := by
        rw [passFor?, after, Pass.latestOn_append, Pass.latestOn, Pass.latestOn_overhear,
          Option.or_assoc]
        rfl
      cases last : Pass.latestOn uri later with
      | some other =>
          refine Or.inl ⟨other, Pass.mem_of_latestOn last, ?_⟩
          simp [search, searchNext, last]
      | none =>
          by_cases covered : pass.Covers uri
          · exact Or.inr (Or.inl (by simp [search, searchNext, last, covered]))
          · refine Or.inr (Or.inr ⟨by simp [search, searchNext, last, covered], ?_⟩)
            apply Remark.about_eq_nil
            intro remark member parsed same
            exact covered (same ▸ permitted remark member parsed)

/-- A report goes to the end of what the store lists, whichever pass it belongs to. -/
theorem Recorded.reports {origin : Pipeline} {review : Review} {pass : Pass} {later : List Pass}
    (recorded : Recorded origin review) (awaited : review.awaited = pass :: later) (band : Band)
    (lines : List String) (permitted : pass.Permits (Remark.readAll band lines)) :
    Recorded origin
      { review with
        pipeline := review.pipeline.addProblems band lines
        awaited := pass.report (Remark.readAll band lines) ::
          later.map (fun other => other.overhear (Remark.readAll band lines)) } := by
  have waiting : forall other, other ∈ later -> other.own = [] := by
    intro other member
    exact recorded.begun other (by rw [awaited]; exact member)
  refine ⟨recorded.attached, recorded.alive, ?_, ?_, ?_⟩
  · have texts := recorded.texts
    rw [passes, awaited] at texts
    simpa [passes, Function.comp_def, Pass.report, Pass.overhear, Pipeline.addProblems] using texts
  · intro changed member
    rcases List.mem_map.mp member with ⟨other, inside, same⟩
    rw [← same]
    exact waiting other inside
  · intro shown uri
    rw [Pipeline.listed_addProblems, recorded.listed shown uri, own, own, stray, stray]
    rcases passFor?_of_report { review with
        pipeline := review.pipeline.addProblems band lines
        awaited := pass.report (Remark.readAll band lines) ::
          later.map (fun other => other.overhear (Remark.readAll band lines)) }
        awaited rfl rfl permitted shown uri with
      ⟨other, inside, found, foundNext⟩ | ⟨found, foundNext⟩ | ⟨same, silent⟩
    · rw [found, foundNext]
      simp [Pass.overhear, waiting other inside]
    · rw [found, foundNext]
      simp [Pass.report]
    · rw [same, silent, List.append_nil]

theorem Recorded.completes {origin : Pipeline} {review : Review} {pass : Pass} {later : List Pass}
    (recorded : Recorded origin review) (awaited : review.awaited = pass :: later)
    (now : Instant) :
    Recorded origin
      { pipeline := review.pipeline.analysed now
        finished := review.finished ++ [pass]
        awaited := later } := by
  have passes : Review.passes
      ⟨review.pipeline.analysed now, review.finished ++ [pass], later⟩ = review.passes := by
    simp [Review.passes, awaited]
  rcases Pipeline.analysed_fields review.pipeline now with ⟨phase, _, attached, _⟩
  refine ⟨attached.trans recorded.attached, ?_, ?_, ?_, ?_⟩
  · simp [phase]
  · have spoken := (Pipeline.conclude_speaks review.pipeline).texts
    rw [List.append_nil] at spoken
    rw [passes, ← recorded.texts, ← spoken, Pipeline.analysed_eq, Pipeline.progress_outbox]
  · intro other member
    refine recorded.begun other ?_
    rw [awaited]
    exact List.mem_of_mem_tail member
  · intro band uri
    have problems : (review.pipeline.analysed now).problems = review.pipeline.problems := by
      rw [Pipeline.analysed_eq, Pipeline.progress_problems]
      rfl
    have shown : passFor? ⟨review.pipeline.analysed now, review.finished ++ [pass], later⟩ band
        uri = review.passFor? band uri := by
      cases band <;> rw [passFor?, passFor?, passes]
    rw [problems, recorded.listed band uri, own, own, stray, stray, shown]

/-! ## Every run -/

/-- The end of an analysis as the pipeline takes it. -/
theorem step?_analysed {origin : Pipeline} {review next : Review} {now : Instant}
    (recorded : Recorded origin review) (stepped : review.step? (.analysed now) = some next) :
    exists pass later, review.awaited = pass :: later ∧
      next = ⟨review.pipeline.analysed now, review.finished ++ [pass], later⟩ := by
  rw [step?] at stepped
  split at stepped
  · exact nomatch stepped
  next pass later awaited =>
    refine ⟨pass, later, awaited, ?_⟩
    rw [Pipeline.handleFrame, if_neg recorded.alive] at stepped
    exact (Option.some.inj stepped).symm

theorem Recorded.step {origin : Pipeline} {review next : Review} {move : Move}
    (recorded : Recorded origin review) (stepped : review.step? move = some next) :
    Recorded origin next := by
  cases move with
  | edit document version now =>
      cases stepped
      rcases Pipeline.edit_files review.pipeline document version now with ⟨edits, same, _⟩
      rw [same]
      exact recorded.aside recorded.attached recorded.alive rfl rfl
  | flush now =>
      cases stepped
      exact recorded.sends (Pipeline.flush_sends recorded.attached now)
  | load documents now =>
      cases stepped
      exact recorded.sends (Pipeline.load_sends recorded.attached documents now)
  | listen now =>
      cases stepped
      rw [Pipeline.handleFrame, if_neg recorded.alive]
      exact recorded.sends (Pipeline.listen_sends recorded.attached now)
  | diagnose band lines now =>
      rw [step?] at stepped
      split at stepped
      · cases stepped
      next pass later awaited =>
        rw [Option.ite_none_right_eq_some] at stepped
        rcases stepped with ⟨permitted, same⟩
        cases same
        rw [Pipeline.handleFrame_report recorded.alive]
        exact recorded.reports awaited band lines permitted
  | analysed now =>
      rcases step?_analysed recorded stepped with ⟨pass, later, awaited, same⟩
      subst next
      exact recorded.completes awaited now

theorem Recorded.run {origin : Pipeline} {review last : Review} {moves : List Move}
    (recorded : Recorded origin review) (ran : review.run? moves = some last) :
    Recorded origin last := by
  induction moves generalizing review with
  | nil =>
      cases ran
      exact recorded
  | cons move rest inductionHypothesis =>
      rw [run?, List.foldlM_cons, Option.bind_eq_bind, Option.bind_eq_some_iff] at ran
      rcases ran with ⟨next, stepped, remaining⟩
      exact inductionHypothesis (recorded.step stepped) remaining

/-- Let a compiler work through the batches in order, while edits, loads and flushes send further
batches at any time.  When an analysis is complete, every document that has anything to show is
published once, each band with what strayed into the pass to be shown and what was reported in it.
So the publication is the outcome of the latest pass over the document and of the latest analysis,
nothing from an earlier pass and nothing twice, exactly when nothing strayed: no report on an
earlier batch came after those batches were sent. -/
theorem published_latest_iff_nothing_strayed {pipeline : Pipeline} {moves : List Move}
    {review after : Review} {now : Instant} (attached : pipeline.attached = true)
    (alive : pipeline.phase ≠ .aborted) (fresh : pipeline.problems = ProblemStore.empty)
    (ran : (begin pipeline).run? moves = some review)
    (completed : review.step? (.analysed now) = some after) :
    Effect.texts review.pipeline.outbox = Effect.texts pipeline.outbox ++
        review.passes.map (fun pass => Wire.editText pass.batch) ∧
      ((after.publishedSince review).map Prod.fst).Nodup ∧
      (forall uri items, (uri, items) ∈ after.publishedSince review ->
        items = (review.stray .parse uri ++ review.own .parse uri) ++
            (review.stray .analysis uri ++ review.own .analysis uri) ∧
          (items = review.own .parse uri ++ review.own .analysis uri ↔
            review.stray .parse uri = [] ∧ review.stray .analysis uri = [])) ∧
      (forall uri, uri ∉ (after.publishedSince review).map Prod.fst ->
        review.own .parse uri = [] ∧ review.own .analysis uri = []) := by
  have recorded := (Recorded.begin attached alive fresh).run ran
  rcases step?_analysed recorded completed with ⟨pass, later, _, same⟩
  have published : after.publishedSince review = review.pipeline.problems.listing := by
    rw [same, publishedSince, Pipeline.analysed_publications, List.drop_left]
  rw [published, ProblemStore.listing_uris]
  refine ⟨recorded.texts, ProblemStore.uris_nodup _, ?_, ?_⟩
  · intro uri items member
    have listed := ProblemStore.eq_of_mem_listing member
    rw [recorded.listed, recorded.listed] at listed
    refine ⟨listed, ?_⟩
    rw [listed]
    constructor
    · intro equal
      have lengths := congrArg List.length equal
      simp only [List.length_append] at lengths
      exact ⟨List.eq_nil_of_length_eq_zero (by omega), List.eq_nil_of_length_eq_zero (by omega)⟩
    · rintro ⟨noParse, noAnalysis⟩
      rw [noParse, noAnalysis, List.nil_append, List.nil_append]
  · intro uri absent
    have parse := (recorded.listed .parse uri).symm.trans (ProblemStore.listed_of_not_mem absent _)
    have analysis :=
      (recorded.listed .analysis uri).symm.trans (ProblemStore.listed_of_not_mem absent _)
    exact ⟨(List.append_eq_nil_iff.mp parse).2, (List.append_eq_nil_iff.mp analysis).2⟩

/-- A compiler that was just launched. -/
def launched : Pipeline := (Pipeline.new Timing.default).starting.attach 0

/-- Two batches overlap that have no document in common.  Only the second pass reports in the
analysis. -/
def disjointBatches : List Move :=
  [.load [⟨"file:///a", "x"⟩] 0, .listen 0, .edit ⟨"file:///b", "y"⟩ none 0, .flush 0,
    .diagnose .parse ["error\tfile:///a\t1\t1\t1\t2\tfirst"] 1, .analysed 1,
    .diagnose .parse ["error\tfile:///b\t1\t1\t1\t2\tsecond"] 2,
    .diagnose .analysis ["warn\tfile:///a\t1\t1\t1\t2\tthird"] 2]

theorem disjointBatches_published_latest : exists review after,
    (begin launched).run? disjointBatches = some review ∧
      review.step? (.analysed 3) = some after ∧
      (after.publishedSince review).map (fun entry => (entry.1, entry.2.map Diagnostic.message)) =
        [("file:///a", ["first", "third"]), ("file:///b", ["second"])] ∧
      forall uri items, (uri, items) ∈ after.publishedSince review ->
        items = review.own .parse uri ++ review.own .analysis uri := by
  have ran : ((begin launched).run? disjointBatches).isSome := by decide +kernel
  rcases Option.isSome_iff_exists.mp ran with ⟨review, reached⟩
  have ends : (((begin launched).run? disjointBatches).bind (fun review =>
      review.step? (.analysed 3))).isSome := by decide +kernel
  rw [reached, Option.bind_some] at ends
  rcases Option.isSome_iff_exists.mp ends with ⟨after, completed⟩
  have shown : ((begin launched).run? disjointBatches).bind (fun review =>
      (review.step? (.analysed 3)).map (fun after => (after.publishedSince review).map
        (fun entry => (entry.1, entry.2.map Diagnostic.message, review.stray .parse entry.1,
          review.stray .analysis entry.1)))) =
      some [("file:///a", ["first", "third"], [], []), ("file:///b", ["second"], [], [])] := by
    decide +kernel
  rw [reached, Option.bind_some, completed, Option.map_some, Option.some.injEq] at shown
  refine ⟨review, after, reached, completed, ?_, ?_⟩
  · have messages := congrArg (List.map (fun entry => (entry.1, entry.2.1))) shown
    rw [List.map_map] at messages
    exact messages
  · intro uri items member
    have main := published_latest_iff_nothing_strayed (by decide +kernel) (by decide +kernel)
      (by decide +kernel) reached completed
    apply ((main.2.2.1 uri items member).2).mpr
    have entry := List.mem_map_of_mem (f := fun entry => (entry.1,
      entry.2.map Diagnostic.message, review.stray .parse entry.1,
      review.stray .analysis entry.1)) member
    rw [shown] at entry
    simp only [List.mem_cons, Prod.mk.injEq, List.not_mem_nil, or_false] at entry
    rcases entry with ⟨_, _, parse, analysis⟩ | ⟨_, _, parse, analysis⟩
    · exact ⟨parse, analysis⟩
    · exact ⟨parse, analysis⟩

/-- A document is sent again before the compiler has reported on its first text. -/
def sentTwice : List Move :=
  [.load [⟨"file:///a", "x"⟩] 0, .listen 0, .edit ⟨"file:///a", "y"⟩ (some 1) 0, .flush 0,
    .diagnose .parse ["error\tfile:///a\t1\t1\t1\t2\told"] 0, .analysed 0,
    .diagnose .parse ["error\tfile:///a\t1\t1\t1\t2\tnew"] 0]

/-- The report on the first text is published again with the report on the second. -/
theorem diagnostics_can_stray :
    ¬forall (pipeline : Pipeline) (moves : List Move) (review after : Review) (now : Instant),
      pipeline.attached = true -> pipeline.phase ≠ .aborted ->
      pipeline.problems = ProblemStore.empty -> (begin pipeline).run? moves = some review ->
      review.step? (.analysed now) = some after -> after.awaited = [] ->
      forall uri items, (uri, items) ∈ after.publishedSince review ->
        items = review.own .parse uri ++ review.own .analysis uri := by
  intro always
  have ran : ((begin launched).run? sentTwice).isSome := by decide +kernel
  rcases Option.isSome_iff_exists.mp ran with ⟨review, reached⟩
  have ends : (((begin launched).run? sentTwice).bind (fun review =>
      review.step? (.analysed 0))).isSome := by decide +kernel
  rw [reached, Option.bind_some] at ends
  rcases Option.isSome_iff_exists.mp ends with ⟨after, completed⟩
  have shown : ((begin launched).run? sentTwice).bind (fun review =>
      (review.step? (.analysed 0)).map (fun after => (after.awaited,
        (after.publishedSince review).map (fun entry => (entry.1, entry.2.length,
          (review.own .parse entry.1 ++ review.own .analysis entry.1).length))))) =
      some ([], [("file:///a", 2, 1)]) := by decide +kernel
  rw [reached, Option.bind_some, completed, Option.map_some, Option.some.injEq,
    Prod.mk.injEq] at shown
  rcases List.map_eq_cons_iff.mp shown.2 with ⟨⟨uri, items⟩, rest, published, lengths, _⟩
  have latest := always launched sentTwice review after 0 (by decide +kernel) (by decide +kernel)
    (by decide +kernel) reached completed shown.1 uri items
    (by rw [published]; exact List.mem_cons_self)
  simp only [Prod.mk.injEq] at lengths
  have same := congrArg List.length latest
  rw [lengths.2.1, lengths.2.2] at same
  exact nomatch same

end Review
end Session
end LanguageServer
