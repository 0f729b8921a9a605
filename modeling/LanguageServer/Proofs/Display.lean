import LanguageServer.Proofs.Publications

namespace LanguageServer
namespace Session

/-!
# What the editor shows

The editor shows, for each document, the items of the last publication for it.  A document that is
not mentioned by a publication keeps what it shows, so something stays on display for ever unless a
later publication mentions its document.  Publications mention the documents that have an entry in
the problem store.

Hence the law that carries everything else: a document that shows anything has an entry.  It holds
after any operations in any order, and between the frames of a chunk, and it makes the publication
after an analysis bring the whole display in line with the store, and a reset blank it.
-/

namespace Pipeline

/-! ## The last publication for a document -/

/-- The items of the last publication for a document. -/
def latestShown? (uri : String) : List (String × List Diagnostic) -> Option (List Diagnostic)
  | [] => none
  | entry :: later =>
      (latestShown? uri later).or (if entry.1 = uri then some entry.2 else none)

theorem latestShown?_append (uri : String) (earlier later : List (String × List Diagnostic)) :
    latestShown? uri (earlier ++ later) =
      (latestShown? uri later).or (latestShown? uri earlier) := by
  induction earlier with
  | nil => simp [latestShown?]
  | cons entry rest inductionHypothesis =>
      simp [latestShown?, inductionHypothesis, Option.or_assoc]

theorem latestShown?_eq_none {uri : String} {shown : List (String × List Diagnostic)}
    (absent : uri ∉ shown.map Prod.fst) : latestShown? uri shown = none := by
  induction shown with
  | nil => rfl
  | cons entry rest inductionHypothesis =>
      rw [List.map_cons, List.mem_cons, not_or] at absent
      rw [latestShown?, inductionHypothesis absent.2, if_neg (Ne.symm absent.1), Option.none_or]

/-- The last publication for a document that is mentioned is one of those that mention it. -/
theorem latestShown?_mem {uri : String} {shown : List (String × List Diagnostic)}
    (present : uri ∈ shown.map Prod.fst) :
    exists items, (uri, items) ∈ shown ∧ latestShown? uri shown = some items := by
  induction shown with
  | nil => cases present
  | cons entry rest inductionHypothesis =>
      by_cases later : uri ∈ rest.map Prod.fst
      · rcases inductionHypothesis later with ⟨items, member, latest⟩
        refine ⟨items, List.mem_cons_of_mem entry member, ?_⟩
        rw [latestShown?, latest, Option.some_or]
      · rw [List.map_cons, List.mem_cons, or_iff_left later] at present
        refine ⟨entry.2, List.mem_cons.mpr (Or.inl (Prod.ext present rfl)), ?_⟩
        rw [latestShown?, latestShown?_eq_none later, if_pos present.symm, Option.none_or]

/-- What the editor shows for a document. -/
def display (pipeline : Pipeline) (uri : String) : List Diagnostic :=
  (latestShown? uri (Effect.publications pipeline.outbox)).getD []

variable {before after : Pipeline} {shown : List (String × List Diagnostic)} {uri : String}

/-- A document that is not mentioned keeps what it shows. -/
theorem display_of_not_mem
    (published : Effect.publications after.outbox = Effect.publications before.outbox ++ shown)
    (absent : uri ∉ shown.map Prod.fst) : after.display uri = before.display uri := by
  rw [display, published, latestShown?_append, latestShown?_eq_none absent, Option.none_or]
  rfl

/-- A document that is mentioned shows what a publication says of it. -/
theorem display_of_mem
    (published : Effect.publications after.outbox = Effect.publications before.outbox ++ shown)
    (present : uri ∈ shown.map Prod.fst) : (uri, after.display uri) ∈ shown := by
  rcases latestShown?_mem present with ⟨items, member, latest⟩
  rw [display, published, latestShown?_append, latest, Option.some_or, Option.getD_some]
  exact member

/-! ## The display and the store -/

/-- A document that shows anything has an entry in the store. -/
def Coherent (pipeline : Pipeline) : Prop :=
  forall uri, pipeline.display uri ≠ [] -> uri ∈ pipeline.problems.uris

/-- Every document shows what the store lists for it. -/
def UpToDate (pipeline : Pipeline) : Prop :=
  forall uri, pipeline.display uri =
    pipeline.problems.listed .parse uri ++ pipeline.problems.listed .analysis uri

/-- There are no problems, and no document shows any. -/
def Blank (pipeline : Pipeline) : Prop :=
  pipeline.problems = ProblemStore.empty ∧ forall uri, pipeline.display uri = []

theorem Blank.coherent (blank : after.Blank) : after.Coherent := by
  intro uri shows
  exact absurd (blank.2 uri) shows

theorem Coherent.display_eq_nil (coherent : before.Coherent) (absent : uri ∉ before.problems.uris) :
    before.display uri = [] :=
  Classical.byContradiction (fun shows => absent (coherent uri shows))

/-- Without a publication, the display stays coherent as long as no entry is removed. -/
theorem Coherent.of_subset (coherent : before.Coherent)
    (published : Effect.publications after.outbox = Effect.publications before.outbox)
    (entries : before.problems.uris ⊆ after.problems.uris) : after.Coherent := by
  intro uri shows
  rw [display, published] at shows
  exact entries (coherent uri shows)

/-- Publishing what is listed brings the display up to date. -/
theorem Coherent.published (coherent : before.Coherent)
    (published : Effect.publications after.outbox =
      Effect.publications before.outbox ++ before.problems.listing)
    (problems : after.problems = before.problems) : after.UpToDate := by
  intro uri
  by_cases present : uri ∈ before.problems.uris
  · rw [← ProblemStore.listing_uris] at present
    rw [problems]
    exact ProblemStore.eq_of_mem_listing (display_of_mem published present)
  · have unmentioned : uri ∉ before.problems.listing.map Prod.fst := by
      rw [ProblemStore.listing_uris]
      exact present
    rw [display_of_not_mem published unmentioned, coherent.display_eq_nil present, problems,
      ProblemStore.listed_of_not_mem present, ProblemStore.listed_of_not_mem present]
    rfl

theorem UpToDate.coherent (upToDate : after.UpToDate) : after.Coherent := by
  intro uri shows
  apply Classical.byContradiction
  intro absent
  apply shows
  rw [upToDate uri, ProblemStore.listed_of_not_mem absent, ProblemStore.listed_of_not_mem absent]
  rfl

/-- Forgetting everything, and telling the editor so, blanks the display. -/
theorem Coherent.retracted (coherent : before.Coherent)
    (published : Effect.publications after.outbox =
      Effect.publications before.outbox ++ before.problems.retraction)
    (problems : after.problems = ProblemStore.empty) : after.Blank := by
  refine ⟨problems, ?_⟩
  intro uri
  have mentioned : before.problems.retraction.map Prod.fst = before.problems.uris := by
    rw [ProblemStore.retraction, List.map_map]
    exact List.map_id' _
  by_cases present : uri ∈ before.problems.uris
  · rw [← mentioned] at present
    rcases List.mem_map.mp (display_of_mem published present) with ⟨_, _, same⟩
    exact (congrArg Prod.snd same).symm
  · have unmentioned : uri ∉ before.problems.retraction.map Prod.fst := by
      rw [mentioned]
      exact present
    rw [display_of_not_mem published unmentioned, coherent.display_eq_nil present]

/-! ## Entries of the store -/

/-- Reports add entries and remove none. -/
theorem uris_subset_addProblems (pipeline : Pipeline) (band : Band) (lines : List String) :
    pipeline.problems.uris ⊆ (pipeline.addProblems band lines).problems.uris := by
  have one : forall (store : ProblemStore) (line : String),
      store.uris ⊆ (addProblem band store line).uris := by
    intro store line uri member
    rw [addProblem]
    split
    next key diagnostic _ =>
      rw [ProblemStore.uris, Table.mem_keys_iff] at member ⊢
      rcases member with ⟨problems, found⟩
      rw [ProblemStore.add, Table.find?_alter]
      split
      · exact ⟨_, rfl⟩
      · exact ⟨problems, found⟩
    next => exact member
  change pipeline.problems.uris ⊆ (lines.foldl (addProblem band) pipeline.problems).uris
  induction lines generalizing pipeline with
  | nil => exact List.Subset.refl _
  | cons line rest inductionHypothesis =>
      have first := one pipeline.problems line
      have others := inductionHypothesis
        { pipeline with problems := addProblem band pipeline.problems line }
      exact List.Subset.trans first others

/-- A batch empties entries and removes none. -/
theorem uris_clearProblems (store : ProblemStore) (batch : List Document) :
    (clearProblems store batch).uris = store.uris := by
  rw [clearProblems, ProblemStore.uris, ProblemStore.clearAllAnalysis, Table.keys_map]
  induction batch generalizing store with
  | nil => rfl
  | cons document rest inductionHypothesis =>
      rw [List.foldl_cons, inductionHypothesis]
      exact Table.keys_map store.documents _

/-! ## Operations -/

theorem coherent_kept : KeptByShowing Coherent where
  quiet coherent uttered _ problems := by
    have published := uttered.publications
    rw [List.append_nil] at published
    apply coherent.of_subset published
    rw [problems]
    exact List.Subset.refl _
  sends coherent uttered _ problems := by
    have published := uttered.publications
    rw [List.append_nil] at published
    apply coherent.of_subset published
    rw [problems, uris_clearProblems]
    exact List.Subset.refl _
  publishes coherent uttered problems := (coherent.published uttered.publications problems).coherent
  retracts coherent uttered problems := (coherent.retracted uttered.publications problems).coherent

theorem Coherent.handleSegment (coherent : before.Coherent) (now : Instant)
    (segment : Except Wire.FrameFault Wire.Frame) :
    (before.handleSegment now segment).Coherent := by
  apply coherent_kept.handleSegment coherent now
  intro band lines _
  exact coherent.of_subset rfl (uris_subset_addProblems before band lines)

theorem Coherent.handleSegments (coherent : before.Coherent) (now : Instant)
    (segments : List (Except Wire.FrameFault Wire.Frame)) :
    (segments.foldl (Pipeline.handleSegment now) before).Coherent := by
  induction segments generalizing before with
  | nil => exact coherent
  | cons segment rest inductionHypothesis =>
      exact inductionHypothesis (coherent.handleSegment now segment)

theorem Coherent.stopped (coherent : before.Coherent) : before.stopped.Blank :=
  coherent.retracted (retired_publications before .killed) rfl

theorem Coherent.recover (coherent : before.Coherent) (status : String) :
    (before.recover status).Blank :=
  coherent.retracted (retired_publications before (.crashed status)) rfl

theorem Coherent.operate {operation : Operation} (coherent : before.Coherent)
    (applied : before.operate? operation = some after) : after.Coherent := by
  have entries := List.Subset.refl before.problems.uris
  cases operation with
  | starting =>
      cases applied
      exact coherent.of_subset (emit_publications before .starting) entries
  | attach now =>
      cases applied
      exact coherent.of_subset (emit_publications before .running) entries
  | block =>
      cases applied
      exact coherent.of_subset (dismissed_publications before _ .blocked) entries
  | spawnFailed reason =>
      cases applied
      exact coherent.of_subset (dismissed_publications before _ (.aborted reason)) entries
  | stopped => cases applied; exact coherent.stopped.coherent
  | recover status => cases applied; exact (coherent.recover status).coherent
  | load documents now => cases applied; exact coherent_kept.load coherent documents now
  | edit document version now =>
      cases applied
      exact coherent_kept.edit coherent document version now
  | flush now => cases applied; exact coherent_kept.flush coherent now
  | submit id query now => exact coherent_kept.submit coherent applied
  | requestRestart => cases applied; exact coherent_kept.requestRestart coherent
  | chunk bytes now =>
      cases applied
      have buffered : { before with frames := (before.frames.push bytes).2 }.Coherent := coherent
      exact buffered.handleSegments now _
  | watchdogExpired =>
      cases applied
      exact coherent.of_subset (dismissed_publications before _ _) entries
  | applyTiming timing => cases applied; exact coherent

theorem run?_coherent {timing : Timing} {operations : List Operation} {pipeline : Pipeline}
    (ran : (Pipeline.new timing).run? operations = some pipeline) : pipeline.Coherent := by
  apply run?_induction (motive := fun _ pipeline => pipeline.Coherent) _ _ ran
  · exact fun _ shows => absurd rfl shows
  · exact fun _ _ _ _ coherent applied => coherent.operate applied

/-! ## Between the frames of a chunk -/

/-- The pipeline after the first frames and faults of a chunk. -/
def partway (pipeline : Pipeline) (chunk : List UInt8) (now : Instant) (count : Nat) : Pipeline :=
  ((pipeline.frames.push chunk).1.take count).foldl (handleSegment now)
    { pipeline with frames := (pipeline.frames.push chunk).2 }

theorem partway_all (pipeline : Pipeline) (chunk : List UInt8) (now : Instant) :
    pipeline.partway chunk now (pipeline.frames.push chunk).1.length =
      pipeline.handleChunk chunk now := by
  rw [partway, List.take_length]
  rfl

theorem partway_succ {pipeline : Pipeline} {chunk : List UInt8} {count : Nat}
    {segment : Except Wire.FrameFault Wire.Frame}
    (next : (pipeline.frames.push chunk).1[count]? = some segment) (now : Instant) :
    pipeline.partway chunk now (count + 1) =
      (pipeline.partway chunk now count).handleSegment now segment := by
  rw [partway, List.take_add_one, next, List.foldl_append]
  rfl

theorem Coherent.partway (coherent : before.Coherent) (chunk : List UInt8) (now : Instant)
    (count : Nat) : (before.partway chunk now count).Coherent := by
  have buffered : { before with frames := (before.frames.push chunk).2 }.Coherent := coherent
  exact buffered.handleSegments now _

/-! ## Analyses and restarts -/

theorem Coherent.analysed (coherent : before.Coherent) (now : Instant) :
    (before.analysed now).UpToDate :=
  coherent.published (analysed_publications before now) (progress_problems _ now)

theorem blank_kept : KeptByShowing Blank where
  quiet blank uttered _ problems :=
    ⟨problems.trans blank.1, fun uri =>
      (display_of_not_mem uttered.publications List.not_mem_nil).trans (blank.2 uri)⟩
  sends blank uttered _ problems := by
    rw [blank.1, clearProblems_empty] at problems
    exact ⟨problems, fun uri =>
      (display_of_not_mem uttered.publications List.not_mem_nil).trans (blank.2 uri)⟩
  publishes blank uttered problems := by
    rw [blank.1] at uttered
    exact ⟨problems.trans blank.1, fun uri =>
      (display_of_not_mem uttered.publications List.not_mem_nil).trans (blank.2 uri)⟩
  retracts blank uttered problems := blank.coherent.retracted uttered.publications problems

/-- A fresh start blanks the display, and the batch that follows it adds nothing. -/
theorem Coherent.restarted (coherent : before.Coherent) (now : Instant) :
    (before.restarted now).Blank := by
  have reset : before.resetForReload.Blank :=
    coherent.retracted (resetForReload_utters before).publications rfl
  have recounted : { before.resetForReload with analysesPending := 0 }.Blank := reset
  exact blank_kept.listen recounted now

/-- Whatever was done to a pipeline, and between any two frames of a chunk, a document that shows
anything has an entry in the problem store.  The end of an analysis brings the display in line with
the store.  A compiler that is stopped or that ends, and one that starts afresh, leaves neither
problems nor anything on display. -/
theorem display_answers_to_store {timing : Timing} {operations : List Operation}
    {pipeline : Pipeline} (ran : (Pipeline.new timing).run? operations = some pipeline) :
    pipeline.Coherent ∧ pipeline.stopped.Blank ∧ (forall status, (pipeline.recover status).Blank) ∧
    forall chunk now,
      pipeline.partway chunk now (pipeline.frames.push chunk).1.length =
        pipeline.handleChunk chunk now ∧
      forall count,
        (pipeline.partway chunk now count).Coherent ∧
        forall frame, (pipeline.frames.push chunk).1[count]? = some (.ok frame) ->
          (pipeline.partway chunk now count).phase ≠ .aborted ->
            (frame.command = .analysed -> (pipeline.partway chunk now (count + 1)).UpToDate) ∧
            (frame.command = .restart -> (pipeline.partway chunk now (count + 1)).Blank) := by
  have coherent := run?_coherent ran
  refine ⟨coherent, coherent.stopped, coherent.recover, ?_⟩
  intro chunk now
  refine ⟨pipeline.partway_all chunk now, ?_⟩
  intro count
  have midway := coherent.partway chunk now count
  refine ⟨midway, ?_⟩
  rintro ⟨command, lines⟩ next alive
  rw [partway_succ next now]
  change (_ -> ((pipeline.partway chunk now count).handleFrame ⟨command, lines⟩ now).UpToDate) ∧
    (_ -> ((pipeline.partway chunk now count).handleFrame ⟨command, lines⟩ now).Blank)
  rw [handleFrame, if_neg alive]
  constructor
  · rintro rfl
    exact midway.analysed now
  · rintro rfl
    exact midway.restarted now

/-- A compiler has analysed a document, with a problem in a library. -/
def troubledLibrary : List Operation :=
  [.starting, .attach 0, .load [⟨"file:///a", "x"⟩] 0, .chunk (Text.Utf8.bytesOf
    "LISTEN\n\x0cDIAG PARSE\nerror\tfile:///lib\t1\t1\t1\t2\told\n\x0cANALYSED\n\x0c") 1]

/-- It finds another one, and then starts afresh. -/
def secondThoughts : List UInt8 :=
  Text.Utf8.bytesOf
    "DIAG ANALYSIS\nerror\tfile:///lib\t2\t1\t2\t2\tnew\n\x0cANALYSED\n\x0cRESTART\n\x0c"

theorem troubledLibrary_answers_to_store : exists pipeline,
    (Pipeline.new Timing.default).run? troubledLibrary = some pipeline ∧
      (pipeline.display "file:///lib").map Diagnostic.message = ["old"] ∧ pipeline.Coherent ∧
      ((pipeline.partway secondThoughts 7 2).display "file:///lib").map Diagnostic.message =
        ["old", "new"] ∧
      (pipeline.partway secondThoughts 7 2).UpToDate ∧
      (pipeline.handleChunk secondThoughts 7).Blank := by
  have ran : ((Pipeline.new Timing.default).run? troubledLibrary).isSome := by decide +kernel
  rcases Option.isSome_iff_exists.mp ran with ⟨pipeline, reached⟩
  have seen : ((Pipeline.new Timing.default).run? troubledLibrary).map (fun pipeline =>
      (pipeline.frames.pending, (pipeline.display "file:///lib").map Diagnostic.message,
        ((pipeline.partway secondThoughts 7 2).display "file:///lib").map Diagnostic.message,
        (pipeline.partway secondThoughts 7 1).phase, (pipeline.partway secondThoughts 7 2).phase)) =
      some ([], ["old"], ["old", "new"], .analysed, .analysed) := by
    decide +kernel
  rw [reached, Option.map_some, Option.some.injEq] at seen
  simp only [Prod.mk.injEq] at seen
  rcases seen with ⟨waiting, first, second, busy, done⟩
  have frames : (pipeline.frames.push secondThoughts).1.drop 1 =
      [.ok ⟨.analysed, []⟩, .ok ⟨.restart, []⟩] := by
    rw [Wire.FrameBuffer.push, waiting]
    rfl
  have next : forall count, (pipeline.frames.push secondThoughts).1[1 + count]? =
      [Except.ok ⟨.analysed, []⟩, Except.ok ⟨.restart, []⟩][count]? := by
    intro count
    rw [← List.getElem?_drop, frames]
  have three : (pipeline.frames.push secondThoughts).1.length = 3 := by
    have two := congrArg List.length frames
    rw [List.length_drop, List.length_cons, List.length_singleton] at two
    omega
  have law := display_answers_to_store reached
  rcases law.2.2.2 secondThoughts 7 with ⟨whole, along⟩
  rw [three] at whole
  refine ⟨pipeline, reached, first, law.1, second, ?_, ?_⟩
  · exact ((along 1).2 _ (next 0) (by rw [busy]; decide)).1 rfl
  · rw [← whole]
    exact ((along 2).2 _ (next 1) (by rw [done]; decide)).2 rfl

end Pipeline
end Session
end LanguageServer
