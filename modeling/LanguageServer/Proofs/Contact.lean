import LanguageServer.Proofs.Frames
import LanguageServer.Proofs.Safekeeping

namespace LanguageServer
namespace Session
namespace Pipeline

/-!
# Contact with the compiler

What the pipeline knows of the compiler is its phase, whether there is one to write to, and the
bytes that wait for their separator.  Orders of the editor leave all three alone.  Output of the
compiler can only bring the phase forward: once the compiler has said that it takes edits, it keeps
taking them.
-/

/-- There is a compiler, as far as the phase tells. -/
def Live (pipeline : Pipeline) : Prop := pipeline.phase = .starting ∨ pipeline.Taking

/-- There is no compiler, as far as the phase tells. -/
def Gone (pipeline : Pipeline) : Prop :=
  pipeline.phase = .stopped ∨ pipeline.phase = .blocked ∨ pipeline.phase = .aborted

theorem Gone.not_taking {pipeline : Pipeline} (gone : pipeline.Gone) : ¬pipeline.Taking := by
  rintro (listening | analysed)
  · simp [Gone, listening] at gone
  · simp [Gone, analysed] at gone

structure KeepsContact (before after : Pipeline) : Prop where
  phase : after.phase = before.phase
  attached : after.attached = before.attached
  frames : after.frames = before.frames
  speech : exists texts, Speaks before texts after

theorem LeavesDocuments.keepsContact {before after : Pipeline}
    (left : LeavesDocuments before after) : KeepsContact before after :=
  ⟨left.phase, left.attached, left.frames, [], left.speech⟩

theorem KeepsContact.trans {first second third : Pipeline} (one : KeepsContact first second)
    (two : KeepsContact second third) : KeepsContact first third := by
  rcases one.speech with ⟨earlier, spoken⟩
  rcases two.speech with ⟨later, spokenNext⟩
  exact ⟨two.phase.trans one.phase, two.attached.trans one.attached, two.frames.trans one.frames,
    earlier ++ later, spoken.trans spokenNext⟩

theorem sendBatch_keepsContact (pipeline : Pipeline) (now : Instant) :
    KeepsContact pipeline (pipeline.sendBatch now) := by
  refine ⟨sendBatch_phase pipeline now, sendBatch_attached pipeline now,
    sendBatch_frames pipeline now, ?_⟩
  cases attached : pipeline.attached with
  | true => exact ⟨_, sendBatch_speaks attached now⟩
  | false =>
      refine ⟨[], Speaks.silent ?_⟩
      by_cases nothing : pipeline.edits.pendingDocuments = []
      · rw [sendBatch_of_nothing nothing]
      · rw [sendBatch_of_pending nothing]
        simp [attached]

theorem flush_keepsContact (pipeline : Pipeline) (now : Instant) :
    KeepsContact pipeline (pipeline.flush now) := by
  rw [flush]
  split
  · exact sendBatch_keepsContact pipeline now
  · exact (holdEdits_leavesDocuments pipeline).keepsContact

theorem edit_keepsContact (pipeline : Pipeline) (document : Document) (version : Option Int)
    (now : Instant) : KeepsContact pipeline (pipeline.edit document version now).1 := by
  rcases edit_files pipeline document version now with ⟨edits, filed, _⟩
  rw [filed]
  exact ⟨rfl, rfl, rfl, [], Speaks.silent rfl⟩

theorem write_keepsContact (pipeline : Pipeline) (text : String) :
    KeepsContact pipeline (pipeline.write text) := by
  rw [write]
  split
  · exact ⟨rfl, rfl, rfl, [text], [.write text], rfl, by simp [Effect.isWord], rfl⟩
  · exact (LeavesDocuments.refl pipeline).keepsContact

theorem requestRestart_keepsContact (pipeline : Pipeline) :
    KeepsContact pipeline pipeline.requestRestart := by
  rw [requestRestart]
  split
  · exact write_keepsContact pipeline _
  · exact (LeavesDocuments.refl pipeline).keepsContact

theorem submit_keepsContact {pipeline after : Pipeline} {id : RequestId} {query : Wire.Query}
    {now : Instant} (submitted : pipeline.submit? id query now = some after) :
    KeepsContact pipeline after := by
  have settled : forall settlement,
      KeepsContact pipeline (pipeline.perform [.settle settlement]) := fun settlement =>
    (settle_leavesDocuments pipeline [settlement]).keepsContact
  rw [submit?] at submitted
  split at submitted
  · cases submitted
    exact settled _
  split at submitted
  · have ready : KeepsContact pipeline
        (if needsLatestText query.kind then pipeline.flush now else pipeline) := by
      split
      · exact flush_keepsContact pipeline now
      · exact (LeavesDocuments.refl pipeline).keepsContact
    cases encoded : query.encode? with
    | none => simp [encoded] at submitted
    | some text =>
        simp only [encoded, Option.some.injEq] at submitted
        subst after
        have written := ready.trans (write_keepsContact _ text)
        exact ⟨written.phase, written.attached, written.frames, written.speech⟩
  · cases submitted
    exact settled _

/-! ## Letting go of a compiler -/

theorem stopped_speaks (pipeline : Pipeline) : Speaks pipeline [] pipeline.stopped :=
  ((resolveAll_leavesDocuments pipeline).speech.trans (publish_speaks _ _)).trans (emit_speaks _ _)

theorem recover_speaks (pipeline : Pipeline) (status : String) :
    Speaks pipeline [] (pipeline.recover status) :=
  ((resolveAll_leavesDocuments pipeline).speech.trans (publish_speaks _ _)).trans (emit_speaks _ _)

theorem watchdogExpired_speaks (pipeline : Pipeline) :
    Speaks pipeline [] pipeline.watchdogExpired :=
  (rejectAll_leavesDocuments pipeline _).speech.trans (emit_speaks _ _)

theorem block_speaks (pipeline : Pipeline) : Speaks pipeline [] pipeline.block :=
  (resolveAll_leavesDocuments pipeline).speech.trans (emit_speaks _ _)

theorem spawnFailed_speaks (pipeline : Pipeline) (reason : String) :
    Speaks pipeline [] (pipeline.spawnFailed reason) :=
  (rejectAll_leavesDocuments pipeline _).speech.trans (emit_speaks _ _)

/-! ## Output -/

/-- What segments of output do to the contact. -/
structure Hears (before : Pipeline) (segments : List (Except Wire.FrameFault Wire.Frame))
    (after : Pipeline) : Prop where
  attached : after.attached = before.attached
  frames : after.frames = before.frames
  speech : exists texts, Speaks before texts after
  phase : after.phase = before.phase ∨ after.Taking
  /-- A compiler that is still starting has not greeted. -/
  starting : after.phase = .starting -> forall segment, segment ∈ segments ->
    Wire.greets segment = false

variable {pipeline : Pipeline}

theorem Taking.not_starting (taking : pipeline.Taking) : pipeline.phase ≠ .starting := by
  intro starting
  rcases taking with listening | analysed
  · exact nomatch starting.symm.trans listening
  · exact nomatch starting.symm.trans analysed

section Hears

variable {after : Pipeline} {segments : List (Except Wire.FrameFault Wire.Frame)}

/-- Output does not take the compiler back to its start. -/
theorem Hears.was_starting (hears : Hears pipeline segments after)
    (starting : after.phase = .starting) : pipeline.phase = .starting := by
  rcases hears.phase with same | taking
  · exact same.symm.trans starting
  · exact absurd starting taking.not_starting

theorem Hears.live (hears : Hears pipeline segments after) (live : pipeline.Live) : after.Live := by
  rcases hears.phase with same | taking
  · rw [Live, Taking, same]
    exact live
  · exact Or.inr taking

end Hears

theorem KeepsContact.hears {after : Pipeline} (kept : KeepsContact pipeline after)
    {segment : Except Wire.FrameFault Wire.Frame} (inert : Wire.greets segment = false) :
    Hears pipeline [segment] after :=
  ⟨kept.attached, kept.frames, kept.speech, Or.inl kept.phase, by simpa using fun _ => inert⟩

/-- A step that ends with a compiler that takes edits needs no proof of silence. -/
theorem Hears.taking {after : Pipeline} {segments : List (Except Wire.FrameFault Wire.Frame)}
    (attached : after.attached = pipeline.attached) (frames : after.frames = pipeline.frames)
    (speech : exists texts, Speaks pipeline texts after) (taking : after.Taking) :
    Hears pipeline segments after := by
  refine ⟨attached, frames, speech, Or.inr taking, ?_⟩
  intro starting
  exact absurd starting taking.not_starting

theorem listen_speaks (pipeline : Pipeline) (now : Instant) :
    exists texts, Speaks pipeline texts (pipeline.listen now) := by
  rcases (sendBatch_keepsContact pipeline.welcome now).speech with ⟨texts, sent⟩
  exact ⟨_, ((welcome_speaks pipeline).trans sent).trans (progress_leavesDocuments _ now).speech⟩

theorem listen_hears (pipeline : Pipeline) (now : Instant)
    (segments : List (Except Wire.FrameFault Wire.Frame)) :
    Hears pipeline segments (pipeline.listen now) := by
  rcases listen_fields pipeline now with ⟨phase, _, attached, frames⟩
  exact Hears.taking attached frames (listen_speaks pipeline now) (Or.inl phase)

theorem restarted_hears (pipeline : Pipeline) (now : Instant)
    (segments : List (Except Wire.FrameFault Wire.Frame)) :
    Hears pipeline segments (pipeline.restarted now) := by
  rcases listen_fields { pipeline.resetForReload with analysesPending := 0 } now with
    ⟨phase, _, attached, frames⟩
  rcases listen_speaks { pipeline.resetForReload with analysesPending := 0 } now with ⟨texts, sent⟩
  have cleared : Speaks pipeline [] { pipeline.resetForReload with analysesPending := 0 } :=
    publish_speaks pipeline _
  exact Hears.taking attached frames ⟨_, cleared.trans sent⟩ (Or.inl phase)

theorem analysed_hears (pipeline : Pipeline) (now : Instant)
    (segments : List (Except Wire.FrameFault Wire.Frame)) :
    Hears pipeline segments (pipeline.analysed now) := by
  rcases analysed_fields pipeline now with ⟨phase, _, attached, frames⟩
  have rearmed := progress_leavesDocuments pipeline.conclude now
  have speech := (conclude_speaks pipeline).trans rearmed.speech
  exact Hears.taking attached frames ⟨_, speech⟩ (Or.inr phase)

theorem handleSegment_hears (pipeline : Pipeline) (now : Instant)
    (segment : Except Wire.FrameFault Wire.Frame) :
    Hears pipeline [segment] (pipeline.handleSegment now segment) := by
  cases segment with
  | error fault => exact (protocolError_leavesDocuments pipeline fault now).keepsContact.hears rfl
  | ok frame =>
      have inert : forall command, frame.command = command -> command ≠ .listen ->
          command ≠ .restart -> Wire.greets (.ok frame) = false := by
        intro command same notListen notRestart
        simp [Wire.greets, same, notListen, notRestart]
      refine handleFrame_cases (motive := Hears pipeline [.ok frame]) ?_ ?_ ?_ ?_ ?_ ?_ ?_
      · intro aborted
        refine ⟨rfl, rfl, ⟨[], Speaks.silent rfl⟩, Or.inl rfl, ?_⟩
        rw [aborted]
        exact nofun
      · exact fun _ => listen_hears pipeline now _
      · intro band report
        refine (addProblems_leavesDocuments pipeline band frame.lines).keepsContact.hears ?_
        cases band with
        | parse => exact inert _ report nofun nofun
        | analysis => exact inert _ report nofun nofun
      · exact fun _ => analysed_hears pipeline now _
      · intro raised
        exact (raised_leavesDocuments pipeline frame.lines now).keepsContact.hears
          (inert _ raised nofun nofun)
      · exact fun _ => restarted_hears pipeline now _
      · intro kind answers
        refine (respond_leavesDocuments pipeline kind frame.lines now).keepsContact.hears
          (inert _ rfl ?_ ?_)
        · intro listen
          rw [listen] at answers
          exact nomatch answers
        · intro restart
          rw [restart] at answers
          exact nomatch answers

theorem Hears.trans {first second third : Pipeline}
    {earlier later : List (Except Wire.FrameFault Wire.Frame)} (one : Hears first earlier second)
    (two : Hears second later third) : Hears first (earlier ++ later) third := by
  rcases one.speech with ⟨texts, spoken⟩
  rcases two.speech with ⟨more, spokenNext⟩
  refine ⟨two.attached.trans one.attached, two.frames.trans one.frames,
    ⟨texts ++ more, spoken.trans spokenNext⟩, ?_, ?_⟩
  · rcases two.phase with same | taking
    · rcases one.phase with sameEarlier | taking
      · exact Or.inl (same.trans sameEarlier)
      · exact Or.inr (by rw [Taking, same]; exact taking)
    · exact Or.inr taking
  · intro starting segment member
    rcases List.mem_append.mp member with inEarlier | inLater
    · exact one.starting (two.was_starting starting) segment inEarlier
    · exact two.starting starting segment inLater

/-- Segments one after the other. -/
theorem handleSegments_hears (now : Instant)
    (segments : List (Except Wire.FrameFault Wire.Frame)) (pipeline : Pipeline) :
    Hears pipeline segments (segments.foldl (handleSegment now) pipeline) := by
  induction segments generalizing pipeline with
  | nil => exact ⟨rfl, rfl, ⟨[], Speaks.silent rfl⟩, Or.inl rfl, nofun⟩
  | cons segment rest inductionHypothesis =>
      exact (handleSegment_hears pipeline now segment).trans (inductionHypothesis _)

/-- What every segment keeps is kept by the output of a compiler that greets before it concludes,
counting what came earlier.  A segment that concludes then finds a compiler that takes edits. -/
theorem handleSegments_greeted {motive : Pipeline -> Prop} {now : Instant}
    (step : forall (pipeline : Pipeline) (segment : Except Wire.FrameFault Wire.Frame),
      motive pipeline -> pipeline.attached = true ->
      (Wire.concludes segment = true -> pipeline.Taking) ->
      motive (pipeline.handleSegment now segment))
    {earlier segments : List (Except Wire.FrameFault Wire.Frame)} (held : motive pipeline)
    (attached : pipeline.attached = true) (live : pipeline.Live)
    (silent : pipeline.phase = .starting -> forall segment, segment ∈ earlier ->
      Wire.greets segment = false)
    (greeted : Wire.greetsFirst (earlier ++ segments) = true) :
    motive (segments.foldl (handleSegment now) pipeline) := by
  induction segments generalizing pipeline earlier with
  | nil => exact held
  | cons segment rest inductionHypothesis =>
      have hears := handleSegment_hears pipeline now segment
      have taking : Wire.concludes segment = true -> pipeline.Taking := by
        intro concludes
        rcases live with starting | taking
        · -- A compiler that has not greeted cannot conclude.
          have inert : Wire.greets segment = false := by
            cases segment with
            | error fault => rfl
            | ok frame =>
                have analysed : frame.command = .analysed := of_decide_eq_true concludes
                simp [Wire.greets, analysed]
          rw [Wire.not_concludes_of_greetsFirst greeted (silent starting) inert] at concludes
          cases concludes
        · exact taking
      have silentNext : (pipeline.handleSegment now segment).phase = .starting ->
          forall other, other ∈ earlier ++ [segment] -> Wire.greets other = false := by
        intro starting other member
        rcases List.mem_append.mp member with before | last
        · exact silent (hears.was_starting starting) other before
        · exact hears.starting starting other last
      rw [List.append_cons] at greeted
      exact inductionHypothesis (step pipeline segment held attached taking)
        (hears.attached.trans attached) (hears.live live) silentNext greeted

end Pipeline
end Session
end LanguageServer
