import LanguageServer.Proofs.Crashes
import LanguageServer.Proofs.QuietPeriod

namespace LanguageServer

/-!
# Where the text of a document comes from

A document can be given to a session many times, by edits and by the lists of documents that come
with every start.  What the session makes of it follows one rule.  The last accepted edit counts,
and without an edit the text that the document was given with first.  Compilers may come and go in
between; no greeting is asked of them.

A compiler that says that it listens is told every document by this rule.  So a start that is
repeated brings the text of a document that is new to the session, and does not replace the text of
one that an earlier start has brought.
-/

/-- What is in the text of a document shows in the message that carries it. -/
theorem Wire.Message.mem_of_carried {message : Message} {written : String}
    (encoded : message.encode? = some written) {document : Document}
    (carried : document ∈ message.documents) {character : Char}
    (inside : character ∈ document.text.toList) : character ∈ written.toList := by
  cases message with
  | query asked => cases carried
  | restart => cases carried
  | edit documents =>
      cases encoded
      rw [editText, String.toList_append]
      apply List.mem_append_right
      change document ∈ documents at carried
      induction documents with
      | nil => cases carried
      | cons head rest inductionHypothesis =>
          rw [List.map_cons, String.join_cons, String.toList_append, String.toList_push]
          rcases List.mem_cons.mp carried with rfl | later
          · exact List.mem_append_left _ (List.mem_append_left _ inside)
          · exact List.mem_append_right _ (inductionHypothesis later)

namespace Session

/-- The text of a document by what the session was given. -/
def Intake.text? (intake : Intake) (uri : String) : Option String :=
  (Document.latest? uri intake.accepted).or (Document.first? uri intake.loaded)

theorem Intake.text?_edit (intake : Intake) (document : Document) (uri : String) :
    Intake.text? { intake with accepted := intake.accepted ++ [document] } uri =
      if uri = document.uri then some document.text else intake.text? uri := by
  rw [text?, Document.latest?_append, Document.latest?, Document.latest?_nil, Option.none_or]
  by_cases here : document.uri = uri
  · rw [if_pos here, if_pos here.symm, Option.some_or, Option.some_or]
  · rw [if_neg here, if_neg (Ne.symm here), Option.none_or]
    rfl

theorem Intake.text?_load (intake : Intake) (documents : List Document) (uri : String) :
    Intake.text? { intake with loaded := intake.loaded ++ documents } uri =
      (intake.text? uri).or (Document.first? uri documents) := by
  rw [text?, Document.first?_append, ← Option.or_assoc]
  rfl

namespace Pipeline

variable {intake : Intake} {before after : Pipeline} {uri : String}

/-! ## What is known -/

theorem known?_flush (pipeline : Pipeline) (now : Instant) (uri : String) :
    (pipeline.flush now).known? uri = pipeline.known? uri := by
  rw [flush]
  split
  · exact known?_sendBatch pipeline now uri
  · rfl

theorem known?_write (pipeline : Pipeline) (text : String) (uri : String) :
    (pipeline.write text).known? uri = pipeline.known? uri := by
  rw [write_eq]
  rfl

theorem known?_submit {id : RequestId} {query : Wire.Query} {now : Instant}
    (submitted : before.submit? id query now = some after) :
    after.known? uri = before.known? uri := by
  have ready : (if needsLatestText query.kind then before.flush now else before).known? uri =
      before.known? uri := by
    split
    · exact known?_flush before now uri
    · rfl
  rw [submit?] at submitted
  split at submitted
  · cases submitted
    rfl
  split at submitted
  · cases encoded : query.encode? with
    | none => simp [encoded] at submitted
    | some text =>
        simp only [encoded, Option.some.injEq] at submitted
        subst after
        exact (known?_write _ text uri).trans ready
  · cases submitted
    rfl

theorem known?_listen (pipeline : Pipeline) (now : Instant) (uri : String) :
    (pipeline.listen now).known? uri = pipeline.known? uri := by
  rw [listen_eq, (progress_leavesDocuments _ now).known?, known?_sendBatch]
  exact known?_seed pipeline uri

theorem known?_handleSegment (filed : before.edits.Filed) (now : Instant)
    (segment : Except Wire.FrameFault Wire.Frame) :
    (before.handleSegment now segment).known? uri = before.known? uri := by
  cases segment with
  | error fault => exact (protocolError_leavesDocuments before fault now).known? uri
  | ok frame =>
      apply handleFrame_cases (motive := fun after => after.known? uri = before.known? uri)
      case ignored => exact fun _ => rfl
      case listen => exact fun _ => known?_listen before now uri
      case report => exact fun band _ => rfl
      case analysed => exact fun _ => (analysed_sameDocuments before now).known? uri
      case raised => exact fun _ => (raised_leavesDocuments before frame.lines now).known? uri
      case restarted =>
        exact fun _ => (known?_listen _ now uri).trans (known?_keepForReload filed uri)
      case respond =>
        exact fun kind _ => (respond_leavesDocuments before kind frame.lines now).known? uri

/-- A document is known by the text that it was given. -/
structure Sourced (intake : Intake) (pipeline : Pipeline) : Prop where
  faithful : Faithful intake.accepted intake.loaded pipeline
  known : forall uri, pipeline.known? uri = intake.text? uri

namespace Sourced

theorem filed (sourced : Sourced intake before) : before.edits.Filed := by
  rcases sourced.faithful.keeps with ⟨_, keeps⟩
  exact keeps.filed

/-- An edit that is accepted replaces the text, and one that is not changes nothing. -/
theorem edit (sourced : Sourced intake before) (document : Document) (version : Option Int)
    (now : Instant) :
    Sourced (intake.enter before (.edit document version now))
      (before.edit document version now).1 := by
  refine ⟨sourced.faithful.edit document version now, fun uri => ?_⟩
  have verdict := edit_accepts before document version now
  rcases edit_files before document version now with ⟨edits, same, drafts⟩
  rw [Intake.enter, same]
  rcases EditQueue.edit_cases before.edits document version now with
    ⟨stored, given, found⟩ | ⟨repeated, text⟩ | refused
  · rw [if_pos (verdict.mpr (by simp [stored])), Intake.text?_edit, ← sourced.known uri]
    rw [← drafts] at found
    exact @known?_file before { before with edits := edits } document given found rfl uri
  · rw [if_pos (verdict.mpr (by simp [repeated])), Intake.text?_edit, ← sourced.known uri]
    have unchanged : known? { before with edits := edits } uri = before.known? uri := by
      rw [known?, EditQueue.text?, drafts, repeated]
      rfl
    rw [unchanged]
    split
    next here =>
      rw [here, known?, text, Option.some_or]
    next => rfl
  · have notAccepted : ¬(before.edit document version now).2.isNone = true := by
      rw [verdict, refused]
      simp
    rw [if_neg notAccepted, List.append_nil, known?, EditQueue.text?, drafts, refused]
    exact sourced.known uri

theorem operate (sourced : Sourced intake before) {operation : Operation}
    (timely : operation.Timely before) (applied : before.operate? operation = some after) :
    Sourced (intake.enter before operation) after := by
  have same : (forall uri, after.known? uri = before.known? uri) ->
      intake.enter before operation = intake -> Sourced (intake.enter before operation) after := by
    intro unchanged nothing
    refine ⟨sourced.faithful.operate timely applied, fun uri => ?_⟩
    rw [nothing, unchanged, sourced.known]
  have away := known?_keepForReload sourced.filed
  cases operation with
  | starting => cases applied; exact same (fun _ => rfl) rfl
  | attach now => cases applied; exact same (fun _ => rfl) rfl
  | block => cases applied; exact same (fun _ => rfl) rfl
  | spawnFailed reason => cases applied; exact same (fun _ => rfl) rfl
  | stopped => cases applied; exact same away rfl
  | recover status => cases applied; exact same away rfl
  | watchdogExpired => cases applied; exact same away rfl
  | load documents now =>
      refine ⟨sourced.faithful.operate timely applied, fun uri => ?_⟩
      cases applied
      rw [load_of_idle timely, known?_mergeReload, sourced.known]
      exact (Intake.text?_load intake documents uri).symm
  | edit document version now =>
      cases applied
      exact sourced.edit document version now
  | flush now => cases applied; exact same (known?_flush before now) rfl
  | submit id query now => exact same (fun _ => known?_submit applied) rfl
  | requestRestart =>
      cases applied
      refine same (fun uri => ?_) rfl
      rw [Pipeline.requestRestart]
      split
      · exact known?_write before _ uri
      · rfl
  | applyTiming timing => cases applied; exact same (fun _ => rfl) rfl
  | chunk bytes now => cases timely

end Sourced

theorem sourced_enduring : Enduring Sourced where
  operate := fun _ sourced timely applied => sourced.operate timely applied
  kill := fun generations sourced => ⟨sourced.faithful.kill generations, sourced.known⟩
  launch := fun generation plan sourced starting =>
    ⟨faithful_enduring.launch generation plan sourced.faithful starting, sourced.known⟩
  settle := fun settlement sourced =>
    ⟨faithful_enduring.settle settlement sourced.faithful, sourced.known⟩
  dismiss := fun sourced => ⟨faithful_enduring.dismiss sourced.faithful, sourced.known⟩

theorem Sourced.handleChunk (sourced : Sourced intake before) (attached : before.attached = true)
    (chunk : List UInt8) (now : Instant) : Sourced intake (before.handleChunk chunk now) := by
  refine handleChunk_attached (motive := Sourced intake) ?_ ?_ sourced attached chunk
  · exact fun _ frames held => ⟨held.faithful.buffer frames, held.known⟩
  · intro pipeline segment held contact
    refine ⟨held.faithful.handleSegment contact now segment, fun uri => ?_⟩
    rw [known?_handleSegment held.filed, held.known]

/-! ## What a compiler is told -/

/-- The compiler takes edits, and there is nothing that it was not told. -/
structure Welcomed (pipeline : Pipeline) : Prop where
  taking : pipeline.Taking
  served : pipeline.reload = []
  sent : pipeline.edits.pendingDocuments = []

theorem listen_welcomed (pipeline : Pipeline) (now : Instant) : (pipeline.listen now).Welcomed := by
  rcases listen_fields pipeline now with ⟨phase, reload, _, _⟩
  refine ⟨Or.inl phase, reload, ?_⟩
  have drafts : (pipeline.listen now).edits.drafts =
      pipeline.welcome.edits.takeBatch.2.drafts := by
    rw [listen_eq, (progress_leavesDocuments _ now).drafts, sendBatch_drafts]
  rw [EditQueue.pendingDocuments, drafts]
  exact EditQueue.takeBatch_pendingDocuments _

theorem Welcomed.leaves (welcomed : before.Welcomed) (same : SameDocuments before after)
    (taking : after.Taking) : after.Welcomed := by
  refine ⟨taking, same.reload.trans welcomed.served, ?_⟩
  rw [EditQueue.pendingDocuments, same.drafts]
  exact welcomed.sent

/-- Once it is welcomed, a compiler stays so whatever it says. -/
theorem Welcomed.handleSegment (welcomed : before.Welcomed) (now : Instant)
    (segment : Except Wire.FrameFault Wire.Frame) :
    (before.handleSegment now segment).Welcomed := by
  have quiet : forall after, LeavesDocuments before after -> after.Welcomed := by
    intro after left
    refine welcomed.leaves left.toSameDocuments ?_
    rw [Taking, left.phase]
    exact welcomed.taking
  cases segment with
  | error fault => exact quiet _ (protocolError_leavesDocuments before fault now)
  | ok frame =>
      apply handleFrame_cases (motive := Welcomed)
      case ignored => exact fun _ => welcomed
      case listen => exact fun _ => listen_welcomed before now
      case report =>
        exact fun band _ => quiet _ (addProblems_leavesDocuments before band frame.lines)
      case analysed =>
        exact fun _ => welcomed.leaves (analysed_sameDocuments before now)
          (Or.inr (analysed_fields before now).1)
      case raised => exact fun _ => quiet _ (raised_leavesDocuments before frame.lines now)
      case restarted => exact fun _ => listen_welcomed _ now
      case respond =>
        exact fun kind _ => quiet _ (respond_leavesDocuments before kind frame.lines now)

/-- A live compiler that greets is welcomed. -/
theorem welcomed_of_greets (live : before.Live) {segment : Except Wire.FrameFault Wire.Frame}
    (greets : Wire.greets segment = true) (now : Instant) :
    (before.handleSegment now segment).Welcomed := by
  have alive : before.phase ≠ .aborted := by
    intro aborted
    simp [Live, Taking, aborted] at live
  cases segment with
  | error fault => cases greets
  | ok frame =>
      show (before.handleFrame frame now).Welcomed
      rw [Wire.greets, Bool.or_eq_true, decide_eq_true_iff, decide_eq_true_iff] at greets
      rw [handleFrame, if_neg alive]
      rcases greets with listen | restart
      · rw [listen]
        exact listen_welcomed before now
      · rw [restart]
        exact listen_welcomed _ now

theorem handleSegments_welcomed {segments : List (Except Wire.FrameFault Wire.Frame)}
    (live : before.Live)
    (greeting : exists segment, segment ∈ segments ∧ Wire.greets segment = true) (now : Instant) :
    (segments.foldl (handleSegment now) before).Welcomed := by
  have stays : forall (segments : List (Except Wire.FrameFault Wire.Frame)) (before : Pipeline),
      before.Welcomed -> (segments.foldl (handleSegment now) before).Welcomed := by
    intro segments
    induction segments with
    | nil => exact fun _ welcomed => welcomed
    | cons segment rest inductionHypothesis =>
        exact fun _ welcomed => inductionHypothesis _ (welcomed.handleSegment now segment)
  induction segments generalizing before with
  | nil =>
      rcases greeting with ⟨_, member, _⟩
      cases member
  | cons first rest inductionHypothesis =>
      by_cases greets : Wire.greets first = true
      · exact stays rest _ (welcomed_of_greets live greets now)
      · rcases greeting with ⟨segment, member, greeting⟩
        rcases List.mem_cons.mp member with same | later
        · rw [same] at greeting
          exact absurd greeting greets
        · exact inductionHypothesis ((handleSegment_hears before now first).live live)
            ⟨segment, later, greeting⟩

/-- A compiler that was told everything was told the text of every document. -/
theorem Sourced.told (sourced : Sourced intake before) (served : before.reload = [])
    (sent : before.edits.pendingDocuments = []) :
    exists messages : List Wire.Message,
      messages.map Wire.Message.encode? = (Effect.told before.outbox).map some ∧
      forall uri text, intake.text? uri = some text ->
        Document.latest? uri (messages.flatMap Wire.Message.documents) = some text := by
  rcases sourced.faithful.keeps with ⟨documents, keeps⟩
  rcases keeps.conveyed with ⟨messages, encoded, carried⟩
  refine ⟨messages, encoded, fun uri text given => ?_⟩
  rw [← sourced.known, known?, served, Document.first?_nil, Option.or_none, EditQueue.text?,
    Option.map_eq_some_iff] at given
  rcases given with ⟨draft, found, same⟩
  have notPending : draft.pending = false := by
    apply Bool.eq_false_iff.mpr
    intro pending
    exact EditQueue.pendingDocuments_ne_nil.mpr ⟨uri, draft, found, pending⟩ sent
  rw [carried, keeps.current uri draft found notPending, same]

end Pipeline

/-! ## What was told stays told -/

namespace Supervisor

/-- As long as no other process is launched, texts are only added to what the compiler was told. -/
structure TellsOn (before after : Supervisor) : Prop where
  generation : before.processes.generation ≤ after.processes.generation
  told : after.processes.generation = before.processes.generation ->
    exists more, Effect.told after.outbox = Effect.told before.outbox ++ more

variable {before after : Supervisor}

theorem TellsOn.of_same (generation : after.processes.generation = before.processes.generation)
    (told : exists more, Effect.told after.outbox = Effect.told before.outbox ++ more) :
    before.TellsOn after :=
  ⟨Nat.le_of_eq generation.symm, fun _ => told⟩

theorem TellsOn.of_newer (newer : before.processes.generation < after.processes.generation) :
    before.TellsOn after :=
  ⟨Nat.le_of_lt newer, fun same => absurd same.symm (Nat.ne_of_lt newer)⟩

theorem TellsOn.refl (supervisor : Supervisor) : supervisor.TellsOn supervisor :=
  .of_same rfl ⟨[], (List.append_nil _).symm⟩

theorem TellsOn.trans {first second third : Supervisor} (one : first.TellsOn second)
    (two : second.TellsOn third) : first.TellsOn third := by
  refine ⟨Nat.le_trans one.generation two.generation, fun same => ?_⟩
  have between : second.processes.generation = first.processes.generation :=
    Nat.le_antisymm (same ▸ two.generation) one.generation
  rcases one.told between with ⟨texts, told⟩
  rcases two.told (same.trans between.symm) with ⟨more, toldNext⟩
  exact ⟨texts ++ more, by rw [toldNext, told, List.append_assoc]⟩

theorem move?_tellsOn {move : Move} (made : before.move? move = some after) :
    before.TellsOn after := by
  refine move?_cases (motive := before.TellsOn) made ?_ ?_ ?_ ?_
  · intro _
    refine .of_same (Processes.stop_generation _) ⟨[], ?_⟩
    exact (Effect.told_append_kills _ _).trans (List.append_nil _).symm
  · intro _ idle
    apply TellsOn.of_newer
    show _ < before.processes.beginLaunch.generation
    rw [Tracked.beginLaunch_of_idle idle]
    exact Nat.lt_succ_self _
  · intro _ idle
    apply TellsOn.of_newer
    rw [Tracked.beginLaunch_of_idle idle]
    exact Nat.lt_succ_self _
  · rintro next _ _ processes ⟨texts, spoken⟩
    exact .of_same (congrArg Processes.generation processes) ⟨texts, spoken.told⟩

theorem step_tellsOn (supervisor : Supervisor) (launch : Launcher) (now : Instant)
    (input : Input) : supervisor.TellsOn (supervisor.step launch now input) := by
  have noted : supervisor.TellsOn (supervisor.noted input) := by
    refine .of_same (noted_generation supervisor input) ⟨[], ?_⟩
    rw [outbox, noted_pipeline]
    exact (List.append_nil _).symm
  have turned := moves?_induction
    (motive := fun _ after => TellsOn (supervisor.noted input) after) (TellsOn.refl _)
    (fun _ _ _ _ held made => held.trans (move?_tellsOn made))
    (moves?_turn supervisor launch now input)
  exact noted.trans turned

end Supervisor

/-- The documents that come with a start. -/
def Happening.loads : Happening -> List Document
  | .order (.start documents) => documents
  | _ => []

namespace World

variable {plan : Plan} {course : List (Circumstances × Happening)} {world : World}

theorem run?_tellsOn {first last : World} (ran : first.run? course = some last) :
    first.supervisor.TellsOn last.supervisor := by
  refine run?_induction (motive := fun _ world => first.supervisor.TellsOn world.supervisor)
    (Supervisor.TellsOn.refl _) ?_ ran
  intro _ world next around happening held taken
  exact held.trans (take?_keeps (Supervisor.TellsOn.refl _)
    (Supervisor.step_tellsOn world.supervisor around.launcher around.now) taken)

/-! ## Every run -/

theorem sourced_run (ran : (World.new plan).run? course = some world) :
    Pipeline.Sourced world.intake world.supervisor.pipeline := by
  refine (run?_orderly (motive := fun _ world =>
    Pipeline.Sourced world.intake world.supervisor.pipeline) ?_ ?_ ran).1
  · have secure := Secure.new plan
    exact ⟨⟨secure.keeps, secure.unsent⟩, fun _ => rfl⟩
  · intro _ world next around happening sourced orderly taken
    refine take?_enduring Pipeline.sourced_enduring sourced orderly ?_ taken
    intro generation chunk _ _ orderly live
    exact sourced.handleChunk (orderly.coupled.live generation live).1 chunk around.now

/-- The documents that come with the starts of a course, in order. -/
def loads (course : List (Circumstances × Happening)) : List Document :=
  course.flatMap (fun moment => moment.2.loads)

theorem take?_loaded {next : World} {around : Circumstances} {happening : Happening}
    (going : world.supervisor.ended = false) (taken : world.take? around happening = some next) :
    next.loaded = world.loaded ++ happening.loads := by
  have quiet : forall (before : World) (input : Input), before.loaded = world.loaded ->
      (before.react around input).loaded = world.loaded ++ [] := by
    intro before input same
    rw [react, (adopt_accounts _ _ _).2.1, same, List.append_nil]
  cases happening with
  | order given =>
      rw [take?] at taken
      rw [← Option.some.inj taken, if_neg (Bool.eq_false_iff.mp going), react,
        (adopt_accounts _ _ _).2.1]
      cases given with
      | start documents => rfl
      | _ => exact (List.append_nil _).symm
  | hear =>
      rw [take?] at taken
      split at taken
      · cases taken
      · cases taken
        exact quiet _ _ rfl
  | editTimer =>
      rw [take?, Option.ite_none_right_eq_some] at taken
      rw [← Option.some.inj taken.2]
      exact quiet _ _ rfl
  | watchdogTimer =>
      rw [take?, Option.ite_none_right_eq_some] at taken
      rw [← Option.some.inj taken.2]
      exact quiet _ _ rfl
  | print generation chunk =>
      rw [take?, Option.ite_none_right_eq_some] at taken
      rw [← Option.some.inj taken.2]
      exact (List.append_nil _).symm
  | exit status =>
      rcases Option.map_eq_some_iff.mp taken with ⟨generation, _, same⟩
      rw [← same]
      exact (List.append_nil _).symm

/-- What there was to load is what came with the starts. -/
theorem run?_loaded (ran : (World.new plan).run? course = some world)
    (going : world.supervisor.ended = false) : world.loaded = loads course := by
  refine run?_induction (motive := fun course world => world.supervisor.ended = false ->
    world.loaded = loads course) (fun _ => rfl) ?_ ran going
  intro earlier world next around happening held taken still
  have begun := going_of_take taken still
  rw [take?_loaded begun taken, held begun, loads, loads, List.flatMap_append,
    List.flatMap_singleton]

theorem loads_eq_nil
    (none_starts : forall moment, moment ∈ course -> forall others,
      moment.2 ≠ .order (.start others)) : loads course = [] := by
  apply List.flatMap_eq_nil_iff.mpr
  intro moment member
  have other := none_starts moment member
  unfold Happening.loads
  split
  next documents same => exact absurd same (other documents)
  next => rfl

/-- Output of the live process goes to the pipeline. -/
theorem take?_hear_live {next : World} {moment : Circumstances} {generation : Nat}
    {chunk : List UInt8} {rest : List Signal} (going : world.supervisor.ended = false)
    (live : world.supervisor.processes.current = some generation)
    (signals : world.signals = .output generation chunk :: rest)
    (heard : world.take? moment .hear = some next) :
    next.supervisor = { world.supervisor with
      pipeline := world.supervisor.pipeline.handleChunk chunk moment.now } := by
  have current : world.supervisor.processes.isCurrent generation = true := decide_eq_true live
  rw [take?_supervisor heard, input?, signals]
  show world.supervisor.step _ _ (.signal (.output generation chunk)) = _
  rw [Supervisor.step, if_neg (Bool.eq_false_iff.mp going), Supervisor.hear, if_pos current]

/-- The live process says that it listens.  From then on it knows every document: one that was
edited by the last accepted text, and one that was not by the text that a start brought first.  So a
repeated start has its text told for a document that was never edited if and only if no earlier
start brought another one. -/
theorem start_text_told_iff_first {earlier later : List (Circumstances × Happening)}
    {around moment : Circumstances} {documents : List Document} {next : World} {generation : Nat}
    {chunk : List UInt8} {rest : List Signal}
    (ran : (World.new plan).run? (earlier ++ (around, .order (.start documents)) :: later) =
      some world)
    (latest : forall moment, moment ∈ later -> forall others, moment.2 ≠ .order (.start others))
    (distinct : (documents.map Document.uri).Nodup) (going : world.supervisor.ended = false)
    (live : world.supervisor.processes.current = some generation)
    (signals : world.signals = .output generation chunk :: rest)
    (greeting : exists segment, segment ∈ (world.supervisor.pipeline.frames.push chunk).1 ∧
      Wire.greets segment = true)
    (heard : world.take? moment .hear = some next) :
    exists messages : List Wire.Message,
      messages.map Wire.Message.encode? = (Effect.told next.supervisor.outbox).map some ∧
      (forall uri text, Document.latest? uri world.accepted = some text ->
        Document.latest? uri (messages.flatMap Wire.Message.documents) = some text) ∧
      (forall document, document ∈ documents ->
        Document.latest? document.uri world.accepted = none ->
        Document.latest? document.uri (messages.flatMap Wire.Message.documents) =
            some ((Document.first? document.uri (loads earlier)).getD document.text) ∧
          (Document.latest? document.uri (messages.flatMap Wire.Message.documents) =
              some document.text ↔
            forall text, Document.first? document.uri (loads earlier) = some text ->
              text = document.text)) ∧
      (forall course last, next.run? course = some last -> last.supervisor.ended = false ->
        last.supervisor.processes.current = some generation ->
        exists more, Effect.told last.supervisor.outbox =
          Effect.told next.supervisor.outbox ++ more) := by
  have orderly := orderly_run ran going
  have contact := orderly.coupled.live generation live
  have after := take?_hear_live going live signals heard
  have sourced : Pipeline.Sourced world.intake next.supervisor.pipeline := by
    rw [after]
    exact (sourced_run ran).handleChunk contact.1 chunk moment.now
  have welcomed : next.supervisor.pipeline.Welcomed := by
    have buffered : Pipeline.Live { world.supervisor.pipeline with
        frames := (world.supervisor.pipeline.frames.push chunk).2 } := contact.2
    rw [after]
    exact Pipeline.handleSegments_welcomed buffered greeting moment.now
  have loaded : world.loaded = loads earlier ++ documents := by
    rw [run?_loaded ran going, loads, List.flatMap_append, List.flatMap_cons]
    show loads earlier ++ (documents ++ loads later) = _
    rw [loads_eq_nil latest, List.append_nil]
  rcases sourced.told welcomed.served welcomed.sent with ⟨messages, encoded, told⟩
  refine ⟨messages, encoded, ?_, ?_, ?_⟩
  · intro uri text edited
    apply told
    show (Document.latest? uri world.accepted).or _ = some text
    rw [edited, Option.some_or]
  · intro document member unedited
    have given : Document.latest? document.uri (messages.flatMap Wire.Message.documents) =
        some ((Document.first? document.uri (loads earlier)).getD document.text) := by
      apply told
      show (Document.latest? document.uri world.accepted).or
        (Document.first? document.uri world.loaded) = _
      rw [unedited, Option.none_or, loaded, Document.first?_append,
        Document.first?_of_mem distinct member]
      cases Document.first? document.uri (loads earlier) <;> rfl
    refine ⟨given, ?_⟩
    rw [given, Option.some.injEq]
    cases Document.first? document.uri (loads earlier) with
    | none => simp
    | some first => simp
  · intro course last ranOn still same
    have whole := run?_append.mpr ⟨next, run?_append.mpr
      ⟨world, ran, (run?_singleton world moment .hear).trans heard⟩, ranOn⟩
    have newest := (orderly_run whole still).tracked.latest generation same
    have newestBefore := orderly.tracked.latest generation live
    apply (run?_tellsOn ranOn).told
    rw [after]
    exact newest.symm.trans newestBefore

/-- What a session without surprises is given from outside. -/
def smoothly : Circumstances := ⟨0, fun _ => .ok (), "killed"⟩

/-- A project of one file is opened. -/
def opening : List (Circumstances × Happening) :=
  [(smoothly, .order (.start [⟨"file:///a", "x"⟩])),
    (smoothly, .print 1 (Text.Utf8.bytesOf "LISTEN\n\x0c")), (smoothly, .hear)]

/-- The first compiler is gone, a file is edited, and the next compiler says that it listens. -/
def reopening : List (Circumstances × Happening) :=
  [(smoothly, .hear), (smoothly, .order (.edit ⟨"file:///c", "new"⟩ (some 1))),
    (smoothly, .print 2 (Text.Utf8.bytesOf "LISTEN\n\x0c"))]

/-- The session before the second greeting is heard. -/
def reopened : World :=
  ((World.new ⟨CompilerPlan.default, [], Timing.default⟩).run? (opening ++
    (smoothly, .order (.start [⟨"file:///a", "y"⟩, ⟨"file:///b", "z"⟩])) :: reopening)).get
    (by decide +kernel)

def reopenedHeard : World := (reopened.take? smoothly .hear).get (by decide +kernel)

theorem reopened_ran : (World.new ⟨CompilerPlan.default, [], Timing.default⟩).run? (opening ++
    (smoothly, .order (.start [⟨"file:///a", "y"⟩, ⟨"file:///b", "z"⟩])) :: reopening) =
      some reopened :=
  (Option.some_get _).symm

theorem reopened_heard : reopened.take? smoothly .hear = some reopenedHeard :=
  (Option.some_get _).symm

theorem reopening_starts_nothing (moment : Circumstances × Happening) (member : moment ∈ reopening)
    (others : List Document) : moment.2 ≠ .order (.start others) := by
  simp only [reopening, List.mem_cons, List.not_mem_nil, or_false] at member
  rcases member with rfl | rfl | rfl <;> simp

theorem reopened_live : reopened.supervisor.processes.current = some 2 := by decide +kernel

theorem reopened_signals :
    reopened.signals = [.output 2 (Text.Utf8.bytesOf "LISTEN\n\x0c")] := rfl

theorem reopened_greeted : exists segment, segment ∈ (reopened.supervisor.pipeline.frames.push
    (Text.Utf8.bytesOf "LISTEN\n\x0c")).1 ∧ Wire.greets segment = true := by
  apply List.any_eq_true.mp
  decide +kernel

theorem reopened_told_first : exists messages : List Wire.Message,
    messages.map Wire.Message.encode? = (Effect.told reopenedHeard.supervisor.outbox).map some ∧
    Document.latest? "file:///a" (messages.flatMap Wire.Message.documents) = some "x" ∧
    Document.latest? "file:///b" (messages.flatMap Wire.Message.documents) = some "z" ∧
    Document.latest? "file:///c" (messages.flatMap Wire.Message.documents) = some "new" := by
  rcases start_text_told_iff_first reopened_ran reopening_starts_nothing (by decide)
    (by decide +kernel) reopened_live reopened_signals reopened_greeted reopened_heard with
    ⟨messages, encoded, edited, given, _⟩
  refine ⟨messages, encoded, ?_, ?_, edited "file:///c" "new" (by decide +kernel)⟩
  · exact (given ⟨"file:///a", "y"⟩ (by decide) (by decide +kernel)).1
  · exact (given ⟨"file:///b", "z"⟩ (by decide) (by decide +kernel)).1

/-- A repeated start can bring a text that no compiler is told, although nobody edits the
document. -/
theorem repeated_start_can_be_passed_over :
    ¬forall (plan : Plan) (earlier later : List (Circumstances × Happening))
      (around moment : Circumstances) (documents : List Document) (world next : World)
      (generation : Nat) (chunk : List UInt8) (rest : List Signal),
      (World.new plan).run? (earlier ++ (around, .order (.start documents)) :: later) =
        some world ->
      (forall moment, moment ∈ later -> forall others, moment.2 ≠ .order (.start others)) ->
      (documents.map Document.uri).Nodup -> world.supervisor.ended = false ->
      world.supervisor.processes.current = some generation ->
      world.signals = .output generation chunk :: rest ->
      (exists segment, segment ∈ (world.supervisor.pipeline.frames.push chunk).1 ∧
        Wire.greets segment = true) ->
      world.take? moment .hear = some next ->
      exists messages : List Wire.Message,
        messages.map Wire.Message.encode? = (Effect.told next.supervisor.outbox).map some ∧
        forall document, document ∈ documents ->
          Document.latest? document.uri world.accepted = none ->
          Document.latest? document.uri (messages.flatMap Wire.Message.documents) =
            some document.text := by
  intro loads_given
  rcases loads_given _ _ _ _ _ _ _ _ _ _ _ reopened_ran reopening_starts_nothing (by decide)
    (by decide +kernel) reopened_live reopened_signals reopened_greeted reopened_heard with
    ⟨messages, encoded, given⟩
  have told := given ⟨"file:///a", "y"⟩ (by decide) (by decide +kernel)
  rcases Document.mem_of_latest? told with ⟨document, member, _, text⟩
  rcases List.mem_flatMap.mp member with ⟨message, inside, carried⟩
  have sent : message.encode? ∈ (Effect.told reopenedHeard.supervisor.outbox).map some := by
    rw [← encoded]
    exact List.mem_map_of_mem inside
  rcases List.mem_map.mp sent with ⟨written, among, same⟩
  have letter : 'y' ∈ written.toList := by
    apply Wire.Message.mem_of_carried same.symm carried
    rw [text]
    decide
  -- The text of the second start would show in what was written.
  have nowhere : forall written, written ∈ Effect.told reopenedHeard.supervisor.outbox ->
      'y' ∉ written.toList := by decide +kernel
  exact nowhere written among letter

end World
end Session
end LanguageServer
