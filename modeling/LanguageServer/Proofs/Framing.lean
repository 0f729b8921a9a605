import LanguageServer.Proofs.Keys
import LanguageServer.Proofs.Safekeeping

namespace LanguageServer

/-!
# When payloads stay inside their messages

The pipeline writes document texts and new names as the editor supplies them, between marks that
have a meaning on the wire: the separator closes a text, a newline closes a name.  It looks at
neither.  So what reaches the compiler need not be what was submitted: a text that holds a separator
can bring a whole message of its own, and so can a name that holds a newline.

`Pipeline.submitted` tells which messages an operation submits: the batch of pending drafts where
one is due, and a question or a restart where the compiler can take it.  What is written in any
stretch of a run are the texts of these messages, in order, and each document and question in them
was given to the pipeline.  A reader gets exactly these messages back if, and only if, each of them
is enclosed.  That the condition is sufficient rests on the uris: they are keys, so they stand on
one line and are not blank.  That it is necessary is seen from the reader alone, which never finds a
mark inside of what the mark closes.
-/

namespace Wire

/-! ## What a reader can find -/

/-- What was given as a new name stays on its line. -/
def Query.Enclosed : Query -> Prop
  | .rename _ newName => OneLine newName
  | _ => True

instance : (query : Query) -> Decidable query.Enclosed
  | .rename _ newName => inferInstanceAs (Decidable (OneLine newName))
  | .hover _ | .definition _ | .declaration _ | .completion _ | .signatureHelp _ | .symbols _
  | .references _ | .implementation _ => inferInstanceAs (Decidable True)

/-- Texts and new names end where the message says. -/
def Message.Enclosed : Message -> Prop
  | .query asked => asked.Enclosed
  | .restart => True
  | .edit documents =>
      forall document, document ∈ documents -> separatorChar ∉ document.text.toList

instance : (message : Message) -> Decidable message.Enclosed
  | .query asked => inferInstanceAs (Decidable asked.Enclosed)
  | .restart => inferInstanceAs (Decidable True)
  | .edit documents => inferInstanceAs (Decidable (forall document, document ∈ documents ->
      separatorChar ∉ document.text.toList))

namespace Parcel

/-- The reader stops at the first mark. -/
theorem not_mem_of_readUntil {mark : Char} {text part rest : List Char}
    (read : readUntil mark text = some (part, rest)) : mark ∉ part := by
  induction text generalizing part with
  | nil => cases read
  | cons head tail inductionHypothesis =>
      rw [readUntil] at read
      split at read
      · cases read
        exact List.not_mem_nil
      next different =>
        rcases Option.map_eq_some_iff.mp read with ⟨⟨found, left⟩, later, same⟩
        cases same
        intro inside
        rcases List.mem_cons.mp inside with first | behind
        · exact different first.symm
        · exact inductionHypothesis later behind

theorem oneLine_of_readLines {count : Nat} {text rest : List Char} {lines : List String}
    (read : readLines count text = some (lines, rest)) :
    forall line, line ∈ lines -> OneLine line := by
  induction count generalizing text lines with
  | zero =>
      cases read
      exact fun line member => absurd member List.not_mem_nil
  | succ count inductionHypothesis =>
      rw [readLines] at read
      split at read
      · cases read
      next first behind found =>
        rcases Option.map_eq_some_iff.mp read with ⟨⟨others, left⟩, later, same⟩
        cases same
        refine List.forall_mem_cons.mpr ⟨?_, inductionHypothesis later⟩
        rw [OneLine, String.toList_ofList]
        exact not_mem_of_readUntil found

theorem closed_of_readDocuments {uris : List String} {text rest : List Char}
    {documents : List Document} (read : readDocuments uris text = some (documents, rest)) :
    forall document, document ∈ documents -> separatorChar ∉ document.text.toList := by
  induction uris generalizing text documents with
  | nil =>
      cases read
      exact fun document member => absurd member List.not_mem_nil
  | cons uri uris inductionHypothesis =>
      rw [readDocuments] at read
      split at read
      · cases read
      next body behind found =>
        rcases Option.map_eq_some_iff.mp read with ⟨⟨others, left⟩, later, same⟩
        cases same
        refine List.forall_mem_cons.mpr ⟨?_, inductionHypothesis later⟩
        rw [String.toList_ofList]
        exact not_mem_of_readUntil found

/-- No text of the parcel holds the separator, and no line of it a newline. -/
def Enclosed : Parcel -> Prop
  | .edit documents =>
      forall document, document ∈ documents -> separatorChar ∉ document.text.toList
  | .call _ arguments => forall line, line ∈ arguments -> OneLine line

theorem enclosed_of_read? {text rest : List Char} {parcel : Parcel}
    (read : read? text = some (parcel, rest)) : parcel.Enclosed := by
  rw [read?] at read
  split at read
  · cases read
  dsimp only at read
  split at read
  · split at read
    · cases read
    · rcases Option.map_eq_some_iff.mp read with ⟨⟨documents, left⟩, found, same⟩
      cases same
      exact closed_of_readDocuments found
  · rcases Option.map_eq_some_iff.mp read with ⟨⟨arguments, left⟩, found, same⟩
    cases same
    exact oneLine_of_readLines found

theorem enclosed_of_readAll (fuel : Nat) (text : List Char) :
    forall parcel, parcel ∈ (readAll fuel text).1 -> parcel.Enclosed := by
  induction fuel generalizing text with
  | zero => exact fun parcel member => absurd member List.not_mem_nil
  | succ fuel inductionHypothesis =>
      rw [readAll]
      split
      · exact fun parcel member => absurd member List.not_mem_nil
      next found =>
        exact List.forall_mem_cons.mpr ⟨enclosed_of_read? found, inductionHypothesis _⟩

end Parcel

/-- A new name is an argument line. -/
theorem Query.enclosed_of_ofCall? {command : String} {arguments : List String} {query : Query}
    (whole : forall line, line ∈ arguments -> OneLine line)
    (understood : ofCall? command arguments = some query) : query.Enclosed := by
  have placed : forall {read : Option Target} {ask : Target -> Query},
      read.map ask = some query -> (forall place, (ask place).Enclosed) -> query.Enclosed := by
    intro read ask found enclosed
    rcases Option.map_eq_some_iff.mp found with ⟨place, _, same⟩
    exact same ▸ enclosed place
  unfold ofCall? at understood
  split at understood
  case h_6 =>
    split at understood
    · cases understood
      trivial
    · cases understood
  case h_9 =>
    rw [ofRenaming?] at understood
    split at understood
    next newName last =>
      exact placed understood (fun place => whole newName (List.mem_of_getLast? last))
    next => cases understood
  case h_10 => cases understood
  all_goals exact placed understood (fun place => trivial)

namespace Message

theorem enclosed_of_ofParcel? {parcel : Parcel} {message : Message} (enclosed : parcel.Enclosed)
    (understood : ofParcel? parcel = some message) : message.Enclosed := by
  cases parcel with
  | edit documents =>
      cases understood
      exact enclosed
  | call command arguments =>
      rw [ofParcel?] at understood
      split at understood
      · cases understood
        trivial
      · rcases Option.map_eq_some_iff.mp understood with ⟨query, found, same⟩
        cases same
        exact Query.enclosed_of_ofCall? enclosed found

/-- Whatever the stream, the messages in it are enclosed. -/
theorem enclosed_of_readStream? {text : List Char} {messages : List Message}
    (read : readStream? text = some messages) :
    forall message, message ∈ messages -> message.Enclosed := by
  intro message member
  rw [readStream?] at read
  dsimp only at read
  split at read
  · rcases mem_of_mapM_eq_some read member with ⟨parcel, inside, understood⟩
    exact enclosed_of_ofParcel? (Parcel.enclosed_of_readAll _ _ parcel inside) understood
  · cases read

end Message

/-! ## Enclosed messages can be read -/

/-- The uris of a question. -/
def Query.uris : Query -> List String
  | .hover place | .definition place | .declaration place | .completion place
  | .signatureHelp place | .references place | .implementation place | .rename place _ =>
      [place.uri]
  | .symbols uri => uri.toList

theorem lt_of_successor?_eq_some {word next : UInt32} (moved : successor? word = some next) :
    word.toNat < UInt32.size - 1 := by
  rw [successor?] at moved
  split at moved
  next fits => exact Nat.lt_sub_of_add_lt fits
  next => cases moved

theorem Target.writableFromOne_of_oneBased? {place : Target} {arguments : List String}
    (written : place.oneBased? = some arguments) (addressed : Addressed place.uri) :
    place.WritableFromOne := by
  rw [oneBased?] at written
  split at written
  next line character =>
    exact ⟨⟨addressed, lt_of_successor?_eq_some line⟩, lt_of_successor?_eq_some character⟩
  next => cases written

theorem Target.writable_of_betweenCharacters? {place : Target} {arguments : List String}
    (written : place.betweenCharacters? = some arguments) (addressed : Addressed place.uri) :
    place.Writable := by
  rw [betweenCharacters?] at written
  split at written
  next line => exact ⟨addressed, lt_of_successor?_eq_some line⟩
  next => cases written

/-- A question that has a text and is about keys can be read if it is enclosed. -/
theorem Query.legible_of_enclosed {query : Query} {text : String}
    (encoded : query.encode? = some text)
    (addressed : forall uri, uri ∈ query.uris -> Addressed uri) (enclosed : query.Enclosed) :
    query.Legible := by
  rcases Option.map_eq_some_iff.mp encoded with ⟨lines, written, _⟩
  cases query with
  | symbols uri =>
      cases uri with
      | none => trivial
      | some uri => exact addressed uri List.mem_cons_self
  | rename place newName =>
      rcases Option.map_eq_some_iff.mp written with ⟨arguments, found, _⟩
      exact ⟨Target.writableFromOne_of_oneBased? found (addressed _ List.mem_cons_self), enclosed⟩
  | completion place | signatureHelp place =>
      rcases Option.map_eq_some_iff.mp written with ⟨arguments, found, _⟩
      exact Target.writable_of_betweenCharacters? found (addressed _ List.mem_cons_self)
  | hover place | definition place | declaration place | references place
  | implementation place =>
      rcases Option.map_eq_some_iff.mp written with ⟨arguments, found, _⟩
      exact Target.writableFromOne_of_oneBased? found (addressed _ List.mem_cons_self)

namespace Message

/-- The uris in a message. -/
def uris : Message -> List String
  | .query asked => asked.uris
  | .restart => []
  | .edit documents => documents.map Document.uri

theorem legible_of_enclosed {message : Message} {text : String}
    (encoded : message.encode? = some text)
    (addressed : forall uri, uri ∈ message.uris -> Addressed uri) (enclosed : message.Enclosed) :
    message.Legible := by
  cases message with
  | query asked => exact Query.legible_of_enclosed encoded addressed enclosed
  | restart => trivial
  | edit documents =>
      exact fun document inside =>
        ⟨addressed _ (List.mem_map_of_mem inside), enclosed document inside⟩

/-- Messages with addressed uris are read back exactly when all of them are enclosed. -/
theorem readStream?_eq_some_iff {messages : List Message} {texts : List String}
    (encoded : messages.mapM encode? = some texts)
    (addressed : forall message, message ∈ messages -> forall uri, uri ∈ message.uris ->
      Addressed uri) :
    readStream? (String.join texts).toList = some messages ↔
      forall message, message ∈ messages -> message.Enclosed := by
  constructor
  · exact enclosed_of_readStream?
  · intro enclosed
    have legible : forall message, message ∈ messages -> message.Legible := by
      intro message member
      rcases exists_of_mapM_eq_some encoded member with ⟨text, written⟩
      exact legible_of_enclosed written (addressed message member) (enclosed message member)
    rcases delivered_of_legible legible with ⟨written, parcels, delivered⟩
    have same : written = texts := Option.some.inj (delivered.encoded.symm.trans encoded)
    rw [← same]
    exact delivered.readStream?

/-- The message carries no documents but some of these, and asks no question but one of these. -/
structure DrawnFrom (stock : List Document) (questions : List Query) (message : Message) :
    Prop where
  carried : message.documents ⊆ stock
  asked : forall query, message = .query query -> query ∈ questions

variable {stock : List Document} {questions : List Query} {message : Message}

theorem DrawnFrom.mono {more : List Document} {others : List Query}
    (drawn : message.DrawnFrom stock questions) (documents : stock ⊆ more)
    (queries : questions ⊆ others) : message.DrawnFrom more others :=
  ⟨fun _ inside => documents (drawn.carried inside),
    fun query same => queries (drawn.asked query same)⟩

theorem DrawnFrom.mem_uris {uri : String} (drawn : message.DrawnFrom stock questions)
    (inside : uri ∈ message.uris) :
    uri ∈ stock.map Document.uri ++ questions.flatMap Query.uris := by
  cases message with
  | restart => exact absurd inside List.not_mem_nil
  | query query =>
      exact List.mem_append_right _ (List.mem_flatMap.mpr ⟨query, drawn.asked query rfl, inside⟩)
  | edit documents =>
      rcases List.mem_map.mp inside with ⟨document, listed, same⟩
      exact List.mem_append_left _ (List.mem_map.mpr ⟨document, drawn.carried listed, same⟩)

theorem DrawnFrom.enclosed (drawn : message.DrawnFrom stock questions)
    (closed : forall document, document ∈ stock -> separatorChar ∉ document.text.toList)
    (enclosed : forall query, query ∈ questions -> query.Enclosed) : message.Enclosed := by
  cases message with
  | restart => trivial
  | query query => exact enclosed query (drawn.asked query rfl)
  | edit documents => exact fun document listed => closed document (drawn.carried listed)

end Message
end Wire

namespace Session

/-! ## What is submitted -/

namespace Operation

/-- The documents that an operation brings. -/
def documents : Operation -> List Document
  | .load documents _ => documents
  | .edit document _ _ => [document]
  | _ => []

/-- The question that an operation brings. -/
def queries : Operation -> List Wire.Query
  | .submit _ query _ => [query]
  | _ => []

/-- The uris that an operation brings. -/
def uris (operation : Operation) : List String :=
  operation.documents.map Document.uri ++ operation.queries.flatMap Wire.Query.uris

/-- What an operation brings holds no mark that would end it early. -/
def Enclosed (operation : Operation) : Prop :=
  (forall document, document ∈ operation.documents ->
    Wire.separatorChar ∉ document.text.toList) ∧
    forall query, query ∈ operation.queries -> query.Enclosed

end Operation

namespace Pipeline

/-- The batch that goes out when it is sent now: all pending drafts, if there are any. -/
def batch (pipeline : Pipeline) : List Wire.Message :=
  if pipeline.attached = true ∧ pipeline.edits.pendingDocuments ≠ [] then
    [.edit pipeline.edits.pendingDocuments]
  else []

/-- The messages that a frame brings about.  A compiler that listens gets all documents that were
kept for it, and one that starts afresh gets all documents. -/
def submittedOn (pipeline : Pipeline) : Except Wire.FrameFault Wire.Frame -> List Wire.Message
  | .error _ => []
  | .ok frame =>
      if pipeline.phase = .aborted then []
      else
        match frame.command with
        | .listen => pipeline.welcome.batch
        | .restart => pipeline.keepForReload.welcome.batch
        | _ => []

/-- The messages that some frames bring about, one after the other. -/
def submittedOnAll (now : Instant) :
    Pipeline -> List (Except Wire.FrameFault Wire.Frame) -> List Wire.Message
  | _, [] => []
  | pipeline, segment :: rest =>
      pipeline.submittedOn segment ++ submittedOnAll now (pipeline.handleSegment now segment) rest

/-- The messages that an operation submits. -/
def submitted (pipeline : Pipeline) : Operation -> List Wire.Message
  | .load documents _ =>
      if pipeline.canSend then { pipeline with edits := pipeline.edits.seed documents }.batch
      else []
  | .flush _ => if pipeline.canSend then pipeline.batch else []
  | .submit _ query _ =>
      if pipeline.phase = .analysed ∧ pipeline.attached then
        (if needsLatestText query.kind then pipeline.batch else []) ++ [.query query]
      else []
  | .requestRestart => if pipeline.canSend then [.restart] else []
  | .chunk bytes now =>
      submittedOnAll now { pipeline with frames := (pipeline.frames.push bytes).2 }
        (pipeline.frames.push bytes).1
  | .starting | .attach _ | .block | .spawnFailed _ | .stopped | .recover _ | .edit ..
  | .watchdogExpired | .applyTiming _ => []

/-- The messages that are submitted in a run. -/
def submittedIn : Pipeline -> List Operation -> List Wire.Message
  | _, [] => []
  | pipeline, operation :: rest =>
      pipeline.submitted operation ++
        match pipeline.operate? operation with
        | some next => next.submittedIn rest
        | none => []

/-- The documents that the pipeline has. -/
def held (pipeline : Pipeline) : List Document := pipeline.edits.snapshot ++ pipeline.reload

/-- These messages are written, and nothing else; they and the pipeline have no documents but those
that were held before or are given, and no questions but those that are asked. -/
structure Submits (given : List Document) (asked : List Wire.Query) (before : Pipeline)
    (messages : List Wire.Message) (after : Pipeline) : Prop where
  written : exists texts, messages.mapM Wire.Message.encode? = some texts ∧
    Speaks before texts after
  drawn : forall message, message ∈ messages -> message.DrawnFrom (before.held ++ given) asked
  kept : after.held ⊆ before.held ++ given

variable {given : List Document} {asked : List Wire.Query}

theorem Submits.trans {first second third : Pipeline} {earlier later : List Wire.Message}
    (one : Submits given asked first earlier second)
    (two : Submits given asked second later third) :
    Submits given asked first (earlier ++ later) third := by
  have known : second.held ++ given ⊆ first.held ++ given := by
    intro document member
    rcases List.mem_append.mp member with inside | new
    · exact one.kept inside
    · exact List.mem_append_right _ new
  rcases one.written with ⟨texts, encoded, spoken⟩
  rcases two.written with ⟨more, encodedNext, spokenNext⟩
  refine ⟨⟨texts ++ more, ?_, spoken.trans spokenNext⟩, ?_, ?_⟩
  · rw [List.mapM_append, encoded, encodedNext]
    rfl
  · intro message member
    rcases List.mem_append.mp member with before | after
    · exact one.drawn message before
    · exact (two.drawn message after).mono known (List.Subset.refl asked)
  · exact fun document inside => known (two.kept inside)

/-- Nothing is written, and the documents are those that were there or are given. -/
theorem Submits.nothing {before after : Pipeline} (silent : Speaks before [] after)
    (kept : after.held ⊆ before.held ++ given) : Submits given asked before [] after :=
  ⟨⟨[], rfl, silent⟩, fun _ member => absurd member List.not_mem_nil, kept⟩

theorem SameDocuments.submits {before after : Pipeline} (same : SameDocuments before after) :
    Submits given asked before [] after := by
  refine Submits.nothing same.speech ?_
  have equal : after.held = before.held := by
    rw [held, held, EditQueue.snapshot, EditQueue.snapshot, same.drafts, same.reload]
  rw [equal]
  exact List.subset_append_left _ _

/-- A step that leaves the documents alone may follow. -/
theorem Submits.quietly {first second third : Pipeline} {messages : List Wire.Message}
    (one : Submits given asked first messages second) (same : SameDocuments second third) :
    Submits given asked first messages third := by
  have both : Submits given asked first (messages ++ []) third := one.trans same.submits
  rw [List.append_nil] at both
  exact both

theorem Submits.message {pipeline : Pipeline} {message : Wire.Message} {text : String}
    (attached : pipeline.attached = true) (encoded : message.encode? = some text)
    (drawn : message.DrawnFrom (pipeline.held ++ given) asked) :
    Submits given asked pipeline [message] (pipeline.write text) := by
  refine ⟨⟨[text], by rw [List.mapM_cons, encoded]; rfl, write_speaks attached text⟩,
    List.forall_mem_singleton.mpr drawn, ?_⟩
  rw [write, if_pos attached]
  exact List.subset_append_left _ _

/-! ## One operation -/

variable {pipeline : Pipeline}

theorem mem_held {document : Document} : document ∈ pipeline.held ↔
    (exists uri draft, pipeline.edits.drafts.find? uri = some draft ∧ draft.document = document) ∨
      document ∈ pipeline.reload := by
  rw [held, List.mem_append, EditQueue.mem_snapshot]

theorem sendBatch_submits (pipeline : Pipeline) (now : Instant) :
    Submits given asked pipeline pipeline.batch (pipeline.sendBatch now) where
  written := by
    by_cases nothing : pipeline.edits.pendingDocuments = []
    · rw [batch, if_neg (fun due => due.2 nothing), sendBatch_of_nothing nothing]
      exact ⟨[], rfl, Speaks.silent rfl⟩
    cases attached : pipeline.attached with
    | true =>
        have spoken := sendBatch_speaks attached now
        rw [if_neg nothing] at spoken
        rw [batch, if_pos ⟨attached, nothing⟩]
        exact ⟨_, rfl, spoken⟩
    | false =>
        rw [batch, attached, if_neg (fun due => Bool.false_ne_true due.1),
          sendBatch_of_pending nothing]
        refine ⟨[], rfl, Speaks.silent ?_⟩
        simp [attached]
  drawn := by
    intro message member
    rw [batch] at member
    split at member
    · cases List.mem_singleton.mp member
      refine ⟨?_, fun query same => (by cases same)⟩
      intro document inside
      rcases EditQueue.mem_pendingDocuments.mp inside with ⟨uri, draft, found, _, same⟩
      exact List.mem_append_left _ (mem_held.mpr (Or.inl ⟨uri, draft, found, same⟩))
    · exact absurd member List.not_mem_nil
  kept := by
    intro document member
    refine List.mem_append_left _ (mem_held.mpr ?_)
    rw [mem_held, sendBatch_drafts, sendBatch_reload] at member
    rcases member with ⟨uri, draft, found, same⟩ | away
    · rw [EditQueue.find?_takeBatch, Option.map_eq_some_iff] at found
      rcases found with ⟨earlier, before, equal⟩
      exact Or.inl ⟨uri, earlier, before, by rw [← same, ← equal]⟩
    · exact Or.inr away

/-- A draft that seeding adds is one of the documents. -/
theorem document_mem_of_seed {queue : EditQueue} {documents : List Document} {uri : String}
    {draft : Draft} (found : (queue.seed documents).drafts.find? uri = some draft) :
    queue.drafts.find? uri = some draft ∨ draft.document ∈ documents := by
  rw [EditQueue.seed_drafts] at found
  induction documents generalizing queue with
  | nil => exact Or.inl found
  | cons document rest inductionHypothesis =>
      rcases inductionHypothesis found with earlier | added
      · rw [EditQueue.find?_seedOne, Option.or_eq_some_iff] at earlier
        rcases earlier with before | ⟨_, new⟩
        · exact Or.inl before
        · rw [Option.ite_none_right_eq_some] at new
          rw [← Option.some.inj new.2]
          exact Or.inr List.mem_cons_self
      · exact Or.inr (List.mem_cons_of_mem document added)

theorem mergeDocuments_subset (known documents : List Document) :
    mergeDocuments known documents ⊆ known ++ documents := by
  induction documents generalizing known with
  | nil =>
      rw [List.append_nil]
      exact List.Subset.refl known
  | cons document rest inductionHypothesis =>
      intro one member
      have later := inductionHypothesis _ member
      rw [List.append_cons]
      rcases List.mem_append.mp later with merged | behind
      · refine List.mem_append_left _ ?_
        dsimp only at merged
        split at merged
        · exact List.mem_append_left _ merged
        · exact merged
      · exact List.mem_append_right _ behind

theorem welcome_submits (pipeline : Pipeline) :
    Submits given asked pipeline [] pipeline.welcome := by
  refine Submits.nothing (welcome_speaks pipeline) ?_
  intro document member
  refine List.mem_append_left _ (mem_held.mpr ?_)
  rcases mem_held.mp member with ⟨uri, draft, found, same⟩ | away
  · rcases document_mem_of_seed found with before | added
    · exact Or.inl ⟨uri, draft, before, same⟩
    · exact Or.inr (same ▸ added)
  · exact absurd away List.not_mem_nil

theorem listen_submits (pipeline : Pipeline) (now : Instant) :
    Submits given asked pipeline pipeline.welcome.batch (pipeline.listen now) :=
  ((welcome_submits pipeline).trans (sendBatch_submits pipeline.welcome now)).quietly
    (progress_leavesDocuments (pipeline.welcome.sendBatch now) now).toSameDocuments

theorem keepForReload_submits (pipeline : Pipeline) :
    Submits given asked pipeline [] pipeline.keepForReload := by
  refine Submits.nothing (Speaks.silent rfl) ?_
  intro document member
  refine List.mem_append_left _ ?_
  rcases mem_held.mp member with ⟨uri, draft, found, _⟩ | away
  · cases found
  · exact mergeDocuments_subset _ _ away

/-- Documents are put away between two steps that leave them alone. -/
theorem Submits.stow {before middle after : Pipeline} (first : SameDocuments before middle)
    (last : SameDocuments middle.keepForReload after) : Submits given asked before [] after :=
  first.submits.trans ((keepForReload_submits middle).trans last.submits)

/-- Only a compiler that listens or starts afresh is sent something at once. -/
theorem submittedOn_eq_nil {frame : Wire.Frame} (notListen : frame.command ≠ .listen)
    (notRestart : frame.command ≠ .restart) : pipeline.submittedOn (.ok frame) = [] := by
  rw [submittedOn]
  split
  · rfl
  split
  next listen => exact absurd listen notListen
  next restart => exact absurd restart notRestart
  next => rfl

theorem handleFrame_submits {frame : Wire.Frame} (alive : pipeline.phase ≠ .aborted)
    (now : Instant) :
    Submits given asked pipeline (pipeline.submittedOn (.ok frame))
      (pipeline.handleFrame frame now) := by
  have silent : forall {after : Pipeline}, SameDocuments pipeline after ->
      frame.command ≠ .listen -> frame.command ≠ .restart ->
      Submits given asked pipeline (pipeline.submittedOn (.ok frame)) after := by
    intro after same notListen notRestart
    rw [submittedOn_eq_nil notListen notRestart]
    exact same.submits
  refine handleFrame_cases (motive := Submits given asked pipeline _) ?_ ?_ ?_ ?_ ?_ ?_ ?_
  · exact fun aborted => absurd aborted alive
  · intro command
    rw [submittedOn, if_neg alive, command]
    exact listen_submits pipeline now
  · intro band command
    refine silent (addProblems_leavesDocuments pipeline band frame.lines).toSameDocuments ?_ ?_ <;>
      (rw [command]; cases band <;> decide)
  · intro command
    refine silent (analysed_sameDocuments pipeline now) ?_ ?_ <;> (rw [command]; decide)
  · intro command
    refine silent (raised_leavesDocuments pipeline frame.lines now).toSameDocuments ?_ ?_ <;>
      (rw [command]; decide)
  · intro command
    rw [submittedOn, if_neg alive, command]
    have cleared : SameDocuments pipeline.keepForReload
        { pipeline.resetForReload with analysesPending := 0 } :=
      (resetForReload_sameDocuments pipeline).trans ⟨rfl, rfl, Speaks.silent rfl⟩
    exact ((keepForReload_submits pipeline).quietly cleared).trans (listen_submits _ now)
  · intro kind answers
    refine silent (respond_leavesDocuments pipeline kind frame.lines now).toSameDocuments ?_ ?_ <;>
      (intro command; rw [command] at answers; cases answers)

theorem handleSegment_submits (pipeline : Pipeline) (now : Instant)
    (segment : Except Wire.FrameFault Wire.Frame) :
    Submits given asked pipeline (pipeline.submittedOn segment)
      (pipeline.handleSegment now segment) := by
  cases segment with
  | error fault => exact (protocolError_leavesDocuments pipeline fault now).toSameDocuments.submits
  | ok frame =>
      by_cases aborted : pipeline.phase = .aborted
      · rw [handleSegment, handleFrame, if_pos aborted, submittedOn, if_pos aborted]
        exact (LeavesDocuments.refl pipeline).toSameDocuments.submits
      · exact handleFrame_submits aborted now

theorem handleSegments_submits (now : Instant)
    (segments : List (Except Wire.FrameFault Wire.Frame)) (pipeline : Pipeline) :
    Submits given asked pipeline (submittedOnAll now pipeline segments)
      (segments.foldl (handleSegment now) pipeline) := by
  induction segments generalizing pipeline with
  | nil => exact (LeavesDocuments.refl pipeline).toSameDocuments.submits
  | cons segment rest inductionHypothesis =>
      exact (handleSegment_submits pipeline now segment).trans (inductionHypothesis _)

theorem flush_submits (sendable : pipeline.canSend = true) (now : Instant) :
    Submits given asked pipeline pipeline.batch (pipeline.flush now) := by
  rw [flush, if_pos sendable]
  exact sendBatch_submits pipeline now

theorem load_submits (pipeline : Pipeline) (documents : List Document) (now : Instant) :
    Submits documents asked pipeline (pipeline.submitted (.load documents now))
      (pipeline.load documents now) := by
  rw [submitted, load]
  split
  · have seeded : Submits documents asked pipeline []
        { pipeline with edits := pipeline.edits.seed documents } := by
      refine Submits.nothing (Speaks.silent rfl) ?_
      intro document member
      rcases mem_held.mp member with ⟨uri, draft, found, same⟩ | away
      · rcases document_mem_of_seed found with before | added
        · exact List.mem_append_left _ (mem_held.mpr (Or.inl ⟨uri, draft, before, same⟩))
        · exact List.mem_append_right _ (same ▸ added)
      · exact List.mem_append_left _ (mem_held.mpr (Or.inr away))
    exact seeded.trans (sendBatch_submits _ now)
  · refine Submits.nothing (Speaks.silent rfl) ?_
    intro document member
    rw [held, List.append_assoc]
    rcases List.mem_append.mp member with draft | away
    · exact List.mem_append_left _ draft
    · exact List.mem_append_right _ (mergeDocuments_subset _ _ away)

theorem edit_submits (pipeline : Pipeline) (document : Document) (version : Option Int)
    (now : Instant) :
    Submits [document] asked pipeline [] (pipeline.edit document version now).1 := by
  rcases edit_files pipeline document version now with ⟨edits, filed, drafts⟩
  rw [filed]
  refine Submits.nothing (Speaks.silent rfl) ?_
  intro one member
  rcases mem_held.mp member with ⟨uri, draft, found, same⟩ | away
  · have before : (pipeline.edits.edit document version now).1 = pipeline.edits ->
        one ∈ pipeline.held ++ [document] := by
      intro unchanged
      rw [drafts, unchanged] at found
      exact List.mem_append_left _ (mem_held.mpr (Or.inl ⟨uri, draft, found, same⟩))
    rcases EditQueue.edit_cases pipeline.edits document version now with
      ⟨_, given, stored⟩ | ⟨repeated, _⟩ | refused
    · rw [drafts, stored] at found
      split at found
      · cases found
        exact List.mem_append_right _ (List.mem_singleton.mpr same.symm)
      · exact List.mem_append_left _ (mem_held.mpr (Or.inl ⟨uri, draft, found, same⟩))
    · exact before (by rw [repeated])
    · exact before (by rw [refused])
  · exact List.mem_append_left _ (mem_held.mpr (Or.inr away))

theorem submit_submits {id : RequestId} {query : Wire.Query} {now : Instant} {after : Pipeline}
    (accepted : pipeline.submit? id query now = some after) :
    Submits given [query] pipeline (pipeline.submitted (.submit id query now)) after := by
  rw [submit?] at accepted
  rw [submitted]
  split at accepted
  next aborted =>
    cases accepted
    rw [if_neg (by simp [aborted])]
    exact (settle_leavesDocuments pipeline [_]).toSameDocuments.submits
  split at accepted
  next ready =>
    rw [if_pos ready]
    have sendable : pipeline.canSend = true := canSend_iff.mpr ⟨ready.2, Or.inr ready.1⟩
    have current : Submits given [query] pipeline
          (if needsLatestText query.kind then pipeline.batch else [])
          (if needsLatestText query.kind then pipeline.flush now else pipeline) ∧
        (if needsLatestText query.kind then pipeline.flush now else pipeline).attached = true := by
      split
      · exact ⟨flush_submits sendable now, (flush_attached pipeline now).trans ready.2⟩
      · exact ⟨(LeavesDocuments.refl pipeline).toSameDocuments.submits, ready.2⟩
    cases encoded : query.encode? with
    | none => simp [encoded] at accepted
    | some text =>
        simp only [encoded, Option.some.injEq] at accepted
        subst after
        have asks : Submits given [query] _ [.query query]
            ((if needsLatestText query.kind then pipeline.flush now else pipeline).write text) :=
          Submits.message current.2 encoded ⟨List.nil_subset _,
            fun other same => List.mem_singleton.mpr (Wire.Message.query.inj same).symm⟩
        exact (current.1.trans asks).quietly ⟨rfl, rfl, Speaks.silent rfl⟩
  next notReady =>
    cases accepted
    rw [if_neg notReady]
    exact (settle_leavesDocuments pipeline [_]).toSameDocuments.submits

theorem requestRestart_submits (pipeline : Pipeline) :
    Submits given asked pipeline (pipeline.submitted .requestRestart) pipeline.requestRestart := by
  rw [submitted, requestRestart]
  split
  next sendable =>
    exact Submits.message (canSend_iff.mp sendable).1 rfl
      ⟨List.nil_subset _, fun query same => (by cases same)⟩
  next => exact (LeavesDocuments.refl pipeline).toSameDocuments.submits

/-- Every operation writes the messages that it submits. -/
theorem operate?_submits {before after : Pipeline} {operation : Operation}
    (done : before.operate? operation = some after) :
    Submits operation.documents operation.queries before (before.submitted operation) after := by
  have settled := (resolveAll_leavesDocuments before).toSameDocuments
  cases operation with
  | submit id query now => exact submit_submits done
  | load documents now =>
      cases done
      exact load_submits before documents now
  | edit document version now =>
      cases done
      exact edit_submits before document version now
  | flush now =>
      cases done
      rw [submitted]
      split
      next sendable => exact flush_submits sendable now
      next held =>
        rw [flush, if_neg held]
        exact (holdEdits_leavesDocuments before).toSameDocuments.submits
  | requestRestart =>
      cases done
      exact requestRestart_submits before
  | chunk bytes now =>
      cases done
      have buffered : SameDocuments before
          { before with frames := (before.frames.push bytes).2 } := ⟨rfl, rfl, Speaks.silent rfl⟩
      exact buffered.submits.trans (handleSegments_submits now _ _)
  | starting =>
      cases done
      exact SameDocuments.submits ⟨rfl, rfl, emit_speaks _ _⟩
  | attach now =>
      cases done
      exact SameDocuments.submits ⟨rfl, rfl, emit_speaks _ _⟩
  | block =>
      cases done
      exact SameDocuments.submits (settled.trans ⟨rfl, rfl, emit_speaks _ _⟩)
  | spawnFailed reason =>
      cases done
      have failed := (rejectAll_leavesDocuments before .aborted).toSameDocuments
      exact SameDocuments.submits (failed.trans ⟨rfl, rfl, emit_speaks _ _⟩)
  | stopped =>
      cases done
      exact Submits.stow settled ((resetForReload_sameDocuments before.resolveAll).trans
        ⟨rfl, rfl, emit_speaks _ _⟩)
  | recover status =>
      cases done
      exact Submits.stow settled ((resetForReload_sameDocuments before.resolveAll).trans
        ⟨rfl, rfl, emit_speaks _ _⟩)
  | watchdogExpired =>
      cases done
      have failed := rejectAll_leavesDocuments before (.stalled before.watchdog.timeout)
      exact Submits.stow failed.toSameDocuments ⟨rfl, rfl, emit_speaks _ _⟩
  | applyTiming timing =>
      cases done
      exact (applyTiming_leavesDocuments before timing).toSameDocuments.submits

/-! ## A stretch of a run -/

theorem Submits.widen {before after : Pipeline} {messages : List Wire.Message}
    {more : List Document} {others : List Wire.Query}
    (one : Submits given asked before messages after) (documents : given ⊆ more)
    (queries : asked ⊆ others) : Submits more others before messages after := by
  have wider : before.held ++ given ⊆ before.held ++ more := by
    intro document member
    rcases List.mem_append.mp member with inside | new
    · exact List.mem_append_left _ inside
    · exact List.mem_append_right _ (documents new)
  exact ⟨one.written, fun message member => (one.drawn message member).mono wider queries,
    fun _ inside => wider (one.kept inside)⟩

theorem run?_submits {before last : Pipeline} {operations : List Operation}
    (ran : before.run? operations = some last) :
    Submits (operations.flatMap Operation.documents) (operations.flatMap Operation.queries) before
      (before.submittedIn operations) last := by
  induction operations generalizing before with
  | nil =>
      cases ran
      exact (LeavesDocuments.refl _).toSameDocuments.submits
  | cons operation rest inductionHypothesis =>
      rw [run?, List.foldlM_cons] at ran
      rcases Option.bind_eq_some_iff.mp ran with ⟨next, done, remaining⟩
      rw [submittedIn, done]
      refine ((operate?_submits done).widen ?_ ?_).trans
        ((inductionHypothesis remaining).widen ?_ ?_)
      · exact List.subset_append_left _ _
      · exact List.subset_append_left _ _
      · exact List.subset_append_right _ _
      · exact List.subset_append_right _ _

/-- If operations bring only keys, all uris in what they bring are keys. -/
theorem isKey_of_mem_uris {earlier later : List Operation}
    (keys : forall operation, operation ∈ earlier ++ later ->
      forall uri, uri ∈ operation.uris -> Url.IsKey uri) {uri : String}
    (inside : uri ∈ ((earlier ++ later).flatMap Operation.documents).map Document.uri ++
      (later.flatMap Operation.queries).flatMap Wire.Query.uris) : Url.IsKey uri := by
  rcases List.mem_append.mp inside with listed | asked
  · rcases List.mem_map.mp listed with ⟨document, brought, same⟩
    rcases List.mem_flatMap.mp brought with ⟨operation, done, brings⟩
    exact keys operation done uri
      (List.mem_append_left _ (List.mem_map.mpr ⟨document, brings, same⟩))
  · rcases List.mem_flatMap.mp asked with ⟨query, brought, about⟩
    rcases List.mem_flatMap.mp brought with ⟨operation, done, brings⟩
    exact keys operation (List.mem_append_right _ done) uri
      (List.mem_append_right _ (List.mem_flatMap.mpr ⟨query, brings, about⟩))

/-- Take any stretch of a run in which all uris are keys.  What is written in it are the texts of
the messages submitted in it.  All documents in these messages were brought by operations of the
run, and all questions by operations of the stretch.  The joined texts are read back as exactly
these messages if and only if all of them are enclosed; so they are if everything that was brought
is. -/
theorem framing_kept_iff_enclosed {timing : Timing} {earlier later : List Operation}
    {before last : Pipeline} (reached : (Pipeline.new timing).run? earlier = some before)
    (ran : before.run? later = some last)
    (keys : forall operation, operation ∈ earlier ++ later ->
      forall uri, uri ∈ operation.uris -> Url.IsKey uri) :
    exists texts, Effect.texts last.outbox = Effect.texts before.outbox ++ texts ∧
      (before.submittedIn later).mapM Wire.Message.encode? = some texts ∧
      (forall message, message ∈ before.submittedIn later ->
        message.DrawnFrom ((earlier ++ later).flatMap Operation.documents)
          (later.flatMap Operation.queries)) ∧
      (Wire.Message.readStream? (String.join texts).toList = some (before.submittedIn later) ↔
        forall message, message ∈ before.submittedIn later -> message.Enclosed) ∧
      ((forall operation, operation ∈ earlier ++ later -> operation.Enclosed) ->
        Wire.Message.readStream? (String.join texts).toList = some (before.submittedIn later)) := by
  have whole := run?_submits ran
  rcases whole.written with ⟨texts, encoded, spoken⟩
  have stock : before.held ++ later.flatMap Operation.documents ⊆
      (earlier ++ later).flatMap Operation.documents := by
    intro document member
    rw [List.flatMap_append]
    rcases List.mem_append.mp member with old | new
    · exact List.mem_append_left _ ((run?_submits reached).kept old)
    · exact List.mem_append_right _ new
  have drawn : forall message, message ∈ before.submittedIn later ->
      message.DrawnFrom ((earlier ++ later).flatMap Operation.documents)
        (later.flatMap Operation.queries) :=
    fun message member => (whole.drawn message member).mono stock (List.Subset.refl _)
  have framed := Wire.Message.readStream?_eq_some_iff encoded
    (fun message member uri inside =>
      (isKey_of_mem_uris keys ((drawn message member).mem_uris inside)).addressed)
  refine ⟨texts, spoken.texts, encoded, drawn, framed, ?_⟩
  intro enclosed
  refine framed.mpr (fun message member => (drawn message member).enclosed ?_ ?_)
  · intro document brought
    rcases List.mem_flatMap.mp brought with ⟨operation, done, brings⟩
    exact (enclosed operation done).1 document brings
  · intro query brought
    rcases List.mem_flatMap.mp brought with ⟨operation, done, brings⟩
    exact (enclosed operation (List.mem_append_right _ done)).2 query brings

/-- A compiler that has just been launched. -/
def launched : Pipeline := ((Pipeline.new Timing.default).run? [.starting, .attach 0]).get rfl

/-- A document is loaded, the compiler greets and completes an analysis, and a name is changed. -/
def loadThenRename (text newName : String) : List Operation :=
  [.load [⟨"file:///a", text⟩] 0, .chunk (Text.Utf8.bytesOf "LISTEN\n\x0cANALYSED\n\x0c") 0,
    .submit 0 (.rename ⟨"file:///a", ⟨0, 4⟩⟩ newName) 0]

/-- A text that looks like messages and leaves its last line open. -/
def disguise : String := "#RESTART#\n#EDIT#\nfile:///b\n\n#HOVER#"

theorem disguise_framing_kept :
    (forall operation, operation ∈ [.starting, .attach 0] ++ loadThenRename disguise "" ->
      forall uri, uri ∈ operation.uris -> Url.IsKey uri) ∧
    exists last, launched.run? (loadThenRename disguise "") = some last ∧
      Wire.Message.readStream? (String.join (Effect.texts last.outbox)).toList =
        some [.edit [⟨"file:///a", disguise⟩], .query (.rename ⟨"file:///a", ⟨0, 4⟩⟩ "")] := by
  have isKey : Url.IsKey "file:///a" :=
    Or.inr ⟨Text.Utf8.bytesOf "/a", by decide +kernel⟩
  have only : forall operation, operation ∈ [.starting, .attach 0] ++ loadThenRename disguise "" ->
      forall uri, uri ∈ operation.uris -> uri = "file:///a" := by decide +kernel
  have keys : forall operation, operation ∈ [.starting, .attach 0] ++ loadThenRename disguise "" ->
      forall uri, uri ∈ operation.uris -> Url.IsKey uri :=
    fun operation done uri inside => only operation done uri inside ▸ isKey
  have submitted : launched.submittedIn (loadThenRename disguise "") =
      [.edit [⟨"file:///a", disguise⟩], .query (.rename ⟨"file:///a", ⟨0, 4⟩⟩ "")] := by
    decide +kernel
  have ran : launched.run? (loadThenRename disguise "") =
      some ((launched.run? (loadThenRename disguise "")).get (by decide +kernel)) :=
    (Option.some_get _).symm
  rcases @framing_kept_iff_enclosed Timing.default [.starting, .attach 0] _ launched _ rfl ran
    keys with ⟨texts, written, _, _, framed, _⟩
  refine ⟨keys, _, ran, ?_⟩
  rw [written, ← submitted]
  refine framed.mpr ?_
  rw [submitted]
  decide +kernel

/-- A separator in a text and a newline in a name: of two messages that are submitted, the compiler
reads four. -/
theorem framing_can_be_broken :
    Url.IsKey "file:///a" ∧
      launched.submittedIn
          (loadThenRename "x\x0c#EDIT#\nfile:///b\n\ny" "size\n#RESTART#") =
        [.edit [⟨"file:///a", "x\x0c#EDIT#\nfile:///b\n\ny"⟩],
          .query (.rename ⟨"file:///a", ⟨0, 4⟩⟩ "size\n#RESTART#")] ∧
      exists last,
        launched.run? (loadThenRename "x\x0c#EDIT#\nfile:///b\n\ny" "size\n#RESTART#") =
          some last ∧
        Wire.Message.readStream? (String.join (Effect.texts last.outbox)).toList =
          some [.edit [⟨"file:///a", "x"⟩], .edit [⟨"file:///b", "y"⟩],
            .query (.rename ⟨"file:///a", ⟨0, 4⟩⟩ "size"), .restart] := by
  refine ⟨Or.inr ⟨Text.Utf8.bytesOf "/a", by decide +kernel⟩, by decide +kernel, ?_⟩
  refine ⟨_, (Option.some_get (by decide +kernel)).symm, ?_⟩
  decide +kernel

end Pipeline
end Session
end LanguageServer
