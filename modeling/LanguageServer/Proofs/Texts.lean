import LanguageServer.Proofs.Tables
import LanguageServer.Session.Pipeline

namespace LanguageServer

/-!
# Which text of a document is known

Documents are kept in lists and in the edit queue.  In a list of what was sent or accepted the last
text of a document counts, in a list of what is to be loaded the first.  The queue holds at most one
draft of a document, under its own uri.
-/

namespace Document

/-- The text of the last document under a uri. -/
def latest? (uri : String) : List Document -> Option String
  | [] => none
  | document :: later =>
      (latest? uri later).or (if document.uri = uri then some document.text else none)

/-- The text of the first document under a uri. -/
def first? (uri : String) : List Document -> Option String
  | [] => none
  | document :: later =>
      (if document.uri = uri then some document.text else none).or (first? uri later)

@[simp] theorem latest?_nil (uri : String) : latest? uri [] = none := rfl

@[simp] theorem first?_nil (uri : String) : first? uri [] = none := rfl

theorem latest?_append (uri : String) (earlier later : List Document) :
    latest? uri (earlier ++ later) = (latest? uri later).or (latest? uri earlier) := by
  induction earlier with
  | nil => simp
  | cons document rest inductionHypothesis =>
      simp [latest?, inductionHypothesis, Option.or_assoc]

theorem first?_append (uri : String) (earlier later : List Document) :
    first? uri (earlier ++ later) = (first? uri earlier).or (first? uri later) := by
  induction earlier with
  | nil => simp
  | cons document rest inductionHypothesis =>
      simp [first?, inductionHypothesis, Option.or_assoc]

theorem latest?_eq_none {uri : String} {documents : List Document}
    (absent : forall document, document ∈ documents -> document.uri ≠ uri) :
    latest? uri documents = none := by
  induction documents with
  | nil => rfl
  | cons document rest inductionHypothesis =>
      rw [latest?, if_neg (absent document List.mem_cons_self), Option.or_none]
      exact inductionHypothesis (fun other member => absent other (List.mem_cons_of_mem _ member))

/-- Where all documents under a uri agree, it does not matter which one counts. -/
theorem latest?_eq_some {uri text : String} {documents : List Document}
    (present : exists document, document ∈ documents ∧ document.uri = uri)
    (agree : forall document, document ∈ documents -> document.uri = uri -> document.text = text) :
    latest? uri documents = some text := by
  induction documents with
  | nil =>
      rcases present with ⟨_, member, _⟩
      exact nomatch member
  | cons document rest inductionHypothesis =>
      have agreeRest := fun other member => agree other (List.mem_cons_of_mem _ member)
      rw [latest?]
      by_cases later : exists other, other ∈ rest ∧ other.uri = uri
      · rw [inductionHypothesis later agreeRest, Option.some_or]
      · rcases present with ⟨other, member, same⟩
        rcases List.mem_cons.mp member with head | tail
        · subst head
          have nowhere := latest?_eq_none (fun other member same => later ⟨other, member, same⟩)
          rw [nowhere, Option.none_or, if_pos same, agree other List.mem_cons_self same]
        · exact absurd ⟨other, tail, same⟩ later

theorem first?_eq_none {uri : String} {documents : List Document}
    (absent : forall document, document ∈ documents -> document.uri ≠ uri) :
    first? uri documents = none := by
  induction documents with
  | nil => rfl
  | cons document rest inductionHypothesis =>
      rw [first?, if_neg (absent document List.mem_cons_self), Option.none_or]
      exact inductionHypothesis (fun other member => absent other (List.mem_cons_of_mem _ member))

theorem first?_eq_some {uri text : String} {documents : List Document}
    (present : exists document, document ∈ documents ∧ document.uri = uri)
    (agree : forall document, document ∈ documents -> document.uri = uri -> document.text = text) :
    first? uri documents = some text := by
  induction documents with
  | nil =>
      rcases present with ⟨_, member, _⟩
      exact nomatch member
  | cons document rest inductionHypothesis =>
      rw [first?]
      by_cases here : document.uri = uri
      · rw [if_pos here, Option.some_or, agree document List.mem_cons_self here]
      · rw [if_neg here, Option.none_or]
        rcases present with ⟨other, member, same⟩
        rcases List.mem_cons.mp member with head | tail
        · exact absurd (head ▸ same) here
        · exact inductionHypothesis ⟨other, tail, same⟩
            (fun other member => agree other (List.mem_cons_of_mem _ member))

theorem first?_isSome {uri : String} {documents : List Document} :
    (first? uri documents).isSome ↔ exists document, document ∈ documents ∧ document.uri = uri := by
  induction documents with
  | nil => simp
  | cons document rest inductionHypothesis =>
      by_cases here : document.uri = uri
      · simp [first?, here]
      · simp [first?, here, inductionHypothesis]

/-- Of documents with different uris, each one is the first of its uri. -/
theorem first?_of_mem {documents : List Document}
    (distinct : (documents.map Document.uri).Nodup) {document : Document}
    (member : document ∈ documents) : first? document.uri documents = some document.text := by
  induction documents with
  | nil => cases member
  | cons head rest inductionHypothesis =>
      rw [List.map_cons, List.nodup_cons] at distinct
      rw [first?]
      rcases List.mem_cons.mp member with rfl | later
      · rw [if_pos rfl, Option.some_or]
      · have different : head.uri ≠ document.uri := by
          intro same
          exact distinct.1 (same ▸ List.mem_map_of_mem later)
        rw [if_neg different, Option.none_or]
        exact inductionHypothesis distinct.2 later

theorem mem_of_latest? {uri text : String} {documents : List Document}
    (latest : latest? uri documents = some text) :
    exists document, document ∈ documents ∧ document.uri = uri ∧ document.text = text := by
  induction documents with
  | nil => cases latest
  | cons head rest inductionHypothesis =>
      rw [latest?, Option.or_eq_some_iff] at latest
      rcases latest with later | ⟨_, here⟩
      · rcases inductionHypothesis later with ⟨document, member, same⟩
        exact ⟨document, List.mem_cons_of_mem _ member, same⟩
      · rw [Option.ite_none_right_eq_some] at here
        exact ⟨head, List.mem_cons_self, here.1, Option.some.inj here.2⟩

theorem latest?_isSome {uri : String} {documents : List Document} :
    (latest? uri documents).isSome ↔
      exists document, document ∈ documents ∧ document.uri = uri := by
  induction documents with
  | nil => simp
  | cons document rest inductionHypothesis =>
      by_cases here : document.uri = uri
      · simp [latest?, here]
      · simp [latest?, here, inductionHypothesis]

end Document

namespace Session

/-- Merging adds documents that are not known, and changes no text that is. -/
theorem Pipeline.first?_mergeDocuments (uri : String) (known documents : List Document) :
    Document.first? uri (mergeDocuments known documents) =
      (Document.first? uri known).or (Document.first? uri documents) := by
  induction documents generalizing known with
  | nil => simp [mergeDocuments]
  | cons document rest inductionHypothesis =>
      have step : mergeDocuments known (document :: rest) = mergeDocuments
          (if known.any (fun earlier => earlier.uri == document.uri) then known
            else known ++ [document]) rest := rfl
      rw [step, inductionHypothesis, Document.first?]
      split
      next seen =>
        by_cases same : document.uri = uri
        · have present : (Document.first? uri known).isSome := by
            rw [Document.first?_isSome, ← same]
            simpa using seen
          rw [Option.or_of_isSome present, Option.or_of_isSome present]
        · rw [if_neg same, Option.none_or]
      next =>
        rw [Document.first?_append, Document.first?, Document.first?_nil, Option.or_none,
          Option.or_assoc]

namespace EditQueue

/-- Every draft is filed under its own uri. -/
def Filed (queue : EditQueue) : Prop :=
  forall uri draft, queue.drafts.find? uri = some draft -> draft.document.uri = uri

/-- The latest text of a document that the queue holds. -/
def text? (queue : EditQueue) (uri : String) : Option String :=
  (queue.drafts.find? uri).map (fun draft => draft.document.text)

variable {queue : EditQueue}

theorem mem_snapshot {document : Document} :
    document ∈ queue.snapshot ↔
      exists uri draft, queue.drafts.find? uri = some draft ∧ draft.document = document := by
  constructor
  · intro member
    rcases List.mem_map.mp member with ⟨draft, inside, same⟩
    rcases (Table.mem_values_iff _ _).mp inside with ⟨uri, found⟩
    exact ⟨uri, draft, found, same⟩
  · rintro ⟨uri, draft, found, same⟩
    exact List.mem_map.mpr ⟨draft, (Table.mem_values_iff _ _).mpr ⟨uri, found⟩, same⟩

theorem mem_pendingDocuments {document : Document} :
    document ∈ queue.pendingDocuments ↔
      exists uri draft, queue.drafts.find? uri = some draft ∧ draft.pending = true ∧
        draft.document = document := by
  constructor
  · intro member
    rcases List.mem_map.mp member with ⟨draft, inside, same⟩
    rcases List.mem_filter.mp inside with ⟨value, pending⟩
    rcases (Table.mem_values_iff _ _).mp value with ⟨uri, found⟩
    exact ⟨uri, draft, found, pending, same⟩
  · rintro ⟨uri, draft, found, pending, same⟩
    refine List.mem_map.mpr ⟨draft, List.mem_filter.mpr ⟨?_, pending⟩, same⟩
    exact (Table.mem_values_iff _ _).mpr ⟨uri, found⟩

/-- A snapshot has the text of every draft. -/
theorem Filed.first?_snapshot (filed : queue.Filed) (uri : String) :
    Document.first? uri queue.snapshot = queue.text? uri := by
  cases found : queue.drafts.find? uri with
  | none =>
      rw [text?, found]
      apply Document.first?_eq_none
      intro document member same
      rcases mem_snapshot.mp member with ⟨key, draft, filedAt, rfl⟩
      rw [← same, filed key draft filedAt, filedAt] at found
      exact nomatch found
  | some draft =>
      rw [text?, found]
      apply Document.first?_eq_some
      · exact ⟨draft.document, mem_snapshot.mpr ⟨uri, draft, found, rfl⟩, filed uri draft found⟩
      · intro document member same
        rcases mem_snapshot.mp member with ⟨key, other, filedAt, rfl⟩
        rw [← same, filed key other filedAt, filedAt] at found
        rw [Option.some.inj found]

/-- A batch has the text of every pending draft. -/
theorem Filed.latest?_pendingDocuments (filed : queue.Filed) {uri : String} {draft : Draft}
    (found : queue.drafts.find? uri = some draft) :
    Document.latest? uri queue.pendingDocuments =
      if draft.pending then some draft.document.text else none := by
  have only : forall document, document ∈ queue.pendingDocuments -> document.uri = uri ->
      draft.pending = true ∧ document = draft.document := by
    intro document member same
    rcases mem_pendingDocuments.mp member with ⟨key, other, filedAt, pending, rfl⟩
    rw [← same, filed key other filedAt, filedAt] at found
    rw [← Option.some.inj found]
    exact ⟨pending, rfl⟩
  split
  next pending =>
    apply Document.latest?_eq_some
    · exact ⟨draft.document, mem_pendingDocuments.mpr ⟨uri, draft, found, pending, rfl⟩,
        filed uri draft found⟩
    · intro document member same
      rw [(only document member same).2]
  next sent =>
    apply Document.latest?_eq_none
    intro document member same
    exact sent (only document member same).1

/-! ## Changes of the queue -/

theorem find?_file (document : Document) (version : Int) (uri : String) :
    (queue.file document version).drafts.find? uri =
      if uri = document.uri then some ⟨document, version, true⟩ else queue.drafts.find? uri :=
  Table.find?_insert _ _ _ _

theorem noteEdit_drafts (now : Instant) : (queue.noteEdit now).drafts = queue.drafts := by
  rw [noteEdit]
  split <;> rfl

/-- An edit is filed, is known already, or comes while a batch is being written. -/
theorem edit_cases (queue : EditQueue) (document : Document) (version : Option Int)
    (now : Instant) :
    ((queue.edit document version now).2 = .stored ∧ exists given, forall uri,
        (queue.edit document version now).1.drafts.find? uri =
          if uri = document.uri then some ⟨document, given, true⟩ else queue.drafts.find? uri) ∨
      (queue.edit document version now = (queue, .repeated) ∧
        queue.text? document.uri = some document.text) ∨
      queue.edit document version now = (queue, .refused) := by
  cases version with
  | none =>
      rw [edit]
      split
      · exact Or.inr (Or.inr rfl)
      · refine Or.inl ⟨rfl, (queue.noteEdit now).nextVersion, fun uri => ?_⟩
        show ((queue.noteEdit now).file document _).drafts.find? uri = _
        rw [find?_file, noteEdit_drafts]
  | some given =>
      rw [edit]
      split
      · exact Or.inr (Or.inr rfl)
      · split
        next same =>
          refine Or.inr (Or.inl ⟨rfl, ?_⟩)
          rw [repeats] at same
          split at same
          next draft found =>
            rw [Bool.and_eq_true, beq_iff_eq, beq_iff_eq] at same
            rw [text?, found, Option.map_some, same.2]
          next => exact nomatch same
        next =>
          refine Or.inl ⟨rfl, given, fun uri => ?_⟩
          rw [find?_file, noteEdit_drafts]

theorem find?_seedOne (document : Document) (uri : String) :
    (queue.seedOne document).drafts.find? uri = (queue.drafts.find? uri).or
      (if document.uri = uri then some ⟨document, queue.nextVersion, true⟩ else none) := by
  rw [seedOne]
  split
  next known =>
    by_cases same : document.uri = uri
    · subst same
      rw [Option.or_of_isSome known]
    · rw [if_neg same, Option.or_none]
  next unknown =>
    show (queue.file document _).drafts.find? uri = _
    rw [find?_file]
    by_cases same : document.uri = uri
    · subst same
      rw [Table.contains, Bool.not_eq_true, Option.isSome_eq_false_iff,
        Option.isNone_iff_eq_none] at unknown
      rw [if_pos rfl, if_pos rfl, unknown, Option.none_or]
    · rw [if_neg (Ne.symm same), if_neg same, Option.or_none]

theorem seed_drafts (documents : List Document) :
    (queue.seed documents).drafts = (documents.foldl seedOne queue).drafts := by
  rw [seed]
  split <;> rfl

/-- Seeding gives the first text of every document that the queue does not hold. -/
theorem text?_seed (documents : List Document) (uri : String) :
    (queue.seed documents).text? uri = (queue.text? uri).or (Document.first? uri documents) := by
  rw [text?, seed_drafts]
  induction documents generalizing queue with
  | nil => simp [text?]
  | cons document rest inductionHypothesis =>
      rw [List.foldl_cons, inductionHypothesis, text?, find?_seedOne, Document.first?, text?]
      cases queue.drafts.find? uri with
      | some draft => simp
      | none =>
          by_cases same : document.uri = uri <;> simp [same]

/-- A draft that seeding adds is pending and under its own uri. -/
theorem find?_seed {documents : List Document} {uri : String} {draft : Draft}
    (found : (queue.seed documents).drafts.find? uri = some draft) :
    queue.drafts.find? uri = some draft ∨ (draft.pending = true ∧ draft.document.uri = uri) := by
  rw [seed_drafts] at found
  induction documents generalizing queue with
  | nil => exact Or.inl found
  | cons document rest inductionHypothesis =>
      rcases inductionHypothesis found with earlier | added
      · rw [find?_seedOne, Option.or_eq_some_iff] at earlier
        rcases earlier with held | ⟨_, new⟩
        · exact Or.inl held
        · rw [Option.ite_none_right_eq_some] at new
          rw [← Option.some.inj new.2]
          exact Or.inr ⟨rfl, new.1⟩
      · exact Or.inr added

/-- Taking a batch leaves every draft, and none of them pending. -/
theorem find?_takeBatch (queue : EditQueue) (uri : String) :
    queue.takeBatch.2.drafts.find? uri =
      (queue.drafts.find? uri).map (fun draft => { draft with pending := false }) := by
  have drafts : queue.takeBatch.2.drafts =
      queue.drafts.map (fun _ draft => { draft with pending := false }) := by
    rw [takeBatch]
    dsimp only
    split
    · split <;> rfl
    · rfl
  rw [drafts, Table.find?_map]

end EditQueue
end Session
end LanguageServer
