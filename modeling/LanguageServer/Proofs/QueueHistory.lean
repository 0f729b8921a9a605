import LanguageServer.Proofs.QuietPeriod

namespace LanguageServer
namespace Session

/-!
# The edit queue and its history

The queue keeps one draft of each document and a flag that says whether it has gone out.  Here every
operation also enters what it did into a history: which document it stored and under which version,
which batch it gave out, that everything was forgotten, and which quiet period was set.  Whatever
operations are made, and whenever, the queue agrees with its history: a batch has exactly the
documents that were stored since they last went out, a snapshot those that were stored at all, the
deadline comes from the latest edit that was stored and the quiet period that was in force then, and
no version that the queue gives out comes twice.
-/

/-- An operation on the queue. -/
inductive QueueStep where
  | edit (document : Document) (version : Option Int) (now : Instant)
  | seed (documents : List Document)
  | takeBatch
  | finishSend
  | hold
  | reset
  | setQuietPeriod (quietPeriod : Span)
deriving DecidableEq, Repr

/-- The version that a document is stored under: one of the editor, or one that the queue issues. -/
inductive Stamp where
  | given (version : Int)
  | issued (version : Int)
deriving DecidableEq, Repr

def Stamp.version : Stamp -> Int
  | .given version => version
  | .issued version => version

/-- What an operation did. -/
inductive Deed where
  /-- An edit was stored. -/
  | edited (document : Document) (stamp : Stamp) (now : Instant)
  /-- A document of the project was stored. -/
  | seeded (document : Document) (stamp : Stamp)
  | taken (batch : List Document)
  | forgotten
  /-- The quiet periods to come were given another length. -/
  | timed (quietPeriod : Span)
deriving DecidableEq, Repr

namespace Deed

/-- The document that was stored. -/
def filing? : Deed -> Option (Document × Stamp)
  | .edited document stamp _ => some (document, stamp)
  | .seeded document stamp => some (document, stamp)
  | .taken _ | .forgotten | .timed _ => none

/-- The quiet period that was set. -/
def period? : Deed -> Option Span
  | .timed quietPeriod => some quietPeriod
  | _ => none

/-- The version that was issued. -/
def issued? (deed : Deed) : Option Int :=
  match deed.filing? with
  | some (_, .issued version) => some version
  | _ => none

/-- A text of the document was stored. -/
def Stores (uri : String) (deed : Deed) : Prop :=
  exists document stamp, deed.filing? = some (document, stamp) ∧ document.uri = uri

theorem not_stores {deed : Deed} (unfiled : deed.filing? = none) (uri : String) :
    ¬deed.Stores uri := by
  rintro ⟨document, stamp, filing, _⟩
  rw [unfiled] at filing
  cases filing

/-- The document was in a batch. -/
def Takes (uri : String) (deed : Deed) : Prop :=
  exists batch, deed = .taken batch ∧ uri ∈ batch.map Document.uri

/-- An edit was stored. -/
def Edits (deed : Deed) : Prop :=
  exists document stamp now, deed = .edited document stamp now

end Deed

/-! ## What a history says -/

/-- There is a wanted deed and after it none that undoes it. -/
def Since (wanted undoes : Deed -> Prop) (deeds : List Deed) : Prop :=
  exists earlier deed later, deeds = earlier ++ deed :: later ∧ wanted deed ∧
    forall other, other ∈ later -> ¬undoes other

/-- This is how the document was last stored, and it was not forgotten since. -/
def Latest (document : Document) (stamp : Stamp) : List Deed -> Prop :=
  Since (fun deed => deed.filing? = some (document, stamp))
    (fun deed => deed = .forgotten ∨ deed.Stores document.uri)

/-- The document was stored, and not forgotten since. -/
def Kept (uri : String) : List Deed -> Prop :=
  Since (Deed.Stores uri) (fun deed => deed = .forgotten)

/-- The document was stored, and neither taken nor forgotten since. -/
def Owed (uri : String) : List Deed -> Prop :=
  Since (Deed.Stores uri) (fun deed => deed = .forgotten ∨ deed.Takes uri)

/-- The quiet period in force after some deeds: the one that was set last, or else the one that the
queue was made with. -/
def periodAfter (initial : Span) (deeds : List Deed) : Span :=
  (deeds.filterMap Deed.period?).getLast?.getD initial

/-- The last edit that was stored started the quiet period that was in force by then, and this is
when it ends. -/
def DueAt (initial : Span) (due : Instant) (deeds : List Deed) : Prop :=
  exists earlier document stamp now later,
    deeds = earlier ++ .edited document stamp now :: later ∧
    (forall deed, deed ∈ later -> ¬deed.Edits) ∧
    due = now + periodAfter initial earlier

/-- The versions that were issued, the first one first. -/
def issuedVersions (deeds : List Deed) : List Int := deeds.filterMap Deed.issued?

/-- The documents are the wanted ones, each once and in the order of the uris, with the texts that
were stored last. -/
structure Lists (deeds : List Deed) (wanted : String -> Prop) (documents : List Document) :
    Prop where
  ascending : (documents.map Document.uri).Pairwise (· < ·)
  members : forall uri, uri ∈ documents.map Document.uri ↔ wanted uri
  latest : forall document, document ∈ documents -> exists stamp, Latest document stamp deeds

section Since

variable {wanted undoes : Deed -> Prop} {deeds : List Deed}

@[simp] theorem not_since_nil : ¬Since wanted undoes [] := by
  rintro ⟨earlier, deed, later, split, _, _⟩
  exact List.cons_ne_nil deed later (List.append_eq_nil_iff.mp split.symm).2

/-- One more deed is a wanted one itself, or it does not undo what came before. -/
theorem since_concat (deed : Deed) :
    Since wanted undoes (deeds ++ [deed]) ↔
      wanted deed ∨ (¬undoes deed ∧ Since wanted undoes deeds) := by
  constructor
  · rintro ⟨earlier, first, later, split, isWanted, intact⟩
    rcases List.eq_nil_or_concat later with rfl | ⟨front, last, rfl⟩
    · have same := List.append_inj_right' split rfl
      rw [List.singleton_inj.mp same]
      exact Or.inl isWanted
    · rw [List.concat_eq_append] at split intact
      rw [← List.cons_append, ← List.append_assoc] at split
      have front_eq := List.append_inj_left' split rfl
      have last_eq := List.singleton_inj.mp (List.append_inj_right' split rfl)
      subst last_eq
      refine Or.inr ⟨intact deed (by simp), earlier, first, front, front_eq, isWanted, ?_⟩
      exact fun other member => intact other (List.mem_append_left _ member)
  · rintro (isWanted | ⟨harmless, earlier, first, later, split, isWanted, intact⟩)
    · exact ⟨deeds, deed, [], rfl, isWanted, fun _ member => nomatch member⟩
    · refine ⟨earlier, first, later ++ [deed], by simp [split], isWanted, ?_⟩
      intro other member
      rcases List.mem_append.mp member with before | last
      · exact intact other before
      · rw [List.mem_singleton.mp last]
        exact harmless

theorem Since.append (since : Since wanted undoes deeds) {more : List Deed}
    (harmless : forall deed, deed ∈ more -> ¬undoes deed) :
    Since wanted undoes (deeds ++ more) := by
  rcases since with ⟨earlier, first, later, split, isWanted, intact⟩
  refine ⟨earlier, first, later ++ more, by simp [split], isWanted, ?_⟩
  intro other member
  rcases List.mem_append.mp member with before | after
  · exact intact other before
  · exact harmless other after

end Since

section Concat

variable {uri : String} {deeds : List Deed}

theorem kept_concat (deed : Deed) :
    Kept uri (deeds ++ [deed]) ↔ deed.Stores uri ∨ (deed ≠ .forgotten ∧ Kept uri deeds) :=
  since_concat deed

theorem owed_concat (deed : Deed) :
    Owed uri (deeds ++ [deed]) ↔
      deed.Stores uri ∨ (¬(deed = .forgotten ∨ deed.Takes uri) ∧ Owed uri deeds) :=
  since_concat deed

end Concat

section Period

variable {initial : Span} {due : Instant} {deeds : List Deed}

theorem periodAfter_append {more : List Deed}
    (untimed : forall deed, deed ∈ more -> deed.period? = none) :
    periodAfter initial (deeds ++ more) = periodAfter initial deeds := by
  rw [periodAfter, List.filterMap_append, List.filterMap_eq_nil_iff.mpr untimed, List.append_nil,
    periodAfter]

theorem periodAfter_timed (quietPeriod : Span) :
    periodAfter initial (deeds ++ [.timed quietPeriod]) = quietPeriod := by
  rw [periodAfter, List.filterMap_append]
  exact congrArg (Option.getD · initial) List.getLast?_concat

theorem DueAt.append (since : DueAt initial due deeds) {more : List Deed}
    (unedited : forall deed, deed ∈ more -> ¬deed.Edits) : DueAt initial due (deeds ++ more) := by
  rcases since with ⟨earlier, document, stamp, now, later, split, last, ends⟩
  refine ⟨earlier, document, stamp, now, later ++ more, by simp [split], ?_, ends⟩
  intro deed member
  rcases List.mem_append.mp member with before | after
  · exact last deed before
  · exact unedited deed after

end Period

theorem issuedVersions_append (earlier later : List Deed) :
    issuedVersions (earlier ++ later) = issuedVersions earlier ++ issuedVersions later :=
  List.filterMap_append

/-! ## A queue with its history -/

namespace EditQueue

/-- The version that an edit is stored under. -/
def stamp (queue : EditQueue) : Option Int -> Stamp
  | some given => .given given
  | none => .issued queue.nextVersion

/-- What seeding does: it stores those documents that the queue does not hold by then. -/
def seeding (queue : EditQueue) : List Document -> List Deed
  | [] => []
  | document :: rest =>
      if queue.drafts.contains document.uri then queue.seeding rest
      else .seeded document (.issued queue.nextVersion) ::
        (queue.fileUnversioned document).seeding rest

end EditQueue

/-- A queue and everything that was done to it. -/
structure QueueHistory where
  queue : EditQueue
  deeds : List Deed
deriving DecidableEq

namespace QueueHistory

def new (quietPeriod : Span) : QueueHistory := ⟨EditQueue.new quietPeriod, []⟩

/-- Make one operation.  Only a batch that was taken can be reported as written. -/
def take? (history : QueueHistory) : QueueStep -> Option QueueHistory
  | .edit document version now =>
      let answer := history.queue.edit document version now
      some
        { queue := answer.1
          deeds :=
            if answer.2 = .stored then
              history.deeds ++ [.edited document (history.queue.stamp version) now]
            else history.deeds }
  | .seed documents =>
      some ⟨history.queue.seed documents, history.deeds ++ history.queue.seeding documents⟩
  | .takeBatch =>
      some
        { queue := history.queue.takeBatch.2
          deeds :=
            match history.queue.takeBatch.1 with
            | some batch => history.deeds ++ [.taken batch]
            | none => history.deeds }
  | .finishSend => history.queue.finishSend?.map (fun written => { history with queue := written })
  | .hold => some { history with queue := history.queue.hold }
  | .reset => some ⟨history.queue.reset, history.deeds ++ [.forgotten]⟩
  | .setQuietPeriod quietPeriod =>
      some ⟨history.queue.setQuietPeriod quietPeriod, history.deeds ++ [.timed quietPeriod]⟩

/-- Make operations one after the other. -/
def run? (history : QueueHistory) (steps : List QueueStep) : Option QueueHistory :=
  steps.foldlM take? history

end QueueHistory

namespace EditQueue

variable {queue : EditQueue} {deeds : List Deed}

/-! ## Drafts -/

/-- The drafts are what the history says. -/
structure Records (deeds : List Deed) (drafts : Table Draft) : Prop where
  filed : forall uri draft, drafts.find? uri = some draft -> draft.document.uri = uri
  latest : forall uri draft, drafts.find? uri = some draft ->
    exists stamp, Latest draft.document stamp deeds ∧ draft.version = stamp.version
  kept : forall uri, (drafts.find? uri).isSome ↔ Kept uri deeds
  owed : forall uri,
    (exists draft, drafts.find? uri = some draft ∧ draft.pending = true) ↔ Owed uri deeds

namespace Records

variable {drafts : Table Draft}

theorem new : Records [] Table.empty where
  filed := by simp
  latest := by simp
  kept := by simp [Kept]
  owed := by simp [Owed]

/-- A document that is stored is the latest of its uri, and owed. -/
theorem store (records : Records deeds drafts) {deed : Deed} {document : Document} {stamp : Stamp}
    (filing : deed.filing? = some (document, stamp)) :
    Records (deeds ++ [deed])
      (drafts.insert document.uri ⟨document, stamp.version, true⟩) := by
  have stores : forall uri, deed.Stores uri ↔ uri = document.uri := by
    intro uri
    constructor
    · rintro ⟨other, _, same, rfl⟩
      rw [filing] at same
      cases same
      rfl
    · rintro rfl
      exact ⟨document, stamp, filing, rfl⟩
  have remembers : deed ≠ .forgotten := by
    rintro rfl
    cases filing
  have leaves : forall uri, ¬deed.Takes uri := by
    rintro uri ⟨batch, rfl, _⟩
    cases filing
  constructor
  · intro uri draft found
    rw [Table.find?_insert] at found
    split at found
    next same =>
      cases found
      exact same.symm
    next => exact records.filed uri draft found
  · intro uri draft found
    rw [Table.find?_insert] at found
    split at found
    next =>
      cases found
      exact ⟨stamp, (since_concat deed).mpr (Or.inl filing), rfl⟩
    next different =>
      rcases records.latest uri draft found with ⟨earlier, latest, version⟩
      refine ⟨earlier, (since_concat deed).mpr (Or.inr ⟨?_, latest⟩), version⟩
      rintro (forgotten | stored)
      · exact remembers forgotten
      · rw [stores, records.filed uri draft found] at stored
        exact different stored
  · intro uri
    rw [Table.find?_insert, kept_concat, stores]
    by_cases same : uri = document.uri
    · simp [same]
    · simpa [same, remembers] using records.kept uri
  · intro uri
    rw [Table.find?_insert, owed_concat, stores]
    by_cases same : uri = document.uri
    · simp [same]
    · simpa [same, remembers, leaves] using records.owed uri

/-- Of a batch that is taken nothing is owed any more. -/
theorem take (records : Records deeds queue.drafts) :
    Records (deeds ++ [.taken queue.pendingDocuments]) queue.takeBatch.2.drafts := by
  have stores := @Deed.not_stores (.taken queue.pendingDocuments) rfl
  constructor
  · intro uri draft found
    rw [find?_takeBatch, Option.map_eq_some_iff] at found
    rcases found with ⟨earlier, held, rfl⟩
    exact records.filed uri earlier held
  · intro uri draft found
    rw [find?_takeBatch, Option.map_eq_some_iff] at found
    rcases found with ⟨earlier, held, rfl⟩
    rcases records.latest uri earlier held with ⟨stamp, latest, version⟩
    refine ⟨stamp, (since_concat _).mpr (Or.inr ⟨?_, latest⟩), version⟩
    rintro (forgotten | stored)
    · cases forgotten
    · exact stores _ stored
  · intro uri
    rw [find?_takeBatch, Option.isSome_map, records.kept uri, kept_concat]
    simp [stores]
  · intro uri
    rw [owed_concat]
    constructor
    · rintro ⟨draft, found, pending⟩
      rw [find?_takeBatch, Option.map_eq_some_iff] at found
      rcases found with ⟨earlier, _, rfl⟩
      cases pending
    · -- What was owed was pending, so it is in the batch.
      rintro (stored | ⟨kept, owed⟩)
      · exact absurd stored (stores uri)
      · rcases (records.owed uri).mpr owed with ⟨draft, found, pending⟩
        refine absurd (Or.inr ⟨_, rfl, List.mem_map.mpr ⟨draft.document, ?_, ?_⟩⟩) kept
        · exact mem_pendingDocuments.mpr ⟨uri, draft, found, pending, rfl⟩
        · exact records.filed uri draft found

/-- Without a pending draft, taking a batch changes no draft. -/
theorem rest (records : Records deeds queue.drafts) (nothing : queue.pendingDocuments = []) :
    Records deeds queue.takeBatch.2.drafts := by
  have same : forall uri, queue.takeBatch.2.drafts.find? uri = queue.drafts.find? uri := by
    intro uri
    rw [find?_takeBatch]
    cases found : queue.drafts.find? uri with
    | none => rfl
    | some draft =>
        have sent : draft.pending = false := by
          apply Bool.eq_false_iff.mpr
          intro pending
          exact pendingDocuments_ne_nil.mpr ⟨uri, draft, found, pending⟩ nothing
        rw [Option.map_some, ← sent]
  constructor
  · simpa only [same] using records.filed
  · simpa only [same] using records.latest
  · simpa only [same] using records.kept
  · simpa only [same] using records.owed

/-- A quiet period that is set touches no draft. -/
theorem time (records : Records deeds drafts) (quietPeriod : Span) :
    Records (deeds ++ [.timed quietPeriod]) drafts := by
  have stores := @Deed.not_stores (.timed quietPeriod) rfl
  have takes : forall uri, ¬Deed.Takes uri (.timed quietPeriod) := by
    rintro uri ⟨batch, taken, _⟩
    cases taken
  constructor
  · exact records.filed
  · intro uri draft found
    rcases records.latest uri draft found with ⟨stamp, latest, version⟩
    refine ⟨stamp, (since_concat _).mpr (Or.inr ⟨?_, latest⟩), version⟩
    rintro (forgotten | stored)
    · cases forgotten
    · exact stores _ stored
  · intro uri
    rw [records.kept uri, kept_concat]
    simp [stores]
  · intro uri
    rw [records.owed uri, owed_concat]
    simp [stores, takes]

theorem reset : Records (deeds ++ [.forgotten]) Table.empty := by
  have stores := @Deed.not_stores .forgotten rfl
  constructor
  · simp
  · simp
  · simp [kept_concat, stores]
  · simp [owed_concat, stores]

end Records

/-- Every draft that is listed is under its own uri, so a list of drafts is in the order of the
uris. -/
theorem Filed.ascending (filed : queue.Filed) (listed : Draft -> Bool) :
    (((queue.drafts.values.filter listed).map Draft.document).map Document.uri).Pairwise
      (· < ·) := by
  rw [List.map_map]
  have all : (queue.drafts.values.map (Document.uri ∘ Draft.document)).Pairwise (· < ·) := by
    rw [Table.values, List.map_map, List.pairwise_map]
    apply queue.drafts.ascending.imp_of_mem
    intro left right leftMember rightMember before
    have leftUri := filed left.1 left.2 ((Table.mem_entries_iff _ _ _).mp leftMember)
    have rightUri := filed right.1 right.2 ((Table.mem_entries_iff _ _ _).mp rightMember)
    simpa [leftUri, rightUri] using before
  exact all.sublist (List.filter_sublist.map _)

/-- Whichever drafts are picked, their documents have the texts that were stored last. -/
theorem Records.lists (records : Records deeds queue.drafts) (listed : Draft -> Bool)
    {wanted : String -> Prop}
    (picked : forall uri,
      (exists draft, queue.drafts.find? uri = some draft ∧ listed draft = true) ↔ wanted uri) :
    Lists deeds wanted ((queue.drafts.values.filter listed).map Draft.document) where
  ascending := Filed.ascending records.filed listed
  members := by
    intro uri
    rw [← picked uri, List.map_map, List.mem_map]
    constructor
    · rintro ⟨draft, member, rfl⟩
      rcases List.mem_filter.mp member with ⟨value, isListed⟩
      rcases (Table.mem_values_iff _ _).mp value with ⟨key, found⟩
      refine ⟨draft, ?_, isListed⟩
      rw [Function.comp_apply, records.filed key draft found]
      exact found
    · rintro ⟨draft, found, isListed⟩
      have value := (Table.mem_values_iff _ _).mpr ⟨uri, found⟩
      exact ⟨draft, List.mem_filter.mpr ⟨value, isListed⟩, records.filed uri draft found⟩
  latest := by
    intro document member
    rcases List.mem_map.mp member with ⟨draft, inside, rfl⟩
    rcases (Table.mem_values_iff _ _).mp (List.mem_filter.mp inside).1 with ⟨key, found⟩
    rcases records.latest key draft found with ⟨stamp, latest, _⟩
    exact ⟨stamp, latest⟩

theorem Records.lists_pendingDocuments (records : Records deeds queue.drafts) :
    Lists deeds (fun uri => Owed uri deeds) queue.pendingDocuments :=
  records.lists Draft.pending records.owed

theorem Records.lists_snapshot (records : Records deeds queue.drafts) :
    Lists deeds (fun uri => Kept uri deeds) queue.snapshot := by
  have every : queue.drafts.values.filter (fun _ => true) = queue.drafts.values :=
    List.filter_eq_self.mpr (fun _ _ => rfl)
  rw [snapshot, ← every]
  apply records.lists
  intro uri
  rw [← records.kept uri, Option.isSome_iff_exists]
  simp

/-! ## Versions -/

/-- The versions that were issued count down, and the next one is below all of them. -/
structure Numbered (deeds : List Deed) (nextVersion : Int) : Prop where
  descending : (issuedVersions deeds).Pairwise (fun earlier later => later < earlier)
  between : forall version, version ∈ issuedVersions deeds -> nextVersion < version ∧ version < 0
  count : nextVersion = -1 - (issuedVersions deeds).length

namespace Numbered

variable {nextVersion : Int}

theorem keep (numbered : Numbered deeds nextVersion) {deed : Deed} (given : deed.issued? = none) :
    Numbered (deeds ++ [deed]) nextVersion := by
  have same : issuedVersions (deeds ++ [deed]) = issuedVersions deeds := by
    rw [issuedVersions_append]
    simp [issuedVersions, given]
  constructor
  · rw [same]
    exact numbered.descending
  · rw [same]
    exact numbered.between
  · rw [same]
    exact numbered.count

theorem issue (numbered : Numbered deeds nextVersion) {deed : Deed}
    (issued : deed.issued? = some nextVersion) :
    Numbered (deeds ++ [deed]) (nextVersion - 1) := by
  have added : issuedVersions (deeds ++ [deed]) = issuedVersions deeds ++ [nextVersion] := by
    rw [issuedVersions_append]
    simp [issuedVersions, issued]
  have count := numbered.count
  constructor
  · rw [added]
    apply List.pairwise_append.mpr
    refine ⟨numbered.descending, List.pairwise_singleton _ _, ?_⟩
    intro earlier member later last
    rw [List.mem_singleton.mp last]
    exact (numbered.between earlier member).1
  · rw [added]
    intro version member
    rcases List.mem_append.mp member with before | last
    · have bounds := numbered.between version before
      omega
    · rw [List.mem_singleton.mp last]
      omega
  · rw [added, List.length_append, List.length_singleton]
    omega

end Numbered

/-! ## Edits and the quiet period -/

theorem edit_of_not_stored {document : Document} {version : Option Int} {now : Instant}
    (unstored : (queue.edit document version now).2 ≠ .stored) :
    (queue.edit document version now).1 = queue := by
  rcases edit_cases queue document version now with ⟨stored, _⟩ | ⟨repeated, _⟩ | refused
  · exact absurd stored unstored
  · rw [repeated]
  · rw [refused]

theorem noteEdit_quietPeriod (queue : EditQueue) (now : Instant) :
    (queue.noteEdit now).quietPeriod = queue.quietPeriod := by
  rw [noteEdit]
  split <;> rfl

theorem edit_quietPeriod (queue : EditQueue) (document : Document) (version : Option Int)
    (now : Instant) : (queue.edit document version now).1.quietPeriod = queue.quietPeriod := by
  cases version with
  | none =>
      rw [edit]
      split
      · rfl
      · exact noteEdit_quietPeriod queue now
  | some given =>
      rw [edit]
      split
      · rfl
      · split
        · rfl
        · exact noteEdit_quietPeriod queue now

/-! ## The state and the deadline -/

/-- The deadline is that of the last edit, and the state says what there is to do. -/
structure Clocked (initial : Span) (deeds : List Deed) (queue : EditQueue) : Prop where
  period : queue.quietPeriod = periodAfter initial deeds
  armed : queue.deadline.isSome ↔ queue.state = .waiting
  due : forall due, queue.deadline = some due -> DueAt initial due deeds
  owes : queue.state = .waiting -> exists uri, Owed uri deeds
  untouched : queue.state = .start -> forall uri, ¬Kept uri deeds

namespace Clocked

variable {initial : Span}

theorem new (quietPeriod : Span) : Clocked quietPeriod [] (EditQueue.new quietPeriod) := by
  constructor
  · rfl
  · simp [EditQueue.new]
  · intro due armed
    cases armed
  · intro waiting
    cases waiting
  · exact fun _ _ => not_since_nil

/-- A queue that is neither starting nor waiting has no deadline, whatever was done. -/
theorem settled (period : queue.quietPeriod = periodAfter initial deeds)
    (deadline : queue.deadline = none) (waiting : queue.state ≠ .waiting)
    (start : queue.state ≠ .start) : Clocked initial deeds queue := by
  refine ⟨period, ?_, ?_, ?_, ?_⟩
  · simp [deadline, waiting]
  · intro due armed
    rw [deadline] at armed
    cases armed
  · exact fun state => absurd state waiting
  · exact fun state => absurd state start

theorem unarmed (clocked : Clocked initial deeds queue) (unhurried : queue.state ≠ .waiting) :
    queue.deadline = none :=
  Option.not_isSome_iff_eq_none.mp (fun armed => unhurried (clocked.armed.mp armed))

theorem same {other : EditQueue} (clocked : Clocked initial deeds queue)
    (period : other.quietPeriod = queue.quietPeriod) (state : other.state = queue.state)
    (deadline : other.deadline = queue.deadline) : Clocked initial deeds other := by
  refine ⟨period.trans clocked.period, ?_, ?_, ?_, ?_⟩
  · rw [state, deadline]
    exact clocked.armed
  · rw [deadline]
    exact clocked.due
  · rw [state]
    exact clocked.owes
  · rw [state]
    exact clocked.untouched

/-- An edit that is stored starts a quiet period, if it is not the first of all. -/
theorem edit (clocked : Clocked initial deeds queue) {document : Document} {version : Option Int}
    {now : Instant} (stored : (queue.edit document version now).2 = .stored) (stamp : Stamp) :
    Clocked initial (deeds ++ [.edited document stamp now])
      (queue.edit document version now).1 := by
  rcases edit_notes stored with ⟨state, deadline⟩
  have period : (queue.edit document version now).1.quietPeriod =
      periodAfter initial (deeds ++ [.edited document stamp now]) := by
    rw [edit_quietPeriod, periodAfter_append (by simp [Deed.period?]), clocked.period]
  by_cases start : queue.state = .start
  · have idle : (queue.noteEdit now).state = .idle := by simp [noteEdit, start]
    have unarmed : queue.deadline = none := clocked.unarmed (by simp [start])
    have unchanged : (queue.noteEdit now).deadline = none := by simp [noteEdit, start, unarmed]
    apply settled period
    · rw [deadline, unchanged]
    · rw [state, idle]
      simp
    · rw [state, idle]
      simp
  · rcases noteEdit_of_begun start now with ⟨waiting, armed⟩
    rw [waiting] at state
    rw [armed, clocked.period] at deadline
    refine ⟨period, ?_, ?_, ?_, ?_⟩
    · simp [state, deadline]
    · intro due found
      rw [deadline] at found
      cases found
      exact ⟨deeds, document, stamp, now, [], rfl, by simp, rfl⟩
    · intro _
      exact ⟨document.uri, (owed_concat _).mpr (Or.inl ⟨document, stamp, rfl, rfl⟩)⟩
    · intro again
      rw [state] at again
      cases again

/-- The quiet period that is running ends when it would have ended. -/
theorem time (clocked : Clocked initial deeds queue) (quietPeriod : Span) :
    Clocked initial (deeds ++ [.timed quietPeriod]) (queue.setQuietPeriod quietPeriod) := by
  refine ⟨(periodAfter_timed quietPeriod).symm, clocked.armed, ?_, ?_, ?_⟩
  · intro due armed
    refine (clocked.due due armed).append ?_
    rintro deed member ⟨_, _, _, rfl⟩
    cases List.mem_singleton.mp member
  · intro waiting
    rcases clocked.owes waiting with ⟨uri, owed⟩
    refine ⟨uri, owed.append ?_⟩
    intro deed member
    rw [List.mem_singleton.mp member]
    rintro (forgotten | ⟨_, taken, _⟩)
    · cases forgotten
    · cases taken
  · intro start uri kept
    rcases (kept_concat _).mp kept with stored | ⟨_, earlier⟩
    · exact Deed.not_stores rfl uri stored
    · exact clocked.untouched start uri earlier

end Clocked

/-! ## What each operation does -/

/-- An edit that is stored is filed under the editor's version or the next one of the queue. -/
theorem edit_of_stored {document : Document} {version : Option Int} {now : Instant}
    (stored : (queue.edit document version now).2 = .stored) :
    (queue.edit document version now).1.drafts =
        queue.drafts.insert document.uri ⟨document, (queue.stamp version).version, true⟩ ∧
      (queue.edit document version now).1.nextVersion =
        if version.isNone then queue.nextVersion - 1 else queue.nextVersion := by
  have counter : (queue.noteEdit now).nextVersion = queue.nextVersion := by
    rw [noteEdit]
    split <;> rfl
  have drafts : (queue.noteEdit now).drafts = queue.drafts := noteEdit_drafts now
  unfold edit at stored ⊢
  by_cases sending : queue.state = .sending
  · rw [if_pos sending] at stored
    cases stored
  · rw [if_neg sending] at stored ⊢
    cases version with
    | none => simp [fileUnversioned, file, counter, drafts, stamp, Stamp.version]
    | some given =>
        by_cases known : queue.repeats document given = true
        · simp only [known, if_true] at stored
          cases stored
        · simp [known, file, counter, drafts, stamp, Stamp.version]

theorem mem_seeding {documents : List Document} {deed : Deed}
    (member : deed ∈ queue.seeding documents) :
    exists document stamp, deed = .seeded document stamp := by
  induction documents generalizing queue with
  | nil => cases member
  | cons document rest inductionHypothesis =>
      rw [seeding] at member
      split at member
      · exact inductionHypothesis member
      · rcases List.mem_cons.mp member with first | later
        · exact ⟨document, _, first⟩
        · exact inductionHypothesis later

theorem seed_deadline (queue : EditQueue) (documents : List Document) :
    (queue.seed documents).deadline = queue.deadline := by
  have along : (documents.foldl seedOne queue).deadline = queue.deadline := by
    induction documents generalizing queue with
    | nil => rfl
    | cons document rest inductionHypothesis =>
        rw [List.foldl_cons, inductionHypothesis, seedOne]
        split <;> rfl
  rw [seed]
  split <;> exact along

theorem seed_quietPeriod (queue : EditQueue) (documents : List Document) :
    (queue.seed documents).quietPeriod = queue.quietPeriod := by
  have along : (documents.foldl seedOne queue).quietPeriod = queue.quietPeriod := by
    induction documents generalizing queue with
    | nil => rfl
    | cons document rest inductionHypothesis =>
        rw [List.foldl_cons, inductionHypothesis, seedOne]
        split <;> rfl
  rw [seed]
  split <;> exact along

theorem seed_nextVersion (queue : EditQueue) (documents : List Document) :
    (queue.seed documents).nextVersion = (documents.foldl seedOne queue).nextVersion := by
  rw [seed]
  split <;> rfl

/-- Every document that seeding stores takes the next version, and one that is held is skipped. -/
theorem Records.seed (records : Records deeds queue.drafts)
    (numbered : Numbered deeds queue.nextVersion) (documents : List Document) :
    Records (deeds ++ queue.seeding documents) (queue.seed documents).drafts ∧
      Numbered (deeds ++ queue.seeding documents) (queue.seed documents).nextVersion := by
  rw [seed_drafts, seed_nextVersion]
  induction documents generalizing queue deeds with
  | nil =>
      rw [seeding, List.append_nil]
      exact ⟨records, numbered⟩
  | cons document rest inductionHypothesis =>
      rw [List.foldl_cons, seeding]
      by_cases held : queue.drafts.contains document.uri = true
      · rw [if_pos held, seedOne, if_pos held]
        exact inductionHypothesis records numbered
      · rw [if_neg held, seedOne, if_neg held, List.append_cons]
        have filing : Deed.filing? (.seeded document (.issued queue.nextVersion)) =
            some (document, .issued queue.nextVersion) := rfl
        exact inductionHypothesis (records.store filing) (numbered.issue rfl)

theorem Clocked.seed {initial : Span} (clocked : Clocked initial deeds queue)
    (documents : List Document) :
    Clocked initial (deeds ++ queue.seeding documents) (queue.seed documents) := by
  have state := seed_state queue documents
  have deadline := seed_deadline queue documents
  have period : (queue.seed documents).quietPeriod =
      periodAfter initial (deeds ++ queue.seeding documents) := by
    rw [seed_quietPeriod, clocked.period, periodAfter_append]
    intro deed member
    rcases mem_seeding member with ⟨document, stamp, rfl⟩
    rfl
  by_cases start : queue.state = .start
  · rw [if_pos start] at state
    apply settled period
    · rw [deadline]
      exact clocked.unarmed (by simp [start])
    · simp [state]
    · simp [state]
  · rw [if_neg start] at state
    refine ⟨period, ?_, ?_, ?_, ?_⟩
    · rw [deadline, state]
      exact clocked.armed
    · intro due found
      rw [deadline] at found
      apply (clocked.due due found).append
      rintro deed member ⟨_, _, _, edited⟩
      rcases mem_seeding member with ⟨document, stamp, rfl⟩
      cases edited
    · intro waiting
      rw [state] at waiting
      rcases clocked.owes waiting with ⟨uri, owed⟩
      refine ⟨uri, owed.append ?_⟩
      intro deed member
      rcases mem_seeding member with ⟨document, stamp, rfl⟩
      rintro (forgotten | ⟨_, taken, _⟩)
      · cases forgotten
      · cases taken
    · intro again
      rw [state] at again
      exact absurd again start

theorem takeBatch_of_nothing (nothing : queue.pendingDocuments = []) :
    queue.takeBatch.1 = none := by
  simp [takeBatch, nothing]

theorem takeBatch_of_pending (pending : queue.pendingDocuments ≠ []) :
    queue.takeBatch.1 = some queue.pendingDocuments ∧ queue.takeBatch.2.state = .sending := by
  simp [takeBatch, pending]

theorem takeBatch_nextVersion (queue : EditQueue) :
    queue.takeBatch.2.nextVersion = queue.nextVersion := by
  rw [takeBatch]
  dsimp only
  split
  · split <;> rfl
  · rfl

theorem takeBatch_quietPeriod (queue : EditQueue) :
    queue.takeBatch.2.quietPeriod = queue.quietPeriod := by
  rw [takeBatch]
  dsimp only
  split
  · split <;> rfl
  · rfl

/-- Without anything pending there is nothing to wait for, so only the deadline could change. -/
theorem Clocked.rest {initial : Span} (clocked : Clocked initial deeds queue)
    (records : Records deeds queue.drafts) (nothing : queue.pendingDocuments = []) :
    Clocked initial deeds queue.takeBatch.2 := by
  have unhurried : queue.state ≠ .waiting := by
    intro waiting
    rcases clocked.owes waiting with ⟨uri, owed⟩
    rcases (records.owed uri).mpr owed with ⟨draft, found, pending⟩
    exact pendingDocuments_ne_nil.mpr ⟨uri, draft, found, pending⟩ nothing
  apply clocked.same (takeBatch_quietPeriod queue)
  · rw [takeBatch_state nothing, if_neg unhurried]
  · rw [takeBatch_deadline, clocked.unarmed unhurried]

theorem Clocked.hold {initial : Span} (clocked : Clocked initial deeds queue) :
    Clocked initial deeds queue.hold := by
  by_cases waiting : queue.state = .waiting
  · apply settled
    · exact clocked.period
    · rfl
    · simp [EditQueue.hold, waiting]
    · simp [EditQueue.hold, waiting]
  · apply clocked.same
    · rfl
    · simp [EditQueue.hold, waiting]
    · exact (clocked.unarmed waiting).symm

end EditQueue

namespace QueueHistory

variable {initial : Span} {history after : QueueHistory}

/-- The queue agrees with its history since it was made with a quiet period. -/
structure Sound (initial : Span) (history : QueueHistory) : Prop where
  records : EditQueue.Records history.deeds history.queue.drafts
  numbered : EditQueue.Numbered history.deeds history.queue.nextVersion
  clocked : EditQueue.Clocked initial history.deeds history.queue

namespace Sound

theorem new (quietPeriod : Span) : Sound quietPeriod (QueueHistory.new quietPeriod) where
  records := EditQueue.Records.new
  numbered := ⟨List.Pairwise.nil, by simp [QueueHistory.new, issuedVersions], rfl⟩
  clocked := EditQueue.Clocked.new quietPeriod

theorem edit (sound : Sound initial history) {document : Document} {version : Option Int}
    {now : Instant}
    (taken : history.take? (.edit document version now) = some after) : Sound initial after := by
  cases taken
  by_cases stored : (history.queue.edit document version now).2 = .stored
  · rcases EditQueue.edit_of_stored stored with ⟨drafts, counter⟩
    simp only [if_pos stored]
    constructor
    · dsimp only
      rw [drafts]
      exact sound.records.store rfl
    · dsimp only
      rw [counter]
      cases version with
      | none => exact sound.numbered.issue rfl
      | some given => exact sound.numbered.keep rfl
    · exact sound.clocked.edit stored _
  · simp only [if_neg stored, EditQueue.edit_of_not_stored stored]
    exact sound

theorem takeBatch (sound : Sound initial history)
    (taken : history.take? .takeBatch = some after) : Sound initial after := by
  cases taken
  by_cases nothing : history.queue.pendingDocuments = []
  · simp only [EditQueue.takeBatch_of_nothing nothing]
    constructor
    · exact sound.records.rest nothing
    · rw [EditQueue.takeBatch_nextVersion]
      exact sound.numbered
    · exact sound.clocked.rest sound.records nothing
  · rcases EditQueue.takeBatch_of_pending nothing with ⟨batch, state⟩
    simp only [batch]
    constructor
    · exact sound.records.take
    · rw [EditQueue.takeBatch_nextVersion]
      exact sound.numbered.keep rfl
    · apply EditQueue.Clocked.settled
      · rw [EditQueue.takeBatch_quietPeriod, sound.clocked.period,
          periodAfter_append (by simp [Deed.period?])]
      · exact EditQueue.takeBatch_deadline _
      · simp [state]
      · simp [state]

theorem take (sound : Sound initial history) {step : QueueStep}
    (taken : history.take? step = some after) : Sound initial after := by
  cases step with
  | edit document version now => exact sound.edit taken
  | seed documents =>
      cases taken
      rcases sound.records.seed sound.numbered documents with ⟨records, numbered⟩
      exact ⟨records, numbered, sound.clocked.seed documents⟩
  | takeBatch => exact sound.takeBatch taken
  | finishSend =>
      rcases Option.map_eq_some_iff.mp taken with ⟨written, finished, rfl⟩
      rw [EditQueue.finishSend?] at finished
      split at finished
      next sending =>
        cases finished
        refine ⟨sound.records, sound.numbered,
          EditQueue.Clocked.settled sound.clocked.period ?_ ?_ ?_⟩
        · exact sound.clocked.unarmed (by simp [sending])
        · simp
        · simp
      next => cases finished
  | hold =>
      cases taken
      exact ⟨sound.records, sound.numbered, sound.clocked.hold⟩
  | reset =>
      cases taken
      have period : history.queue.quietPeriod =
          periodAfter initial (history.deeds ++ [.forgotten]) := by
        rw [periodAfter_append (by simp [Deed.period?]), sound.clocked.period]
      exact ⟨EditQueue.Records.reset, sound.numbered.keep rfl, EditQueue.Clocked.settled period rfl
        (by simp [EditQueue.reset]) (by simp [EditQueue.reset])⟩
  | setQuietPeriod quietPeriod =>
      cases taken
      exact ⟨sound.records.time quietPeriod, sound.numbered.keep rfl,
        sound.clocked.time quietPeriod⟩

theorem run {quietPeriod : Span} {steps : List QueueStep}
    (ran : (QueueHistory.new quietPeriod).run? steps = some history) :
    Sound quietPeriod history :=
  foldlM_induction (motive := fun _ reached => Sound quietPeriod reached) (new quietPeriod)
    (fun _ _ _ _ sound taken => sound.take taken) ran

end Sound

/-- A batch has exactly the documents that were stored since they last went out, a snapshot those
that were stored at all.  The latter are also the ones that seeding passes over.  An edit that is
not stored changes nothing. -/
theorem batch_exact {quietPeriod : Span} {steps : List QueueStep} {history : QueueHistory}
    (ran : (QueueHistory.new quietPeriod).run? steps = some history) :
    (history.queue.takeBatch.1.isSome ↔ exists uri, Owed uri history.deeds) ∧
      (forall batch, history.queue.takeBatch.1 = some batch ->
        Lists history.deeds (fun uri => Owed uri history.deeds) batch) ∧
      Lists history.deeds (fun uri => Kept uri history.deeds) history.queue.snapshot ∧
      (forall uri, history.queue.drafts.contains uri = true ↔ Kept uri history.deeds) ∧
      forall document version now,
        (history.queue.edit document version now).2 ≠ .stored ->
          (history.queue.edit document version now).1 = history.queue := by
  have sound := Sound.run ran
  have lists := sound.records.lists_pendingDocuments
  refine ⟨?_, ?_, sound.records.lists_snapshot, sound.records.kept,
    fun _ _ _ => EditQueue.edit_of_not_stored⟩
  · by_cases nothing : history.queue.pendingDocuments = []
    · have unowed : ¬exists uri, Owed uri history.deeds := by
        rintro ⟨uri, owed⟩
        have member := (lists.members uri).mpr owed
        rw [nothing] at member
        cases member
      simp [EditQueue.takeBatch_of_nothing nothing, unowed]
    · rcases List.exists_mem_of_ne_nil _ nothing with ⟨document, member⟩
      have owed := (lists.members document.uri).mp (List.mem_map_of_mem member)
      rw [(EditQueue.takeBatch_of_pending nothing).1]
      exact ⟨fun _ => ⟨document.uri, owed⟩, fun _ => rfl⟩
  · intro batch taken
    by_cases nothing : history.queue.pendingDocuments = []
    · rw [EditQueue.takeBatch_of_nothing nothing] at taken
      cases taken
    · rw [(EditQueue.takeBatch_of_pending nothing).1] at taken
      cases taken
      exact lists

/-- A project of one file is sent, then another file is edited twice over and the first one once. -/
def sampleSteps : List QueueStep :=
  [.seed [⟨"a", "1"⟩], .takeBatch, .finishSend, .edit ⟨"b", "x"⟩ (some 1) 5,
    .edit ⟨"b", "x"⟩ (some 1) 6, .edit ⟨"a", "2"⟩ none 7]

def sampleHistory : QueueHistory :=
  ((QueueHistory.new 50).run? sampleSteps).get (by decide +kernel)

theorem run?_sampleSteps : (QueueHistory.new 50).run? sampleSteps = some sampleHistory :=
  (Option.some_get _).symm

theorem batch_exact_sample : (QueueHistory.new 50).run? sampleSteps = some sampleHistory ∧
    Owed "a" sampleHistory.deeds ∧
    Lists sampleHistory.deeds (fun uri => Owed uri sampleHistory.deeds)
      [⟨"a", "2"⟩, ⟨"b", "x"⟩] ∧
    Lists sampleHistory.deeds (fun uri => Kept uri sampleHistory.deeds)
      [⟨"a", "2"⟩, ⟨"b", "x"⟩] := by
  rcases batch_exact run?_sampleSteps with ⟨_, batches, snapshot, _, _⟩
  have batch := batches [⟨"a", "2"⟩, ⟨"b", "x"⟩] (by decide +kernel)
  have held : sampleHistory.queue.snapshot = [⟨"a", "2"⟩, ⟨"b", "x"⟩] := by decide +kernel
  rw [held] at snapshot
  exact ⟨run?_sampleSteps, (batch.members "a").mp (by decide), batch, snapshot⟩

/-- The deadline is set exactly while the queue waits, and comes from the last edit that was stored
and the quiet period that was set last before it.  A queue that waits has something to send, a queue
that has not begun holds nothing, and every draft is under its own uri with the version it was
stored under.  The versions that the queue issues are negative and count down. -/
theorem clock_exact {quietPeriod : Span} {steps : List QueueStep} {history : QueueHistory}
    (ran : (QueueHistory.new quietPeriod).run? steps = some history) :
    (history.queue.deadline.isSome ↔ history.queue.state = .waiting) ∧
      (forall due, history.queue.deadline = some due -> DueAt quietPeriod due history.deeds) ∧
      history.queue.quietPeriod = periodAfter quietPeriod history.deeds ∧
      (history.queue.state = .waiting -> exists uri draft,
        history.queue.drafts.find? uri = some draft ∧ draft.pending = true) ∧
      (history.queue.state = .start -> history.queue.drafts.entries = []) ∧
      (forall uri draft, history.queue.drafts.find? uri = some draft ->
        draft.document.uri = uri ∧
          exists stamp, Latest draft.document stamp history.deeds ∧
            draft.version = stamp.version) ∧
      (issuedVersions history.deeds).Pairwise (fun earlier later => later < earlier) ∧
      (forall version, version ∈ issuedVersions history.deeds ->
        history.queue.nextVersion < version ∧ version < 0) ∧
      ((issuedVersions history.deeds).length ≤ Int64.maxValue.toInt ->
        Int64.minValue.toInt ≤ history.queue.nextVersion) := by
  have sound := Sound.run ran
  refine ⟨sound.clocked.armed, sound.clocked.due, sound.clocked.period, ?_, ?_, ?_,
    sound.numbered.descending, sound.numbered.between, ?_⟩
  · intro waiting
    rcases sound.clocked.owes waiting with ⟨uri, owed⟩
    rcases (sound.records.owed uri).mpr owed with ⟨draft, found, pending⟩
    exact ⟨uri, draft, found, pending⟩
  · intro start
    apply List.eq_nil_iff_forall_not_mem.mpr
    rintro ⟨uri, draft⟩ member
    have found := (Table.mem_entries_iff _ _ _).mp member
    exact sound.clocked.untouched start uri ((sound.records.kept uri).mp (by rw [found]; rfl))
  · intro uri draft found
    exact ⟨sound.records.filed uri draft found, sound.records.latest uri draft found⟩
  · intro few
    have count := sound.numbered.count
    have least : Int64.minValue.toInt = -Int64.maxValue.toInt - 1 := by decide
    omega

/-- The quiet period is set before the first edit, while the queue waits, and again after the last
edit.  In between the queue is held, a batch is asked for in vain, a project is loaded while a batch
is being written, and everything is forgotten. -/
def restlessSteps : List QueueStep :=
  [.hold, .takeBatch, .setQuietPeriod 70, .edit ⟨"a", "1"⟩ none 1, .edit ⟨"b", "x"⟩ (some 1) 5,
    .setQuietPeriod 20, .hold, .takeBatch, .seed [⟨"c", "2"⟩], .finishSend, .reset,
    .edit ⟨"d", "3"⟩ none 40, .setQuietPeriod 90]

def restlessHistory : QueueHistory :=
  ((QueueHistory.new 50).run? restlessSteps).get (by decide +kernel)

theorem clock_exact_sample : (QueueHistory.new 50).run? restlessSteps = some restlessHistory ∧
    restlessHistory.queue.state = .waiting ∧
    restlessHistory.queue.deadline = some 60 ∧ DueAt 50 60 restlessHistory.deeds ∧
    restlessHistory.queue.quietPeriod = 90 ∧ periodAfter 50 restlessHistory.deeds = 90 ∧
    issuedVersions restlessHistory.deeds = [-1, -2, -3] ∧
    restlessHistory.queue.nextVersion < -3 := by
  have ran : (QueueHistory.new 50).run? restlessSteps = some restlessHistory :=
    (Option.some_get _).symm
  rcases clock_exact ran with ⟨waits, due, period, _, _, _, _, between, _⟩
  have armed : restlessHistory.queue.deadline = some 60 := by decide +kernel
  have current : restlessHistory.queue.quietPeriod = 90 := by decide +kernel
  have issued : issuedVersions restlessHistory.deeds = [-1, -2, -3] := by decide +kernel
  have last : (-3 : Int) ∈ issuedVersions restlessHistory.deeds := by simp [issued]
  exact ⟨ran, waits.mp (by rw [armed]; rfl), armed, due 60 armed, current,
    period.symm.trans current, issued, (between (-3) last).1⟩

end QueueHistory
end Session
end LanguageServer
