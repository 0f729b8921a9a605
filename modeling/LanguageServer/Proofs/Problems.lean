import LanguageServer.Proofs.Operations
import LanguageServer.Proofs.Tables

namespace LanguageServer
namespace Session

/-!
# What the problem store lists

The store is seen through `listed`: the diagnostics of one band of one document, none when the
document has no entry.  Every change of the store has one equation for `listed`, and a publication
lists every document that has an entry once, with both bands.
-/

namespace DocumentProblems

/-- The diagnostics of one band. -/
def ofBand (problems : DocumentProblems) : Band -> List Diagnostic
  | .parse => problems.parse
  | .analysis => problems.analysis

@[simp] theorem ofBand_empty (band : Band) : empty.ofBand band = [] := by
  cases band <;> rfl

theorem ofBand_add (problems : DocumentProblems) (added band : Band) (diagnostic : Diagnostic) :
    (problems.add added diagnostic).ofBand band =
      problems.ofBand band ++ if band = added then [diagnostic] else [] := by
  cases added <;> cases band <;> simp [add, ofBand]

theorem ofBand_clearAnalysis (problems : DocumentProblems) (band : Band) :
    problems.clearAnalysis.ofBand band = if band = .analysis then [] else problems.ofBand band := by
  cases band <;> rfl

end DocumentProblems

namespace ProblemStore

/-- The diagnostics of one band of a document. -/
def listed (store : ProblemStore) (band : Band) (uri : String) : List Diagnostic :=
  ((store.documents.find? uri).getD DocumentProblems.empty).ofBand band

@[simp] theorem listed_empty (band : Band) (uri : String) : empty.listed band uri = [] :=
  DocumentProblems.ofBand_empty band

theorem listed_add (store : ProblemStore) (added band : Band) (key uri : String)
    (diagnostic : Diagnostic) :
    (store.add added key diagnostic).listed band uri =
      store.listed band uri ++ if added = band ∧ key = uri then [diagnostic] else [] := by
  rw [listed, add, Table.find?_alter]
  by_cases same : uri = key
  · subst same
    simp only [if_true, Option.getD_some, DocumentProblems.ofBand_add, listed]
    by_cases sameBand : added = band
    · simp [sameBand]
    · simp [sameBand, Ne.symm sameBand]
  · simp [same, Ne.symm same, listed]

/-- A fresh parse of a document empties both of its bands. -/
theorem listed_clearParse (store : ProblemStore) (key uri : String) (band : Band) :
    (store.clearParse key).listed band uri = if uri = key then [] else store.listed band uri := by
  rw [listed, clearParse, Table.find?_adjust]
  by_cases same : uri = key
  · simp only [if_pos same]
    cases store.documents.find? uri <;> exact DocumentProblems.ofBand_empty band
  · simp only [if_neg same, listed]

theorem listed_clearAnalysis (store : ProblemStore) (key uri : String) (band : Band) :
    (store.clearAnalysis key).listed band uri =
      if band = .analysis ∧ uri = key then [] else store.listed band uri := by
  rw [listed, clearAnalysis, Table.find?_adjust, listed]
  by_cases same : uri = key
  · cases store.documents.find? uri with
    | none => simp [same]
    | some problems => simp [same, DocumentProblems.ofBand_clearAnalysis]
  · simp [same]

theorem listed_clearAllAnalysis (store : ProblemStore) (uri : String) (band : Band) :
    store.clearAllAnalysis.listed band uri =
      if band = .analysis then [] else store.listed band uri := by
  rw [listed, clearAllAnalysis, Table.find?_map, listed]
  cases store.documents.find? uri with
  | none => cases band <;> rfl
  | some problems => exact DocumentProblems.ofBand_clearAnalysis problems band

/-! ## Publication -/

@[simp] theorem listing_uris (store : ProblemStore) : store.listing.map Prod.fst = store.uris := by
  simp [listing, uris, Table.keys]

theorem uris_nodup (store : ProblemStore) : store.uris.Nodup :=
  store.documents.keys_nodup

theorem listed_of_not_mem {store : ProblemStore} {uri : String} (absent : uri ∉ store.uris)
    (band : Band) : store.listed band uri = [] := by
  rw [uris, Table.mem_keys_iff] at absent
  cases found : store.documents.find? uri with
  | none => rw [listed, found, Option.getD_none, DocumentProblems.ofBand_empty]
  | some problems => exact absurd ⟨problems, found⟩ absent

/-- A document is listed with the problems of its parse and, behind them, its share of the
analysis. -/
theorem eq_of_mem_listing {store : ProblemStore} {uri : String} {items : List Diagnostic}
    (member : (uri, items) ∈ store.listing) :
    items = store.listed .parse uri ++ store.listed .analysis uri := by
  rcases List.mem_map.mp member with ⟨⟨key, problems⟩, entry, same⟩
  rcases Prod.mk.inj same with ⟨sameKey, sameItems⟩
  dsimp only at sameKey sameItems
  subst sameKey
  rw [listed, listed, (Table.mem_entries_iff store.documents key problems).mp entry, ← sameItems]
  rfl

/-- The listing is made of the entries and of what is filed in their bands. -/
theorem listing_eq (store : ProblemStore) :
    store.listing =
      store.uris.map (fun uri => (uri, store.listed .parse uri ++ store.listed .analysis uri)) := by
  rw [← listing_uris, List.map_map]
  refine (List.map_id store.listing).symm.trans (List.map_congr_left ?_)
  rintro ⟨uri, items⟩ member
  exact congrArg (Prod.mk uri) (eq_of_mem_listing member)

end ProblemStore

/-! ## Reports -/

/-- A diagnostic with the document it is about. -/
structure Remark where
  band : Band
  uri : String
  diagnostic : Diagnostic
deriving DecidableEq, Repr, Inhabited

namespace Remark

/-- The remark on a line of a report, if there is one. -/
def read? (band : Band) (line : String) : Option Remark :=
  match Wire.Payload.diagnostic? line with
  | .ok (some (uri, diagnostic)) => some ⟨band, uri, diagnostic⟩
  | _ => none

/-- The remarks of a report. -/
def readAll (band : Band) (lines : List String) : List Remark :=
  lines.filterMap (read? band)

theorem readAll_cons (band : Band) (line : String) (rest : List String) :
    readAll band (line :: rest) = (read? band line).toList ++ readAll band rest := by
  cases found : read? band line <;> simp [readAll, found]

/-- What some remarks say about a document in one band. -/
def about (band : Band) (uri : String) (remarks : List Remark) : List Diagnostic :=
  (remarks.filter (fun remark => remark.band = band ∧ remark.uri = uri)).map diagnostic

@[simp] theorem about_nil (band : Band) (uri : String) : about band uri [] = [] := rfl

@[simp] theorem about_append (band : Band) (uri : String) (earlier later : List Remark) :
    about band uri (earlier ++ later) = about band uri earlier ++ about band uri later := by
  simp [about]

theorem about_cons (band : Band) (uri : String) (remark : Remark) (rest : List Remark) :
    about band uri (remark :: rest) =
      (if remark.band = band ∧ remark.uri = uri then [remark.diagnostic] else []) ++
        about band uri rest := by
  by_cases meant : remark.band = band ∧ remark.uri = uri <;> simp [about, meant]

/-- Nothing is said in another band, or about a document that is not mentioned. -/
theorem about_eq_nil {band : Band} {uri : String} {remarks : List Remark}
    (elsewhere : forall remark, remark ∈ remarks -> remark.band = band -> remark.uri ≠ uri) :
    about band uri remarks = [] := by
  rw [about, List.map_eq_nil_iff, List.filter_eq_nil_iff]
  intro remark member meant
  rw [decide_eq_true_eq] at meant
  exact elsewhere remark member meant.1 meant.2

end Remark

namespace Pipeline

theorem listed_addProblem (store : ProblemStore) (reported band : Band) (line uri : String) :
    (addProblem reported store line).listed band uri =
      store.listed band uri ++ Remark.about band uri (Remark.read? reported line).toList := by
  rw [addProblem]
  split
  next key diagnostic found =>
    have remark : Remark.read? reported line = some ⟨reported, key, diagnostic⟩ := by
      rw [Remark.read?, found]
    rw [ProblemStore.listed_add, remark, Option.toList_some, Remark.about_cons, Remark.about_nil,
      List.append_nil]
  next unread =>
    have nothing : Remark.read? reported line = none := by
      rw [Remark.read?]
      split
      next key diagnostic found => exact absurd found (unread key diagnostic)
      next => rfl
    rw [nothing, Option.toList_none, Remark.about_nil, List.append_nil]

/-- A report adds its remarks, in order. -/
theorem listed_addProblems (pipeline : Pipeline) (reported band : Band) (lines : List String)
    (uri : String) :
    (pipeline.addProblems reported lines).problems.listed band uri =
      pipeline.problems.listed band uri ++
        Remark.about band uri (Remark.readAll reported lines) := by
  have along : forall (lines : List String) (store : ProblemStore),
      (lines.foldl (addProblem reported) store).listed band uri =
        store.listed band uri ++ Remark.about band uri (Remark.readAll reported lines) := by
    intro lines
    induction lines with
    | nil => intro store; simp [Remark.readAll]
    | cons line rest inductionHypothesis =>
        intro store
        rw [List.foldl_cons, inductionHypothesis, listed_addProblem, Remark.readAll_cons,
          Remark.about_append, List.append_assoc]
  exact along lines pipeline.problems

/-- When a batch is sent, the problems of its documents go, and so does the whole analysis. -/
theorem listed_clearProblems (store : ProblemStore) (batch : List Document) (band : Band)
    (uri : String) :
    (clearProblems store batch).listed band uri =
      if band = .analysis ∨ uri ∈ batch.map Document.uri then [] else store.listed band uri := by
  have along : forall (batch : List Document) (store : ProblemStore),
      (batch.foldl (fun store document => store.clearParse document.uri) store).listed band uri =
        if uri ∈ batch.map Document.uri then [] else store.listed band uri := by
    intro batch
    induction batch with
    | nil => intro store; simp
    | cons document rest inductionHypothesis =>
        intro store
        rw [List.foldl_cons, inductionHypothesis, ProblemStore.listed_clearParse]
        by_cases later : uri ∈ rest.map Document.uri <;> simp [later]
  rw [clearProblems, ProblemStore.listed_clearAllAnalysis, along]
  by_cases analysis : band = .analysis <;> simp [analysis]

theorem clearProblems_empty (batch : List Document) :
    clearProblems ProblemStore.empty batch = ProblemStore.empty := by
  induction batch with
  | nil => rfl
  | cons document rest inductionHypothesis => exact inductionHypothesis

end Pipeline
end Session
end LanguageServer
