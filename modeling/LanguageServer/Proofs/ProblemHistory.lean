import LanguageServer.Proofs.Problems

namespace LanguageServer
namespace Session

/-!
# The problem store and its history

The store is cleared in four ways, of different reach: the analysis of one document, both bands of
one document, the analysis of all documents, and everything.  Here the same is told from the list of
steps alone, without a store: which band of which document a step empties, and which remarks were
added behind the last step that did.

The two agree for every list of steps.  A document whose bands were emptied keeps its entry, so the
entries are cut only where everything was cleared, and the bands of one entry may begin at different
steps.
-/

/-- A change of the problem store. -/
inductive ProblemStep where
  | add (remark : Remark)
  | clearParse (uri : String)
  | clearAnalysis (uri : String)
  | clearAllAnalysis
  | clear
deriving DecidableEq, Repr

namespace ProblemStep

/-- The remark that a step adds. -/
def remark? : ProblemStep -> Option Remark
  | .add remark => some remark
  | .clearParse _ | .clearAnalysis _ | .clearAllAnalysis | .clear => none

/-- The step leaves nothing in this band of the document. -/
def empties (band : Band) (uri : String) : ProblemStep -> Bool
  | .add _ => false
  | .clearParse key => uri = key
  | .clearAnalysis key => band = .analysis ∧ uri = key
  | .clearAllAnalysis => band = .analysis
  | .clear => true

end ProblemStep

/-! ## What a history says -/

/-- The steps behind the last one that `ends` picks, or all of them. -/
def stepsSince (ends : ProblemStep -> Bool) (steps : List ProblemStep) : List ProblemStep :=
  (steps.reverse.takeWhile (fun step => !ends step)).reverse

/-- The remarks that were added behind the last step that `ends` picks. -/
def remarksSince (ends : ProblemStep -> Bool) (steps : List ProblemStep) : List Remark :=
  (stepsSince ends steps).filterMap ProblemStep.remark?

/-- The documents that a remark was made about since everything was cleared. -/
def mentioned (steps : List ProblemStep) : List String :=
  (remarksSince (fun step => step = .clear) steps).map Remark.uri

/-- What was said about a document in one band since that band was emptied. -/
def outstanding (band : Band) (uri : String) (steps : List ProblemStep) : List Diagnostic :=
  Remark.about band uri (remarksSince (ProblemStep.empties band uri) steps)

/-- What is to be shown of a document: the problems of its parse, and behind them its share of the
analysis. -/
def toShow (uri : String) (steps : List ProblemStep) : List Diagnostic :=
  outstanding .parse uri steps ++ outstanding .analysis uri steps

section Concat

variable (steps : List ProblemStep) (step : ProblemStep)

theorem remarksSince_concat (ends : ProblemStep -> Bool) :
    remarksSince ends (steps ++ [step]) =
      if ends step then [] else remarksSince ends steps ++ step.remark?.toList := by
  rw [remarksSince, stepsSince, List.reverse_append, List.reverse_singleton, List.singleton_append]
  by_cases ended : ends step = true
  · simp [ended]
  · rw [List.takeWhile_cons_of_pos (by simp [ended]), List.reverse_cons, List.filterMap_append,
      if_neg ended]
    cases found : step.remark? <;> simp [remarksSince, stepsSince, found]

theorem mentioned_concat :
    mentioned (steps ++ [step]) =
      if step = .clear then [] else mentioned steps ++ step.remark?.toList.map Remark.uri := by
  rw [mentioned, remarksSince_concat]
  by_cases cleared : step = .clear <;> simp [cleared, mentioned]

theorem outstanding_concat (band : Band) (uri : String) :
    outstanding band uri (steps ++ [step]) =
      if step.empties band uri then []
      else outstanding band uri steps ++ Remark.about band uri step.remark?.toList := by
  rw [outstanding, remarksSince_concat]
  by_cases emptied : step.empties band uri = true <;> simp [emptied, outstanding]

end Concat

/-! ## The store along its history -/

namespace ProblemStore

/-- Make one change. -/
def take (store : ProblemStore) : ProblemStep -> ProblemStore
  | .add remark => store.add remark.band remark.uri remark.diagnostic
  | .clearParse uri => store.clearParse uri
  | .clearAnalysis uri => store.clearAnalysis uri
  | .clearAllAnalysis => store.clearAllAnalysis
  | .clear => store.clear.2

/-- Make changes one after the other, beginning with an empty store. -/
def run (steps : List ProblemStep) : ProblemStore :=
  steps.foldl take empty

/-- One step empties a band, or leaves it with the remark that the step adds. -/
theorem listed_take (store : ProblemStore) (step : ProblemStep) (band : Band) (uri : String) :
    (store.take step).listed band uri =
      if step.empties band uri then []
      else store.listed band uri ++ Remark.about band uri step.remark?.toList := by
  cases step with
  | add remark =>
      simp [take, listed_add, ProblemStep.empties, ProblemStep.remark?, Remark.about_cons]
  | clearParse key =>
      simp [take, listed_clearParse, ProblemStep.empties, ProblemStep.remark?]
  | clearAnalysis key =>
      simp [take, listed_clearAnalysis, ProblemStep.empties, ProblemStep.remark?]
  | clearAllAnalysis =>
      simp [take, listed_clearAllAnalysis, ProblemStep.empties, ProblemStep.remark?]
  | clear => simp [take, clear, ProblemStep.empties]

/-- An entry comes with a remark and goes when everything is cleared. -/
theorem mem_uris_take (store : ProblemStore) (step : ProblemStep) (uri : String) :
    uri ∈ (store.take step).uris ↔
      step ≠ .clear ∧ (uri ∈ store.uris ∨ uri ∈ step.remark?.toList.map Remark.uri) := by
  cases step with
  | add remark => simp [take, add, uris, Table.mem_keys_alter, ProblemStep.remark?]
  | clearParse key => simp [take, clearParse, uris, Table.adjust, ProblemStep.remark?]
  | clearAnalysis key =>
      simp [take, clearAnalysis, uris, Table.adjust, ProblemStep.remark?]
  | clearAllAnalysis => simp [take, clearAllAnalysis, uris, ProblemStep.remark?]
  | clear => simp [take, clear, uris, empty, Table.keys, Table.empty]

/-- The store holds what the steps say. -/
structure Tells (store : ProblemStore) (steps : List ProblemStep) : Prop where
  entries : forall uri, uri ∈ store.uris ↔ uri ∈ mentioned steps
  bands : forall band uri, store.listed band uri = outstanding band uri steps

namespace Tells

variable {store : ProblemStore} {steps : List ProblemStep}

theorem new : Tells empty [] where
  entries _ := Iff.rfl
  bands band uri := listed_empty band uri

theorem take (tells : store.Tells steps) (step : ProblemStep) :
    (store.take step).Tells (steps ++ [step]) where
  entries uri := by
    rw [mem_uris_take, mentioned_concat, tells.entries]
    by_cases cleared : step = .clear <;> simp [cleared]
  bands band uri := by
    rw [listed_take, outstanding_concat, tells.bands]

theorem run (steps : List ProblemStep) : (ProblemStore.run steps).Tells steps := by
  have along : forall (later earlier : List ProblemStep) (store : ProblemStore),
      store.Tells earlier -> (later.foldl ProblemStore.take store).Tells (earlier ++ later) := by
    intro later
    induction later with
    | nil =>
        intro earlier store tells
        rw [List.append_nil]
        exact tells
    | cons step rest inductionHypothesis =>
        intro earlier store tells
        rw [List.append_cons]
        exact inductionHypothesis (earlier ++ [step]) (store.take step) (tells.take step)
  exact along steps [] empty new

theorem listing_eq (tells : store.Tells steps) :
    store.listing = store.uris.map (fun uri => (uri, toShow uri steps)) := by
  rw [ProblemStore.listing_eq]
  simp only [tells.bands, toShow]

end Tells

/-- Whatever was done to the store, it lists in ascending order the documents that were mentioned
since everything was cleared, each with what was said about it since each of its bands was emptied.
The errors are counted in that listing, and clearing the store tells the same documents. -/
theorem store_tells_history (steps : List ProblemStep) :
    exists uris : List String,
      uris.Pairwise (· < ·) ∧
      (forall uri, uri ∈ uris ↔ uri ∈ mentioned steps) ∧
      (run steps).listing = uris.map (fun uri => (uri, toShow uri steps)) ∧
      (run steps).errorCount =
        (uris.flatMap (fun uri => toShow uri steps)).countP
          (fun diagnostic => diagnostic.severity = .error) ∧
      (run steps).clear.1 = uris := by
  have tells := Tells.run steps
  refine ⟨(run steps).uris, (run steps).documents.keys_ascending, tells.entries, tells.listing_eq,
    ?_, rfl⟩
  rw [errorCount, tells.listing_eq, List.flatMap_map]

end ProblemStore
end Session
end LanguageServer
