import LanguageServer.Proofs.Publications

namespace LanguageServer
namespace Session

/-!
# What a compiler inherits

The problem store belongs to the pipeline and may outlive a compiler.  What a later compiler finds
in it is inherited: it is published along with what that compiler reports itself, until something
clears it.  A batch clears the whole analysis, but the parse only of its own documents, and a fresh
start of the compiler clears everything.

`Composed` says how the two parts stand together.  Once it holds of the store it is kept by
everything that happens while the contact lasts, and every publication on the way is explained by
it.
-/

namespace Effect

/-- The effects since the last launch. -/
def tenure (effects : List Effect) : List Effect :=
  effects.foldl (fun since effect =>
    match effect with | .launch .. => [] | other => since ++ [other]) []

theorem tenure_append {effects more : List Effect}
    (stays : forall generation plan, Effect.launch generation plan ∉ more) :
    tenure (effects ++ more) = tenure effects ++ more := by
  induction more generalizing effects with
  | nil => simp
  | cons effect rest inductionHypothesis =>
      have first : tenure (effects ++ [effect]) = tenure effects ++ [effect] := by
        rw [tenure, List.foldl_append]
        cases effect with
        | launch generation plan => exact absurd List.mem_cons_self (stays generation plan)
        | _ => rfl
      have later : tenure ((effects ++ [effect]) ++ rest) = tenure (effects ++ [effect]) ++ rest :=
        inductionHypothesis (fun generation plan member =>
          stays generation plan (List.mem_cons_of_mem _ member))
      rw [List.append_cons, later, first, ← List.append_cons]

theorem not_launch_of_words {words : List Effect}
    (spoken : forall word, word ∈ words -> word.isWord = true) (generation : Nat) (plan : Plan) :
    Effect.launch generation plan ∉ words := by
  intro member
  cases spoken _ member

theorem tenure_append_words {effects words : List Effect}
    (spoken : forall word, word ∈ words -> word.isWord = true) :
    tenure (effects ++ words) = tenure effects ++ words :=
  tenure_append (not_launch_of_words spoken)

theorem tenure_append_launch (effects : List Effect) (generation : Nat) (plan : Plan) :
    tenure (effects ++ [.launch generation plan]) = [] := by
  rw [tenure, List.foldl_append]
  rfl

end Effect

namespace Remark

/-- The remarks in a frame. -/
def inSegment : Except Wire.FrameFault Wire.Frame -> List Remark
  | .ok ⟨.diagParse, lines⟩ => readAll .parse lines
  | .ok ⟨.diagAnalysis, lines⟩ => readAll .analysis lines
  | _ => []

/-- The remarks in some frames. -/
def reported (segments : List (Except Wire.FrameFault Wire.Frame)) : List Remark :=
  segments.flatMap inSegment

theorem reported_append (earlier later : List (Except Wire.FrameFault Wire.Frame)) :
    reported (earlier ++ later) = reported earlier ++ reported later :=
  List.flatMap_append

theorem inSegment_report (band : Band) (lines : List String) :
    inSegment (.ok ⟨Pipeline.reportCommand band, lines⟩) = readAll band lines := by
  cases band <;> rfl

end Remark

namespace ProblemStore

/-- What is left of a store once these documents were sent and these diagnostics were published.
Sending a document makes its problems worthless, and all of the analysis; and nothing is left for a
document that was published as having no problems. -/
def remaining (store : ProblemStore) (sent : List Document)
    (shown : List (String × List Diagnostic)) (band : Band) (uri : String) : List Diagnostic :=
  if (exists document, document ∈ sent ∧ (band = .analysis ∨ document.uri = uri)) ∨
      (uri, []) ∈ shown then []
  else store.listed band uri

variable (store : ProblemStore) (sent : List Document) (shown : List (String × List Diagnostic))
  (band : Band) (uri : String)

theorem remaining_nothing : store.remaining [] [] band uri = store.listed band uri := by
  simp [remaining]

theorem remaining_shown (more : List (String × List Diagnostic)) :
    store.remaining sent (shown ++ more) band uri =
      if (uri, []) ∈ more then [] else store.remaining sent shown band uri := by
  unfold remaining
  by_cases blank : (uri, []) ∈ more <;> simp [blank]

theorem remaining_sent {batch : List Document} (some_sent : batch ≠ []) :
    store.remaining (sent ++ batch) shown band uri =
      if band = .analysis ∨ uri ∈ batch.map Document.uri then []
      else store.remaining sent shown band uri := by
  have covered : (exists document, document ∈ batch ∧ (band = .analysis ∨ document.uri = uri)) ↔
      (band = .analysis ∨ uri ∈ batch.map Document.uri) := by
    rcases List.exists_mem_of_ne_nil batch some_sent with ⟨one, member⟩
    rw [List.mem_map]
    constructor
    · rintro ⟨document, inside, analysis | same⟩
      · exact Or.inl analysis
      · exact Or.inr ⟨document, inside, same⟩
    · rintro (analysis | ⟨document, inside, same⟩)
      · exact ⟨one, member, Or.inl analysis⟩
      · exact ⟨document, inside, Or.inr same⟩
  have either : (exists document, document ∈ sent ++ batch ∧
        (band = .analysis ∨ document.uri = uri)) ↔
      (exists document, document ∈ sent ∧ (band = .analysis ∨ document.uri = uri)) ∨
        (band = .analysis ∨ uri ∈ batch.map Document.uri) := by
    rw [← covered]
    simp only [List.mem_append, or_and_right, exists_or]
  unfold remaining
  simp only [either]
  by_cases cleared : band = .analysis ∨ uri ∈ batch.map Document.uri
  · simp only [cleared, or_true, true_or, if_true]
  · simp only [cleared, or_false, if_false]

end ProblemStore

/-! ## Where the diagnostics come from -/

/-- The diagnostics of each band of a document are what is left of the inherited ones, and then some
that were reported. -/
def Composed (inherited : ProblemStore) (reports : List Remark) (history : List Effect)
    (uri : String) (listed : Band -> List Diagnostic) : Prop :=
  exists (sent : List Document) (own : Band -> List Diagnostic),
    Wire.Conveys (Effect.told history) sent ∧
    (forall band, List.Sublist (own band) (Remark.about band uri reports)) ∧
    forall band, listed band =
      inherited.remaining sent (Effect.publications (Effect.tenure history)) band uri ++ own band

namespace Composed

variable {inherited : ProblemStore} {reports : List Remark} {history words : List Effect}
  {uri : String} {listed : Band -> List Diagnostic}

/-- Further reports may be left unused. -/
theorem mono (composed : Composed inherited reports history uri listed) (more : List Remark) :
    Composed inherited (reports ++ more) history uri listed := by
  rcases composed with ⟨sent, own, conveyed, reported, parts⟩
  refine ⟨sent, own, conveyed, ?_, parts⟩
  intro band
  rw [Remark.about_append]
  exact (reported band).trans (List.sublist_append_left _ _)

/-- A report adds its remarks at the end. -/
theorem report (composed : Composed inherited reports history uri listed) (more : List Remark) :
    Composed inherited (reports ++ more) history uri
      (fun band => listed band ++ Remark.about band uri more) := by
  rcases composed with ⟨sent, own, conveyed, reported, parts⟩
  refine ⟨sent, fun band => own band ++ Remark.about band uri more, conveyed, ?_, ?_⟩
  · intro band
    rw [Remark.about_append]
    exact (reported band).append (List.Sublist.refl _)
  · intro band
    dsimp only
    rw [parts band, List.append_assoc]

/-- Nothing changes for a document that is neither sent nor published as having no problems. -/
theorem pass (composed : Composed inherited reports history uri listed)
    (spoken : forall word, word ∈ words -> word.isWord = true)
    (conveyed : Wire.Conveys (Effect.texts words) [])
    (unmentioned : (uri, []) ∉ Effect.publications words) :
    Composed inherited reports (history ++ words) uri listed := by
  rcases composed with ⟨sent, own, told, reported, parts⟩
  refine ⟨sent, own, ?_, reported, ?_⟩
  · have more := told.append conveyed
    rw [List.append_nil] at more
    rw [Effect.told_append_words spoken]
    exact more
  · intro band
    rw [Effect.tenure_append_words spoken, Effect.publications_append,
      ProblemStore.remaining_shown, if_neg unmentioned]
    exact parts band

/-- Nothing is left for a document that is published as having no problems, or that has none. -/
theorem blank (composed : Composed inherited reports history uri listed)
    (spoken : forall word, word ∈ words -> word.isWord = true)
    (conveyed : Wire.Conveys (Effect.texts words) [])
    (gone : (uri, []) ∈ Effect.publications words ∨ forall band, listed band = []) :
    Composed inherited reports (history ++ words) uri (fun _ => []) := by
  rcases composed with ⟨sent, own, told, reported, parts⟩
  refine ⟨sent, fun _ => [], ?_, fun _ => List.nil_sublist _, ?_⟩
  · have more := told.append conveyed
    rw [List.append_nil] at more
    rw [Effect.told_append_words spoken]
    exact more
  · intro band
    rw [Effect.tenure_append_words spoken, Effect.publications_append,
      ProblemStore.remaining_shown, List.append_nil]
    split
    · rfl
    next unmentioned =>
      have nothing := (gone.resolve_left unmentioned) band
      rw [parts band, List.append_eq_nil_iff] at nothing
      exact nothing.1.symm

/-- A batch clears what it makes worthless, whether it was inherited or reported. -/
theorem send (composed : Composed inherited reports history uri listed) {batch : List Document}
    (spoken : forall word, word ∈ words -> word.isWord = true)
    (conveyed : Wire.Conveys (Effect.texts words) batch) (some_sent : batch ≠ [])
    (unmentioned : (uri, []) ∉ Effect.publications words) :
    Composed inherited reports (history ++ words) uri (fun band =>
      if band = .analysis ∨ uri ∈ batch.map Document.uri then [] else listed band) := by
  rcases composed with ⟨sent, own, told, reported, parts⟩
  refine ⟨sent ++ batch, fun band =>
    if band = .analysis ∨ uri ∈ batch.map Document.uri then [] else own band, ?_, ?_, ?_⟩
  · rw [Effect.told_append_words spoken]
    exact told.append conveyed
  · intro band
    dsimp only
    split
    · exact List.nil_sublist _
    · exact reported band
  · intro band
    rw [Effect.tenure_append_words spoken, Effect.publications_append,
      ProblemStore.remaining_shown, if_neg unmentioned,
      ProblemStore.remaining_sent _ _ _ _ _ some_sent]
    dsimp only
    split
    · rfl
    · exact parts band

end Composed

/-! ## Publications -/

/-- Every publication among the effects that shows anything shows diagnostics that are inherited or
reported. -/
def Explained (inherited : ProblemStore) (reports : List Remark) (history effects : List Effect) :
    Prop :=
  forall said uri items rest, effects = said ++ .emit (.diagnostics uri items) :: rest ->
    items ≠ [] -> exists listed, Composed inherited reports (history ++ said) uri listed ∧
      items = listed .parse ++ listed .analysis

namespace Explained

variable {inherited : ProblemStore} {reports : List Remark} {history effects more : List Effect}

theorem mono (explained : Explained inherited reports history effects) (further : List Remark) :
    Explained inherited (reports ++ further) history effects := by
  intro said uri items rest split shows
  rcases explained said uri items rest split shows with ⟨listed, composed, same⟩
  exact ⟨listed, composed.mono further, same⟩

theorem append (first : Explained inherited reports history effects)
    (second : Explained inherited reports (history ++ effects) more) :
    Explained inherited reports history (effects ++ more) := by
  intro said uri items rest split shows
  rcases List.append_eq_append_iff.mp split with ⟨behind, sameSaid, sameMore⟩ |
    ⟨behind, sameEffects, sameRest⟩
  · rw [sameSaid, ← List.append_assoc]
    exact second behind uri items rest sameMore shows
  · cases behind with
    | nil =>
        rw [List.append_nil] at sameEffects
        rw [← sameEffects, ← List.append_nil effects, ← List.append_assoc]
        exact second [] uri items rest sameRest.symm shows
    | cons effect further =>
        rw [List.cons_append, List.cons.injEq] at sameRest
        rw [← sameRest.1] at sameEffects
        exact first said uri items further sameEffects shows

/-- Publications that show nothing need no explanation. -/
theorem of_blank (blank : forall entry, entry ∈ Effect.publications effects -> entry.2 = []) :
    Explained inherited reports history effects := by
  intro said uri items rest split shows
  rw [split, Effect.publications_append] at blank
  exact absurd (blank (uri, items) (List.mem_append_right _ List.mem_cons_self)) shows

/-- The listing of a store whose entries are explained is explained.  Each document is listed once,
so that what is published before its own entry does not matter for it. -/
theorem of_listing {store : ProblemStore}
    (composed : forall uri, Composed inherited reports history uri
      (fun band => store.listed band uri))
    (spoken : forall word, word ∈ effects -> word.isWord = true)
    (silent : Effect.texts effects = []) (published : Effect.publications effects = store.listing) :
    Explained inherited reports history effects := by
  intro said uri items rest split _
  rw [split, Effect.publications_append] at published
  rw [split, Effect.texts_append, List.append_eq_nil_iff] at silent
  have entry : (uri, items) ∈ store.listing := by
    rw [← published]
    exact List.mem_append_right _ List.mem_cons_self
  have once := ProblemStore.uris_nodup store
  rw [← ProblemStore.listing_uris, ← published, List.map_append, List.nodup_append] at once
  have unmentioned : (uri, []) ∉ Effect.publications said := by
    intro before
    exact once.2.2 uri (List.mem_map.mpr ⟨_, before, rfl⟩) uri List.mem_cons_self rfl
  refine ⟨_, (composed uri).pass ?_ ?_ unmentioned, ProblemStore.eq_of_mem_listing entry⟩
  · intro word member
    exact spoken word (by rw [split]; exact List.mem_append_left _ member)
  · rw [silent.1]
    exact Wire.Conveys.nothing

end Explained

namespace Pipeline

/-! ## The store of a live compiler -/

/-- The compiler is in contact and at work, and everything in the store is inherited or was
reported. -/
structure Inherits (inherited : ProblemStore) (reports : List Remark) (pipeline : Pipeline) :
    Prop where
  attached : pipeline.attached = true
  working : forall stage, stage ∈ Effect.stages (Effect.tenure pipeline.outbox) ->
    stage = .running ∨ stage.isReport = true
  composed : forall uri, Composed inherited reports pipeline.outbox uri
    (fun band => pipeline.problems.listed band uri)

/-- What was published since some point of the history is explained as well. -/
structure Accounts (base : List Effect) (inherited : ProblemStore) (reports : List Remark)
    (pipeline : Pipeline) : Prop extends Inherits inherited reports pipeline where
  published : exists effects, pipeline.outbox = base ++ effects ∧
    Explained inherited reports base effects

variable {base : List Effect} {inherited : ProblemStore} {reports : List Remark}
  {before after : Pipeline}

theorem Inherits.accounts (inherits : Inherits inherited reports before) :
    Accounts before.outbox inherited reports before :=
  ⟨inherits, [], (List.append_nil _).symm, Explained.of_blank nofun⟩

theorem Accounts.mono (accounts : Accounts base inherited reports before) (more : List Remark) :
    Accounts base inherited (reports ++ more) before := by
  rcases accounts.published with ⟨effects, outbox, explained⟩
  exact ⟨⟨accounts.attached, accounts.working, fun uri => (accounts.composed uri).mono more⟩,
    effects, outbox, explained.mono more⟩

/-- The store and the publications of an utterance have to be explained; the rest follows. -/
theorem Accounts.utter (accounts : Accounts base inherited reports before)
    {texts : List String} {shown : List (String × List Diagnostic)}
    (uttered : Utters before texts shown after)
    (composed : forall words, (forall word, word ∈ words -> word.isWord = true) ->
      Effect.texts words = texts -> Effect.publications words = shown ->
        (forall uri, Composed inherited reports (before.outbox ++ words) uri
          (fun band => after.problems.listed band uri)) ∧
        Explained inherited reports before.outbox words) :
    Accounts base inherited reports after := by
  rcases uttered.words with ⟨words, outbox, spoken, written, published, reporting⟩
  rcases accounts.published with ⟨effects, history, explained⟩
  rcases composed words spoken written published with ⟨entries, shown⟩
  refine ⟨⟨uttered.attached.trans accounts.attached, ?_, ?_⟩, effects ++ words, ?_, ?_⟩
  · intro stage member
    rw [outbox, Effect.tenure_append_words spoken, Effect.stages_append] at member
    rcases List.mem_append.mp member with earlier | new
    · exact accounts.working stage earlier
    · exact Or.inr (reporting stage new)
  · intro uri
    rw [outbox]
    exact entries uri
  · rw [outbox, history, List.append_assoc]
  · rw [history] at shown
    exact explained.append shown

/-- Words that publish nothing need no explanation. -/
theorem explained_of_silent {words : List Effect} (silent : Effect.publications words = []) :
    Explained inherited reports base words := by
  apply Explained.of_blank
  rw [silent]
  exact nofun

theorem Accounts.quiet (accounts : Accounts base inherited reports before) {texts : List String}
    (uttered : Utters before texts [] after) (conveyed : Wire.Conveys texts [])
    (problems : after.problems = before.problems) : Accounts base inherited reports after := by
  apply accounts.utter uttered
  intro words spoken written silent
  refine ⟨?_, explained_of_silent silent⟩
  intro uri
  rw [← written] at conveyed
  rw [problems]
  apply (accounts.composed uri).pass spoken conveyed
  rw [silent]
  exact List.not_mem_nil

theorem Accounts.sends (accounts : Accounts base inherited reports before)
    {batch : List Document}
    (uttered : Utters before (if before.attached then [Wire.editText batch] else []) [] after)
    (some_sent : batch ≠ []) (problems : after.problems = clearProblems before.problems batch) :
    Accounts base inherited reports after := by
  apply accounts.utter uttered
  intro words spoken written silent
  refine ⟨?_, explained_of_silent silent⟩
  intro uri
  have conveyed : Wire.Conveys (Effect.texts words) batch := by
    rw [written, if_pos accounts.attached]
    exact Wire.Conveys.message (.edit batch) rfl
  have unmentioned : (uri, []) ∉ Effect.publications words := by
    rw [silent]
    exact List.not_mem_nil
  have cleared := (accounts.composed uri).send spoken conveyed some_sent unmentioned
  simp only [problems, listed_clearProblems]
  exact cleared

theorem Accounts.publishes (accounts : Accounts base inherited reports before)
    (uttered : Utters before [] before.problems.listing after)
    (problems : after.problems = before.problems) : Accounts base inherited reports after := by
  apply accounts.utter uttered
  intro words spoken written published
  refine ⟨?_, Explained.of_listing accounts.composed spoken written published⟩
  intro uri
  have conveyed : Wire.Conveys (Effect.texts words) [] := by
    rw [written]
    exact Wire.Conveys.nothing
  rw [problems]
  by_cases mentioned : (uri, []) ∈ Effect.publications words
  · -- such a document has no problems, so nothing is lost by saying that none is left
    have blank := (accounts.composed uri).blank spoken conveyed (Or.inl mentioned)
    rw [published] at mentioned
    have nothing := ProblemStore.eq_of_mem_listing mentioned
    rw [eq_comm, List.append_eq_nil_iff] at nothing
    have listed : (fun band => before.problems.listed band uri) = fun _ => [] := by
      funext band
      cases band with
      | parse => exact nothing.1
      | analysis => exact nothing.2
    rw [listed]
    exact blank
  · exact (accounts.composed uri).pass spoken conveyed mentioned

theorem Accounts.retracts (accounts : Accounts base inherited reports before)
    (uttered : Utters before [] before.problems.retraction after)
    (problems : after.problems = ProblemStore.empty) : Accounts base inherited reports after := by
  apply accounts.utter uttered
  intro words spoken written published
  constructor
  · intro uri
    have conveyed : Wire.Conveys (Effect.texts words) [] := by
      rw [written]
      exact Wire.Conveys.nothing
    simp only [problems, ProblemStore.listed_empty]
    apply (accounts.composed uri).blank spoken conveyed
    by_cases present : uri ∈ before.problems.uris
    · left
      rw [published]
      exact List.mem_map.mpr ⟨uri, present, rfl⟩
    · right
      exact fun band => ProblemStore.listed_of_not_mem present band
  · apply Explained.of_blank
    rw [published]
    intro entry member
    rcases List.mem_map.mp member with ⟨uri, _, same⟩
    rw [← same]

theorem accounts_kept : KeptByShowing (Accounts base inherited reports) where
  quiet accounts uttered := accounts.quiet uttered
  sends accounts uttered := accounts.sends uttered
  publishes accounts uttered := accounts.publishes uttered
  retracts accounts uttered := accounts.retracts uttered

/-- A frame counts among what was reported, whatever it leads to. -/
theorem Accounts.handleSegment (accounts : Accounts base inherited reports before) (now : Instant)
    (segment : Except Wire.FrameFault Wire.Frame) :
    Accounts base inherited (reports ++ Remark.inSegment segment)
      (before.handleSegment now segment) := by
  apply accounts_kept.handleSegment (accounts.mono (Remark.inSegment segment)) now
  intro band lines same
  rcases accounts.published with ⟨effects, outbox, explained⟩
  rw [same, Remark.inSegment_report]
  refine ⟨⟨accounts.attached, accounts.working, ?_⟩, effects, outbox, explained.mono _⟩
  intro uri
  simp only [listed_addProblems]
  exact (accounts.composed uri).report (Remark.readAll band lines)

theorem Accounts.handleSegments (accounts : Accounts base inherited reports before) (now : Instant)
    (segments : List (Except Wire.FrameFault Wire.Frame)) :
    Accounts base inherited (reports ++ Remark.reported segments)
      (segments.foldl (Pipeline.handleSegment now) before) := by
  induction segments generalizing before reports with
  | nil =>
      have same : reports ++ Remark.reported [] = reports := List.append_nil reports
      rw [same]
      exact accounts
  | cons segment rest inductionHypothesis =>
      have later := inductionHypothesis (accounts.handleSegment now segment)
      rw [List.append_assoc] at later
      exact later

/-- What a compiler publishes in a chunk of output is inherited or was reported, in that chunk at
the latest. -/
theorem Inherits.handleChunk (inherits : Inherits inherited reports before) (chunk : List UInt8)
    (now : Instant) :
    Accounts before.outbox inherited
      (reports ++ Remark.reported (before.frames.push chunk).1) (before.handleChunk chunk now) := by
  have buffered : Accounts before.outbox inherited reports
      { before with frames := (before.frames.push chunk).2 } :=
    ⟨⟨inherits.attached, inherits.working, inherits.composed⟩, inherits.accounts.published⟩
  exact buffered.handleSegments now _

end Pipeline
end Session
end LanguageServer
