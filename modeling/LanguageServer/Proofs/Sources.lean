import LanguageServer.Proofs.Walks

namespace LanguageServer
namespace Files

/-!
# The sources of a workspace

Discovery gives the files below a root that match one of the patterns.  They come in the order of
their paths, which is decided component by component: everything in a directory stands together,
also where a character of a name is smaller than a slash.  A path is matched without the root.

Nothing is supposed about the walk but that it comes across no path twice, and nothing about the
library for patterns but that patterns put together accept what one of them matches.  What is given
then depends on the entries, the root and the set of patterns.  It does not depend on the order in
which the walk comes across the entries, nor on how often or in which order a pattern is listed.  A
list with a text that is no pattern gives nothing, whatever a walk would have done.
-/

/-! ## Libraries for patterns -/

namespace GlobLibrary

variable {Pattern PatternSet : Type} (library : GlobLibrary Pattern PatternSet)

/-- A text that can be read as a pattern. -/
def IsPattern (text : String) : Prop := exists pattern, library.read text = .ok pattern

/-- What is asked of a library: usable patterns can be put together, however many there are, and
then a path is accepted if and only if one of them matches it.  Where all patterns are usable, any
patterns can be put together. -/
structure Combines (usable : Pattern -> Prop) (Matches : Pattern -> Path -> Prop) : Prop where
  combine : forall patterns, (forall pattern, pattern ∈ patterns -> usable pattern) ->
    exists set, library.combine patterns = .ok set ∧
      forall path, library.accepts set path = true ↔
        exists pattern, pattern ∈ patterns ∧ Matches pattern path

/-- Texts that are read as usable patterns. -/
def AreUsable (usable : Pattern -> Prop) (texts : List String) : Prop :=
  forall text, text ∈ texts -> exists pattern, library.read text = .ok pattern ∧ usable pattern

/-- A text is read as a pattern that matches a path. -/
def IsMatched (Matches : Pattern -> Path -> Prop) (text : String) (path : Path) : Prop :=
  exists pattern, library.read text = .ok pattern ∧ Matches pattern path

end GlobLibrary

namespace GlobSetFault

/-- Patterns fit together if none of them is spoilt: how many there are, and in which order, makes
no difference. -/
theorem ofGlobs?_eq_none_iff {globs : List Glob} :
    ofGlobs? globs = none ↔
      forall glob, glob ∈ globs -> glob.isSimple = true ∨ glob.isTooDeep = false := by
  rw [ofGlobs?, List.partition_eq_filter_filter]
  dsimp only
  constructor
  · intro fitting glob member
    cases simple : glob.isSimple with
    | true => exact Or.inl rfl
    | false =>
        refine Or.inr ?_
        split at fitting
        · cases fitting
        next alone =>
          rw [Option.map_eq_none_iff, List.findIdx?_eq_none_iff] at fitting
          rw [List.find?_eq_none] at alone
          cases ending : glob.endsInExtension with
          | true =>
              have shallow := alone glob (by simp [member, simple, ending])
              exact (Bool.not_eq_true _).mp shallow
          | false => exact fitting glob (by simp [member, simple, ending])
  · intro fits
    have shallow : forall glob, glob ∈ globs.filter (fun glob => !glob.isSimple) ->
        glob.isTooDeep = false := by
      intro glob member
      rw [List.mem_filter] at member
      rcases fits glob member.1 with simple | shallow
      · rw [simple] at member
        exact absurd member.2 Bool.false_ne_true
      · exact shallow
    split
    next glob found =>
      have deep := List.find?_some found
      have member := List.mem_of_find?_eq_some found
      rw [shallow glob (List.mem_filter.mp member).1] at deep
      cases deep
    next =>
      rw [Option.map_eq_none_iff, List.findIdx?_eq_none_iff]
      intro glob member
      exact shallow glob (List.mem_filter.mp member).1

end GlobSetFault

namespace Discovery

/-- A glob that can be put together with others. -/
def IsUsable (glob : Glob) : Prop := glob.isSimple = true ∨ glob.isTooDeep = false

def IsAccepted (glob : Glob) (path : Path) : Prop := glob.accepts path = true

/-- Globs can be put together unless one of them is spoilt. -/
theorem globs_combines : globs.Combines IsUsable IsAccepted := by
  refine ⟨fun patterns usable => ⟨patterns, ?_, ?_⟩⟩
  · simp only [globs, GlobSetFault.ofGlobs?_eq_none_iff.mpr usable]
  · exact fun path => List.any_eq_true

section

variable {Pattern PatternSet : Type} {library : GlobLibrary Pattern PatternSet}

/-! ## Reading patterns -/

theorem readPatterns_of_fault {earlier later : List String} {text description : String}
    (valid : forall other, other ∈ earlier -> library.IsPattern other)
    (wrong : library.read text = .error description) :
    readPatterns library (earlier ++ text :: later) = .error (.glob text description) := by
  induction earlier with
  | nil => rw [List.nil_append, readPatterns, wrong]
  | cons first rest inductionHypothesis =>
      rcases List.forall_mem_cons.mp valid with ⟨⟨pattern, read⟩, behind⟩
      rw [List.cons_append, readPatterns, read, inductionHypothesis behind]

/-- Of texts that are no patterns there is a first one. -/
theorem exists_first_fault {texts : List String}
    (wrong : exists text, text ∈ texts ∧ ¬library.IsPattern text) :
    exists earlier text later description, texts = earlier ++ text :: later ∧
      (forall other, other ∈ earlier -> library.IsPattern other) ∧
      library.read text = .error description := by
  induction texts with
  | nil =>
      rcases wrong with ⟨_, member, _⟩
      cases member
  | cons first rest inductionHypothesis =>
      cases read : library.read first with
      | error description =>
          exact ⟨[], first, rest, description, rfl,
            fun _ member => absurd member List.not_mem_nil, read⟩
      | ok pattern =>
          rcases wrong with ⟨text, member, invalid⟩
          have behind : text ∈ rest := by
            rcases List.mem_cons.mp member with rfl | behind
            · exact absurd ⟨pattern, read⟩ invalid
            · exact behind
          rcases inductionHypothesis ⟨text, behind, invalid⟩ with
            ⟨earlier, found, later, description, shape, valid, fault⟩
          refine ⟨first :: earlier, found, later, description, by rw [shape, List.cons_append],
            List.forall_mem_cons.mpr ⟨⟨pattern, read⟩, valid⟩, fault⟩

theorem exists_readPatterns {usable : Pattern -> Prop} {texts : List String}
    (valid : library.AreUsable usable texts) :
    exists patterns, readPatterns library texts = .ok patterns ∧
      (forall pattern, pattern ∈ patterns -> usable pattern) ∧
      forall pattern, pattern ∈ patterns ↔
        exists text, text ∈ texts ∧ library.read text = .ok pattern := by
  induction texts with
  | nil => exact ⟨[], rfl, by simp, by simp⟩
  | cons first rest inductionHypothesis =>
      rcases List.forall_mem_cons.mp valid with ⟨⟨pattern, read, fit⟩, later⟩
      rcases inductionHypothesis later with ⟨patterns, readRest, fits, members⟩
      refine ⟨pattern :: patterns, by rw [readPatterns, read, readRest],
        List.forall_mem_cons.mpr ⟨fit, fits⟩, ?_⟩
      intro other
      rw [List.mem_cons, members]
      constructor
      · rintro (rfl | ⟨text, member, same⟩)
        · exact ⟨first, List.mem_cons_self, read⟩
        · exact ⟨text, List.mem_cons_of_mem first member, same⟩
      · rintro ⟨text, member, same⟩
        rcases List.mem_cons.mp member with rfl | behind
        · rw [read] at same
          exact Or.inl (Except.ok.inj same).symm
        · exact Or.inr ⟨text, behind, same⟩

/-- Usable patterns are read, and a path is accepted if it matches one of them. -/
theorem exists_readSet {usable : Pattern -> Prop} {Matches : Pattern -> Path -> Prop}
    (combines : library.Combines usable Matches) {texts : List String}
    (valid : library.AreUsable usable texts) :
    exists set, readSet library texts = .ok set ∧
      forall path, library.accepts set path = true ↔
        exists text, text ∈ texts ∧ library.IsMatched Matches text path := by
  rcases exists_readPatterns valid with ⟨patterns, read, fits, members⟩
  rcases combines.combine patterns fits with ⟨set, combined, accepted⟩
  refine ⟨set, by simp only [readSet, read, combined], ?_⟩
  intro path
  rw [accepted]
  constructor
  · rintro ⟨pattern, member, matched⟩
    rcases (members pattern).mp member with ⟨text, listed, same⟩
    exact ⟨text, listed, pattern, same, matched⟩
  · rintro ⟨text, listed, pattern, same, matched⟩
    exact ⟨pattern, (members pattern).mpr ⟨text, listed, same⟩, matched⟩

/-! ## Selecting from a walk -/

theorem listed_map_ok (entries : List Entry) : listed (entries.map .ok) = .ok entries := by
  induction entries with
  | nil => rfl
  | cons entry rest inductionHypothesis => rw [List.map_cons, listed, inductionHypothesis]

theorem mem_select_iff {set : PatternSet} {root path : Path} {entries : List Entry} :
    path ∈ select library set root entries ↔
      ⟨path, some .file⟩ ∈ entries ∧ library.accepts set (path.relative root) = true := by
  rw [select, ordered, List.mem_mergeSort, List.mem_map]
  constructor
  · rintro ⟨⟨found, kind⟩, member, rfl⟩
    rcases List.mem_filter.mp member with ⟨listed, selected⟩
    rcases (Bool.and_eq_true _ _).mp selected with ⟨isFile, accepted⟩
    cases of_decide_eq_true isFile
    exact ⟨listed, accepted⟩
  · rintro ⟨listed, accepted⟩
    refine ⟨⟨path, some .file⟩, List.mem_filter.mpr ⟨listed, ?_⟩, rfl⟩
    rw [isSource, accepted]
    rfl

theorem inOrder_iff {path other : Path} :
    (!decide (other.components < path.components)) = true ↔
      path.components < other.components ∨ path.components = other.components := by
  rw [Bool.not_eq_true', decide_eq_false_iff_not, List.not_lt, List.le_iff_lt_or_eq]

theorem pairwise_ordered (paths : List Path) :
    (ordered paths).Pairwise (fun path other =>
      path.components < other.components ∨ path.components = other.components) := by
  refine (List.pairwise_mergeSort ?_ ?_ paths).imp inOrder_iff.mp
  · intro path second third first later
    rw [inOrder_iff] at *
    rcases first with less | same
    · rcases later with more | same
      · exact Or.inl (List.lt_trans less more)
      · exact Or.inl (same ▸ less)
    · rw [same]
      exact later
  · intro path other
    rw [Bool.or_eq_true, inOrder_iff, inOrder_iff, ← List.le_iff_lt_or_eq, ← List.le_iff_lt_or_eq]
    exact List.le_total _ _

/-- The selected paths are in order, and different ones if the walk has come across none twice. -/
theorem pairwise_select (set : PatternSet) (root : Path) {entries : List Entry}
    (once : (entries.map (fun entry => entry.path.components)).Nodup) :
    (select library set root entries).Pairwise (fun path other =>
      path.components < other.components) := by
  have different : ((select library set root entries).map Path.components).Nodup := by
    rw [select, ordered, ((List.mergeSort_perm _ _).map _).nodup_iff, List.map_map]
    exact (List.filter_sublist.map _).nodup once
  rw [List.nodup_iff_pairwise_ne, List.pairwise_map] at different
  apply ((pairwise_ordered _).and different).imp
  rintro path other ⟨ordered, apart⟩
  exact ordered.resolve_right apart

/-- This is not the order of the paths as texts. -/
example : (Path.ofText "a/b").components < (Path.ofText "a-b").components ∧
    Path.ofText "a-b" < Path.ofText "a/b" := by decide

/-! ## What discovery gives -/

/-- The sources among some entries: in the order of their paths all regular files whose path below
the root matches a pattern. -/
structure AreSources (library : GlobLibrary Pattern PatternSet) (Matches : Pattern -> Path -> Prop)
    (root : Path) (patterns : List String) (entries : List Entry) (sources : List Path) : Prop where
  ascending : sources.Pairwise (fun path other => path.components < other.components)
  mem_iff : forall path, path ∈ sources ↔ ⟨path, some .file⟩ ∈ entries ∧
    exists text, text ∈ patterns ∧ library.IsMatched Matches text (path.relative root)

variable {usable : Pattern -> Prop} {Matches : Pattern -> Path -> Prop} {root : Path}
  {patterns others : List String} {entries : List Entry}

/-- There is one such list, for any order of the entries and any list of the same patterns. -/
theorem AreSources.unique {sources found : List Path} {otherEntries : List Entry}
    (areSources : AreSources library Matches root patterns entries sources)
    (otherSources : AreSources library Matches root others otherEntries found)
    (reordered : otherEntries.Perm entries)
    (same : forall text, text ∈ others ↔ text ∈ patterns) : sources = found := by
  have nodup : forall {list : List Path},
      list.Pairwise (fun path other => path.components < other.components) -> list.Nodup := by
    intro list ascending
    apply ascending.imp
    rintro path _ less rfl
    exact List.lt_irrefl _ less
  have members : forall path, path ∈ sources ↔ path ∈ found := by
    intro path
    rw [areSources.mem_iff, otherSources.mem_iff, reordered.mem_iff]
    simp only [same]
  apply List.Perm.eq_of_pairwise _ areSources.ascending otherSources.ascending
    ((List.perm_ext_iff_of_nodup (nodup areSources.ascending) (nodup otherSources.ascending)).mpr
      members)
  intro path other _ _ less greater
  exact absurd greater (List.lt_asymm less)

theorem discoverBy_of_walk (combines : library.Combines usable Matches)
    (valid : library.AreUsable usable patterns) {walk : Walker}
    (walked : walk root = entries.map .ok)
    (once : (entries.map (fun entry => entry.path.components)).Nodup) :
    exists sources, discoverBy library walk root patterns = .ok sources ∧
      AreSources library Matches root patterns entries sources := by
  rcases exists_readSet combines valid with ⟨set, read, accepted⟩
  refine ⟨select library set root entries, ?_, pairwise_select set root once, ?_⟩
  · rw [discoverBy, read, walked, listed_map_ok]
  · intro path
    rw [mem_select_iff, accepted]

/-- What discovery gives is exact, and depends on nothing but the entries that a walk comes across,
the root and the set of patterns.  The walk and the library for patterns can be any. -/
theorem discovery_exact (combines : library.Combines usable Matches) (root : Path)
    (patterns : List String) :
    -- a text that is no pattern is reported, the first one if there are several, before any walk
    ((exists text, text ∈ patterns ∧ ¬library.IsPattern text) ->
      exists earlier text later description, patterns = earlier ++ text :: later ∧
        (forall other, other ∈ earlier -> library.IsPattern other) ∧
        library.read text = .error description ∧
        forall walk, discoverBy library walk root patterns = .error (.glob text description)) ∧
    -- a walk that comes across everything once, in any order
    (library.AreUsable usable patterns -> forall (walk : Walker) (entries : List Entry),
      walk root = entries.map .ok ->
      (entries.map (fun entry => entry.path.components)).Nodup ->
      exists sources, discoverBy library walk root patterns = .ok sources ∧
        AreSources library Matches root patterns entries sources ∧
        (forall (otherWalk : Walker) (otherEntries : List Entry) (otherPatterns : List String),
          otherWalk root = otherEntries.map .ok -> otherEntries.Perm entries ->
          (forall text, text ∈ otherPatterns ↔ text ∈ patterns) ->
          discoverBy library otherWalk root otherPatterns = .ok sources) ∧
        (forall more, library.AreUsable usable more ->
          exists others both, discoverBy library walk root more = .ok others ∧
            discoverBy library walk root (patterns ++ more) = .ok both ∧
            forall path, path ∈ both ↔ path ∈ sources ∨ path ∈ others)) ∧
    -- what is matched of a path that goes by names from the root
    (forall names : List Path, (forall name, name ∈ names -> name.IsName) ->
      (root.descend names).components = root.components ++ names.map .name ∧
      (root.descend names).relative root = List.intercalate [Path.slash] names) := by
  refine ⟨?_, ?_, ?_⟩
  · intro wrong
    rcases exists_first_fault wrong with ⟨earlier, text, later, description, rfl, valid, read⟩
    refine ⟨earlier, text, later, description, rfl, valid, read, ?_⟩
    intro walk
    rw [discoverBy, readSet, readPatterns_of_fault valid read]
  · intro valid walk entries walked once
    rcases discoverBy_of_walk combines valid walked once with ⟨sources, given, areSources⟩
    refine ⟨sources, given, areSources, ?_, ?_⟩
    · intro otherWalk otherEntries otherPatterns otherWalked reordered same
      have otherValid : library.AreUsable usable otherPatterns :=
        fun text member => valid text ((same text).mp member)
      have otherOnce := (reordered.map (fun entry => entry.path.components)).nodup_iff.mpr once
      rcases discoverBy_of_walk combines otherValid otherWalked otherOnce with
        ⟨found, otherGiven, otherSources⟩
      rw [otherGiven, areSources.unique otherSources reordered same]
    · intro more moreValid
      rcases discoverBy_of_walk combines moreValid walked once with
        ⟨others, othersGiven, otherSources⟩
      rcases discoverBy_of_walk combines (List.forall_mem_append.mpr ⟨valid, moreValid⟩)
          walked once with ⟨both, bothGiven, bothSources⟩
      refine ⟨others, both, othersGiven, bothGiven, ?_⟩
      intro path
      rw [bothSources.mem_iff, areSources.mem_iff, otherSources.mem_iff, ← and_or_left]
      simp only [List.mem_append, or_and_right, exists_or]
  · intro names regular
    exact ⟨Path.components_descend regular root, Path.relative_descend regular root⟩

end

/-- The sources below a root of a tree that a file system can hold. -/
theorem discover_of_walk {tree : Tree} (proper : tree.Proper) {root : Path} {patterns : List String}
    {entries : List Entry} (valid : globs.AreUsable IsUsable patterns)
    (walked : walk tree root = entries.map .ok) :
    exists sources, discover tree root patterns = .ok sources ∧
      AreSources globs IsAccepted root patterns entries sources :=
  discoverBy_of_walk globs_combines valid walked (nodup_walk proper walked)

/-- A workspace in which one directory is ignored. -/
def sampleTree : Tree :=
  .ofFiles ([("/w/a-b.x", ""), ("/w/a/b.x", ""), ("/w/skip/c.x", ""), ("/w/d.y", ""),
    ("/w/.gitignore", "skip\n")].map
      (fun file => (Path.ofText file.1, Text.Utf8.bytesOf file.2)))

def sampleRoot : Path := Path.ofText "/w"

def sampleEntries : List Entry :=
  [("/w", .directory), ("/w/a-b.x", .file), ("/w/a", .directory), ("/w/a/b.x", .file),
    ("/w/d.y", .file)].map (fun found => ⟨Path.ofText found.1, some found.2⟩)

theorem sampleEntries_walked : walk sampleTree sampleRoot = sampleEntries.map .ok := by
  decide +kernel

/-- What is read can be told by a computation. -/
theorem exists_read_iff {text : String} {holds : Glob -> Bool} :
    (exists glob, globs.read text = .ok glob ∧ holds glob = true) ↔
      (globs.read text).toOption.any holds = true := by
  cases globs.read text with
  | error description => simp [Except.toOption]
  | ok glob => simp [Except.toOption]

theorem sample_usable : globs.AreUsable IsUsable ["*.x"] := by
  intro text member
  rw [List.mem_singleton.mp member]
  have computed : (globs.read "*.x").toOption.any
      (fun glob => glob.isSimple || !glob.isTooDeep) = true := by decide +kernel
  rcases exists_read_iff.mpr computed with ⟨glob, read, fit⟩
  exact ⟨glob, read, by simpa [IsUsable] using fit⟩

theorem not_isPattern_bracket : ¬globs.IsPattern "[" := by
  rintro ⟨glob, read⟩
  have refused : (globs.read "[").toOption.isSome = false := by decide +kernel
  rw [read] at refused
  cases refused

/-- A file of another name is no source.  A walk in the opposite order and a pattern listed twice
change nothing; a class that is not closed is reported. -/
theorem sampleTree_discovered :
    globs.AreUsable IsUsable ["*.x"] ∧ ¬globs.IsPattern "[" ∧
    (exists sources, discover sampleTree sampleRoot ["*.x"] = .ok sources ∧
      AreSources globs IsAccepted sampleRoot ["*.x"] sampleEntries sources ∧
      Path.ofText "/w/a/b.x" ∈ sources ∧ Path.ofText "/w/a-b.x" ∈ sources ∧
      Path.ofText "/w/d.y" ∉ sources ∧
      discoverBy globs (fun _ => sampleEntries.reverse.map .ok) sampleRoot ["*.x", "*.x"] =
        .ok sources) ∧
    (exists text description,
      discover sampleTree sampleRoot ["*.x", "["] = .error (.glob text description)) := by
  rcases discovery_exact globs_combines sampleRoot ["*.x"] with ⟨_, walked, _⟩
  rcases discovery_exact globs_combines sampleRoot ["*.x", "["] with ⟨wrong, _, _⟩
  refine ⟨sample_usable, not_isPattern_bracket, ?_, ?_⟩
  · have once := nodup_walk (Tree.proper_ofFiles _) sampleEntries_walked
    rcases walked sample_usable (walk sampleTree) sampleEntries sampleEntries_walked once with
      ⟨sources, given, areSources, independent, _⟩
    have isSource : forall path, path ∈ sources ↔ ⟨path, some .file⟩ ∈ sampleEntries ∧
        (globs.read "*.x").toOption.any (fun glob => glob.accepts (path.relative sampleRoot)) =
          true := by
      intro path
      rw [areSources.mem_iff, ← exists_read_iff]
      simp [GlobLibrary.IsMatched, IsAccepted]
    refine ⟨sources, given, areSources, (isSource _).mpr (by decide +kernel),
      (isSource _).mpr (by decide +kernel), fun member => ?_,
      independent _ sampleEntries.reverse _ rfl sampleEntries.reverse_perm (by simp)⟩
    exact absurd ((isSource _).mp member) (by decide +kernel)
  · rcases wrong ⟨"[", by simp, not_isPattern_bracket⟩ with
      ⟨_, text, _, description, _, _, _, refused⟩
    exact ⟨text, description, refused (walk sampleTree)⟩

end Discovery
end Files
end LanguageServer
