import LanguageServer.Files.Path
import LanguageServer.Proofs.Chunks
import LanguageServer.Proofs.Transmission
import Mathlib.Data.List.Induction

namespace LanguageServer

/-!
# How paths are compared

Paths are compared by their components, which come in a strict order.  An absolute path is told by
its names.

A path that goes on from a root by names has the components of the root and then those names.  What
is left of it below the root are the names, with slashes between them, however the root was written.
-/

namespace Text

/-- Where every piece follows a separator, the piece before the first separator is empty. -/
theorem pieces_led {Symbol : Type} [BEq Symbol] [LawfulBEq Symbol] {separator : Symbol}
    {parts : List (List Symbol)} (absent : forall part, part ∈ parts -> separator ∉ part) :
    pieces separator (parts.flatMap (separator :: ·)) = [] :: parts := by
  have led : forall rest : List Symbol,
      pieces separator (separator :: rest) = [] :: pieces separator rest := fun rest => by
    rw [pieces, if_pos (beq_self_eq_true separator)]
  induction parts with
  | nil => rfl
  | cons part rest inductionHypothesis =>
      rcases List.forall_mem_cons.mp absent with ⟨here, later⟩
      have behind := inductionHypothesis later
      rw [List.flatMap_cons, List.cons_append, led]
      cases rest with
      | nil => rw [List.flatMap_nil, List.append_nil, pieces_of_not_mem here]
      | cons second others =>
          rw [List.flatMap_cons, List.cons_append, led, List.cons.injEq] at behind
          rw [List.flatMap_cons, List.cons_append, pieces_cons here, behind.2]

end Text

namespace Files
namespace Path

/-! ## Components -/

namespace Component

theorem key_injective : Function.Injective key := by
  intro component other same
  cases component <;> cases other <;> simp_all [key]

instance : Std.Asymm (fun component other : Component => component < other) where
  asymm component other less := @List.lt_asymm UInt8 _ _ component.key other.key less

instance : Trans (fun component other : Component => component < other)
    (fun component other : Component => component < other)
    (fun component other : Component => component < other) where
  trans first second := @List.lt_trans UInt8 _ _ _ _ _ first second

instance : Std.Trichotomous (fun component other : Component => component < other) where
  trichotomous _ _ notLess notGreater :=
    key_injective (List.le_antisymm (List.not_lt.mp notGreater) (List.not_lt.mp notLess))

theorem ofName_injective : Function.Injective ofName := by
  intro name other same
  rw [ofName, ofName] at same
  split at same
  next here =>
    split at same
    next there => rw [here, there]
    next => cases same
  next =>
    split at same
    next => cases same
    next => exact Component.name.inj same

end Component

/-- An absolute path is told by its names. -/
theorem components_of_isAbsolute {path : Path} (absolute : path.isAbsolute = true) :
    path.components = .root :: path.names.map Component.ofName := by
  rw [components, start, if_pos absolute, List.singleton_append]

theorem isAbsolute_of_components {path : Path} {rest : List Component}
    (led : path.components = .root :: rest) : path.isAbsolute = true := by
  by_contra relative
  rw [components, start, if_neg relative] at led
  split at led
  · cases led
  · rw [List.nil_append] at led
    rcases List.map_eq_cons_iff.mp led with ⟨name, _, _, root, _⟩
    rw [Component.ofName] at root
    split at root <;> cases root

/-- Absolute paths are the same if they go by the same names. -/
theorem components_eq_iff {path other : Path} (absolute : path.isAbsolute = true) :
    other.components = path.components ↔
      other.isAbsolute = true ∧ other.names = path.names := by
  constructor
  · intro same
    have led := same.trans (components_of_isAbsolute absolute)
    have otherAbsolute := isAbsolute_of_components led
    rw [components_of_isAbsolute otherAbsolute] at led
    have same : other.names = path.names :=
      (List.map_inj_right Component.ofName_injective).mp (List.cons.inj led).2
    exact ⟨otherAbsolute, same⟩
  · rintro ⟨otherAbsolute, same⟩
    rw [components_of_isAbsolute otherAbsolute, components_of_isAbsolute absolute, same]

/-! ## Names -/

/-- A name on the way to a file. -/
structure IsName (name : Path) : Prop where
  nonempty : name ≠ []
  undivided : slash ∉ name
  notDot : name ≠ [dot]
  notDots : name ≠ [dot, dot]

instance (name : Path) : Decidable name.IsName :=
  decidable_of_iff (name ≠ [] ∧ slash ∉ name ∧ name ≠ [dot] ∧ name ≠ [dot, dot])
    ⟨fun ⟨nonempty, undivided, notDot, notDots⟩ => ⟨nonempty, undivided, notDot, notDots⟩,
      fun ⟨nonempty, undivided, notDot, notDots⟩ => ⟨nonempty, undivided, notDot, notDots⟩⟩

theorem leadsOn_iff {piece : Path} : leadsOn piece = true ↔ piece ≠ [] ∧ piece ≠ [dot] := by
  rw [leadsOn, Bool.and_eq_true, bne_iff_ne, bne_iff_ne]

theorem IsName.leadsOn {name : Path} (regular : name.IsName) : leadsOn name = true :=
  leadsOn_iff.mpr ⟨regular.nonempty, regular.notDot⟩

/-- All names of a path are names, but for two dots. -/
theorem isName_of_mem_names {path name : Path} (member : name ∈ path.names)
    (notDots : name ≠ [dot, dot]) : name.IsName := by
  rcases List.mem_filter.mp member with ⟨piece, led⟩
  rcases leadsOn_iff.mp led with ⟨nonempty, notDot⟩
  exact ⟨nonempty, Text.not_mem_of_mem_pieces piece, notDot, notDots⟩

theorem ofText_injective : Function.Injective ofText := by
  intro text other same
  have letters := congrArg Text.Utf8.lossy same
  rw [ofText, ofText, Text.Utf8.bytesOf, Text.Utf8.bytesOf, Text.Utf8.lossy_encode,
    Text.Utf8.lossy_encode] at letters
  exact String.toList_injective letters

/-- A slash divides names. -/
theorem names_append_slash (path next : Path) :
    (path ++ slash :: next).names = path.names ++ next.names := by
  rw [names, Text.pieces_append_cons, List.filter_append, names, names]

/-- A slash at the end changes no names. -/
theorem names_concat (path : Path) : (path ++ [slash]).names = path.names :=
  (names_append_slash path []).trans (List.append_nil _)

/-- Names, each behind a slash, make a path through them. -/
theorem names_flatMap_slash {names : List Path}
    (each : forall name, name ∈ names -> slash ∉ name ∧ leadsOn name = true) :
    Path.names (names.flatMap (slash :: ·)) = names := by
  rw [Path.names, Text.pieces_led (fun name member => (each name member).1),
    List.filter_cons_of_neg (by decide), List.filter_eq_self]
  exact fun name member => (each name member).2

/-! ## Going on from a path -/

theorem isAbsolute_of_isName {name : Path} (regular : name.IsName) : name.isAbsolute = false := by
  rw [isAbsolute, decide_eq_false_iff_not]
  intro led
  rcases List.head?_eq_some_iff.mp led with ⟨rest, rfl⟩
  exact regular.undivided List.mem_cons_self

/-- The pieces of a path that has gone on by a name: those before, without an empty one at the end,
and the name. -/
theorem pieces_add {name : Path} (regular : name.IsName) (path : Path) :
    exists front, Text.pieces slash (path.add name) = front ++ [name] ∧
      (front = Text.pieces slash path ∨ Text.pieces slash path = front ++ [[]]) := by
  have whole := Text.pieces_of_not_mem regular.undivided
  rw [add, isAbsolute_of_isName regular, Bool.false_or]
  split
  next empty =>
    rw [List.isEmpty_iff.mp empty]
    exact ⟨[], whole, Or.inr rfl⟩
  split
  next asked =>
    rcases List.getLast?_eq_some_iff.mp (of_decide_eq_true asked) with ⟨front, rfl⟩
    refine ⟨Text.pieces slash front, ?_, Or.inr (Text.pieces_append_cons front [])⟩
    rw [List.append_assoc, List.singleton_append, Text.pieces_append_cons, whole]
  next => exact ⟨Text.pieces slash path, by rw [Text.pieces_append_cons, whole], Or.inl rfl⟩

theorem descend_concat (root : Path) (names : List Path) (name : Path) :
    root.descend (names ++ [name]) = (root.descend names).add name := by
  rw [descend, descend, List.foldl_append]
  rfl

/-- The pieces of a path below a root: those of the root, without an empty one at the end, and the
names. -/
theorem pieces_descend {names : List Path} (regular : forall name, name ∈ names -> name.IsName)
    (root : Path) :
    exists front, Text.pieces slash (root.descend names) = front ++ names ∧
      (front = Text.pieces slash root ∨ Text.pieces slash root = front ++ [[]]) := by
  induction names using List.reverseRecOn with
  | nil => exact ⟨Text.pieces slash root, (List.append_nil _).symm, Or.inl rfl⟩
  | append_singleton names name inductionHypothesis =>
      rw [List.forall_mem_append, List.forall_mem_singleton] at regular
      rcases inductionHypothesis regular.1 with ⟨front, cut, shape⟩
      rw [descend_concat]
      rcases pieces_add regular.2 (root.descend names) with ⟨before, added, same | shorter⟩
      · refine ⟨front, ?_, shape⟩
        rw [added, same, cut, List.append_assoc]
      · -- Only the root can end in a slash: the last name is not empty.
        cases names using List.reverseRecOn with
        | nil => exact ⟨before, by rw [added, List.nil_append], Or.inr shorter⟩
        | append_singleton earlier last =>
            have lastName := regular.1 last (by simp)
            rw [cut, ← List.append_assoc, List.append_singleton_inj] at shorter
            exact absurd shorter.2 lastName.nonempty

/-- An empty piece adds no name. -/
theorem names_of_shape {root : Path} {front : List Path}
    (shape : front = Text.pieces slash root ∨ Text.pieces slash root = front ++ [[]]) :
    front.filter leadsOn = root.names := by
  rcases shape with rfl | longer
  · rfl
  · rw [names, longer, List.filter_append]
    exact (List.append_nil _).symm

theorem names_descend {names : List Path} (regular : forall name, name ∈ names -> name.IsName)
    (root : Path) : (root.descend names).names = root.names ++ names := by
  rcases pieces_descend regular root with ⟨front, cut, shape⟩
  rw [Path.names, cut, List.filter_append, names_of_shape shape, List.filter_eq_self.mpr]
  exact fun name member => (regular name member).leadsOn

theorem isAbsolute_add {name : Path} (regular : name.IsName) (path : Path) :
    (path.add name).isAbsolute = path.isAbsolute := by
  have relative := isAbsolute_of_isName regular
  rw [add, relative, Bool.false_or]
  split
  next empty =>
    rw [relative, List.isEmpty_iff.mp empty]
    rfl
  next nonempty =>
    rcases List.exists_cons_of_ne_nil (mt List.isEmpty_iff.mpr nonempty) with ⟨byte, rest, rfl⟩
    split <;> rfl

theorem start_add {name : Path} (regular : name.IsName) (path : Path) :
    (path.add name).start = path.start := by
  rcases pieces_add regular path with ⟨front, added, shape⟩
  have first : (Text.pieces slash (path.add name)).head? = some [dot] ↔
      (Text.pieces slash path).head? = some [dot] := by
    rw [added]
    rcases shape with rfl | longer
    · rcases List.exists_cons_of_ne_nil (Text.pieces_ne_nil slash path) with ⟨piece, more, cut⟩
      rw [cut]
      rfl
    · rw [longer]
      cases front with
      | nil => simp [regular.notDot]
      | cons piece more => rfl
  rw [start, start, isAbsolute_add regular, if_congr first rfl rfl]

/-- What a name that is added does not change, no names change. -/
theorem view_descend {Value : Type} {view : Path -> Value}
    (unchanged : forall {name : Path}, name.IsName ->
      forall path : Path, view (path.add name) = view path)
    {names : List Path} (regular : forall name, name ∈ names -> name.IsName) (root : Path) :
    view (root.descend names) = view root := by
  induction names generalizing root with
  | nil => rfl
  | cons name rest inductionHypothesis =>
      rcases List.forall_mem_cons.mp regular with ⟨here, later⟩
      exact (inductionHypothesis later (root.add name)).trans (unchanged here root)

/-- A path below a root has the components of the root and then its own names. -/
theorem components_descend {names : List Path}
    (regular : forall name, name ∈ names -> name.IsName) (root : Path) :
    (root.descend names).components = root.components ++ names.map Component.name := by
  have own : names.map Component.ofName = names.map Component.name :=
    List.map_congr_left (fun name member => if_neg (regular name member).notDots)
  rw [components, components, view_descend start_add regular, names_descend regular, List.map_append,
    List.append_assoc, own]

/-! ## What is left of a path -/

/-- Once all names of the front have led on, what is left begins where the rest does. -/
theorem trimFront_behind (front rest : List Path) :
    trimFront (behind (front.filter leadsOn).length (front ++ rest)) = trimFront rest := by
  induction front with
  | nil => rw [List.filter_nil, List.length_nil, List.nil_append, behind]
  | cons piece more inductionHypothesis =>
      by_cases led : leadsOn piece = true
      · rw [List.filter_cons_of_pos led, List.length_cons, List.cons_append, behind, if_pos led]
        exact inductionHypothesis
      · rw [List.filter_cons_of_neg led, List.cons_append]
        cases count : (more.filter leadsOn).length with
        | zero =>
            rw [count, behind] at inductionHypothesis
            rw [behind, trimFront, List.dropWhile_cons_of_pos (by simpa using led)]
            exact inductionHypothesis
        | succ left =>
            rw [count] at inductionHypothesis
            rw [behind, if_neg led]
            exact inductionHypothesis

theorem trimFront_eq_self {pieces : List Path}
    (led : forall piece, piece ∈ pieces -> leadsOn piece = true) : trimFront pieces = pieces := by
  cases pieces with
  | nil => rfl
  | cons piece rest =>
      rw [trimFront, List.dropWhile_cons_of_neg]
      simp [led piece List.mem_cons_self]

theorem trimBack_eq_self {pieces : List Path}
    (led : forall piece, piece ∈ pieces -> leadsOn piece = true) : trimBack pieces = pieces := by
  rw [trimBack, trimFront_eq_self (fun piece member => led piece (List.mem_reverse.mp member)),
    List.reverse_reverse]

theorem trimmed_of_relative {path piece : Path} {more : List Path}
    (relative : path.isAbsolute = false) (cut : Text.pieces slash path = piece :: more) :
    path.trimmed = List.intercalate [slash] (piece :: trimBack more) := by
  cases path with
  | nil =>
      cases cut
      rfl
  | cons first rest =>
      have divided : first ≠ slash := by
        rintro rfl
        cases relative
      unfold trimmed
      rw [cut]
      exact if_neg divided

theorem trimmed_descend {names : List Path}
    (regular : forall name, name ∈ names -> name.IsName) :
    trimmed (descend [] names) = List.intercalate [slash] names := by
  cases names with
  | nil => rfl
  | cons name rest =>
      rcases List.forall_mem_cons.mp regular with ⟨here, later⟩
      have first : descend [] (name :: rest) = descend name rest := by
        rw [descend, List.foldl_cons, add, List.isEmpty_nil, Bool.or_true, if_pos rfl]
        rfl
      rcases pieces_descend later name with ⟨front, cut, shape⟩
      rw [Text.pieces_of_not_mem here.undivided] at shape
      have alone : front = [name] := by
        rcases shape with same | longer
        · exact same
        · rw [← List.nil_append [name], List.append_singleton_inj] at longer
          exact absurd longer.2 here.nonempty
      rw [alone, List.singleton_append] at cut
      have relative : (descend name rest).isAbsolute = false :=
        (view_descend isAbsolute_add later name).trans (isAbsolute_of_isName here)
      rw [first, trimmed_of_relative relative cut,
        trimBack_eq_self (fun piece member => (later piece member).leadsOn)]

/-- What is left of a path below a root are the names that were added to it. -/
theorem relative_descend {names : List Path}
    (regular : forall name, name ∈ names -> name.IsName) (root : Path) :
    (root.descend names).relative root = List.intercalate [slash] names := by
  have below : root.components.isPrefixOf (root.descend names).components = true := by
    rw [components_descend regular, List.isPrefixOf_iff_prefix]
    exact List.prefix_append _ _
  have led : forall name, name ∈ names -> leadsOn name = true :=
    fun name member => (regular name member).leadsOn
  rw [relative, below, Bool.not_true, if_neg Bool.false_ne_true]
  split
  next empty =>
    rw [List.isEmpty_iff.mp empty]
    exact trimmed_descend regular
  next =>
    rcases pieces_descend regular root with ⟨front, cut, shape⟩
    rw [cut, ← names_of_shape shape, trimFront_behind, trimFront_eq_self led,
      trimBack_eq_self led]

end Path
end Files
end LanguageServer
