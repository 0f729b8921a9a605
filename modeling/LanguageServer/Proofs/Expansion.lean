import LanguageServer.Settings.Environment
import Mathlib.Data.List.TakeWhile

namespace LanguageServer
namespace Settings

/-!
# A text is expanded in one pass

Every text can be taken apart in exactly one way: into literal texts that hold no opening, each
followed by a reference whose name holds no closing brace, and at the end perhaps an opening that
nothing closes.  This says nothing of how a text is read, but it leaves no choice: a reference opens
at the first opening that is left, and closes at the first brace behind it.

Expanding a text puts a value in the place of each reference and keeps everything else.  The values
stand in the result only, so nothing in them is taken for a reference.
-/

/-- What opens a reference. -/
def opening : List Char := ['$', '\x7b']

/-- A text taken apart. -/
inductive Decomposition where
  /-- Literal text up to the end. -/
  | plain (literal : List Char) (unopened : ¬opening <:+: literal)
  /-- Literal text, then an opening that nothing closes. -/
  | broken (literal rest : List Char) (unopened : ¬opening <:+: literal)
      (unclosed : '\x7d' ∉ rest)
  /-- Literal text, then a reference, and what follows it. -/
  | reference (literal name : List Char) (unopened : ¬opening <:+: literal)
      (unclosed : '\x7d' ∉ name) (more : Decomposition)

/-- What a name stands for: nothing, if it is empty or not set. -/
def Environment.meaning (environment : Environment) (name : List Char) : List Char :=
  if name = [] then [] else (environment.value? name).getD []

namespace Decomposition

/-- The text that was taken apart. -/
def text : Decomposition -> List Char
  | .plain literal _ => literal
  | .broken literal rest _ _ => literal ++ opening ++ rest
  | .reference literal name _ _ more => literal ++ opening ++ (name ++ '\x7d' :: more.text)

/-- The text with a value in the place of each reference. -/
def value (environment : Environment) : Decomposition -> List Char
  | .plain literal _ => literal
  | .broken literal rest _ _ => literal ++ opening ++ rest
  | .reference literal name _ _ more =>
      literal ++ environment.meaning name ++ more.value environment

end Decomposition

/-! ## Where a reference opens and closes -/

/-- An opening at the front would stand in a literal text that has begun. -/
theorem opening_append_ne {first : Char} {behind rest more : List Char}
    (unopened : ¬opening <:+: first :: behind) :
    opening ++ rest ≠ first :: behind ++ opening ++ more := by
  intro same
  cases behind with
  | nil => simp [opening] at same
  | cons second others =>
      simp only [opening, List.cons_append, List.nil_append, List.cons.injEq] at same
      apply unopened
      rw [← same.1, ← same.2.1]
      exact ⟨[], others, rfl⟩

/-- Literal text ends at the first opening, whatever follows. -/
theorem append_opening_inj {left right rest more : List Char} (leftUnopened : ¬opening <:+: left)
    (rightUnopened : ¬opening <:+: right)
    (same : left ++ opening ++ rest = right ++ opening ++ more) : left = right ∧ rest = more := by
  induction left generalizing right with
  | nil =>
      cases right with
      | nil => exact ⟨rfl, List.append_cancel_left same⟩
      | cons first behind => exact absurd same (opening_append_ne rightUnopened)
  | cons first behind inductionHypothesis =>
      cases right with
      | nil => exact absurd same.symm (opening_append_ne leftUnopened)
      | cons second others =>
          simp only [List.cons_append, List.cons.injEq] at same
          rcases same with ⟨rfl, tails⟩
          have result := inductionHypothesis
            (fun inside => leftUnopened (List.infix_cons inside))
            (fun inside => rightUnopened (List.infix_cons inside)) tails
          exact ⟨by rw [result.1], result.2⟩

/-- The next character closes, or is part of the name. -/
theorem closing?_cons (c : Char) (text : List Char) :
    closing? (c :: text) = if c = '\x7d' then some ([], text)
      else (closing? text).map (fun parts => (c :: parts.1, parts.2)) := by
  by_cases closes : c = '\x7d'
  · simp [closing?, closes]
  · simp only [closing?, List.dropWhile_cons, List.takeWhile_cons, bne_iff_ne, ne_eq, closes,
      not_false_eq_true, if_true, if_false]
    cases text.dropWhile (· != '\x7d') <;> rfl

theorem closing?_append {name : List Char} (unclosed : '\x7d' ∉ name) (after : List Char) :
    closing? (name ++ '\x7d' :: after) = some (name, after) := by
  induction name with
  | nil => rw [List.nil_append, closing?_cons, if_pos rfl]
  | cons c rest inductionHypothesis =>
      rw [List.mem_cons, not_or] at unclosed
      rw [List.cons_append, closing?_cons, if_neg (Ne.symm unclosed.1),
        inductionHypothesis unclosed.2]
      rfl

/-- What is found is a name without a closing brace, the brace, and what follows it. -/
theorem eq_append_of_closing? {text name after : List Char}
    (found : closing? text = some (name, after)) :
    '\x7d' ∉ name ∧ text = name ++ '\x7d' :: after := by
  induction text generalizing name with
  | nil => cases found
  | cons c rest inductionHypothesis =>
      rw [closing?_cons] at found
      split at found
      next closes =>
        cases found
        exact ⟨List.not_mem_nil, by rw [closes]; rfl⟩
      next differs =>
        rcases Option.map_eq_some_iff.mp found with ⟨⟨front, behind⟩, later, same⟩
        cases same
        rcases inductionHypothesis later with ⟨unclosed, rfl⟩
        refine ⟨?_, rfl⟩
        rw [List.mem_cons, not_or]
        exact ⟨Ne.symm differs, unclosed⟩

theorem not_mem_of_closing? {text : List Char} (absent : closing? text = none) :
    '\x7d' ∉ text := by
  induction text with
  | nil => exact List.not_mem_nil
  | cons c rest inductionHypothesis =>
      rw [closing?_cons] at absent
      split at absent
      next => cases absent
      next differs =>
        rw [List.mem_cons, not_or]
        exact ⟨Ne.symm differs, inductionHypothesis (Option.map_eq_none_iff.mp absent)⟩

/-- A name ends at the first closing brace, whatever follows. -/
theorem append_closing_inj {left right rest more : List Char} (leftUnclosed : '\x7d' ∉ left)
    (rightUnclosed : '\x7d' ∉ right) (same : left ++ '\x7d' :: rest = right ++ '\x7d' :: more) :
    left = right ∧ rest = more := by
  have found := closing?_append leftUnclosed rest
  rw [same, closing?_append rightUnclosed more, Option.some.injEq, Prod.mk.injEq] at found
  exact ⟨found.1.symm, found.2.symm⟩

/-! ## One way only -/

namespace Decomposition

theorem ne_of_unopened {literal before after : List Char} (unopened : ¬opening <:+: literal) :
    literal ≠ before ++ opening ++ after := by
  rintro rfl
  exact unopened (List.infix_append before opening after)

/-- A text can be taken apart in one way only. -/
theorem text_inj {left right : Decomposition} (same : left.text = right.text) : left = right := by
  induction left generalizing right with
  | plain literal unopened =>
      cases right with
      | plain other _ =>
          have literals : literal = other := same
          subst literals
          rfl
      | broken | reference => exact absurd same (ne_of_unopened unopened)
  | broken literal rest unopened unclosed =>
      cases right with
      | plain other otherUnopened => exact absurd same.symm (ne_of_unopened otherUnopened)
      | broken other more otherUnopened _ =>
          rcases append_opening_inj unopened otherUnopened same with ⟨rfl, rfl⟩
          rfl
      | reference other name otherUnopened _ more =>
          rcases append_opening_inj unopened otherUnopened same with ⟨_, rfl⟩
          exact absurd (List.mem_append_right name List.mem_cons_self) unclosed
  | reference literal name unopened unclosed more inductionHypothesis =>
      cases right with
      | plain other otherUnopened => exact absurd same.symm (ne_of_unopened otherUnopened)
      | broken other rest otherUnopened otherUnclosed =>
          rcases append_opening_inj unopened otherUnopened same with ⟨_, rfl⟩
          exact absurd (List.mem_append_right name List.mem_cons_self) otherUnclosed
      | reference other another otherUnopened otherUnclosed others =>
          rcases append_opening_inj unopened otherUnopened same with ⟨rfl, behind⟩
          rcases append_closing_inj unclosed otherUnclosed behind with ⟨rfl, later⟩
          rw [inductionHypothesis later]

/-! ## Along the reading -/

theorem unopened_cons {c : Char} {literal rest : List Char} (unopened : ¬opening <:+: literal)
    (apart : ¬opening <+: c :: (literal ++ rest)) : ¬opening <:+: c :: literal := by
  rw [List.infix_cons_iff]
  rintro (front | inside)
  · exact apart (front.trans (List.prefix_append (c :: literal) rest))
  · exact unopened inside

/-- A character that begins no opening joins the literal text behind it. -/
theorem exists_cons {c : Char} {parts : Decomposition} (apart : ¬opening <+: c :: parts.text) :
    exists longer : Decomposition, longer.text = c :: parts.text ∧
      forall environment, longer.value environment = c :: parts.value environment := by
  cases parts with
  | plain literal unopened =>
      rw [text, ← List.append_nil literal] at apart
      exact ⟨.plain (c :: literal) (unopened_cons unopened apart), rfl, fun _ => rfl⟩
  | broken literal rest unopened unclosed =>
      rw [text, List.append_assoc] at apart
      exact ⟨.broken (c :: literal) rest (unopened_cons unopened apart) unclosed, rfl,
        fun _ => rfl⟩
  | reference literal name unopened unclosed more =>
      rw [text, List.append_assoc] at apart
      exact ⟨.reference (c :: literal) name (unopened_cons unopened apart) unclosed more, rfl,
        fun _ => rfl⟩

end Decomposition

theorem flatMap_consLiteral (environment : Environment) (c : Char) (pieces : List Piece) :
    (consLiteral c pieces).flatMap (Piece.value environment) =
      c :: pieces.flatMap (Piece.value environment) := by
  rcases pieces with _ | ⟨literal | name, rest⟩ <;> rfl

/-- Every text can be taken apart, and what its pieces stand for is the text with its references
replaced. -/
theorem exists_decomposition (text : List Char) :
    exists parts : Decomposition, parts.text = text ∧ forall environment,
      parts.value environment = (cut text).flatMap (Piece.value environment) := by
  have blank : ¬opening <:+: [] := by decide
  fun_induction cut text with
  | case1 => exact ⟨.plain [] blank, rfl, fun _ => rfl⟩
  | case2 rest name after found inductionHypothesis =>
      rcases eq_append_of_closing? found with ⟨unclosed, rfl⟩
      rcases inductionHypothesis with ⟨parts, rfl, value⟩
      refine ⟨.reference [] name blank unclosed parts, rfl, fun environment => ?_⟩
      rw [List.flatMap_cons, ← value]
      simp [Decomposition.value, Piece.value, Environment.meaning]
  | case3 rest absent =>
      refine ⟨.broken [] rest blank (not_mem_of_closing? absent), rfl, fun environment => ?_⟩
      exact (List.append_nil _).symm
  | case4 c rest other inductionHypothesis =>
      rcases inductionHypothesis with ⟨parts, rfl, value⟩
      have apart : ¬opening <+: c :: parts.text := by
        rintro ⟨behind, front⟩
        simp only [opening, List.cons_append, List.nil_append, List.cons.injEq] at front
        exact other behind front.1.symm front.2.symm
      rcases Decomposition.exists_cons apart with ⟨longer, whole, longerValue⟩
      refine ⟨longer, whole, fun environment => ?_⟩
      rw [longerValue, value, flatMap_consLiteral]

theorem toList_expand (environment : Environment) (text : String) :
    (expand environment text).toList = (cut text.toList).flatMap (Piece.value environment) :=
  String.toList_ofList

/-- The meaning of a name without an equals sign is what is filed under it. -/
theorem meaning_eq_find? (environment : Environment) {name : List Char} (named : name ≠ [])
    (simple : '=' ∉ name) :
    environment.meaning name = ((environment.find? (String.ofList name)).getD "").toList := by
  have owner : name.takeWhile (· != '=') = name := by
    rw [List.takeWhile_eq_self_iff]
    intro c member
    exact bne_iff_ne.mpr (fun same => simple (same ▸ member))
  rw [Environment.meaning, if_neg named, Environment.value?]
  cases filed : environment.find? (String.ofList name) with
  | some value => rfl
  | none =>
      dsimp only
      rw [owner, filed]
      rfl

/-- A text can be taken apart in exactly one way, and expanding it puts what its names mean in the
place of its references and changes nothing else; so a text without an opening stays as it is.  A
name means what the environment files under it, and nothing if it is empty or not set. -/
theorem expansion_is_single_pass (text : String) :
    exists parts : Decomposition, parts.text = text.toList ∧
      (forall other : Decomposition, other.text = text.toList -> other = parts) ∧
      (forall environment, (expand environment text).toList = parts.value environment) ∧
      (¬opening <:+: text.toList -> forall environment, expand environment text = text) ∧
      (forall environment : Environment, environment.meaning [] = [] ∧
        forall name, name ≠ [] -> '=' ∉ name -> environment.meaning name =
          ((environment.find? (String.ofList name)).getD "").toList) := by
  rcases exists_decomposition text.toList with ⟨parts, whole, value⟩
  have expanded : forall environment, (expand environment text).toList = parts.value environment :=
    fun environment => (toList_expand environment text).trans (value environment).symm
  refine ⟨parts, whole, fun other again => Decomposition.text_inj (again.trans whole.symm),
    expanded, ?_, fun environment => ⟨rfl, fun name => meaning_eq_find? environment⟩⟩
  intro unopened environment
  have plain : parts = .plain text.toList unopened := Decomposition.text_inj whole
  apply String.toList_injective
  rw [expanded, plain]
  rfl

end Settings
end LanguageServer
