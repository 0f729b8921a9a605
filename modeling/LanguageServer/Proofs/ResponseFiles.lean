import LanguageServer.Proofs.Transmission
import LanguageServer.Wire.ResponseFile

namespace LanguageServer
namespace Wire
namespace ResponseFile

/-!
# A response file has one reading only

A quote inside an argument is written with a backslash before it, but a backslash is written as it
is, and a quoted argument may hold the line ends that part arguments.  So behind a backslash nobody
can tell at once whether a quote belongs to the argument or closes it, and no argument can be read
without the rest of the file.

Suppose that a text is read in two ways that part at such a quote: one reading begins an argument
where the other one is still inside of one.  Then they stay out of step.  A quote that opens an
argument stands at the beginning of a line, with no backslash before it, so the reading that is
inside has to close its argument there, and the line end behind that quote is the first character of
the argument that was opened.  The readings have changed places, and at the end of the file one of
them is still inside of an argument.
-/

/-- The arguments of a file, as they are written. -/
def written (arguments : List (List Char)) : List Char :=
  arguments.flatMap (fun argument => quote argument ++ ['\n'])

/-- What is still to be written from inside a quoted argument on. -/
def writtenFrom (inside : List Char) (arguments : List (List Char)) : List Char :=
  escape inside ++ '"' :: '\n' :: written arguments

section Beginnings

variable {argument inside : List Char} {arguments : List (List Char)} {character : Char}

theorem plain_iff :
    isPlain argument = true ↔
      argument ≠ [] ∧ forall c, c ∈ argument -> Text.isBlank c = false ∧ c ≠ '"' := by
  simp [isPlain]

theorem written_of_plain (plain : isPlain argument = true) :
    written (argument :: arguments) = argument ++ '\n' :: written arguments := by
  simp [written, quote, plain]

theorem written_of_quoted (quoted : isPlain argument ≠ true) :
    written (argument :: arguments) = '"' :: writtenFrom argument arguments := by
  simp [written, writtenFrom, quote, quoted]

theorem writtenFrom_quote :
    writtenFrom ('"' :: inside) arguments = '\\' :: '"' :: writtenFrom inside arguments := rfl

theorem writtenFrom_other (other : character ≠ '"') :
    writtenFrom (character :: inside) arguments = character :: writtenFrom inside arguments := by
  simp [writtenFrom, escape, other]

end Beginnings

/-! ## Out of step -/

section OutOfStep

variable {inside rest : List Char} {arguments others : List (List Char)}

/-- The first character inside an argument closes it, announces a quote, or stands for itself. -/
theorem writtenFrom_cases {first : Char} (same : first :: rest = writtenFrom inside arguments) :
    (first = '"' ∧ inside = [] ∧ rest = '\n' :: written arguments) ∨
      (first = '\\' ∧ exists more, rest = '"' :: writtenFrom more arguments) ∨
      (first ≠ '"' ∧ exists more, rest = writtenFrom more arguments) := by
  cases inside with
  | nil =>
      rcases List.cons.inj same with ⟨quote, behind⟩
      exact Or.inl ⟨quote, rfl, behind⟩
  | cons character more =>
      by_cases quote : character = '"'
      · rw [quote, writtenFrom_quote] at same
        rcases List.cons.inj same with ⟨backslash, behind⟩
        exact Or.inr (Or.inl ⟨backslash, more, behind⟩)
      · rw [writtenFrom_other quote] at same
        rcases List.cons.inj same with ⟨equal, behind⟩
        exact Or.inr (Or.inr ⟨equal ▸ quote, more, behind⟩)

/-- A quote without a backslash before it closes the argument. -/
theorem closed_of_quote (same : '"' :: rest = writtenFrom inside arguments) :
    inside = [] ∧ rest = '\n' :: written arguments := by
  rcases writtenFrom_cases same with ⟨_, closed⟩ | ⟨backslash, _⟩ | ⟨other, _⟩
  · exact closed
  · exact absurd backslash (by decide)
  · exact absurd rfl other

/-- Text without quotes that ends in a line end is passed over inside an argument. -/
theorem passed_of_no_quote {text : List Char} (unquoted : '"' ∉ text)
    (same : text ++ '\n' :: rest = writtenFrom inside arguments) :
    exists later, rest = writtenFrom later arguments := by
  induction text generalizing inside with
  | nil =>
      rcases writtenFrom_cases same with ⟨quote, _⟩ | ⟨backslash, _⟩ | ⟨_, passed⟩
      · exact absurd quote (by decide)
      · exact absurd backslash (by decide)
      · exact passed
  | cons first remaining inductionHypothesis =>
      have later := List.not_mem_of_not_mem_cons unquoted
      rcases writtenFrom_cases same with ⟨quote, _⟩ | ⟨_, _, behind⟩ | ⟨_, _, behind⟩
      · exact absurd quote.symm (List.ne_of_not_mem_cons unquoted)
      · -- The backslash is there, but the quote that has to follow it is not.
        cases remaining with
        | nil => exact absurd (List.cons.inj behind).1 (by decide)
        | cons second _ =>
            exact absurd (List.cons.inj behind).1.symm (List.ne_of_not_mem_cons later)
      · exact inductionHypothesis later behind

/-- Where a quote closes an argument in one reading and stands inside of an argument in the other,
the one reading begins an argument while the other goes on. -/
theorem out_of_step_of_quote
    (same : '"' :: writtenFrom inside arguments = writtenFrom rest others) :
    exists later, written others = writtenFrom later arguments := by
  have closed := (closed_of_quote same).2
  exact passed_of_no_quote List.not_mem_nil closed.symm

/-- Readings that are out of step stay so, and never end together. -/
theorem written_ne_writtenFrom (arguments others : List (List Char)) (inside : List Char) :
    written arguments ≠ writtenFrom inside others := by
  match arguments with
  | [] =>
      intro same
      exact List.append_ne_nil_of_right_ne_nil _ (List.cons_ne_nil _ _) same.symm
  | argument :: rest =>
      intro same
      by_cases plain : isPlain argument = true
      · have unquoted : '"' ∉ argument := fun member => ((plain_iff.mp plain).2 '"' member).2 rfl
        rw [written_of_plain plain] at same
        rcases passed_of_no_quote unquoted same with ⟨later, behind⟩
        exact written_ne_writtenFrom rest others later behind
      · -- The readings change places, so only what both have left together gets less.
        rw [written_of_quoted plain] at same
        rcases out_of_step_of_quote same with ⟨later, behind⟩
        exact written_ne_writtenFrom others rest later behind
termination_by arguments.length + others.length

end OutOfStep

/-! ## In step -/

/-- Two readings that are inside of an argument read the same argument and close it together. -/
theorem writtenFrom_inj {left right : List Char} {arguments others : List (List Char)}
    (same : writtenFrom left arguments = writtenFrom right others) :
    left = right ∧ written arguments = written others := by
  induction left generalizing right with
  | nil =>
      rcases closed_of_quote same with ⟨closed, rest⟩
      exact ⟨closed.symm, (List.cons.inj rest).2⟩
  | cons first more inductionHypothesis =>
      cases right with
      | nil => exact absurd (closed_of_quote same.symm).1 (List.cons_ne_nil first more)
      | cons second rest =>
          by_cases firstQuote : first = '"' <;> by_cases secondQuote : second = '"'
          · rw [firstQuote, secondQuote, writtenFrom_quote, writtenFrom_quote] at same
            rcases inductionHypothesis (List.cons.inj (List.cons.inj same).2).2 with ⟨equal, behind⟩
            exact ⟨by rw [firstQuote, secondQuote, equal], behind⟩
          · rw [firstQuote, writtenFrom_quote, writtenFrom_other secondQuote] at same
            rcases out_of_step_of_quote (List.cons.inj same).2 with ⟨later, behind⟩
            exact absurd behind (written_ne_writtenFrom others arguments later)
          · rw [secondQuote, writtenFrom_quote, writtenFrom_other firstQuote] at same
            rcases out_of_step_of_quote (List.cons.inj same).2.symm with ⟨later, behind⟩
            exact absurd behind (written_ne_writtenFrom arguments others later)
          · rw [writtenFrom_other firstQuote, writtenFrom_other secondQuote] at same
            rcases List.cons.inj same with ⟨equal, tails⟩
            rcases inductionHypothesis tails with ⟨later, behind⟩
            exact ⟨by rw [equal, later], behind⟩

/-- Plain arguments end at the first line end. -/
theorem plain_inj {left right : List Char} {arguments others : List (List Char)}
    (leftPlain : isPlain left = true) (rightPlain : isPlain right = true)
    (same : left ++ '\n' :: written arguments = right ++ '\n' :: written others) :
    left = right ∧ written arguments = written others := by
  have unbroken : forall {argument : List Char}, isPlain argument = true -> '\n' ∉ argument := by
    intro argument plain member
    exact absurd ((plain_iff.mp plain).2 '\n' member).1 (by decide)
  have lines := congrArg (Text.pieces '\n') same
  rw [Text.pieces_cons (unbroken leftPlain), Text.pieces_cons (unbroken rightPlain)] at lines
  have equal := (List.cons.inj lines).1
  rw [equal] at same
  exact ⟨equal, (List.cons.inj (List.append_cancel_left same)).2⟩

/-- A plain argument is not taken for a quoted one. -/
theorem plain_ne_quoted {argument text rest : List Char} (plain : isPlain argument = true) :
    argument ++ text ≠ '"' :: rest := by
  rcases plain_iff.mp plain with ⟨filled, characters⟩
  cases argument with
  | nil => exact absurd rfl filled
  | cons first more =>
      intro same
      exact (characters first List.mem_cons_self).2 (List.cons.inj same).1

theorem written_ne_nil (argument : List Char) (arguments : List (List Char)) :
    written (argument :: arguments) ≠ [] := by
  simp [written]

theorem written_inj {left right : List (List Char)} (same : written left = written right) :
    left = right := by
  induction left generalizing right with
  | nil =>
      cases right with
      | nil => rfl
      | cons argument rest => exact absurd same.symm (written_ne_nil argument rest)
  | cons first more inductionHypothesis =>
      cases right with
      | nil => exact absurd same (written_ne_nil first more)
      | cons second rest =>
          have heads : first = second ∧ written more = written rest := by
            by_cases firstPlain : isPlain first = true <;>
              by_cases secondPlain : isPlain second = true
            · rw [written_of_plain firstPlain, written_of_plain secondPlain] at same
              exact plain_inj firstPlain secondPlain same
            · rw [written_of_plain firstPlain, written_of_quoted secondPlain] at same
              exact absurd same (plain_ne_quoted firstPlain)
            · rw [written_of_quoted firstPlain, written_of_plain secondPlain] at same
              exact absurd same.symm (plain_ne_quoted secondPlain)
            · rw [written_of_quoted firstPlain, written_of_quoted secondPlain] at same
              exact writtenFrom_inj (List.cons.inj same).2
          rw [heads.1, inductionHypothesis heads.2]

theorem contents_eq (arguments : List String) :
    contents arguments = String.ofList (written (arguments.map String.toList)) := by
  rw [contents, written, List.flatMap_map]

/-- Two lists of arguments have the same response file only if they are the same, whatever the
arguments hold: blanks, line ends, quotes, or a backslash at the end. -/
theorem contents_eq_iff (left right : List String) :
    contents left = contents right ↔ left = right := by
  constructor
  · intro same
    rw [contents_eq, contents_eq] at same
    have texts := written_inj (String.ofList_injective same)
    exact List.map_inj_right (fun _ _ equal => String.toList_injective equal) |>.mp texts
  · exact congrArg contents

/-- A file may begin with the whole file of other arguments: only its end tells them apart. -/
example : (contents ["a \"\n"]).toList <+: (contents ["a \\", "\n"]).toList := by decide

end ResponseFile
end Wire
end LanguageServer
