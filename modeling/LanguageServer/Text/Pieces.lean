namespace LanguageServer
namespace Text

/-!
Cutting sequences at a separator.

Frames, lines and fields are all cut the same way: every occurrence of the separator ends one
piece and begins the next, so `n` separators give `n + 1` pieces, some of them possibly empty.
Joining the pieces again with the separator restores the sequence.
-/

/-- The pieces between the occurrences of `separator`. -/
def pieces {Symbol : Type} [BEq Symbol] (separator : Symbol) :
    List Symbol -> List (List Symbol)
  | [] => [[]]
  | head :: tail =>
      if head == separator then
        [] :: pieces separator tail
      else
        match pieces separator tail with
        | [] => [[head]]
        | first :: rest => (head :: first) :: rest

/-- The pieces of a string between the occurrences of a character. -/
def split (separator : Char) (text : String) : List String :=
  (pieces separator text.toList).map String.ofList

/-- Strings joined with a separator between neighbours. -/
def join (separator : String) (parts : List String) : String :=
  String.ofList (List.intercalate separator.toList (parts.map String.toList))

/-- The tab-separated fields of a line. -/
def fields (line : String) : List String :=
  split '\t' line

theorem pieces_ne_nil {Symbol : Type} [BEq Symbol] (separator : Symbol) (text : List Symbol) :
    pieces separator text ≠ [] := by
  cases text with
  | nil => simp [pieces]
  | cons head tail =>
      rw [pieces]
      split
      · simp
      · split <;> simp

/-- Joining the pieces with the separator gives the sequence back. -/
theorem intercalate_pieces {Symbol : Type} [BEq Symbol] [LawfulBEq Symbol] (separator : Symbol)
    (text : List Symbol) : List.intercalate [separator] (pieces separator text) = text := by
  induction text with
  | nil => simp [pieces, List.intercalate]
  | cons head tail ih =>
      rw [pieces]
      split
      next same =>
        have equal : head = separator := eq_of_beq same
        cases found : pieces separator tail with
        | nil => exact absurd found (pieces_ne_nil separator tail)
        | cons first rest =>
            rw [found] at ih
            simp only [List.intercalate, List.intersperse, List.flatten_cons, equal] at ih ⊢
            simp [ih]
      next =>
        cases found : pieces separator tail with
        | nil => exact absurd found (pieces_ne_nil separator tail)
        | cons first rest =>
            rw [found] at ih
            cases rest with
            | nil => simpa [List.intercalate] using ih
            | cons second others => simpa [List.intercalate, List.intersperse] using ih

end Text
end LanguageServer
