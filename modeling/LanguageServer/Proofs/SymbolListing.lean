import LanguageServer.Proofs.Payloads
import Mathlib.Data.List.Forall2

namespace LanguageServer
namespace Wire
namespace Payload

/-!
# Which document a symbol belongs to

A listing of symbols is read line by line.  A line of one field names a document, and the records
below it, of seven fields each, are symbols of that document.  So what a line means, and whether
anything is wrong with it, depends on the lines above it: `places` puts the two together.

Nothing is wrong with any place, and then there is one symbol for each record; or the first place at
fault decides what is reported.  A line can be at fault in three ways, and of several numbers that
cannot be read the first one is named.
-/

/-! ## Numbers in their order -/

/-- The 32-bit number in a field, which may have blanks around it. -/
def value? (field : String) : Option UInt32 :=
  Text.word? (Text.trim field.toList)

/-- The first of some fields that holds no number. -/
def firstBad? (numerals : List (Field × String)) : Option (Field × String) :=
  numerals.find? (fun numeral => value? numeral.2 = none)

/-- Reading the numerals in their order either stops at the first bad one and names it, or ends with
an item that is good. -/
def Settles {Item : Type} (numerals : List (Field × String)) (good : Item -> Prop)
    (reading : Reading Item) : Prop :=
  (exists bad, firstBad? numerals = some bad ∧ reading = .error (.invalidNumber bad.1 bad.2)) ∨
    (firstBad? numerals = none ∧ exists item, reading = .ok item ∧ good item)

namespace Settles

variable {Item : Type} {good : Item -> Prop}

theorem done {item : Item} (holds : good item) : Settles [] good (pure item) :=
  Or.inr ⟨rfl, item, rfl, holds⟩

/-- One more number is read before the others. -/
theorem number {field : Field} {text : String} {rest : List (Field × String)}
    {next : UInt32 -> Reading Item}
    (others : forall word, value? text = some word -> Settles rest good (next word)) :
    Settles ((field, text) :: rest) good (number field text >>= next) := by
  cases read : value? text with
  | none =>
      have refused : Payload.number field text = .error (.invalidNumber field text) := by
        rw [Payload.number, show Text.word? (Text.trim text.toList) = none from read]
      refine Or.inl ⟨(field, text), by simp [firstBad?, read], ?_⟩
      rw [refused]
      rfl
  | some word =>
      have accepted : Payload.number field text = .ok word := by
        rw [Payload.number, show Text.word? (Text.trim text.toList) = some word from read]
      have skipped : firstBad? ((field, text) :: rest) = firstBad? rest := by
        simp [firstBad?, read]
      rw [Settles, skipped, accepted]
      exact others word read

end Settles

/-! ## Places -/

/-- A line with the lines above it. -/
structure Place where
  above : List String
  line : String
deriving DecidableEq, Repr

/-- The lines of a list, each with those above it. -/
def places (above : List String) : List String -> List Place
  | [] => []
  | line :: rest => ⟨above, line⟩ :: places (above ++ [line]) rest

/-- The first line is a marker, and empty lines say nothing. -/
def counted (lines : List String) : List String :=
  lines.tail.filter (fun line => line ≠ "")

/-- A line of one field names a document. -/
def NamesDocument (line : String) : Prop := (Text.fields line).length = 1

instance (line : String) : Decidable (NamesDocument line) :=
  inferInstanceAs (Decidable (_ = _))

/-- A line of seven fields holds a symbol. -/
def IsSymbol (line : String) : Prop := (Text.fields line).length = 7

instance (line : String) : Decidable (IsSymbol line) :=
  inferInstanceAs (Decidable (_ = _))

/-- The document of what stands below the lines: the last one that they name. -/
def documentAbove (above : List String) : Option String :=
  (above.filter (fun line => NamesDocument line)).getLast?

/-- The fields of a record that hold numbers, in the order in which they are read. -/
def numerals : List String -> List (Field × String)
  | [_, kind, _, startLine, startColumn, endLine, endColumn] =>
      [(.symbolKind, kind), (.startLine, startLine), (.startColumn, startColumn),
        (.endLine, endLine), (.endColumn, endColumn)]
  | _ => []

/-- The fields hold the line and the column of a position, which the compiler counts from one. -/
def Locates (line column : String) (position : Position) : Prop :=
  exists row offset, value? line = some row ∧ value? column = some offset ∧
    position = ⟨predecessor row, predecessor offset⟩

namespace Place

/-- The record of a symbol. -/
def IsRecord (place : Place) : Prop := IsSymbol place.line

instance (place : Place) : Decidable place.IsRecord :=
  inferInstanceAs (Decidable (IsSymbol _))

/-- What is wrong with a line. -/
def fault? (place : Place) : Option PayloadFault :=
  if NamesDocument place.line then none
  else if place.IsRecord then
    if documentAbove place.above = none then some .symbolWithoutUri
    else
      (firstBad? (numerals (Text.fields place.line))).map
        (fun bad => .invalidNumber bad.1 bad.2)
  else some (.fieldCount 7 (Text.fields place.line).length)

/-- The symbol is what the record says, in the document above it. -/
def Describes (place : Place) (symbol : Symbol) : Prop :=
  documentAbove place.above = some symbol.location.uri ∧
    exists kind startLine startColumn endLine endColumn,
      Text.fields place.line = [symbol.name, kind, symbol.container, startLine, startColumn,
        endLine, endColumn] ∧
      value? kind = some symbol.kind ∧
      Locates startLine startColumn symbol.location.range.start ∧
      Locates endLine endColumn symbol.location.range.stop

end Place

/-! ## One line -/

theorem eq_of_fields_singleton {line document : String} (single : Text.fields line = [document]) :
    document = line := by
  have whole := Text.join_fields line
  rw [single] at whole
  simpa [Text.join, List.intercalate] using whole

theorem documentAbove_concat (above : List String) (line : String) :
    documentAbove (above ++ [line]) =
      if NamesDocument line then some line else documentAbove above := by
  by_cases names : NamesDocument line <;> simp [documentAbove, names]

theorem fields_cases (fields : List String) :
    (exists document, fields = [document]) ∨
      (exists name kind container startLine startColumn endLine endColumn,
        fields = [name, kind, container, startLine, startColumn, endLine, endColumn]) ∨
      (fields.length ≠ 1 ∧ fields.length ≠ 7) := by
  rcases fields with _ | ⟨a, _ | ⟨b, _ | ⟨c, _ | ⟨d, _ | ⟨e, _ | ⟨f, _ | ⟨g, _ | ⟨h, rest⟩⟩⟩⟩⟩⟩⟩⟩
  all_goals simp

/-- A record of a known document is read up to its first bad number. -/
theorem symbolRecord_settles (document name kind container startLine startColumn endLine
    endColumn : String) :
    Settles (numerals [name, kind, container, startLine, startColumn, endLine, endColumn])
      (fun symbol => symbol.location.uri = document ∧ symbol.name = name ∧
        symbol.container = container ∧ value? kind = some symbol.kind ∧
        Locates startLine startColumn symbol.location.range.start ∧
        Locates endLine endColumn symbol.location.range.stop)
      (symbolRecord (some document) name kind container startLine startColumn endLine
        endColumn) := by
  simp only [symbolRecord, range, bind_assoc, pure_bind]
  refine .number fun code codeRead => .number fun firstLine firstLineRead =>
    .number fun firstColumn firstColumnRead => .number fun lastLine lastLineRead =>
      .number fun lastColumn lastColumnRead => .done ?_
  exact ⟨rfl, rfl, rfl, codeRead, ⟨firstLine, firstColumn, firstLineRead, firstColumnRead, rfl⟩,
    ⟨lastLine, lastColumn, lastLineRead, lastColumnRead, rfl⟩⟩

/-- What a line does below others: it is at fault and decides, it names the document of the lines
below it, or it is a record and adds a symbol. -/
def Acts (place : Place) : Prop :=
  (exists fault, place.fault? = some fault ∧ forall rest,
    symbolsFrom (documentAbove place.above) (place.line :: rest) = .error fault) ∨
  (place.fault? = none ∧ ¬place.IsRecord ∧ forall rest,
    symbolsFrom (documentAbove place.above) (place.line :: rest) =
      symbolsFrom (documentAbove (place.above ++ [place.line])) rest) ∨
  (place.fault? = none ∧ place.IsRecord ∧ exists symbol, place.Describes symbol ∧ forall rest,
    symbolsFrom (documentAbove place.above) (place.line :: rest) =
      (symbolsFrom (documentAbove (place.above ++ [place.line])) rest).map (symbol :: ·))

section Acts

variable {above : List String} {line : String}

theorem acts_of_document (filled : line ≠ "") {document : String}
    (single : Text.fields line = [document]) : Acts ⟨above, line⟩ := by
  have names : NamesDocument line := by simp [NamesDocument, single]
  refine Or.inr (Or.inl ⟨?_, ?_, ?_⟩)
  · simp [Place.fault?, names]
  · simp [Place.IsRecord, IsSymbol, single]
  · intro rest
    rw [documentAbove_concat, if_pos names, symbolsFrom, if_neg filled, single,
      eq_of_fields_singleton single]

theorem acts_of_record (filled : line ≠ "") {name kind container startLine startColumn endLine
    endColumn : String}
    (seven : Text.fields line =
      [name, kind, container, startLine, startColumn, endLine, endColumn]) :
    Acts ⟨above, line⟩ := by
  have unnamed : ¬NamesDocument line := by simp [NamesDocument, seven]
  have record : Place.IsRecord ⟨above, line⟩ := by simp [Place.IsRecord, IsSymbol, seven]
  have opened : forall uri rest, symbolsFrom uri (line :: rest) =
      (symbolRecord uri name kind container startLine startColumn endLine endColumn >>=
        fun symbol => symbolsFrom uri rest >>= fun others => pure (symbol :: others)) := by
    intro uri rest
    rw [symbolsFrom, if_neg filled, seven]
  cases known : documentAbove above with
  | none =>
      refine Or.inl ⟨.symbolWithoutUri, ?_, ?_⟩
      · simp [Place.fault?, unnamed, record, known]
      · intro rest
        rw [known, opened]
        rfl
  | some document =>
      rcases symbolRecord_settles document name kind container startLine startColumn endLine
        endColumn with ⟨bad, found, refused⟩ | ⟨clean, symbol, read, rfl, rfl, rfl, numbers⟩
      · refine Or.inl ⟨.invalidNumber bad.1 bad.2, ?_, ?_⟩
        · simp [Place.fault?, unnamed, record, known, seven, found]
        · intro rest
          rw [known, opened, refused]
          rfl
      · refine Or.inr (Or.inr ⟨?_, record, symbol, ⟨known, _, _, _, _, _, seven, numbers⟩, ?_⟩)
        · simp [Place.fault?, unnamed, record, known, seven, clean]
        · intro rest
          rw [documentAbove_concat, if_neg unnamed, known, opened, read]
          cases symbolsFrom (some symbol.location.uri) rest <;> rfl

theorem acts_of_miscounted (filled : line ≠ "") (single : (Text.fields line).length ≠ 1)
    (seven : (Text.fields line).length ≠ 7) : Acts ⟨above, line⟩ := by
  refine Or.inl ⟨.fieldCount 7 (Text.fields line).length, ?_, ?_⟩
  · simp [Place.fault?, NamesDocument, Place.IsRecord, IsSymbol, single, seven]
  · intro rest
    rw [symbolsFrom, if_neg filled]
    split
    next document found => exact absurd (by rw [found]; rfl) single
    next found => exact absurd (by rw [found]; rfl) seven
    next => rfl

end Acts

theorem acts (above : List String) {line : String} (filled : line ≠ "") : Acts ⟨above, line⟩ := by
  rcases fields_cases (Text.fields line) with
    ⟨_, single⟩ | ⟨_, _, _, _, _, _, _, seven⟩ | ⟨single, seven⟩
  · exact acts_of_document filled single
  · exact acts_of_record filled seven
  · exact acts_of_miscounted filled single seven

/-! ## All lines -/

/-- The first place at fault decides; without one there is one symbol for each record. -/
def Outcome (found : List Place) (reading : Reading (List Symbol)) : Prop :=
  (exists fault, found.findSome? Place.fault? = some fault ∧ reading = .error fault) ∨
    (found.findSome? Place.fault? = none ∧ exists symbols, reading = .ok symbols ∧
      List.Forall₂ Place.Describes (found.filter (fun place => place.IsRecord)) symbols)

theorem symbolsFrom_outcome (above lines : List String) :
    Outcome (places above (lines.filter (fun line => line ≠ "")))
      (symbolsFrom (documentAbove above) lines) := by
  -- Every line that counts joins the lines above the rest; an empty one does not.
  induction lines generalizing above with
  | nil => exact Or.inr ⟨rfl, [], rfl, .nil⟩
  | cons line rest inductionHypothesis =>
      by_cases filled : line = ""
      · rw [List.filter_cons_of_neg (by simp [filled]), symbolsFrom, if_pos filled]
        exact inductionHypothesis above
      · rw [List.filter_cons_of_pos (by simp [filled]), places]
        have later := inductionHypothesis (above ++ [line])
        rcases acts above filled with
          ⟨fault, found, decided⟩ | ⟨clean, unrecorded, passed⟩ |
            ⟨clean, record, symbol, describes, added⟩
        · exact Or.inl ⟨fault, by simp [found], decided rest⟩
        · rw [Outcome, List.findSome?_cons_of_isNone (by simp [clean]),
            List.filter_cons_of_neg (by simpa using unrecorded), passed rest]
          exact later
        · rw [Outcome, List.findSome?_cons_of_isNone (by simp [clean]),
            List.filter_cons_of_pos (by simpa using record), added rest]
          rcases later with ⟨fault, found, decided⟩ | ⟨faultless, symbols, read, described⟩
          · exact Or.inl ⟨fault, found, by rw [decided]; rfl⟩
          · exact Or.inr
              ⟨faultless, symbol :: symbols, by rw [read]; rfl, .cons describes described⟩

theorem Locates.unique {line column : String} {position other : Position}
    (locates : Locates line column position) (again : Locates line column other) :
    position = other := by
  rcases locates with ⟨row, offset, rowRead, offsetRead, rfl⟩
  rcases again with ⟨sameRow, sameOffset, rowAgain, offsetAgain, rfl⟩
  rw [rowRead] at rowAgain
  rw [offsetRead] at offsetAgain
  cases rowAgain
  cases offsetAgain
  rfl

/-- A record describes one symbol only. -/
theorem describes_unique : Relator.RightUnique Place.Describes := by
  rintro place ⟨name, code, container, uri, start, stop⟩
    ⟨name', code', container', uri', start', stop'⟩
    ⟨document, _, _, _, _, _, fields, kind, begins, ends⟩
    ⟨document', _, _, _, _, _, fields', kind', begins', ends'⟩
  rw [fields, List.cons.injEq] at fields'
  rcases fields' with ⟨rfl, others⟩
  cases others
  rw [document] at document'
  rw [kind] at kind'
  cases document'
  cases kind'
  have sameStart : start = start' := begins.unique begins'
  have sameStop : stop = stop' := ends.unique ends'
  rw [sameStart, sameStop]

/-- A listing of symbols is unreadable if and only if a line is at fault, and the first such line
decides what is reported.  It is read as some symbols if and only if no line is at fault and there
is one symbol for each record, in the order of the records, each in the document that the nearest
line of one field above its record names. -/
theorem symbols_attributed_iff_faultless (lines : List String) :
    (forall fault, symbols lines = .error fault ↔
      (places [] (counted lines)).findSome? Place.fault? = some fault) ∧
    (forall found, symbols lines = .ok found ↔
      (places [] (counted lines)).findSome? Place.fault? = none ∧
        List.Forall₂ Place.Describes
          ((places [] (counted lines)).filter (fun place => place.IsRecord)) found) := by
  have outcome : Outcome (places [] (counted lines)) (symbols lines) :=
    symbolsFrom_outcome [] lines.tail
  rcases outcome with ⟨fault, found, refused⟩ | ⟨faultless, listed, read, described⟩
  · rw [refused, found]
    constructor
    · intro other
      rw [Except.error.injEq, Option.some.injEq]
    · intro listed
      simp
  · rw [read, faultless]
    constructor
    · intro fault
      simp
    · intro others
      rw [Except.ok.injEq]
      constructor
      · rintro rfl
        exact ⟨rfl, described⟩
      · rintro ⟨_, again⟩
        exact describes_unique.forall₂ described again

end Payload
end Wire
end LanguageServer
