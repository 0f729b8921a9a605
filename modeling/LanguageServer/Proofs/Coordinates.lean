import LanguageServer.Proofs.Replacements
import LanguageServer.Wire.Request

namespace LanguageServer

/-!
# Positions that came from the compiler can go back to it

The compiler counts lines and columns from one, and a number of it has 32 bits.  Moving such a
number down leaves room to move it up again, also where a stray zero stood and nothing was moved.
So what a payload tells of places can be displayed, and can be asked about, without a number that
does not fit a word; and the numbers that are written then are those that the compiler wrote.
-/

/-- One more than the number before a word is the word, or one. -/
theorem predecessor_toNat (word : UInt32) : (predecessor word).toNat + 1 = max 1 word.toNat := by
  rw [predecessor]
  split
  next zero => rw [zero]; rfl
  next positive =>
    have nonzero : word.toNat ≠ 0 := fun zero => positive (UInt32.toNat_inj.mp zero)
    have below : (1 : UInt32) ≤ word :=
      UInt32.le_iff_toNat_le.mpr (Nat.one_le_iff_ne_zero.mpr nonzero)
    rw [UInt32.toNat_sub_of_le _ _ below, UInt32.toNat_one]
    omega

namespace Position

/-- The compiler calls the position by these two numbers.  A zero means the same as a one. -/
structure Calls (row column : UInt32) (position : Position) : Prop where
  line : position.line.toNat + 1 = max 1 row.toNat
  character : position.character.toNat + 1 = max 1 column.toNat

theorem calls_ofOneBased (row column : UInt32) : Calls row column (ofOneBased row column) :=
  ⟨predecessor_toNat row, predecessor_toNat column⟩

variable {row column : UInt32} {position : Position}

/-- A number that was moved down is not the greatest. -/
theorem Calls.countable (calls : Calls row column position) : position.Countable := by
  rcases calls with ⟨line, character⟩
  have rowFits := row.toNat_lt_size
  have columnFits := column.toNat_lt_size
  have room : 1 < UInt32.size := by decide
  constructor <;> omega

end Position

/-- Moving up writes the number that was moved down. -/
theorem successor?_wordText {word told : UInt32} (moved : word.toNat + 1 = max 1 told.toNat) :
    exists next, successor? word = some next ∧ wordText next = Text.decimal (max 1 told.toNat) := by
  have fits : word.toNat + 1 < UInt32.size := by
    have told := told.toNat_lt_size
    have room : 1 < UInt32.size := by decide
    omega
  refine ⟨word + 1, if_pos fits, ?_⟩
  rw [wordText, UInt32.toNat_add, UInt32.toNat_one, Nat.mod_eq_of_lt fits, moved]

/-- A diagnostic at a position of the compiler is displayed with the compiler's numbers. -/
theorem Position.Calls.display? {row column : UInt32} {diagnostic : Diagnostic}
    (calls : Calls row column diagnostic.range.start) (uri : String) :
    diagnostic.display? uri = some (uri ++ ":" ++ Text.decimal (max 1 row.toNat) ++ ":" ++
      Text.decimal (max 1 column.toNat) ++ ": " ++ diagnostic.severity.label ++ ": " ++
      diagnostic.message) := by
  rcases successor?_wordText calls.line with ⟨line, lineMoved, lineText⟩
  rcases successor?_wordText calls.character with ⟨character, characterMoved, characterText⟩
  rw [Diagnostic.display?, lineMoved, characterMoved]
  dsimp only
  rw [lineText, characterText]

namespace Wire

/-! ## Questions -/

namespace Query

/-- The place that a question is about. -/
def place? : Query -> Option Target
  | .hover place => some place
  | .definition place => some place
  | .declaration place => some place
  | .completion place => some place
  | .signatureHelp place => some place
  | .symbols _ => none
  | .references place => some place
  | .implementation place => some place
  | .rename place _ => some place

/-- The question counts columns from one, as the compiler does, and not from zero. -/
def countsFromOne : Query -> Bool
  | .completion _ => false
  | .signatureHelp _ => false
  | _ => true

/-- The question can be written down, with the compiler's own numbers where it counts from one. -/
def Returns (query : Query) (place : Target) (row column : UInt32) : Prop :=
  exists command rest,
    query.encode? = some (unlines (command :: place.uri :: Text.decimal (max 1 row.toNat) ::
      (if query.countsFromOne then Text.decimal (max 1 column.toNat)
        else wordText place.position.character) :: rest))

end Query

section Returns

variable {row column : UInt32} {place : Target}

theorem oneBased?_of_calls (calls : Position.Calls row column place.position) :
    place.oneBased? = some [place.uri, Text.decimal (max 1 row.toNat),
      Text.decimal (max 1 column.toNat)] := by
  rcases successor?_wordText calls.line with ⟨line, lineMoved, lineText⟩
  rcases successor?_wordText calls.character with ⟨character, characterMoved, characterText⟩
  rw [Target.oneBased?, lineMoved, characterMoved]
  dsimp only
  rw [lineText, characterText]

theorem betweenCharacters?_of_calls (calls : Position.Calls row column place.position) :
    place.betweenCharacters? = some [place.uri, Text.decimal (max 1 row.toNat),
      wordText place.position.character] := by
  rcases successor?_wordText calls.line with ⟨line, lineMoved, lineText⟩
  rw [Target.betweenCharacters?, lineMoved]
  dsimp only
  rw [lineText]

end Returns

/-- Whatever is asked about a position of the compiler can be written down. -/
theorem Query.returns_of_calls {row column : UInt32} {query : Query} {place : Target}
    (about : query.place? = some place) (calls : Position.Calls row column place.position) :
    query.Returns place row column := by
  have fromOne := oneBased?_of_calls calls
  have between := betweenCharacters?_of_calls calls
  cases query with
  | symbols uri => cases about
  | completion target | signatureHelp target =>
      cases about
      exact ⟨_, [], by rw [encode?, lines?, between]; rfl⟩
  | rename target newName =>
      cases about
      exact ⟨_, [newName], by rw [encode?, lines?, fromOne]; rfl⟩
  | hover target | definition target | declaration target | references target
  | implementation target =>
      cases about
      exact ⟨_, [], by rw [encode?, lines?, fromOne]; rfl⟩

/-! ## Payloads -/

namespace Payload

/-- What stands in the four fields behind some others, where they hold numbers. -/
def numbersBehind (skipped : Nat) (line : String) : List (Option UInt32) :=
  (((Text.fields line).drop skipped).take 4).map value?

/-- The four fields behind some others call the ends of the range by their numbers. -/
def Tells (skipped : Nat) (line : String) (range : Range) : Prop :=
  exists firstLine firstColumn lastLine lastColumn,
    numbersBehind skipped line =
      [some firstLine, some firstColumn, some lastLine, some lastColumn] ∧
    Position.Calls firstLine firstColumn range.start ∧
    Position.Calls lastLine lastColumn range.stop

theorem tells_of_bounds {skipped : Nat} {line startLine startColumn endLine endColumn : String}
    {rest : List String} {range : Range}
    (cut : (Text.fields line).drop skipped =
      startLine :: startColumn :: endLine :: endColumn :: rest)
    (bounds : Bounds startLine startColumn endLine endColumn range) :
    Tells skipped line range := by
  rcases range with ⟨start, stop⟩
  rcases bounds with ⟨⟨firstLine, firstColumn, firstLineRead, firstColumnRead, rfl⟩,
    ⟨lastLine, lastColumn, lastLineRead, lastColumnRead, rfl⟩⟩
  refine ⟨firstLine, firstColumn, lastLine, lastColumn, ?_,
    Position.calls_ofOneBased _ _, Position.calls_ofOneBased _ _⟩
  rw [numbersBehind, cut]
  simp [firstLineRead, firstColumnRead, lastLineRead, lastColumnRead]

/-- What a settled reading has found is good. -/
theorem Settles.holds {Item : Type} {numerals : List (Field × String)} {good : Item -> Prop}
    {reading : Reading Item} {item : Item} (settles : Settles numerals good reading)
    (read : reading = .ok item) : good item := by
  rcases settles with ⟨_, _, refused⟩ | ⟨_, found, again, holds⟩
  · rw [refused] at read
    cases read
  · rw [again] at read
    cases read
    exact holds

/-- A line of five fields or more holds a location. -/
def IsLocation (line : String) : Prop := 5 ≤ (Text.fields line).length

instance (line : String) : Decidable (IsLocation line) :=
  inferInstanceAs (Decidable (_ ≤ _))

/-- The fields of a location that hold numbers. -/
def locationNumerals (line : String) : List (Field × String) :=
  match Text.fields line with
  | _ :: startLine :: startColumn :: endLine :: endColumn :: _ =>
      rangeNumerals startLine startColumn endLine endColumn
  | _ => []

theorem location?_settles (line : String) :
    Settles (locationNumerals line)
      (fun item => List.Forall₂ (fun line location => Tells 1 line location.range)
        ([line].filter (fun line => IsLocation line)) item.toList)
      (location? line) := by
  rw [locationNumerals, location?]
  rcases cut : Text.fields line with
    _ | ⟨uri, _ | ⟨startLine, _ | ⟨startColumn, _ | ⟨endLine, _ | ⟨endColumn, rest⟩⟩⟩⟩⟩
  case cons.cons.cons.cons.cons =>
    rw [List.filter_cons_of_pos (by simp [IsLocation, cut])]
    refine (range_settles startLine startColumn endLine endColumn).bind_pure
      fun place bounds => List.Forall₂.cons ?_ List.Forall₂.nil
    exact tells_of_bounds (by rw [cut]; rfl) bounds
  all_goals
    rw [List.filter_cons_of_neg (by simp [IsLocation, cut])]
    exact @Settles.done _ _ none List.Forall₂.nil

theorem locations_tell {lines : List String} {found : List Location}
    (read : locations lines = .ok found) :
    List.Forall₂ (fun line location => Tells 1 line location.range)
      (lines.filter (fun line => IsLocation line)) found :=
  (collect_settles location?_settles lines).holds read

theorem singleLocation_tells {lines : List String} {location : Location}
    (read : singleLocation lines = .ok (some location)) :
    exists line, lines.head? = some line ∧ Tells 1 line location.range := by
  cases lines with
  | nil => cases read
  | cons line rest =>
      have told := (location?_settles line).holds read
      rcases List.forall₂_cons_right_iff.mp told with ⟨same, others, tells, _, front⟩
      have inside : same ∈ [line] := List.filter_sublist.subset (front ▸ List.mem_cons_self)
      rw [List.mem_singleton.mp inside] at tells
      exact ⟨line, rfl, tells⟩

theorem diagnostic?_tells {line uri : String} {diagnostic : Diagnostic}
    (read : diagnostic? line = .ok (some (uri, diagnostic))) :
    Tells 2 line diagnostic.range := by
  rw [diagnostic?] at read
  split at read
  next severity document startLine startColumn endLine endColumn message more cut =>
    rcases range_settles startLine startColumn endLine endColumn with
      ⟨_, _, refused⟩ | ⟨_, place, found, bounds⟩
    · rw [refused] at read
      cases read
    · rw [found] at read
      cases read
      exact tells_of_bounds (by rw [cut]; rfl) bounds
  next => cases read

theorem describes_tells {place : Place} {symbol : Symbol} (describes : place.Describes symbol) :
    Tells 3 place.line symbol.location.range := by
  rcases describes with ⟨_, kind, startLine, startColumn, endLine, endColumn, cut, _, bounds⟩
  exact tells_of_bounds (by rw [cut]; rfl) bounds

theorem map_line_places (above lines : List String) :
    (places above lines).map Place.line = lines := by
  induction lines generalizing above with
  | nil => rfl
  | cons line rest inductionHypothesis =>
      rw [places, List.map_cons, inductionHypothesis]

theorem symbols_tell {lines : List String} {found : List Symbol}
    (read : symbols lines = .ok found) :
    List.Forall₂ (fun line symbol => Tells 3 line symbol.location.range)
      ((counted lines).filter (fun line => IsSymbol line)) found := by
  have records : (counted lines).filter (fun line => IsSymbol line) =
      ((places [] (counted lines)).filter (fun place => place.IsRecord)).map Place.line := by
    conv_lhs => rw [← map_line_places [] (counted lines), List.filter_map]
    rfl
  have outcome : Outcome (places [] (counted lines)) (symbols lines) :=
    symbolsFrom_outcome [] lines.tail
  rcases outcome with ⟨_, _, refused⟩ | ⟨_, again, same, described⟩
  · rw [refused] at read
    cases read
  · rw [same] at read
    cases read
    rw [records, List.forall₂_map_left_iff]
    exact described.imp fun _ _ describes => describes_tells describes

theorem rename_tells {lines : List String} {edits : WorkspaceEdit}
    (read : rename lines = .ok (some edits)) (uri : String) :
    List.Forall₂ (fun line edit => Tells 1 line edit.range) (replacementsIn uri lines)
      ((edits.changes.find? uri).getD []) := by
  rcases (rename_settles lines).holds read with ⟨same, _⟩ | ⟨grouped, same, _, gathers⟩
  · cases same
  · cases same
    refine (gathers.listed uri).imp fun line edit asks => ?_
    rcases asks.fields with ⟨startLine, startColumn, endLine, endColumn, cut, bounds⟩
    exact tells_of_bounds (by rw [cut]; rfl) bounds

/-- Positions that a payload tells come back to the compiler as it wrote them.  Every location,
symbol, replacement and diagnostic that is read is told by a line of its own, whose four numbers
call the ends of its range; and a position that is called by two numbers is not the greatest, can
be displayed with these numbers, and can be asked about in every question, with these numbers in
all questions that count from one. -/
theorem received_positions_return :
    (forall lines location, singleLocation lines = .ok (some location) ->
      exists line, lines.head? = some line ∧ Tells 1 line location.range) ∧
    (forall lines found, locations lines = .ok found ->
      List.Forall₂ (fun line location => Tells 1 line location.range)
        (lines.filter (fun line => IsLocation line)) found) ∧
    (forall lines found, symbols lines = .ok found ->
      List.Forall₂ (fun line symbol => Tells 3 line symbol.location.range)
        ((counted lines).filter (fun line => IsSymbol line)) found) ∧
    (forall lines edits, rename lines = .ok (some edits) -> forall uri,
      List.Forall₂ (fun line edit => Tells 1 line edit.range) (replacementsIn uri lines)
        ((edits.changes.find? uri).getD [])) ∧
    (forall line uri diagnostic, diagnostic? line = .ok (some (uri, diagnostic)) ->
      Tells 2 line diagnostic.range) ∧
    (forall row column position, Position.Calls row column position ->
      position.Countable ∧
      (forall (diagnostic : Diagnostic) (uri : String), diagnostic.range.start = position ->
        diagnostic.display? uri = some (uri ++ ":" ++ Text.decimal (max 1 row.toNat) ++ ":" ++
          Text.decimal (max 1 column.toNat) ++ ": " ++ diagnostic.severity.label ++ ": " ++
          diagnostic.message)) ∧
      (forall (query : Query) (place : Target), query.place? = some place ->
        place.position = position -> query.Returns place row column)) := by
  refine ⟨fun _ _ => singleLocation_tells, fun _ _ => locations_tell, fun _ _ => symbols_tell,
    fun _ _ => rename_tells, fun _ _ _ => diagnostic?_tells, ?_⟩
  intro row column position calls
  refine ⟨calls.countable, ?_, ?_⟩
  · rintro diagnostic uri rfl
    exact calls.display? uri
  · rintro query place about rfl
    exact Query.returns_of_calls about calls

/-- A stray zero and the greatest word, with blanks, a sign and a leading zero. -/
theorem stray_coordinates_return :
    diagnostic? "error\tfile:///a\t 0 \t+04294967295\t1\t1\tx" =
        .ok (some ("file:///a", ⟨.error, ⟨⟨0, 4294967294⟩, ⟨0, 0⟩⟩, "x"⟩)) ∧
      Tells 2 "error\tfile:///a\t 0 \t+04294967295\t1\t1\tx" ⟨⟨0, 4294967294⟩, ⟨0, 0⟩⟩ ∧
      Diagnostic.display? ⟨.error, ⟨⟨0, 4294967294⟩, ⟨0, 0⟩⟩, "x"⟩ "file:///a" =
        some "file:///a:1:4294967295: error: x" ∧
      Query.Returns (.rename ⟨"file:///a", ⟨0, 4294967294⟩⟩ "y") ⟨"file:///a", ⟨0, 4294967294⟩⟩
        0 4294967295 := by
  rcases received_positions_return with ⟨_, _, _, _, diagnostics, back⟩
  have read : diagnostic? "error\tfile:///a\t 0 \t+04294967295\t1\t1\tx" =
      .ok (some ("file:///a", ⟨.error, ⟨⟨0, 4294967294⟩, ⟨0, 0⟩⟩, "x"⟩)) := by rfl
  have calls : Position.Calls 0 4294967295 ⟨0, 4294967294⟩ := ⟨by decide, by decide⟩
  rcases back _ _ _ calls with ⟨_, displayed, asked⟩
  refine ⟨read, diagnostics _ _ _ read, ?_, asked _ _ rfl rfl⟩
  rw [displayed _ _ rfl]
  decide +kernel

end Payload
end Wire
end LanguageServer
