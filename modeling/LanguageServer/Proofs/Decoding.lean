import LanguageServer.Wire.Receiver

namespace LanguageServer

/-!
# The stream of messages can be read in one way only

Messages are written to the compiler one after another, with nothing between them.  A question is
a number of lines; an edit is a number of lines and then texts that may contain anything but the
separator, lines that look like commands among them.  So a message does not end where a line ends,
and where it ends is only known to one who has counted its arguments or its uris.

One reader takes every such stream apart again.  It takes parcels off the front with
`Parcel.readAll`, and `Message.ofParcel?` gives each of them its meaning: the numbers are moved
back to zero, the columns of completion and signature help stay as they are, and every text is put
with its uri.  Each level of the reader has one lemma that says what it does with its own text in
front of any rest: `readUntil_terminated` for a line or a text, `readLines_unlines`,
`readParagraph_unlines` and `readDocuments_texts` for the parts of a parcel, `Conveyed` for one
message, and `Delivered` for a stream.

What is asked of a message is stated by `Message.Legible`.  A newline would end a uri or a new name,
a separator would end a text, and a blank uri would end the uris of an edit or stand for the whole
workspace.  A number that is counted from one must have a successor.
-/

namespace Text

theorem numeral_isDigit {number : Nat} {character : Char} (member : character ∈ numeral number) :
    character.isDigit = true := by
  apply Nat.isDigit_of_mem_toDigits (by decide) (Nat.le_refl 10)
  exact member

/-- Numerals are read back. -/
theorem unsigned?_numeral (number : Nat) : unsigned? (numeral number) = some number := by
  have read : natural? (numeral number) = some number := by
    have some_digit : (numeral number).isEmpty = false :=
      List.isEmpty_eq_false_iff.mpr Nat.toDigits_ne_nil
    have all_digits : (numeral number).all Char.isDigit = true :=
      List.all_eq_true.mpr (fun _ member => numeral_isDigit member)
    have value : Nat.ofDigitChars 10 (numeral number) 0 = number := Nat.ofDigitChars_ten_toDigits
    rw [natural?, some_digit, all_digits, value]
    rfl
  cases digits : numeral number with
  | nil => exact absurd digits Nat.toDigits_ne_nil
  | cons first rest =>
      -- A numeral that is written has no sign.
      have unsigned : first ≠ '+' := by
        intro sign
        have member : first ∈ numeral number := by rw [digits]; exact List.mem_cons_self
        have digit := numeral_isDigit member
        rw [sign] at digit
        exact absurd digit (by decide)
      rw [digits] at read
      rw [unsigned?]
      · exact read
      · intro tail same
        exact unsigned (List.cons.inj same).1

theorem word?_wordText (word : UInt32) : word? (wordText word).toList = some word := by
  have characters : (wordText word).toList = numeral word.toNat := String.toList_ofList
  rw [characters, word?, unsigned?_numeral]
  change (if word.toNat < UInt32.size then some (UInt32.ofNat word.toNat) else none) = some word
  rw [if_pos word.toNat_lt, UInt32.ofNat_toNat]

end Text

/-- Moving up and down again leads back. -/
theorem predecessor_of_successor? {word next : UInt32} (moved : successor? word = some next) :
    predecessor next = word := by
  rw [successor?] at moved
  split at moved
  · rename_i fits
    cases moved
    have positive : word + 1 ≠ 0 := by
      intro zero
      have wrapped := congrArg UInt32.toNat zero
      rw [UInt32.toNat_add, UInt32.toNat_one, Nat.mod_eq_of_lt fits] at wrapped
      exact absurd wrapped (Nat.succ_ne_zero word.toNat)
    rw [predecessor, if_neg positive]
    exact UInt32.add_sub_cancel word 1
  · cases moved

theorem successor?_of_lt {word : UInt32} (below : word.toNat < UInt32.size - 1) :
    successor? word = some (word + 1) := by
  rw [successor?, if_pos (Nat.add_lt_of_lt_sub below)]

/-- No line ends in the text. -/
def Text.Flat (text : List Char) : Prop := '\n' ∉ text

instance (text : List Char) : Decidable (Text.Flat text) :=
  inferInstanceAs (Decidable (_ ∉ _))

namespace Wire

/-! ## Reading lines and texts off the front -/

/-- A text that stands on one line. -/
def OneLine (text : String) : Prop := Text.Flat text.toList

instance (text : String) : Decidable (OneLine text) :=
  inferInstanceAs (Decidable (Text.Flat _))

/-- A uri that can be told from a blank line and from what follows it. -/
def Addressed (uri : String) : Prop := uri ≠ "" ∧ OneLine uri

instance (uri : String) : Decidable (Addressed uri) :=
  inferInstanceAs (Decidable (_ ∧ _))

theorem wordText_oneLine (word : UInt32) : OneLine (wordText word) := by
  intro newline
  have characters : (wordText word).toList = Text.numeral word.toNat := String.toList_ofList
  rw [characters] at newline
  exact absurd (Text.numeral_isDigit newline) (by decide)

theorem toList_unlines_cons (line : String) (lines : List String) :
    (unlines (line :: lines)).toList = line.toList ++ '\n' :: (unlines lines).toList := by
  rw [unlines, List.map_cons, String.join_cons, String.toList_append, String.toList_append,
    List.append_assoc]
  rfl

/-- Every line has its newline, so there are no more lines than characters. -/
theorem length_le_unlines (lines : List String) :
    lines.length ≤ (unlines lines).toList.length := by
  induction lines with
  | nil => exact Nat.zero_le _
  | cons line rest inductionHypothesis =>
      rw [toList_unlines_cons, List.length_append, List.length_cons, List.length_cons]
      omega

namespace Parcel

/-- What stands before an end mark comes off the front. -/
theorem readUntil_terminated {mark : Char} {text : List Char} (absent : mark ∉ text)
    (rest : List Char) : readUntil mark (text ++ mark :: rest) = some (text, rest) := by
  induction text with
  | nil => rw [List.nil_append, readUntil, if_pos rfl]
  | cons head tail inductionHypothesis =>
      have other : ¬head = mark := fun same => absent (same ▸ List.mem_cons_self)
      have later := inductionHypothesis (fun member => absent (List.mem_cons_of_mem head member))
      rw [List.cons_append, readUntil, if_neg other, later]
      rfl

/-- As many lines as were written come off the front. -/
theorem readLines_unlines {lines : List String} (whole : forall line, line ∈ lines -> OneLine line)
    (rest : List Char) :
    readLines lines.length ((unlines lines).toList ++ rest) = some (lines, rest) := by
  induction lines with
  | nil => rfl
  | cons line later inductionHypothesis =>
      have first := readUntil_terminated (whole line List.mem_cons_self)
        ((unlines later).toList ++ rest)
      have others := inductionHypothesis
        (fun other member => whole other (List.mem_cons_of_mem line member))
      rw [toList_unlines_cons, List.append_assoc, List.cons_append, List.length_cons, readLines,
        first]
      dsimp only
      rw [others, String.ofList_toList]
      rfl

/-- The uris of an edit come off the front, with the blank line behind them. -/
theorem readParagraph_unlines {uris : List String}
    (addressed : forall uri, uri ∈ uris -> Addressed uri) {fuel : Nat} (enough : uris.length < fuel)
    (rest : List Char) :
    readParagraph fuel ((unlines (uris ++ [""])).toList ++ rest) = some (uris, rest) := by
  induction uris generalizing fuel with
  | nil =>
      cases fuel with
      | zero => exact absurd enough (Nat.not_lt_zero 0)
      | succ fuel => rfl
  | cons uri later inductionHypothesis =>
      cases fuel with
      | zero => exact absurd enough (Nat.not_lt_zero _)
      | succ fuel =>
          rcases addressed uri List.mem_cons_self with ⟨named, oneLine⟩
          have first := readUntil_terminated oneLine ((unlines (later ++ [""])).toList ++ rest)
          have others := inductionHypothesis
            (fun other member => addressed other (List.mem_cons_of_mem uri member))
            (Nat.lt_of_succ_lt_succ enough)
          rw [List.cons_append, toList_unlines_cons, List.append_assoc, List.cons_append,
            readParagraph, first]
          have same : String.ofList uri.toList = uri := String.ofList_toList
          cases characters : uri.toList with
          | nil => exact absurd (String.toList_eq_nil_iff.mp characters) named
          | cons head tail =>
              dsimp only
              rw [others, ← characters, same]
              rfl

/-- One text for each uri comes off the front, and goes with that uri. -/
theorem readDocuments_texts {documents : List Document}
    (closed : forall document, document ∈ documents -> separatorChar ∉ document.text.toList)
    (rest : List Char) :
    readDocuments (documents.map Document.uri)
      ((String.join (documents.map (fun document => document.text.push separatorChar))).toList ++
        rest) = some (documents, rest) := by
  induction documents with
  | nil => rfl
  | cons document later inductionHypothesis =>
      have first := readUntil_terminated (closed document List.mem_cons_self)
        ((String.join (later.map (fun other => other.text.push separatorChar))).toList ++ rest)
      have others := inductionHypothesis
        (fun other member => closed other (List.mem_cons_of_mem document member))
      rw [List.map_cons, List.map_cons, String.join_cons, String.toList_append,
        String.toList_push, List.append_assoc, List.append_assoc, List.singleton_append,
        readDocuments, first]
      dsimp only
      rw [others, String.ofList_toList]
      rfl

/-- A command with its arguments is read as a call. -/
theorem read?_call {command : String} {arguments : List String} (notEdit : command ≠ "#EDIT#")
    (counted : arguments.length = argumentCount command)
    (whole : forall line, line ∈ command :: arguments -> OneLine line) (rest : List Char) :
    read? ((unlines (command :: arguments)).toList ++ rest) =
      some (.call command arguments, rest) := by
  have opening := readUntil_terminated (whole command List.mem_cons_self)
    ((unlines arguments).toList ++ rest)
  have lines := readLines_unlines
    (fun line member => whole line (List.mem_cons_of_mem command member)) rest
  rw [toList_unlines_cons, List.append_assoc, List.cons_append, read?, opening]
  dsimp only
  rw [String.ofList_toList, if_neg notEdit, ← counted, lines]
  rfl

/-- An edit is read with its documents.  The text itself is long enough to count the uris by. -/
theorem read?_edit {documents : List Document}
    (addressed : forall document, document ∈ documents -> Addressed document.uri)
    (closed : forall document, document ∈ documents -> separatorChar ∉ document.text.toList)
    (rest : List Char) :
    read? ((editText documents).toList ++ rest) = some (.edit documents, rest) := by
  let uris := documents.map Document.uri
  let texts :=
    (String.join (documents.map (fun document => document.text.push separatorChar))).toList
  have written : (editText documents).toList ++ rest =
      "#EDIT#".toList ++ '\n' :: ((unlines (uris ++ [""])).toList ++ (texts ++ rest)) := by
    rw [editText, String.toList_append, List.cons_append, toList_unlines_cons]
    simp only [List.append_assoc, List.cons_append]
    rfl
  have opening := readUntil_terminated (show '\n' ∉ "#EDIT#".toList by decide)
    ((unlines (uris ++ [""])).toList ++ (texts ++ rest))
  have enough : uris.length < ((unlines (uris ++ [""])).toList ++ (texts ++ rest)).length + 1 := by
    have lines := length_le_unlines (uris ++ [""])
    rw [List.length_append] at lines
    rw [List.length_append]
    omega
  have named : forall uri, uri ∈ uris -> Addressed uri := by
    intro uri member
    rcases List.mem_map.mp member with ⟨document, inside, same⟩
    rw [← same]
    exact addressed document inside
  have paragraph := readParagraph_unlines named enough (texts ++ rest)
  rw [written, read?, opening]
  dsimp only
  rw [String.ofList_toList, if_pos rfl, paragraph]
  dsimp only
  rw [readDocuments_texts closed rest]
  rfl

end Parcel

/-! ## What a parcel means -/

namespace Target

/-- The place that three argument lines name, both numbers counted from one. -/
def ofOneBased? : List String -> Option Target
  | [uri, line, character] =>
      match Text.word? line.toList, Text.word? character.toList with
      | some line, some character => some ⟨uri, .ofOneBased line character⟩
      | _, _ => none
  | _ => none

/-- The place that three argument lines name, the column counted from zero. -/
def ofBetweenCharacters? : List String -> Option Target
  | [uri, line, character] =>
      match Text.word? line.toList, Text.word? character.toList with
      | some line, some character => some ⟨uri, ⟨predecessor line, character⟩⟩
      | _, _ => none
  | _ => none

end Target

/-- The renaming that a place and a last line ask for. -/
def Query.ofRenaming? (arguments : List String) : Option Query :=
  match arguments.getLast? with
  | some newName => (Target.ofOneBased? arguments.dropLast).map (.rename · newName)
  | none => none

/-- The question that a command line and its argument lines ask. -/
def Query.ofCall? (command : String) (arguments : List String) : Option Query :=
  match command with
  | "#HOVER#" => (Target.ofOneBased? arguments).map .hover
  | "#DEFINITION#" => (Target.ofOneBased? arguments).map .definition
  | "#DECLARATION#" => (Target.ofOneBased? arguments).map .declaration
  | "#COMPLETE#" => (Target.ofBetweenCharacters? arguments).map .completion
  | "#SIGNATURE#" => (Target.ofBetweenCharacters? arguments).map .signatureHelp
  | "#SYMBOLS#" =>
      match arguments with
      | [uri] => some (.symbols (if uri = "" then none else some uri))
      | _ => none
  | "#REFERENCES#" => (Target.ofOneBased? arguments).map .references
  | "#IMPLEMENTATION#" => (Target.ofOneBased? arguments).map .implementation
  | "#RENAMEREQUEST#" => ofRenaming? arguments
  | _ => none

namespace Message

/-- The message that a parcel carries. -/
def ofParcel? : Parcel -> Option Message
  | .edit documents => some (.edit documents)
  | .call command arguments =>
      if command = "#RESTART#" then some .restart
      else (Query.ofCall? command arguments).map .query

/-- The messages of a whole stream; nothing when it ends inside a message. -/
def readStream? (text : List Char) : Option (List Message) :=
  let (parcels, left) := Parcel.readAll text.length text
  if left.isEmpty then parcels.mapM ofParcel? else none

end Message

/-! ## Messages that can be read -/

namespace Target

/-- A place whose line has a successor. -/
def Writable (place : Target) : Prop :=
  Addressed place.uri ∧ place.position.line.toNat < UInt32.size - 1

instance (place : Target) : Decidable place.Writable :=
  inferInstanceAs (Decidable (_ ∧ _))

/-- A place whose line and column both have a successor. -/
def WritableFromOne (place : Target) : Prop :=
  place.Writable ∧ place.position.character.toNat < UInt32.size - 1

instance (place : Target) : Decidable place.WritableFromOne :=
  inferInstanceAs (Decidable (_ ∧ _))

/-- Three argument lines that a place is written as and read from. -/
structure Spelled (place : Target) (written : Option (List String))
    (reader : List String -> Option Target) (arguments : List String) : Prop where
  written_eq : written = some arguments
  length_eq : arguments.length = 3
  whole : forall line, line ∈ arguments -> OneLine line
  reader_eq : reader arguments = some place

theorem whole_place {uri : String} (oneLine : OneLine uri) (line character : UInt32) :
    forall text, text ∈ [uri, wordText line, wordText character] -> OneLine text := by
  intro text member
  rcases List.mem_cons.mp member with same | numbers
  · exact same ▸ oneLine
  rcases List.mem_cons.mp numbers with same | last
  · exact same ▸ wordText_oneLine line
  · exact List.mem_singleton.mp last ▸ wordText_oneLine character

theorem WritableFromOne.spelled {place : Target} (writable : place.WritableFromOne) :
    exists arguments, place.Spelled place.oneBased? ofOneBased? arguments := by
  rcases writable with ⟨⟨⟨_, oneLine⟩, lineFits⟩, characterFits⟩
  have lineMoved := successor?_of_lt lineFits
  have characterMoved := successor?_of_lt characterFits
  refine ⟨[place.uri, wordText (place.position.line + 1), wordText (place.position.character + 1)],
    ?_, rfl, whole_place oneLine _ _, ?_⟩
  · rw [oneBased?, lineMoved, characterMoved]
  · rw [ofOneBased?, Text.word?_wordText, Text.word?_wordText]
    dsimp only
    rw [Position.ofOneBased, predecessor_of_successor? lineMoved,
      predecessor_of_successor? characterMoved]

theorem Writable.spelled {place : Target} (writable : place.Writable) :
    exists arguments, place.Spelled place.betweenCharacters? ofBetweenCharacters? arguments := by
  rcases writable with ⟨⟨_, oneLine⟩, lineFits⟩
  have lineMoved := successor?_of_lt lineFits
  refine ⟨[place.uri, wordText (place.position.line + 1), wordText place.position.character],
    ?_, rfl, whole_place oneLine _ _, ?_⟩
  · rw [betweenCharacters?, lineMoved]
  · rw [ofBetweenCharacters?, Text.word?_wordText, Text.word?_wordText]
    dsimp only
    rw [predecessor_of_successor? lineMoved]

end Target

/-- A question whose lines end where they should. -/
def Query.Legible : Query -> Prop
  | .hover place => place.WritableFromOne
  | .definition place => place.WritableFromOne
  | .declaration place => place.WritableFromOne
  | .completion place => place.Writable
  | .signatureHelp place => place.Writable
  | .symbols none => True
  | .symbols (some uri) => Addressed uri
  | .references place => place.WritableFromOne
  | .implementation place => place.WritableFromOne
  | .rename place newName => place.WritableFromOne ∧ OneLine newName

instance : (query : Query) -> Decidable query.Legible
  | .hover place => inferInstanceAs (Decidable place.WritableFromOne)
  | .definition place => inferInstanceAs (Decidable place.WritableFromOne)
  | .declaration place => inferInstanceAs (Decidable place.WritableFromOne)
  | .completion place => inferInstanceAs (Decidable place.Writable)
  | .signatureHelp place => inferInstanceAs (Decidable place.Writable)
  | .symbols none => inferInstanceAs (Decidable True)
  | .symbols (some uri) => inferInstanceAs (Decidable (Addressed uri))
  | .references place => inferInstanceAs (Decidable place.WritableFromOne)
  | .implementation place => inferInstanceAs (Decidable place.WritableFromOne)
  | .rename place newName => inferInstanceAs (Decidable (place.WritableFromOne ∧ OneLine newName))

/-- A message whose lines and texts end where they should. -/
def Message.Legible : Message -> Prop
  | .query asked => asked.Legible
  | .restart => True
  | .edit documents =>
      forall document, document ∈ documents ->
        Addressed document.uri ∧ separatorChar ∉ document.text.toList

instance : (message : Message) -> Decidable message.Legible
  | .query asked => inferInstanceAs (Decidable asked.Legible)
  | .restart => inferInstanceAs (Decidable True)
  | .edit documents =>
      inferInstanceAs (Decidable (forall document, document ∈ documents ->
        Addressed document.uri ∧ separatorChar ∉ document.text.toList))

/-! ## One message -/

namespace Query

/-- A command line and argument lines that a question is written as and read from. -/
structure Spelled (query : Query) (command : String) (arguments : List String) : Prop where
  lines_eq : query.lines? = some (command :: arguments)
  length_eq : arguments.length = Parcel.argumentCount command
  whole : forall line, line ∈ arguments -> OneLine line
  understood : ofCall? command arguments = some query

/-- The questions about a place differ in their command only. -/
theorem spelled_of_place {place : Target} {written : Option (List String)}
    {reader : List String -> Option Target} {arguments : List String}
    (spelled : place.Spelled written reader arguments) {query : Query} {command : String}
    {ask : Target -> Query} (asked : query = ask place)
    (lines : query.lines? = written.map (command :: ·))
    (counted : Parcel.argumentCount command = 3)
    (reads : ofCall? command arguments = (reader arguments).map ask) :
    query.Spelled command arguments where
  lines_eq := by
    rw [lines, spelled.written_eq]
    rfl
  length_eq := by rw [counted, spelled.length_eq]
  whole := spelled.whole
  understood := by
    rw [reads, spelled.reader_eq, asked]
    rfl

/-- A blank line is free to stand for the whole workspace, since no uri is blank. -/
theorem symbols_spelled {uri : Option String} (legible : (symbols uri).Legible) :
    (symbols uri).Spelled "#SYMBOLS#" [uri.getD ""] where
  lines_eq := rfl
  length_eq := rfl
  whole := by
    intro line member
    rw [List.mem_singleton.mp member]
    cases uri with
    | none => exact List.not_mem_nil
    | some uri => exact legible.2
  understood := by
    cases uri with
    | none => rfl
    | some uri =>
        change some (symbols (if uri = "" then none else some uri)) = _
        rw [if_neg legible.1]

/-- The new name follows the place. -/
theorem rename_spelled {place : Target} {newName : String} {arguments : List String}
    (spelled : place.Spelled place.oneBased? Target.ofOneBased? arguments)
    (oneLine : OneLine newName) :
    (rename place newName).Spelled "#RENAMEREQUEST#" (arguments ++ [newName]) where
  lines_eq := by
    rw [lines?, spelled.written_eq]
    rfl
  length_eq := by
    rw [List.length_append, spelled.length_eq]
    rfl
  whole := by
    intro line member
    rcases List.mem_append.mp member with inside | last
    · exact spelled.whole line inside
    · exact List.mem_singleton.mp last ▸ oneLine
  understood := by
    change ofRenaming? (arguments ++ [newName]) = _
    rw [ofRenaming?, List.getLast?_concat, List.dropLast_concat, spelled.reader_eq]
    rfl

/-- The commands that open a question. -/
def commands : List String :=
  ["#HOVER#", "#DEFINITION#", "#DECLARATION#", "#COMPLETE#", "#SIGNATURE#", "#SYMBOLS#",
    "#REFERENCES#", "#IMPLEMENTATION#", "#RENAMEREQUEST#"]

theorem spelled_of_legible {query : Query} (legible : query.Legible) :
    exists command, command ∈ commands ∧ exists arguments, query.Spelled command arguments := by
  cases query with
  | hover place =>
      rcases Target.WritableFromOne.spelled legible with ⟨arguments, spelled⟩
      exact ⟨"#HOVER#", by decide, arguments, spelled_of_place spelled rfl rfl rfl rfl⟩
  | definition place =>
      rcases Target.WritableFromOne.spelled legible with ⟨arguments, spelled⟩
      exact ⟨"#DEFINITION#", by decide, arguments, spelled_of_place spelled rfl rfl rfl rfl⟩
  | declaration place =>
      rcases Target.WritableFromOne.spelled legible with ⟨arguments, spelled⟩
      exact ⟨"#DECLARATION#", by decide, arguments, spelled_of_place spelled rfl rfl rfl rfl⟩
  | completion place =>
      rcases Target.Writable.spelled legible with ⟨arguments, spelled⟩
      exact ⟨"#COMPLETE#", by decide, arguments, spelled_of_place spelled rfl rfl rfl rfl⟩
  | signatureHelp place =>
      rcases Target.Writable.spelled legible with ⟨arguments, spelled⟩
      exact ⟨"#SIGNATURE#", by decide, arguments, spelled_of_place spelled rfl rfl rfl rfl⟩
  | references place =>
      rcases Target.WritableFromOne.spelled legible with ⟨arguments, spelled⟩
      exact ⟨"#REFERENCES#", by decide, arguments, spelled_of_place spelled rfl rfl rfl rfl⟩
  | implementation place =>
      rcases Target.WritableFromOne.spelled legible with ⟨arguments, spelled⟩
      exact ⟨"#IMPLEMENTATION#", by decide, arguments, spelled_of_place spelled rfl rfl rfl rfl⟩
  | symbols uri => exact ⟨"#SYMBOLS#", by decide, [uri.getD ""], symbols_spelled legible⟩
  | rename place newName =>
      rcases legible with ⟨writable, oneLine⟩
      rcases writable.spelled with ⟨arguments, spelled⟩
      exact ⟨"#RENAMEREQUEST#", by decide, arguments ++ [newName], rename_spelled spelled oneLine⟩

end Query

namespace Message

/-- A text that a message is written as, and the parcel that is read from it whatever follows. -/
structure Conveyed (message : Message) (text : String) (parcel : Parcel) : Prop where
  encoded : message.encode? = some text
  nonempty : 0 < text.toList.length
  read : forall rest, Parcel.read? (text.toList ++ rest) = some (parcel, rest)
  understood : ofParcel? parcel = some message

theorem unlines_nonempty (line : String) (lines : List String) :
    0 < (unlines (line :: lines)).toList.length :=
  Nat.lt_of_lt_of_le (Nat.succ_pos lines.length) (length_le_unlines (line :: lines))

/-- Every message that is legible gets across. -/
theorem conveyed_of_legible {message : Message} (legible : message.Legible) :
    exists text parcel, message.Conveyed text parcel := by
  cases message with
  | query asked =>
      rcases Query.spelled_of_legible legible with ⟨command, known, arguments, spelled⟩
      have plain : forall name, name ∈ Query.commands ->
          OneLine name ∧ name ≠ "#EDIT#" ∧ name ≠ "#RESTART#" := by decide
      rcases plain command known with ⟨oneLine, notEdit, notRestart⟩
      have whole : forall line, line ∈ command :: arguments -> OneLine line := by
        intro line member
        rcases List.mem_cons.mp member with same | inside
        · exact same ▸ oneLine
        · exact spelled.whole line inside
      refine ⟨unlines (command :: arguments), .call command arguments, ?_,
        unlines_nonempty command arguments, Parcel.read?_call notEdit spelled.length_eq whole, ?_⟩
      · rw [encode?, Query.encode?, spelled.lines_eq]
        rfl
      · rw [ofParcel?, if_neg notRestart, spelled.understood]
        rfl
  | restart =>
      refine ⟨restartText, .call "#RESTART#" [], rfl, unlines_nonempty _ _, ?_, rfl⟩
      exact Parcel.read?_call (by decide) rfl (by decide)
  | edit documents =>
      refine ⟨editText documents, .edit documents, rfl, ?_, ?_, rfl⟩
      · have opening := unlines_nonempty "#EDIT#" (documents.map Document.uri ++ [""])
        rw [editText, String.toList_append, List.length_append, List.cons_append]
        exact Nat.lt_of_lt_of_le opening (Nat.le_add_right _ _)
      · exact Parcel.read?_edit (fun document inside => (legible document inside).1)
          (fun document inside => (legible document inside).2)

/-! ## The stream -/

/-- Texts that a list of messages is written as, and the parcels that are read from them, one
after another, whatever follows. -/
structure Delivered (messages : List Message) (texts : List String) (parcels : List Parcel) :
    Prop where
  encoded : messages.mapM encode? = some texts
  length_le : parcels.length ≤ (String.join texts).toList.length
  read : forall fuel rest,
    Parcel.readAll (parcels.length + fuel) ((String.join texts).toList ++ rest) =
      (parcels ++ (Parcel.readAll fuel rest).1, (Parcel.readAll fuel rest).2)
  understood : parcels.mapM ofParcel? = some messages

theorem Delivered.nil : Delivered [] [] [] where
  encoded := rfl
  length_le := Nat.le_refl 0
  read fuel rest := by
    rw [List.length_nil, Nat.zero_add]
    rfl
  understood := rfl

/-- A message that gets across may be put in front. -/
theorem Delivered.cons {message : Message} {text : String} {parcel : Parcel}
    {messages : List Message} {texts : List String} {parcels : List Parcel}
    (conveyed : message.Conveyed text parcel) (delivered : Delivered messages texts parcels) :
    Delivered (message :: messages) (text :: texts) (parcel :: parcels) where
  encoded := by
    rw [List.mapM_cons, conveyed.encoded, delivered.encoded]
    rfl
  length_le := by
    have first := conveyed.nonempty
    have others := delivered.length_le
    rw [String.join_cons, String.toList_append, List.length_append, List.length_cons]
    omega
  read fuel rest := by
    have step : (parcel :: parcels).length + fuel = (parcels.length + fuel) + 1 := by
      rw [List.length_cons]
      omega
    rw [String.join_cons, String.toList_append, List.append_assoc, step, Parcel.readAll,
      conveyed.read]
    dsimp only
    rw [delivered.read]
    rfl
  understood := by
    rw [List.mapM_cons, conveyed.understood, delivered.understood]
    rfl

theorem delivered_of_legible {messages : List Message}
    (legible : forall message, message ∈ messages -> message.Legible) :
    exists texts parcels, Delivered messages texts parcels := by
  induction messages with
  | nil => exact ⟨[], [], Delivered.nil⟩
  | cons message later inductionHypothesis =>
      rcases conveyed_of_legible (legible message List.mem_cons_self) with ⟨text, parcel, conveyed⟩
      rcases inductionHypothesis
          (fun other member => legible other (List.mem_cons_of_mem message member)) with
        ⟨texts, parcels, delivered⟩
      exact ⟨text :: texts, parcel :: parcels, Delivered.cons conveyed delivered⟩

/-- Nothing is left of a stream of whole messages. -/
theorem Delivered.readStream? {messages : List Message} {texts : List String}
    {parcels : List Parcel} (delivered : Delivered messages texts parcels) :
    Message.readStream? (String.join texts).toList = some messages := by
  have spent : forall fuel, Parcel.readAll fuel [] = ([], []) := by
    intro fuel
    cases fuel <;> rfl
  rcases Nat.le.dest delivered.length_le with ⟨fuel, total⟩
  have read := delivered.read fuel []
  rw [List.append_nil, total, spent, List.append_nil] at read
  rw [Message.readStream?, read]
  exact delivered.understood

/-- Legible messages have a text each, one reader gets the messages back from the joined texts,
and no other list of legible messages has the same stream. -/
theorem stream_uniquely_decodable {messages : List Message}
    (legible : forall message, message ∈ messages -> message.Legible) :
    exists texts, messages.mapM encode? = some texts ∧
      readStream? (String.join texts).toList = some messages ∧
      forall others otherTexts, (forall message, message ∈ others -> message.Legible) ->
        others.mapM encode? = some otherTexts -> String.join otherTexts = String.join texts ->
        others = messages := by
  rcases delivered_of_legible legible with ⟨texts, parcels, delivered⟩
  refine ⟨texts, delivered.encoded, delivered.readStream?, ?_⟩
  intro others otherTexts othersLegible encoded same
  rcases delivered_of_legible othersLegible with ⟨written, _, otherDelivered⟩
  have texts_eq : written = otherTexts :=
    Option.some.inj (otherDelivered.encoded.symm.trans encoded)
  have read := otherDelivered.readStream?
  rw [texts_eq, same, delivered.readStream?] at read
  exact (Option.some.inj read).symm

/-- A stream in which much looks like something else: an edit of nothing, a text that reads like a
question and leaves its last line open, a uri that reads like a command, and a blank new name.  The
numbers are the greatest that can be written. -/
def disguised : List Message :=
  let place : Target := ⟨"file:///a.ghul", ⟨4294967294, 4294967294⟩⟩
  [.edit [], .query (.hover place),
    .edit [⟨"file:///a.ghul", "#HOVER#\nfile:///b.ghul\n1\n1\n#EDIT#"⟩, ⟨"#RESTART#", ""⟩],
    .query (.completion ⟨"file:///a.ghul", ⟨0, 4294967295⟩⟩), .query (.symbols none),
    .query (.symbols (some "#SYMBOLS#")), .query (.rename place ""), .restart]

theorem disguised_uniquely_decodable :
    (forall message, message ∈ disguised -> message.Legible) ∧
      exists texts, disguised.mapM encode? = some texts ∧
        readStream? (String.join texts).toList = some disguised ∧
        forall others otherTexts, (forall message, message ∈ others -> message.Legible) ->
          others.mapM encode? = some otherTexts -> String.join otherTexts = String.join texts ->
          others = disguised := by
  have legible : forall message, message ∈ disguised -> message.Legible := by decide +kernel
  exact ⟨legible, stream_uniquely_decodable legible⟩

end Message
end Wire
end LanguageServer
