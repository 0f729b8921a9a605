import LanguageServer.Proofs.Chunks
import LanguageServer.Proofs.Decoding
import LanguageServer.Proofs.Transmission
import LanguageServer.Wire.Payload

namespace LanguageServer

/-!
# Payloads are read back

For every kind of payload there is a way to write it: fields with tabs between them, places counted
from one, one line for each item.  What was written is read back as it was.

A field must not hold a tab, except the last field of a completion, of a replacement and of a
diagnostic, which is read up to the end of the line.  So the law of fields, `fields_join`, asks
nothing of the last part, and says that cutting a line and cutting its last part is the same.  A
place can be counted from one only if it is not the greatest word.  A signature must not be written
as an empty line, which is passed over, and the uri of a symbol must not be empty either.

The records of symbols name no document: a line of its own does, each time the document changes.
Replacements are written document by document, and gathering them restores the documents because
they are written in ascending order.
-/

namespace Text

/-- Digits are not trimmed. -/
theorem isBlank_of_isDigit {character : Char} (digit : character.isDigit = true) :
    isBlank character = false := by
  have range : 48 ≤ character.toNat ∧ character.toNat ≤ 57 := Char.isDigit_iff_toNat.mp digit
  simp only [isBlank, Bool.or_eq_false_iff, Bool.and_eq_false_iff, decide_eq_false_iff_not,
    beq_eq_false_iff_ne]
  omega

theorem dropWhile_isBlank {text : List Char}
    (solid : forall character, character ∈ text -> isBlank character = false) :
    text.dropWhile isBlank = text := by
  cases text with
  | nil => rfl
  | cons first rest =>
      have stays : ¬isBlank first = true := by
        rw [solid first List.mem_cons_self]
        exact Bool.false_ne_true
      rw [List.dropWhile_cons_of_neg stays]

theorem trim_eq_self {text : List Char}
    (solid : forall character, character ∈ text -> isBlank character = false) :
    trim text = text := by
  have backwards : text.reverse.dropWhile isBlank = text.reverse :=
    dropWhile_isBlank (fun character member => solid character (List.mem_reverse.mp member))
  rw [trim, trimStart, dropWhile_isBlank solid, trimEnd, backwards, List.reverse_reverse]

/-- Parts without the separator come off the front; the last part may have it. -/
theorem pieces_intercalate {separator : Char} {parts : List (List Char)}
    (absent : forall part, part ∈ parts -> separator ∉ part) (last : List Char) :
    pieces separator (List.intercalate [separator] (parts ++ [last])) =
      parts ++ pieces separator last := by
  induction parts with
  | nil =>
      rw [List.nil_append, List.nil_append]
      congr 1
      exact List.append_nil last
  | cons part rest inductionHypothesis =>
      have later := inductionHypothesis
        (fun other member => absent other (List.mem_cons_of_mem part member))
      have opened : List.intercalate [separator] (part :: (rest ++ [last])) =
          part ++ separator :: List.intercalate [separator] (rest ++ [last]) := by
        cases following : rest ++ [last] with
        | nil => exact absurd following (List.append_ne_nil_of_right_ne_nil rest nofun)
        | cons second others => rfl
      rw [List.cons_append, opened, pieces_cons (absent part List.mem_cons_self), later,
        List.cons_append]

/-- A text that can stand between two tabs. -/
def Plain (text : String) : Prop := '\t' ∉ text.toList

instance (text : String) : Decidable (Plain text) :=
  inferInstanceAs (Decidable (_ ∉ _))

/-- Fields come off a line as they were joined, and the last part is cut where it has tabs. -/
theorem fields_join {parts : List String} (plain : forall part, part ∈ parts -> Plain part)
    (last : String) : fields (join "\t" (parts ++ [last])) = parts ++ fields last := by
  have absent : forall part, part ∈ parts.map String.toList -> '\t' ∉ part := by
    intro part member
    rcases List.mem_map.mp member with ⟨text, inside, same⟩
    rw [← same]
    exact plain text inside
  have cut := pieces_intercalate absent last.toList
  have strings : (parts.map String.toList).map String.ofList = parts := by
    rw [List.map_map]
    exact List.map_id'' (fun text => String.ofList_toList) parts
  rw [fields, split, join, String.toList_ofList, List.map_append]
  show (pieces '\t' (List.intercalate ['\t'] (parts.map String.toList ++ [last.toList]))).map
    String.ofList = _
  rw [cut, List.map_append, strings]
  rfl

theorem fields_ne_nil (text : String) : fields text ≠ [] := by
  intro nothing
  exact pieces_ne_nil '\t' text.toList (List.map_eq_nil_iff.mp nothing)

/-- The fields of a text make up the text. -/
theorem join_fields (text : String) : join "\t" (fields text) = text := by
  have characters : (fields text).map String.toList = pieces '\t' text.toList := by
    rw [fields, split, List.map_map]
    exact List.map_id'' (fun part => String.toList_ofList) _
  rw [join, characters]
  show String.ofList (List.intercalate ['\t'] (pieces '\t' text.toList)) = text
  rw [intercalate_pieces, String.ofList_toList]

/-- Without tabs there is one field. -/
theorem fields_plain {text : String} (plain : Plain text) : fields text = [text] := by
  rw [fields, split, pieces_of_not_mem plain]
  exact congrArg (fun part => [part]) String.ofList_toList

/-- Fields without tabs come off a line as they were joined. -/
theorem fields_join_plain {first : String} {rest : List String}
    (plain : forall part, part ∈ first :: rest -> Plain part) :
    fields (join "\t" (first :: rest)) = first :: rest := by
  have split := List.dropLast_concat_getLast (List.cons_ne_nil first rest)
  have cut := fields_join (fun part member => plain part (List.dropLast_subset _ member))
    ((first :: rest).getLast (List.cons_ne_nil first rest))
  rw [fields_plain (plain _ (List.getLast_mem _)), split] at cut
  exact cut

end Text

/-! ## Writing payloads -/

/-- Both numbers can be counted from one. -/
def Position.Countable (position : Position) : Prop :=
  position.line.toNat < UInt32.size - 1 ∧ position.character.toNat < UInt32.size - 1

instance (position : Position) : Decidable position.Countable :=
  inferInstanceAs (Decidable (_ ∧ _))

def Range.Countable (range : Range) : Prop := range.start.Countable ∧ range.stop.Countable

instance (range : Range) : Decidable range.Countable :=
  inferInstanceAs (Decidable (_ ∧ _))

namespace Wire
namespace Payload

/-- A number counted from one. -/
def ordinal (word : UInt32) : String := Text.decimal (word.toNat + 1)

/-- The four fields of a range. -/
def rangeFields (range : Range) : List String :=
  [ordinal range.start.line, ordinal range.start.character, ordinal range.stop.line,
    ordinal range.stop.character]

def locationLine (location : Location) : String :=
  Text.join "\t" (location.uri :: rangeFields location.range)

def completionLine (item : CompletionItem) : String :=
  Text.join "\t" [item.label, wordText item.kind, item.detail]

def signatureLine (signature : Signature) : String :=
  Text.join "\t" (signature.label :: signature.parameters)

def signatureHelpLines (help : SignatureHelp) : List String :=
  wordText help.activeSignature :: wordText help.activeParameter ::
    help.signatures.map signatureLine

def symbolLine (symbol : Symbol) : String :=
  Text.join "\t" ([symbol.name, wordText symbol.kind, symbol.container] ++
    rangeFields symbol.location.range)

/-- The records of symbols, when those before them are of the document `uri`.  A line with a uri
comes before the first record of each document. -/
def symbolLinesFrom : Option String -> List Symbol -> List String
  | _, [] => []
  | uri, symbol :: rest =>
      (if uri = some symbol.location.uri then [] else [symbol.location.uri]) ++
        symbolLine symbol :: symbolLinesFrom (some symbol.location.uri) rest

/-- Symbols behind a first line that has no meaning. -/
def symbolLines (marker : String) (symbols : List Symbol) : List String :=
  marker :: symbolLinesFrom none symbols

def textEditLine (uri : String) (edit : TextEdit) : String :=
  Text.join "\t" (uri :: rangeFields edit.range ++ [edit.newText])

/-- One line for each replacement, document by document. -/
def workspaceEditLines (edits : WorkspaceEdit) : List String :=
  edits.changes.entries.flatMap (fun entry => entry.2.map (textEditLine entry.1))

def diagnosticLine (uri : String) (diagnostic : Diagnostic) : String :=
  Text.join "\t" (diagnostic.severity.label :: uri :: rangeFields diagnostic.range ++
    [diagnostic.message])

/-! ## Numbers and ranges -/

theorem number_wordText (field : Field) (word : UInt32) :
    number field (wordText word) = .ok word := by
  have characters : (wordText word).toList = Text.numeral word.toNat := String.toList_ofList
  have solid : Text.trim (wordText word).toList = (wordText word).toList := by
    rw [characters]
    exact Text.trim_eq_self
      (fun _ member => Text.isBlank_of_isDigit (Text.numeral_isDigit member))
  rw [number, solid, Text.word?_wordText]

theorem ordinal_eq {word : UInt32} (countable : word.toNat < UInt32.size - 1) :
    ordinal word = wordText (word + 1) := by
  have fits : word.toNat + 1 < UInt32.size := Nat.add_lt_of_lt_sub countable
  rw [ordinal, wordText, UInt32.toNat_add, UInt32.toNat_one, Nat.mod_eq_of_lt fits]

theorem range_rangeFields {place : Range} (countable : place.Countable) :
    range (ordinal place.start.line) (ordinal place.start.character) (ordinal place.stop.line)
      (ordinal place.stop.character) = .ok place := by
  rcases countable with ⟨⟨startLine, startCharacter⟩, stopLine, stopCharacter⟩
  have down : forall {word : UInt32}, word.toNat < UInt32.size - 1 ->
      predecessor (word + 1) = word := fun below =>
    predecessor_of_successor? (successor?_of_lt below)
  rw [ordinal_eq startLine, ordinal_eq startCharacter, ordinal_eq stopLine,
    ordinal_eq stopCharacter, range, number_wordText, number_wordText, number_wordText,
    number_wordText]
  show Except.ok (Range.mk (.ofOneBased _ _) (.ofOneBased _ _)) = _
  rw [Position.ofOneBased, Position.ofOneBased, down startLine, down startCharacter,
    down stopLine, down stopCharacter]

theorem decimal_plain (number : Nat) : Text.Plain (Text.decimal number) := by
  intro tab
  rw [Text.decimal, String.toList_ofList] at tab
  exact absurd (Text.numeral_isDigit tab) (by decide)

theorem rangeFields_plain (range : Range) :
    forall field, field ∈ rangeFields range -> Text.Plain field := by
  intro field member
  simp only [rangeFields, List.mem_cons, List.not_mem_nil, or_false] at member
  rcases member with same | same | same | same <;>
    exact same ▸ decimal_plain _

/-! ## What can be written -/

end Payload
end Wire

/-- A location that can be written on one line. -/
def Location.Writable (location : Location) : Prop :=
  Text.Plain location.uri ∧ location.range.Countable

instance (location : Location) : Decidable location.Writable :=
  inferInstanceAs (Decidable (_ ∧ _))

/-- A completion whose label ends where it should; its detail may hold tabs. -/
def CompletionItem.Writable (item : CompletionItem) : Prop := Text.Plain item.label

instance (item : CompletionItem) : Decidable item.Writable :=
  inferInstanceAs (Decidable (Text.Plain _))

/-- A signature whose line is not empty. -/
def Signature.Writable (signature : Signature) : Prop :=
  (forall part, part ∈ signature.label :: signature.parameters -> Text.Plain part) ∧
    Wire.Payload.signatureLine signature ≠ ""

instance (signature : Signature) : Decidable signature.Writable :=
  inferInstanceAs (Decidable (_ ∧ _))

def SignatureHelp.Writable (help : SignatureHelp) : Prop :=
  help.signatures ≠ [] ∧ forall signature, signature ∈ help.signatures -> signature.Writable

instance (help : SignatureHelp) : Decidable help.Writable :=
  inferInstanceAs (Decidable (_ ∧ _))

/-- A symbol whose document has a line of its own. -/
def Symbol.Writable (symbol : Symbol) : Prop :=
  Text.Plain symbol.name ∧ Text.Plain symbol.container ∧ symbol.location.uri ≠ "" ∧
    symbol.location.Writable

instance (symbol : Symbol) : Decidable symbol.Writable :=
  inferInstanceAs (Decidable (_ ∧ _))

/-- Edits of some documents, each of them with an edit; the new texts may hold tabs. -/
def WorkspaceEdit.Writable (edits : WorkspaceEdit) : Prop :=
  edits.changes.entries ≠ [] ∧ forall entry, entry ∈ edits.changes.entries ->
    Text.Plain entry.1 ∧ entry.2 ≠ [] ∧ forall edit, edit ∈ entry.2 -> edit.range.Countable

instance (edits : WorkspaceEdit) : Decidable edits.Writable :=
  inferInstanceAs (Decidable (_ ∧ _))

namespace Wire
namespace Payload

/-! ## Lines -/

theorem location?_locationLine {location : Location} (writable : location.Writable) :
    location? (locationLine location) = .ok (some location) := by
  have cut : Text.fields (locationLine location) = location.uri :: rangeFields location.range :=
    Text.fields_join_plain
      (List.forall_mem_cons.mpr ⟨writable.1, rangeFields_plain location.range⟩)
  rw [location?, cut]
  dsimp only [rangeFields]
  rw [range_rangeFields writable.2]
  rfl

theorem completionItem?_completionLine {item : CompletionItem} (writable : item.Writable) :
    completionItem? (completionLine item) = .ok (some item) := by
  have plain : forall part, part ∈ [item.label, wordText item.kind] -> Text.Plain part :=
    List.forall_mem_cons.mpr ⟨writable, List.forall_mem_singleton.mpr (decimal_plain _)⟩
  have cut : Text.fields (completionLine item) =
      item.label :: wordText item.kind :: Text.fields item.detail :=
    Text.fields_join plain item.detail
  have whole := Text.join_fields item.detail
  cases parts : Text.fields item.detail with
  | nil => exact absurd parts (Text.fields_ne_nil _)
  | cons first more =>
      rw [parts] at cut whole
      rw [completionItem?, cut]
      dsimp only [remainder]
      rw [number_wordText, whole]
      rfl

theorem signature_signatureLine {signature : Signature} (writable : signature.Writable) :
    Payload.signature (signatureLine signature) = signature := by
  rw [Payload.signature, signatureLine, Text.fields_join_plain writable.1]

theorem textEdit?_textEditLine {uri : String} {edit : TextEdit} (plain : Text.Plain uri)
    (countable : edit.range.Countable) :
    textEdit? (textEditLine uri edit) = .ok (some (uri, edit)) := by
  have cut : Text.fields (textEditLine uri edit) =
      (uri :: rangeFields edit.range) ++ Text.fields edit.newText :=
    Text.fields_join (List.forall_mem_cons.mpr ⟨plain, rangeFields_plain edit.range⟩) edit.newText
  have whole := Text.join_fields edit.newText
  cases parts : Text.fields edit.newText with
  | nil => exact absurd parts (Text.fields_ne_nil _)
  | cons first more =>
      rw [parts] at cut whole
      rw [textEdit?, cut]
      dsimp only [rangeFields, List.cons_append, List.nil_append, remainder]
      rw [range_rangeFields countable, whole]
      rfl

theorem ofWord?_label (severity : Severity) :
    Severity.ofWord? severity.label = some severity := by
  cases severity <;> decide

theorem label_plain (severity : Severity) : Text.Plain severity.label := by
  cases severity <;> decide

theorem diagnostic?_diagnosticLine {uri : String} {diagnostic : Diagnostic}
    (plain : Text.Plain uri) (countable : diagnostic.range.Countable) :
    diagnostic? (diagnosticLine uri diagnostic) = .ok (some (uri, diagnostic)) := by
  have cut : Text.fields (diagnosticLine uri diagnostic) =
      (diagnostic.severity.label :: uri :: rangeFields diagnostic.range) ++
        Text.fields diagnostic.message := by
    refine Text.fields_join ?_ diagnostic.message
    exact List.forall_mem_cons.mpr ⟨label_plain diagnostic.severity,
      List.forall_mem_cons.mpr ⟨plain, rangeFields_plain diagnostic.range⟩⟩
  have whole := Text.join_fields diagnostic.message
  cases parts : Text.fields diagnostic.message with
  | nil => exact absurd parts (Text.fields_ne_nil _)
  | cons first more =>
      rw [parts] at cut whole
      rw [diagnostic?, cut]
      dsimp only [rangeFields, List.cons_append, List.nil_append, remainder]
      rw [range_rangeFields countable, whole, ofWord?_label]
      rfl

/-! ## Lists of lines -/

/-- Lines that yield an item each are collected as the items. -/
theorem collect_map {Item : Type} {read : String -> Reading (Option Item)}
    {write : Item -> String} {items : List Item}
    (each : forall item, item ∈ items -> read (write item) = .ok (some item)) :
    collect read (items.map write) = .ok items := by
  induction items with
  | nil => rfl
  | cons item rest inductionHypothesis =>
      have later := inductionHypothesis
        (fun other member => each other (List.mem_cons_of_mem item member))
      rw [List.map_cons, collect, each item List.mem_cons_self]
      show (collect read (rest.map write) >>= fun others => pure ([item] ++ others)) = _
      rw [later]
      rfl

theorem signatureHelp_signatureHelpLines {help : SignatureHelp} (writable : help.Writable) :
    signatureHelp (signatureHelpLines help) = .ok (some help) := by
  have kept : (help.signatures.map signatureLine).filter (fun line => line != "") =
      help.signatures.map signatureLine := by
    rw [List.filter_eq_self]
    intro line member
    rcases List.mem_map.mp member with ⟨signature, inside, same⟩
    rw [← same]
    exact bne_iff_ne.mpr (writable.2 signature inside).2
  have read : (help.signatures.map signatureLine).map Payload.signature = help.signatures := by
    rw [List.map_map]
    exact (List.map_congr_left (fun signature inside =>
      signature_signatureLine (writable.2 signature inside))).trans (List.map_id _)
  have some_signature : help.signatures.isEmpty = false :=
    List.isEmpty_eq_false_iff.mpr writable.1
  rw [signatureHelpLines, signatureHelp, kept, read, some_signature, number_wordText,
    number_wordText]
  rfl

/-! ## Symbols -/

/-- A line with a uri names the document of the records behind it. -/
theorem symbolsFrom_uri {uri : String} (named : uri ≠ "") (plain : Text.Plain uri)
    (earlier : Option String) (lines : List String) :
    symbolsFrom earlier (uri :: lines) = symbolsFrom (some uri) lines := by
  rw [symbolsFrom, if_neg named, Text.fields_plain plain]

theorem symbolsFrom_record {symbol : Symbol} (writable : symbol.Writable) (lines : List String) :
    symbolsFrom (some symbol.location.uri) (symbolLine symbol :: lines) =
      (symbolsFrom (some symbol.location.uri) lines).map (symbol :: ·) := by
  rcases writable with ⟨name, container, _, _, countable⟩
  have plain : forall part, part ∈ [symbol.name, wordText symbol.kind, symbol.container] ++
      rangeFields symbol.location.range -> Text.Plain part := by
    intro part member
    rcases List.mem_append.mp member with first | range
    · simp only [List.mem_cons, List.not_mem_nil, or_false] at first
      rcases first with same | same | same
      · exact same ▸ name
      · exact same ▸ decimal_plain _
      · exact same ▸ container
    · exact rangeFields_plain _ part range
  have cut : Text.fields (symbolLine symbol) =
      [symbol.name, wordText symbol.kind, symbol.container] ++
        rangeFields symbol.location.range := Text.fields_join_plain plain
  have filled : symbolLine symbol ≠ "" := by
    intro empty
    rw [empty, Text.fields_plain (by decide)] at cut
    exact absurd (congrArg List.length cut) (by simp [rangeFields])
  rw [symbolsFrom, if_neg filled, cut]
  dsimp only [rangeFields, List.cons_append, List.nil_append, symbolRecord]
  rw [number_wordText, range_rangeFields countable]
  cases symbolsFrom (some symbol.location.uri) lines <;> rfl

theorem symbolsFrom_symbolLinesFrom {symbols : List Symbol}
    (writable : forall symbol, symbol ∈ symbols -> symbol.Writable) (uri : Option String) :
    symbolsFrom uri (symbolLinesFrom uri symbols) = .ok symbols := by
  induction symbols generalizing uri with
  | nil => rfl
  | cons symbol rest inductionHypothesis =>
      have first := writable symbol List.mem_cons_self
      have later := inductionHypothesis
        (fun other member => writable other (List.mem_cons_of_mem symbol member))
        (some symbol.location.uri)
      rw [symbolLinesFrom]
      by_cases same : uri = some symbol.location.uri
      · rw [if_pos same, List.nil_append, same, symbolsFrom_record first, later]
        rfl
      · rw [if_neg same, List.singleton_append, symbolsFrom_uri first.2.2.1 first.2.2.2.1,
          symbolsFrom_record first, later]
        rfl

end Payload
end Wire

/-! ## Replacements -/

namespace Entries

variable {Value : Type}

/-- A key above all others is filed behind them. -/
theorem alter_append {key : String} {entries : Entries Value}
    (below : forall entry, entry ∈ entries -> entry.1 < key) (update : Option Value -> Value)
    (rest : Entries Value) :
    alter key update (entries ++ rest) = entries ++ alter key update rest := by
  induction entries with
  | nil => rfl
  | cons head tail inductionHypothesis =>
      have before := below head List.mem_cons_self
      have different : ¬key = head.1 := by
        intro same
        rw [same] at before
        exact String.lt_irrefl _ before
      have notBefore : ¬key < head.1 := fun after =>
        String.lt_irrefl _ (String.lt_trans before after)
      have later := inductionHypothesis
        (fun entry member => below entry (List.mem_cons_of_mem head member))
      rw [List.cons_append, alter, if_neg different, if_neg notBefore, later, List.cons_append]

end Entries

namespace WorkspaceEdit

/-- Add an edit to the entries of a table. -/
def file (entries : Entries (List TextEdit)) (edit : String × TextEdit) :
    Entries (List TextEdit) :=
  entries.alter edit.1 (fun earlier => earlier.getD [] ++ [edit.2])

theorem entries_foldl_push (edits : List (String × TextEdit)) (whole : WorkspaceEdit) :
    (edits.foldl (fun whole edit => whole.push edit.1 edit.2) whole).changes.entries =
      edits.foldl file whole.changes.entries := by
  induction edits generalizing whole with
  | nil => rfl
  | cons edit rest inductionHypothesis => exact inductionHypothesis (whole.push edit.1 edit.2)

variable {uri : String} {entries : Entries (List TextEdit)}

/-- Further edits of the last document join those that it has. -/
theorem foldl_file_last (below : forall entry, entry ∈ entries -> entry.1 < uri)
    (earlier edits : List TextEdit) :
    (edits.map (fun edit => (uri, edit))).foldl file (entries ++ [(uri, earlier)]) =
      entries ++ [(uri, earlier ++ edits)] := by
  induction edits generalizing earlier with
  | nil => rw [List.map_nil, List.foldl_nil, List.append_nil]
  | cons edit rest inductionHypothesis =>
      have filed : file (entries ++ [(uri, earlier)]) (uri, edit) =
          entries ++ [(uri, earlier ++ [edit])] := by
        rw [file, Entries.alter_append below, Entries.alter, if_pos rfl]
        rfl
      rw [List.map_cons, List.foldl_cons, filed, inductionHypothesis, List.append_assoc,
        List.singleton_append]

/-- The edits of a document that comes after all others make up an entry. -/
theorem foldl_file_entry (below : forall entry, entry ∈ entries -> entry.1 < uri)
    {edits : List TextEdit} (some_edit : edits ≠ []) :
    (edits.map (fun edit => (uri, edit))).foldl file entries = entries ++ [(uri, edits)] := by
  cases edits with
  | nil => exact absurd rfl some_edit
  | cons edit rest =>
      have filed : file entries (uri, edit) = entries ++ [(uri, [edit])] := by
        have appended := Entries.alter_append below
          (fun earlier => earlier.getD [] ++ [edit]) []
        rw [List.append_nil] at appended
        exact appended
      rw [List.map_cons, List.foldl_cons, filed, foldl_file_last below]
      rfl

/-- Document by document, the entries are restored. -/
theorem foldl_file_entries {later : Entries (List TextEdit)}
    (ascending : Entries.Ascending (entries ++ later))
    (filled : forall entry, entry ∈ later -> entry.2 ≠ []) :
    (later.flatMap (fun entry => entry.2.map (fun edit => (entry.1, edit)))).foldl file entries =
      entries ++ later := by
  induction later generalizing entries with
  | nil => rw [List.flatMap_nil, List.foldl_nil, List.append_nil]
  | cons entry rest inductionHypothesis =>
      have below : forall earlier, earlier ∈ entries -> earlier.1 < entry.1 := fun earlier member =>
        (List.pairwise_append.mp ascending).2.2 earlier member entry List.mem_cons_self
      have filledRest : forall other, other ∈ rest -> other.2 ≠ [] := fun other member =>
        filled other (List.mem_cons_of_mem entry member)
      rw [List.append_cons] at ascending
      rw [List.flatMap_cons, List.foldl_append,
        foldl_file_entry below (filled entry List.mem_cons_self),
        inductionHypothesis ascending filledRest, ← List.append_cons]

/-- Gathering all edits of a workspace edit restores it. -/
theorem foldl_push_entries (edits : WorkspaceEdit)
    (filled : forall entry, entry ∈ edits.changes.entries -> entry.2 ≠ []) :
    (edits.changes.entries.flatMap (fun entry =>
      entry.2.map (fun edit => (entry.1, edit)))).foldl
        (fun whole edit => whole.push edit.1 edit.2) empty = edits := by
  have restored := entries_foldl_push (edits.changes.entries.flatMap (fun entry =>
    entry.2.map (fun edit => (entry.1, edit)))) empty
  rw [show empty.changes.entries = [] from rfl,
    @foldl_file_entries [] _ edits.changes.ascending filled, List.nil_append] at restored
  generalize List.foldl _ _ _ = gathered at restored ⊢
  rcases gathered with ⟨⟨entries, ascending⟩⟩
  rcases edits with ⟨⟨others, othersAscending⟩⟩
  cases restored
  rfl

end WorkspaceEdit

namespace Wire
namespace Payload

theorem rename_workspaceEditLines {edits : WorkspaceEdit} (writable : edits.Writable) :
    rename (workspaceEditLines edits) = .ok (some edits) := by
  rcases writable with ⟨some_key, each⟩
  have lines : workspaceEditLines edits =
      (edits.changes.entries.flatMap (fun entry => entry.2.map (fun edit => (entry.1, edit)))).map
        (fun edit => textEditLine edit.1 edit.2) := by
    rw [workspaceEditLines, List.map_flatMap]
    congr 1
    funext entry
    rw [List.map_map]
    rfl
  have read : collect textEdit? (workspaceEditLines edits) =
      .ok (edits.changes.entries.flatMap (fun entry =>
        entry.2.map (fun edit => (entry.1, edit)))) := by
    rw [lines]
    refine collect_map ?_
    intro edit member
    rcases List.mem_flatMap.mp member with ⟨entry, inside, inEntry⟩
    rcases List.mem_map.mp inEntry with ⟨one, inList, same⟩
    rcases each entry inside with ⟨plain, _, countable⟩
    rw [← same]
    exact textEdit?_textEditLine plain (countable one inList)
  have some_edit : edits.isEmpty = false := List.isEmpty_eq_false_iff.mpr some_key
  rw [rename, read]
  dsimp only [bind, Except.bind, pure, Except.pure]
  rw [WorkspaceEdit.foldl_push_entries edits (fun entry inside => (each entry inside).2.1),
    some_edit]
  rfl

/-! ## All payloads -/

/-- Every payload is read back: a location, lists of locations, of completions and of symbols
behind any first line, the help on a call, the edits of a workspace, and a diagnostic with its
document.  Tabs may stand in the details of completions, in new texts and in messages. -/
theorem payloads_read_back :
    (forall location : Location, location.Writable ->
      singleLocation [locationLine location] = .ok (some location)) ∧
    (forall found : List Location, (forall location, location ∈ found -> location.Writable) ->
      locations (found.map locationLine) = .ok found) ∧
    (forall items : List CompletionItem, (forall item, item ∈ items -> item.Writable) ->
      completion (items.map completionLine) = .ok items) ∧
    (forall help : SignatureHelp, help.Writable ->
      signatureHelp (signatureHelpLines help) = .ok (some help)) ∧
    (forall (marker : String) (found : List Symbol),
      (forall symbol, symbol ∈ found -> symbol.Writable) ->
      symbols (symbolLines marker found) = .ok found) ∧
    (forall edits : WorkspaceEdit, edits.Writable ->
      rename (workspaceEditLines edits) = .ok (some edits)) ∧
    (forall (uri : String) (diagnostic : Diagnostic), Text.Plain uri ->
      diagnostic.range.Countable ->
      diagnostic? (diagnosticLine uri diagnostic) = .ok (some (uri, diagnostic))) := by
  refine ⟨?_, ?_, ?_, ?_, ?_, ?_, ?_⟩
  · exact fun location writable => location?_locationLine writable
  · exact fun found writable =>
      collect_map (fun location inside => location?_locationLine (writable location inside))
  · exact fun items writable =>
      collect_map (fun item inside => completionItem?_completionLine (writable item inside))
  · exact fun help writable => signatureHelp_signatureHelpLines writable
  · exact fun marker found writable => symbolsFrom_symbolLinesFrom writable none
  · exact fun edits writable => rename_workspaceEditLines writable
  · exact fun uri diagnostic plain countable => diagnostic?_diagnosticLine plain countable

/-- The greatest range that can be written. -/
def farRange : Range := ⟨⟨4294967294, 4294967294⟩, ⟨4294967294, 0⟩⟩

/-- Symbols of two documents, the first of them named twice. -/
def scatteredSymbols : List Symbol :=
  [⟨"", 5, "Main", ⟨"file:///b", farRange⟩⟩, ⟨"write", 4294967295, "", ⟨"file:///a", farRange⟩⟩,
    ⟨"read", 0, "", ⟨"file:///a", farRange⟩⟩, ⟨"close", 6, "Main", ⟨"file:///b", farRange⟩⟩]

/-- Replacements in two documents, with tabs and with nothing as new texts. -/
def scatteredEdits : WorkspaceEdit :=
  ((WorkspaceEdit.empty.push "file:///b" ⟨farRange, "\tx\t"⟩).push "file:///a"
    ⟨farRange, ""⟩).push "file:///b" ⟨⟨⟨0, 0⟩, ⟨0, 1⟩⟩, "y"⟩

theorem sample_payloads_read_back :
    singleLocation [locationLine ⟨"", farRange⟩] = .ok (some ⟨"", farRange⟩) ∧
      locations (List.map locationLine [⟨"file:///a", farRange⟩, ⟨"", farRange⟩]) =
        .ok [⟨"file:///a", farRange⟩, ⟨"", farRange⟩] ∧
      completion (List.map completionLine [⟨"", 0, ""⟩, ⟨"size", 4294967295, "\tint\t"⟩]) =
        .ok [⟨"", 0, ""⟩, ⟨"size", 4294967295, "\tint\t"⟩] ∧
      signatureHelp (signatureHelpLines ⟨[⟨"", [""]⟩, ⟨"call", []⟩], 1, 4294967295⟩) =
        .ok (some ⟨[⟨"", [""]⟩, ⟨"call", []⟩], 1, 4294967295⟩) ∧
      symbols (symbolLines "a\tb" scatteredSymbols) = .ok scatteredSymbols ∧
      rename (workspaceEditLines scatteredEdits) = .ok (some scatteredEdits) ∧
      diagnostic? (diagnosticLine "" ⟨.hint, farRange, "\tunused\t"⟩) =
        .ok (some ("", ⟨.hint, farRange, "\tunused\t"⟩)) := by
  rcases payloads_read_back with
    ⟨location, found, items, help, named, edits, problem⟩
  exact ⟨location _ (by decide +kernel), found _ (by decide +kernel), items _ (by decide +kernel),
    help _ (by decide +kernel), named _ _ (by decide +kernel), edits _ (by decide +kernel),
    problem _ _ (by decide +kernel) (by decide +kernel)⟩

end Payload
end Wire
end LanguageServer
