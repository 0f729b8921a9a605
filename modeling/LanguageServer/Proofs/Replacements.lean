import LanguageServer.Proofs.SymbolListing
import LanguageServer.Proofs.Tables

namespace LanguageServer

/-!
# The replacements of a renaming

A line of six fields or more asks for a replacement: a document, the four numbers of a range, and a
new text that reaches to the end of the line.  Shorter lines ask for nothing.  The numbers of all
lines are read one after the other, so the first bad one of them decides what is reported.

If all numbers are good, the replacements are filed by document.  `Gathers` says what that comes to
without a table being built: the documents are those of the lines, and the edits of a document are
those that its lines ask for, one for each and in their order.
-/

namespace Text

theorem plain_of_mem_fields {line field : String} (member : field ∈ fields line) : Plain field := by
  rcases List.mem_map.mp member with ⟨part, inside, same⟩
  rw [Plain, ← same, String.toList_ofList]
  exact not_mem_of_mem_pieces inside

/-- The fields at the end of a line can be taken for one text that holds tabs. -/
theorem eq_join_of_fields {line first : String} {parts rest : List String}
    (cut : fields line = parts ++ first :: rest) :
    line = join "\t" (parts ++ [join "\t" (first :: rest)]) := by
  have plain : forall part, part ∈ parts ++ first :: rest -> Plain part := fun part member =>
    plain_of_mem_fields (cut ▸ member)
  have front : forall part, part ∈ parts -> Plain part := fun part member =>
    plain part (List.mem_append_left _ member)
  have back : forall part, part ∈ first :: rest -> Plain part := fun part member =>
    plain part (List.mem_append_right _ member)
  calc
    line = join "\t" (fields line) := (join_fields line).symm
    _ = join "\t" (fields (join "\t" (parts ++ [join "\t" (first :: rest)]))) := by
      rw [fields_join front, fields_join_plain back, cut]
    _ = join "\t" (parts ++ [join "\t" (first :: rest)]) := join_fields _

end Text

namespace Table

variable {Value : Type}

/-- A table is known by its answers. -/
theorem eq_of_find? {table other : Table Value}
    (same : forall key, table.find? key = other.find? key) : table = other := by
  have distinct : forall some_table : Table Value, some_table.entries.Nodup := by
    intro some_table
    refine List.Pairwise.imp ?_ some_table.ascending
    intro left right before equal
    rw [equal] at before
    exact String.lt_irrefl _ before
  have members : forall entry, entry ∈ table.entries ↔ entry ∈ other.entries := fun entry => by
    rw [mem_entries_iff table entry.1 entry.2, mem_entries_iff other entry.1 entry.2, same]
  have entries : table.entries = other.entries := by
    refine List.Perm.eq_of_pairwise ?_ table.ascending other.ascending
      ((List.perm_ext_iff_of_nodup (distinct table) (distinct other)).mpr members)
    intro left right _ _ before after
    exact absurd (String.lt_trans before after) (String.lt_irrefl _)
  cases table
  cases other
  cases entries
  rfl

end Table

/-! ## Filing edits by document -/

namespace WorkspaceEdit

/-- File edits one after the other. -/
def pushAll (whole : WorkspaceEdit) (edits : List (String × TextEdit)) : WorkspaceEdit :=
  edits.foldl (fun whole edit => whole.push edit.1 edit.2) whole

/-- What is filed under a document is what was there, and behind it the new edits of the
document. -/
theorem find?_pushAll (whole : WorkspaceEdit) (edits : List (String × TextEdit)) (uri : String) :
    ((whole.pushAll edits).changes.find? uri).getD [] =
      (whole.changes.find? uri).getD [] ++
        (edits.filter (fun edit => edit.1 = uri)).map Prod.snd := by
  induction edits generalizing whole with
  | nil => exact (List.append_nil _).symm
  | cons edit rest inductionHypothesis =>
      have pushed : ((whole.push edit.1 edit.2).changes.find? uri).getD [] =
          (whole.changes.find? uri).getD [] ++ if edit.1 = uri then [edit.2] else [] := by
        rw [push, Table.find?_alter]
        by_cases same : edit.1 = uri
        · rw [if_pos same, if_pos same.symm, same]
          rfl
        · rw [if_neg same, if_neg (Ne.symm same), List.append_nil]
      rw [show whole.pushAll (edit :: rest) = (whole.push edit.1 edit.2).pushAll rest from rfl,
        inductionHypothesis, pushed, List.append_assoc]
      congr 1
      by_cases same : edit.1 = uri <;> simp [same]

theorem mem_keys_pushAll (whole : WorkspaceEdit) (edits : List (String × TextEdit))
    (uri : String) :
    uri ∈ (whole.pushAll edits).changes.keys ↔
      uri ∈ whole.changes.keys ∨ exists edit, edit ∈ edits ∧ edit.1 = uri := by
  induction edits generalizing whole with
  | nil => simp [pushAll]
  | cons edit rest inductionHypothesis =>
      rw [show whole.pushAll (edit :: rest) = (whole.push edit.1 edit.2).pushAll rest from rfl,
        inductionHypothesis, push, Table.mem_keys_alter, or_assoc, eq_comm (a := uri)]
      simp only [List.mem_cons, or_and_right, exists_or, exists_eq_left]

theorem isEmpty_pushAll_empty (edits : List (String × TextEdit)) :
    (empty.pushAll edits).isEmpty = edits.isEmpty := by
  cases edits with
  | nil => rfl
  | cons edit rest =>
      have filed : edit.1 ∈ (empty.pushAll (edit :: rest)).changes.keys :=
        (mem_keys_pushAll empty _ _).mpr (Or.inr ⟨edit, List.mem_cons_self, rfl⟩)
      have entries : (empty.pushAll (edit :: rest)).changes.entries ≠ [] := fun nothing =>
        List.not_mem_nil (a := edit.1) (by rw [Table.keys, nothing] at filed; exact filed)
      exact List.isEmpty_eq_false_iff.mpr entries

end WorkspaceEdit

namespace Wire
namespace Payload

/-! ## Readings one after the other -/

namespace Settles

variable {First Item : Type} {good : First -> Prop} {better : Item -> Prop}

/-- A second reading follows, and may depend on what the first one has found. -/
theorem bind {numerals more : List (Field × String)} {reading : Reading First}
    {next : First -> Reading Item} (first : Settles numerals good reading)
    (second : forall item, good item -> Settles more better (next item)) :
    Settles (numerals ++ more) better (reading >>= next) := by
  rcases first with ⟨bad, found, refused⟩ | ⟨clean, item, read, holds⟩
  · refine Or.inl ⟨bad, ?_, by rw [refused]; rfl⟩
    rw [firstBad?, List.find?_append, show List.find? _ numerals = some bad from found]
    rfl
  · have skipped : firstBad? (numerals ++ more) = firstBad? more := by
      rw [firstBad?, List.find?_append, show List.find? _ numerals = none from clean]
      rfl
    rw [Settles, skipped, read]
    exact second item holds

/-- What is found is changed without another number being read. -/
theorem bind_pure {numerals : List (Field × String)} {reading : Reading First}
    {change : First -> Item} (first : Settles numerals good reading)
    (second : forall item, good item -> better (change item)) :
    Settles numerals better (reading >>= fun item => pure (change item)) := by
  have whole := first.bind (fun item holds => Settles.done (second item holds))
  rw [List.append_nil] at whole
  exact whole

/-- A reading fails exactly if a number is bad, and the first bad one is reported. -/
theorem eq_error_iff {numerals : List (Field × String)} {reading : Reading Item}
    (settles : Settles numerals better reading) (fault : PayloadFault) :
    reading = .error fault ↔
      (firstBad? numerals).map (fun bad => .invalidNumber bad.1 bad.2) = some fault := by
  rcases settles with ⟨bad, found, refused⟩ | ⟨clean, item, read, _⟩
  · rw [refused, found, Except.error.injEq, Option.map_some, Option.some.injEq]
  · simp [read, clean]

end Settles

/-- The four numbers of a range, in the order in which they are read. -/
def rangeNumerals (startLine startColumn endLine endColumn : String) : List (Field × String) :=
  [(.startLine, startLine), (.startColumn, startColumn), (.endLine, endLine),
    (.endColumn, endColumn)]

/-- The fields tell where the range begins and ends. -/
def Bounds (startLine startColumn endLine endColumn : String) (range : Range) : Prop :=
  Locates startLine startColumn range.start ∧ Locates endLine endColumn range.stop

theorem range_settles (startLine startColumn endLine endColumn : String) :
    Settles (rangeNumerals startLine startColumn endLine endColumn)
      (Bounds startLine startColumn endLine endColumn)
      (range startLine startColumn endLine endColumn) :=
  .number fun firstLine firstLineRead => .number fun firstColumn firstColumnRead =>
    .number fun lastLine lastLineRead => .number fun lastColumn lastColumnRead => .done
      ⟨⟨firstLine, firstColumn, firstLineRead, firstColumnRead, rfl⟩,
        ⟨lastLine, lastColumn, lastLineRead, lastColumnRead, rfl⟩⟩

/-- If each line yields at most one item, then so do all: the numbers of the lines are read in
their order, and there is one item for each line that counts. -/
theorem collect_settles {Item : Type} {read : String -> Reading (Option Item)}
    {numerals : String -> List (Field × String)} {counts : String -> Bool}
    {good : String -> Item -> Prop}
    (each : forall line, Settles (numerals line)
      (fun item => List.Forall₂ good ([line].filter counts) item.toList) (read line))
    (lines : List String) :
    Settles (lines.flatMap numerals) (List.Forall₂ good (lines.filter counts))
      (collect read lines) := by
  induction lines with
  | nil => exact .done .nil
  | cons line rest inductionHypothesis =>
      have front : (line :: rest).filter counts = [line].filter counts ++ rest.filter counts :=
        List.filter_append (p := counts) [line] rest
      rw [List.flatMap_cons, front]
      refine (each line).bind fun item here => inductionHypothesis.bind_pure fun others later => ?_
      exact List.rel_append here later

/-! ## One line -/

/-- A line of six fields or more asks for a replacement. -/
def IsReplacement (line : String) : Prop := 6 ≤ (Text.fields line).length

instance (line : String) : Decidable (IsReplacement line) :=
  inferInstanceAs (Decidable (_ ≤ _))

theorem six_fields {line : String} (long : IsReplacement line) :
    exists uri startLine startColumn endLine endColumn text more, Text.fields line =
      uri :: startLine :: startColumn :: endLine :: endColumn :: text :: more := by
  rw [IsReplacement] at long
  generalize Text.fields line = fields at long ⊢
  rcases fields with _ | ⟨a, _ | ⟨b, _ | ⟨c, _ | ⟨d, _ | ⟨e, _ | ⟨f, rest⟩⟩⟩⟩⟩⟩
  all_goals simp at long ⊢

/-- The fields of a replacement that hold numbers. -/
def replacementNumerals (line : String) : List (Field × String) :=
  match Text.fields line with
  | _ :: startLine :: startColumn :: endLine :: endColumn :: _ :: _ =>
      rangeNumerals startLine startColumn endLine endColumn
  | _ => []

theorem replacementNumerals_of_short {line : String} (short : ¬IsReplacement line) :
    replacementNumerals line = [] := by
  rw [replacementNumerals]
  split
  next cut => exact absurd (by simp [IsReplacement, cut]) short
  next => rfl

/-- The line asks for the edit in the document: the new text is what follows the fifth tab. -/
def Asks (line : String) (uri : String) (edit : TextEdit) : Prop :=
  exists startLine startColumn endLine endColumn,
    (forall field, field ∈ [uri, startLine, startColumn, endLine, endColumn] ->
      Text.Plain field) ∧
    line = Text.join "\t" [uri, startLine, startColumn, endLine, endColumn, edit.newText] ∧
    Bounds startLine startColumn endLine endColumn edit.range

theorem Asks.fields {line uri : String} {edit : TextEdit} (asks : Asks line uri edit) :
    exists startLine startColumn endLine endColumn,
      Text.fields line = [uri, startLine, startColumn, endLine, endColumn] ++
        Text.fields edit.newText ∧
      Bounds startLine startColumn endLine endColumn edit.range := by
  rcases asks with ⟨startLine, startColumn, endLine, endColumn, plain, rfl, bounds⟩
  exact ⟨startLine, startColumn, endLine, endColumn, Text.fields_join plain edit.newText, bounds⟩

theorem Asks.head {line uri : String} {edit : TextEdit} (asks : Asks line uri edit) :
    (Text.fields line).head? = some uri := by
  rcases asks.fields with ⟨_, _, _, _, cut, _⟩
  rw [cut]
  rfl

/-- A line asks for one edit only. -/
theorem Asks.unique {line uri : String} {edit other : TextEdit} (asks : Asks line uri edit)
    (again : Asks line uri other) : edit = other := by
  rcases asks.fields with ⟨_, _, _, _, cut, begins, ends⟩
  rcases again.fields with ⟨_, _, _, _, cutAgain, beginsAgain, endsAgain⟩
  rw [cut] at cutAgain
  simp only [List.cons_append, List.nil_append, List.cons.injEq, true_and] at cutAgain
  rcases cutAgain with ⟨rfl, rfl, rfl, rfl, texts⟩
  rcases edit with ⟨⟨start, stop⟩, newText⟩
  rcases other with ⟨⟨otherStart, otherStop⟩, otherText⟩
  have sameStart : start = otherStart := begins.unique beginsAgain
  have sameStop : stop = otherStop := ends.unique endsAgain
  have sameText : newText = otherText := by
    rw [← Text.join_fields newText, texts, Text.join_fields]
  rw [sameStart, sameStop, sameText]

/-- A line that asks for a replacement is read up to its first bad number; another one is passed
over. -/
theorem textEdit?_settles (line : String) :
    Settles (replacementNumerals line)
      (fun item => List.Forall₂ (fun line asked => Asks line asked.1 asked.2)
        ([line].filter (fun line => IsReplacement line)) item.toList)
      (textEdit? line) := by
  by_cases long : IsReplacement line
  · rcases six_fields long with ⟨uri, startLine, startColumn, endLine, endColumn, text, more, cut⟩
    have plain : forall field, field ∈ [uri, startLine, startColumn, endLine, endColumn] ->
        Text.Plain field := by
      intro field member
      have inside : field ∈ Text.fields line := by
        rw [cut]
        exact List.mem_append_left (text :: more) member
      exact Text.plain_of_mem_fields inside
    rw [replacementNumerals, textEdit?, cut, List.filter_cons_of_pos (by simpa using long)]
    refine (range_settles startLine startColumn endLine endColumn).bind_pure
      fun place bounds => List.Forall₂.cons ?_ List.Forall₂.nil
    have whole := @Text.eq_join_of_fields line text
      [uri, startLine, startColumn, endLine, endColumn] more cut
    exact ⟨startLine, startColumn, endLine, endColumn, plain, whole, bounds⟩
  · have passed : textEdit? line = pure none := by
      rw [textEdit?]
      split
      next cut => exact absurd (by simp [IsReplacement, cut]) long
      next => rfl
    rw [replacementNumerals_of_short long, passed, List.filter_cons_of_neg (by simpa using long)]
    exact @Settles.done _ _ none List.Forall₂.nil

/-! ## All lines -/

/-- Without replacements there is no number to be bad. -/
theorem firstBad?_of_silent {lines : List String}
    (silent : forall line, line ∈ lines -> ¬IsReplacement line) :
    firstBad? (lines.flatMap replacementNumerals) = none := by
  have nothing : lines.flatMap replacementNumerals = [] :=
    List.flatMap_eq_nil_iff.mpr
      (fun line member => replacementNumerals_of_short (silent line member))
  rw [nothing]
  rfl

/-- The lines that ask for replacements in a document. -/
def replacementsIn (uri : String) (lines : List String) : List String :=
  (lines.filter (fun line => IsReplacement line)).filter
    (fun line => (Text.fields line).head? = some uri)

/-- The edits are what the lines ask for: the documents are those of the replacements, each with
one edit for each replacement in it, in the order of the lines. -/
structure Gathers (lines : List String) (edits : WorkspaceEdit) : Prop where
  documents : forall uri, uri ∈ edits.changes.keys ↔ replacementsIn uri lines ≠ []
  listed : forall uri, List.Forall₂ (fun line edit => Asks line uri edit)
    (replacementsIn uri lines) ((edits.changes.find? uri).getD [])

/-- Lines ask for one workspace edit only. -/
theorem Gathers.unique {lines : List String} {edits other : WorkspaceEdit}
    (gathers : Gathers lines edits) (again : Gathers lines other) : edits = other := by
  have lists : forall uri,
      (edits.changes.find? uri).getD [] = (other.changes.find? uri).getD [] := by
    intro uri
    have single : Relator.RightUnique (fun line edit => Asks line uri edit) :=
      fun _ _ _ asks asksAgain => asks.unique asksAgain
    exact single.forall₂ (gathers.listed uri) (again.listed uri)
  have tables : edits.changes = other.changes := by
    refine Table.eq_of_find? (fun uri => ?_)
    have keys := (gathers.documents uri).trans (again.documents uri).symm
    rw [Table.mem_keys_iff, Table.mem_keys_iff] at keys
    have same := lists uri
    cases here : edits.changes.find? uri <;> cases there : other.changes.find? uri <;>
      simp_all
  cases edits
  cases other
  cases tables
  rfl

theorem gathers_pushAll {lines : List String} {asked : List (String × TextEdit)}
    (read : List.Forall₂ (fun line asked => Asks line asked.1 asked.2)
      (lines.filter (fun line => IsReplacement line)) asked) :
    Gathers lines (WorkspaceEdit.empty.pushAll asked) := by
  have each : forall uri, List.Forall₂ (fun line asked => Asks line asked.1 asked.2)
      (replacementsIn uri lines) (asked.filter (fun edit => edit.1 = uri)) := by
    intro uri
    refine List.rel_filter ?_ read
    intro line edit asks
    simp [asks.head]
  constructor
  · intro uri
    have length := (each uri).length_eq
    rw [WorkspaceEdit.mem_keys_pushAll, ← List.length_pos_iff, length, List.length_pos_iff]
    simp [WorkspaceEdit.empty, Table.keys, Table.empty, List.filter_eq_nil_iff]
  · intro uri
    rw [WorkspaceEdit.find?_pushAll]
    have heads : forall line, line ∈ replacementsIn uri lines ->
        (Text.fields line).head? = some uri := fun line member =>
      of_decide_eq_true (List.mem_filter.mp member).2
    refine List.forall₂_map_right_iff.mpr
      (((List.forall₂_and_left _ _).mpr ⟨heads, each uri⟩).imp ?_)
    rintro line edit ⟨head, asks⟩
    rw [asks.head, Option.some.injEq] at head
    exact head ▸ asks

theorem rename_settles (lines : List String) :
    Settles (lines.flatMap replacementNumerals)
      (fun edits => (edits = none ∧ forall line, line ∈ lines -> ¬IsReplacement line) ∨
        exists grouped, edits = some grouped ∧ (exists line, line ∈ lines ∧ IsReplacement line) ∧
          Gathers lines grouped)
      (rename lines) := by
  refine (collect_settles textEdit?_settles lines).bind_pure fun asked read => ?_
  rw [show List.foldl _ _ asked = WorkspaceEdit.empty.pushAll asked from rfl,
    WorkspaceEdit.isEmpty_pushAll_empty]
  have length := read.length_eq
  cases asked with
  | nil =>
      refine Or.inl ⟨rfl, ?_⟩
      simpa using length
  | cons first rest =>
      refine Or.inr ⟨_, rfl, ?_, gathers_pushAll read⟩
      rcases List.forall₂_cons_right_iff.mp read with ⟨line, others, _, _, same⟩
      have member : line ∈ lines.filter (fun line => IsReplacement line) := by
        rw [same]
        exact List.mem_cons_self
      exact ⟨line, (List.mem_filter.mp member).1, of_decide_eq_true (List.mem_filter.mp member).2⟩

/-- A renaming is unreadable if and only if a number in one of its replacements is bad, and the
first such number is reported.  It is read as nothing if and only if no line asks for a replacement,
and otherwise as the edits that the lines ask for: filed under the documents of the replacements,
and under each of them one edit for each replacement in it, in the order of the lines. -/
theorem replacements_grouped_iff_faultless (lines : List String) :
    (forall fault, rename lines = .error fault ↔
      (firstBad? (lines.flatMap replacementNumerals)).map
        (fun bad => .invalidNumber bad.1 bad.2) = some fault) ∧
    (rename lines = .ok none ↔ forall line, line ∈ lines -> ¬IsReplacement line) ∧
    (forall edits, rename lines = .ok (some edits) ↔
      firstBad? (lines.flatMap replacementNumerals) = none ∧
        (exists line, line ∈ lines ∧ IsReplacement line) ∧ Gathers lines edits) := by
  refine ⟨(rename_settles lines).eq_error_iff, ?_⟩
  rcases rename_settles lines with ⟨bad, found, refused⟩ |
    ⟨clean, _, read, ⟨rfl, silent⟩ | ⟨grouped, rfl, asked, gathers⟩⟩
  · rw [refused, found]
    constructor
    · refine ⟨fun read => (by cases read), fun silent => ?_⟩
      rw [firstBad?_of_silent silent] at found
      cases found
    · exact fun edits => ⟨fun read => (by cases read), fun outcome => (by cases outcome.1)⟩
  · rw [read]
    refine ⟨⟨fun _ => silent, fun _ => rfl⟩, fun edits => ⟨fun read => (by cases read), ?_⟩⟩
    rintro ⟨_, ⟨line, member, long⟩, _⟩
    exact absurd long (silent line member)
  · rw [read]
    refine ⟨⟨fun read => (by cases read), fun silent => ?_⟩, fun edits => ⟨?_, ?_⟩⟩
    · rcases asked with ⟨line, member, long⟩
      exact absurd long (silent line member)
    · rintro ⟨⟩
      exact ⟨clean, asked, gathers⟩
    · rintro ⟨_, _, again⟩
      rw [gathers.unique again]

end Payload
end Wire
end LanguageServer
