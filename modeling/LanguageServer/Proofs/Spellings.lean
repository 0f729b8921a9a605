import LanguageServer.Editor.Convert
import LanguageServer.Proofs.Tables
import LanguageServer.Wire.Payload

namespace LanguageServer
namespace Editor

/-!
# Edits under several spellings of a URL

The compiler files the edits of a renaming under uris, and the editor wants them under URLs.  Many
uris spell one URL: the case of the scheme, percent codes and dots do not matter to it.  Edits are
filed under a URL one uri after the other, and each time they replace what was there.

So of all the uris that spell a URL, the last one decides what the editor is told.  This is the
whole of the edits if and only if the other spellings have none, and a renaming that names a
document in two ways is carried out by half.
-/

/-- The uri is a spelling of the URL with this text. -/
def Spells (url uri : String) : Prop :=
  (Url.parse? uri).map Url.render = some url

instance (url uri : String) : Decidable (Spells url uri) :=
  inferInstanceAs (Decidable (_ = _))

/-- The spellings of a URL with the edits under each, in the order of the uris. -/
def spellings (edits : WorkspaceEdit) (url : String) : Entries (List TextEdit) :=
  edits.changes.entries.filter (fun entry => Spells url entry.1)

/-- All edits of a URL: those under each of its spellings, in their order. -/
def gathered (edits : WorkspaceEdit) (url : String) : List TextEdit :=
  (spellings edits url).flatMap Prod.snd

/-! ## Filing edits -/

/-- File the edits of one uri under the URL that it spells. -/
def fileEdits (filed : Table (List TextEdit)) (entry : String × List TextEdit) :
    Table (List TextEdit) :=
  match Url.parse? entry.1 with
  | some url => filed.insert url.render entry.2
  | none => filed

theorem editsByUrl_eq (edits : WorkspaceEdit) :
    editsByUrl edits = edits.changes.entries.foldl fileEdits Table.empty := rfl

theorem find?_fileEdits (filed : Table (List TextEdit)) (entry : String × List TextEdit)
    (url : String) :
    (fileEdits filed entry).find? url =
      if Spells url entry.1 then some entry.2 else filed.find? url := by
  rw [fileEdits]
  split
  next parsed found =>
    by_cases same : url = parsed.render
    · simp [Table.find?_insert, Spells, found, same]
    · simp [Table.find?_insert, Spells, found, same, Ne.symm same]
  next absent => simp [Spells, absent]

/-- What is filed in the end is what the last spelling has, or else what was filed before. -/
theorem find?_foldl_fileEdits (entries : Entries (List TextEdit)) (filed : Table (List TextEdit))
    (url : String) :
    (entries.foldl fileEdits filed).find? url =
      ((entries.filter (fun entry => Spells url entry.1)).getLast?.map Prod.snd).or
        (filed.find? url) := by
  induction entries generalizing filed with
  | nil => rfl
  | cons entry rest inductionHypothesis =>
      rw [List.foldl_cons, inductionHypothesis, find?_fileEdits]
      by_cases spelled : Spells url entry.1
      · rw [if_pos spelled, List.filter_cons_of_pos (by simpa using spelled), List.getLast?_cons]
        cases (rest.filter (fun entry => Spells url entry.1)).getLast? <;> rfl
      · rw [if_neg spelled, List.filter_cons_of_neg (by simpa using spelled)]

theorem find?_editsByUrl (edits : WorkspaceEdit) (url : String) :
    (editsByUrl edits).find? url = (spellings edits url).getLast?.map Prod.snd := by
  rw [editsByUrl_eq, find?_foldl_fileEdits, Table.find?_empty, Option.or_none]
  rfl

/-! ## What the editor is told -/

/-- The changes that the editor is told, URL by URL. -/
def toldChanges (edits : WorkspaceEdit) : List (String × Json) :=
  (editsByUrl edits).entries.map (fun (url, changes) => (url, .ofList putTextEdit changes))

theorem putWorkspaceEdit_eq (edits : WorkspaceEdit) :
    putWorkspaceEdit edits = .object [("changes", .object (toldChanges edits))] := rfl

theorem mem_toldChanges_iff (edits : WorkspaceEdit) (url : String) (told : Json) :
    (url, told) ∈ toldChanges edits ↔
      exists last, (spellings edits url).getLast? = some last ∧
        told = .ofList putTextEdit last.2 := by
  constructor
  · intro member
    rcases List.mem_map.mp member with ⟨⟨key, changes⟩, entry, same⟩
    rcases Prod.mk.inj same with ⟨rfl, rfl⟩
    have found := (Table.mem_entries_iff _ _ _).mp entry
    rw [find?_editsByUrl] at found
    rcases Option.map_eq_some_iff.mp found with ⟨last, ends, rfl⟩
    exact ⟨last, ends, rfl⟩
  · rintro ⟨last, ends, rfl⟩
    refine List.mem_map.mpr ⟨(url, last.2), ?_, rfl⟩
    rw [Table.mem_entries_iff, find?_editsByUrl, ends]
    rfl

/-- All lists together are the last one exactly when the others are empty. -/
theorem flatMap_eq_last_iff {entries : Entries (List TextEdit)} {last : String × List TextEdit}
    (ends : entries.getLast? = some last) :
    (entries.flatMap Prod.snd).map putTextEdit = last.2.map putTextEdit ↔
      forall entry, entry ∈ entries.dropLast -> entry.2 = [] := by
  rcases List.getLast?_eq_some_iff.mp ends with ⟨front, rfl⟩
  rw [List.flatMap_append, List.flatMap_singleton, List.dropLast_concat, List.map_append,
    List.append_left_eq_self, List.map_eq_nil_iff, List.flatMap_eq_nil_iff]

theorem gathered_mem_toldChanges_iff {edits : WorkspaceEdit} {url : String}
    (spelled : spellings edits url ≠ []) :
    (url, Json.ofList putTextEdit (gathered edits url)) ∈ toldChanges edits ↔
      forall entry, entry ∈ (spellings edits url).dropLast -> entry.2 = [] := by
  have ends := List.getLast?_eq_some_getLast spelled
  rw [mem_toldChanges_iff, ← flatMap_eq_last_iff ends]
  constructor
  · rintro ⟨last, again, same⟩
    rw [ends] at again
    cases again
    exact Json.array.inj same
  · intro same
    exact ⟨_, ends, congrArg Json.array same⟩

/-- The editor is told one list of edits for each URL that has a spelling, and for no other: what is
filed under the last spelling.  These are all edits of the URL, in their order, if and only if no
other spelling has edits. -/
theorem edits_survive_iff_spelled_once (edits : WorkspaceEdit) :
    exists members : List (String × Json),
      putWorkspaceEdit edits = .object [("changes", .object members)] ∧
      (members.map Prod.fst).Pairwise (· < ·) ∧
      (forall url told, (url, told) ∈ members ↔
        exists last, (spellings edits url).getLast? = some last ∧
          told = .ofList putTextEdit last.2) ∧
      forall url, spellings edits url ≠ [] ->
        ((url, Json.ofList putTextEdit (gathered edits url)) ∈ members ↔
          forall entry, entry ∈ (spellings edits url).dropLast -> entry.2 = []) := by
  refine ⟨toldChanges edits, putWorkspaceEdit_eq edits, ?_, mem_toldChanges_iff edits,
    fun url => gathered_mem_toldChanges_iff⟩
  rw [toldChanges, List.map_map]
  exact (editsByUrl edits).keys_ascending

/-- A renaming in one file, which the compiler calls by two spellings of its URL. -/
def crossSpelled : WorkspaceEdit :=
  (WorkspaceEdit.empty.push "FILE:///a" ⟨⟨⟨0, 0⟩, ⟨0, 1⟩⟩, "x"⟩).push "file:///a"
    ⟨⟨⟨2, 0⟩, ⟨2, 1⟩⟩, "x"⟩

theorem renaming_can_lose_edits :
    Wire.Payload.rename ["FILE:///a\t1\t1\t1\t2\tx", "file:///a\t3\t1\t3\t2\tx"] =
        .ok (some crossSpelled) ∧
      gathered crossSpelled "file:///a" =
        [⟨⟨⟨0, 0⟩, ⟨0, 1⟩⟩, "x"⟩, ⟨⟨⟨2, 0⟩, ⟨2, 1⟩⟩, "x"⟩] ∧
      toldChanges crossSpelled =
        [("file:///a", .ofList putTextEdit [⟨⟨⟨2, 0⟩, ⟨2, 1⟩⟩, "x"⟩])] ∧
      ("file:///a", Json.ofList putTextEdit (gathered crossSpelled "file:///a")) ∉
        toldChanges crossSpelled := by
  have whole : gathered crossSpelled "file:///a" =
      [⟨⟨⟨0, 0⟩, ⟨0, 1⟩⟩, "x"⟩, ⟨⟨⟨2, 0⟩, ⟨2, 1⟩⟩, "x"⟩] := by decide +kernel
  have filed : (editsByUrl crossSpelled).entries =
      [("file:///a", [⟨⟨⟨2, 0⟩, ⟨2, 1⟩⟩, "x"⟩])] := by decide +kernel
  have told : toldChanges crossSpelled =
      [("file:///a", .ofList putTextEdit [⟨⟨⟨2, 0⟩, ⟨2, 1⟩⟩, "x"⟩])] := by
    rw [toldChanges, filed]
    rfl
  refine ⟨by rfl, whole, told, ?_⟩
  rw [told, whole, List.mem_singleton]
  intro same
  exact absurd (congrArg List.length (Json.array.inj (Prod.mk.inj same).2)) (by decide)

end Editor
end LanguageServer
