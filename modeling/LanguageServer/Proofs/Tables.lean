import LanguageServer.Table

namespace LanguageServer

/-!
# Looking things up in a table

A table is known by what it files under each key: every operation has one equation for `find?`,
and the entries are exactly the answers of `find?`, each listed once.
-/

namespace Entries

variable {Value Image : Type}

theorem find?_of_below {key : String} {entries : Entries Value}
    (below : forall entry, entry ∈ entries -> key < entry.1) : find? key entries = none := by
  induction entries with
  | nil => rfl
  | cons head rest inductionHypothesis =>
      have different : key ≠ head.1 := by
        intro same
        exact String.lt_irrefl key (by simpa [← same] using below head List.mem_cons_self)
      rw [find?, if_neg different]
      exact inductionHypothesis (fun entry member => below entry (List.mem_cons_of_mem _ member))

/-- Filing a value changes the answer for its own key only. -/
theorem find?_alter {entries : Entries Value} (ascending : Ascending entries)
    (key other : String) (update : Option Value -> Value) :
    find? other (alter key update entries) =
      if other = key then some (update (find? key entries)) else find? other entries := by
  induction entries with
  | nil => simp [alter, find?]
  | cons head rest inductionHypothesis =>
      rcases List.pairwise_cons.1 ascending with ⟨below, tail⟩
      rw [alter]
      split
      next same =>
        subst same
        by_cases asked : other = head.1 <;> simp [find?, asked]
      next different =>
        split
        next before =>
          have missing : find? key (head :: rest) = none := by
            refine find?_of_below (fun entry member => ?_)
            rcases List.mem_cons.1 member with same | later
            · simpa [same] using before
            · exact String.lt_trans before (below entry later)
          rw [missing, find?]
        next notBefore =>
          by_cases asked : other = head.1
          · simp [find?, asked, Ne.symm different]
          · simp only [find?, if_neg asked, if_neg different]
            exact inductionHypothesis tail

theorem find?_mapValues (transform : String -> Value -> Image) (entries : Entries Value)
    (key : String) :
    find? key (mapValues transform entries) = (find? key entries).map (transform key) := by
  induction entries with
  | nil => rfl
  | cons head rest inductionHypothesis =>
      by_cases same : key = head.1
      · simp [mapValues, find?, same]
      · simpa [mapValues, find?, same] using inductionHypothesis

/-- The entries are the answers of `find?`. -/
theorem mem_iff_find? {entries : Entries Value} (ascending : Ascending entries) (key : String)
    (value : Value) : (key, value) ∈ entries ↔ find? key entries = some value := by
  induction entries with
  | nil => simp [find?]
  | cons head rest inductionHypothesis =>
      rcases List.pairwise_cons.1 ascending with ⟨below, tail⟩
      rw [List.mem_cons, inductionHypothesis tail, find?]
      by_cases same : key = head.1
      · -- No later entry has the key of the first.
        have missing : find? key rest = none := by
          rw [same]
          exact find?_of_below below
        rw [if_pos same, missing]
        constructor
        · rintro (equal | impossible)
          · rw [← equal]
          · exact nomatch impossible
        · intro equal
          exact Or.inl (Prod.ext same (Option.some.inj equal).symm)
      · rw [if_neg same]
        constructor
        · rintro (equal | found)
          · exact absurd (congrArg Prod.fst equal) same
          · exact found
        · exact Or.inr

end Entries

namespace Table

variable {Value Image : Type}

@[simp] theorem find?_empty (key : String) : (empty : Table Value).find? key = none := rfl

theorem find?_alter (table : Table Value) (key other : String) (update : Option Value -> Value) :
    (table.alter key update).find? other =
      if other = key then some (update (table.find? key)) else table.find? other :=
  Entries.find?_alter table.ascending key other update

theorem find?_insert (table : Table Value) (key other : String) (value : Value) :
    (table.insert key value).find? other = if other = key then some value else table.find? other :=
  find?_alter table key other _

@[simp] theorem find?_map (table : Table Value) (transform : String -> Value -> Image)
    (key : String) : (table.map transform).find? key = (table.find? key).map (transform key) :=
  Entries.find?_mapValues transform table.entries key

theorem find?_adjust (table : Table Value) (key other : String) (change : Value -> Value) :
    (table.adjust key change).find? other =
      if other = key then (table.find? other).map change else table.find? other := by
  rw [adjust, find?_map]
  by_cases same : other = key
  · simp only [if_pos same]
  · simp only [if_neg same, Option.map_id']

theorem mem_entries_iff (table : Table Value) (key : String) (value : Value) :
    (key, value) ∈ table.entries ↔ table.find? key = some value :=
  Entries.mem_iff_find? table.ascending key value

theorem mem_values_iff (table : Table Value) (value : Value) :
    value ∈ table.values ↔ exists key, table.find? key = some value := by
  simp [values, ← mem_entries_iff]

theorem mem_keys_iff (table : Table Value) (key : String) :
    key ∈ table.keys ↔ exists value, table.find? key = some value := by
  simp [keys, ← mem_entries_iff]

theorem mem_keys_alter (table : Table Value) (key other : String)
    (update : Option Value -> Value) :
    other ∈ (table.alter key update).keys ↔ other ∈ table.keys ∨ other = key := by
  rw [mem_keys_iff, mem_keys_iff, find?_alter]
  by_cases same : other = key <;> simp [same]

/-- Transforming the values files nothing and removes nothing. -/
@[simp] theorem keys_map (table : Table Value) (transform : String -> Value -> Image) :
    (table.map transform).keys = table.keys := by
  change (Entries.mapValues transform table.entries).map Prod.fst = _
  rw [Entries.mapValues, List.map_map]
  rfl

theorem keys_ascending (table : Table Value) : table.keys.Pairwise (· < ·) :=
  List.Pairwise.map Prod.fst (fun _ _ before => before) table.ascending

/-- No key is listed twice. -/
theorem keys_nodup (table : Table Value) : table.keys.Nodup := by
  refine List.Pairwise.map Prod.fst (fun left right before same => ?_) table.ascending
  rw [same] at before
  exact String.lt_irrefl _ before

end Table
end LanguageServer
