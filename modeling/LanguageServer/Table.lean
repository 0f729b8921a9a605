namespace LanguageServer

/-!
Tables: finite maps from strings, kept in ascending order of their keys.

Everything that is filed under a document's uri is shown in uri order, so the order is part of the
type: a table is a list of entries together with the proof that its keys ascend strictly.  All
operations are defined on plain lists of entries first.
-/

/-- The entries of a table before their order is known. -/
abbrev Entries (Value : Type) := List (String × Value)

namespace Entries

variable {Value Image : Type}

/-- The keys ascend strictly. -/
def Ascending (entries : Entries Value) : Prop :=
  entries.Pairwise (fun left right => left.1 < right.1)

/-- Replace the value under `key` by `update` of what was there, or file a first value. -/
def alter (key : String) (update : Option Value -> Value) : Entries Value -> Entries Value
  | [] => [(key, update none)]
  | (other, value) :: rest =>
      if key = other then (key, update (some value)) :: rest
      else if key < other then (key, update none) :: (other, value) :: rest
      else (other, value) :: alter key update rest

/-- Transform every value, keeping the keys. -/
def mapValues (transform : String -> Value -> Image) (entries : Entries Value) : Entries Image :=
  entries.map (fun entry => (entry.1, transform entry.1 entry.2))

/-- The value filed under a key. -/
def find? (key : String) : Entries Value -> Option Value
  | [] => none
  | (other, value) :: rest => if key = other then some value else find? key rest

theorem key_mem_alter {key : String} {update : Option Value -> Value} {entries : Entries Value}
    {entry : String × Value} (member : entry ∈ alter key update entries) :
    entry.1 = key ∨ ∃ earlier ∈ entries, earlier.1 = entry.1 := by
  induction entries with
  | nil =>
      simp only [alter, List.mem_singleton] at member
      exact Or.inl (by rw [member])
  | cons head rest ih =>
      rw [alter] at member
      split at member
      · rcases List.mem_cons.1 member with same | later
        · exact Or.inl (by rw [same])
        · exact Or.inr ⟨entry, List.mem_cons_of_mem _ later, rfl⟩
      · split at member
        · rcases List.mem_cons.1 member with same | later
          · exact Or.inl (by rw [same])
          · exact Or.inr ⟨entry, later, rfl⟩
        · rcases List.mem_cons.1 member with same | later
          · exact Or.inr ⟨head, List.mem_cons_self, by rw [same]⟩
          · rcases ih later with same | ⟨earlier, inside, equal⟩
            · exact Or.inl same
            · exact Or.inr ⟨earlier, List.mem_cons_of_mem _ inside, equal⟩

/-- Filing a value keeps the keys in order. -/
theorem Ascending.alter {entries : Entries Value} (ascending : Ascending entries) (key : String)
    (update : Option Value -> Value) : Ascending (alter key update entries) := by
  induction entries with
  | nil => exact List.pairwise_singleton _ _
  | cons head rest ih =>
      have below := (List.pairwise_cons.1 ascending).1
      have tail := (List.pairwise_cons.1 ascending).2
      rw [Entries.alter]
      split
      next same =>
        exact List.pairwise_cons.2
          ⟨fun entry member => by simpa [same] using below entry member, tail⟩
      next different =>
        split
        next before =>
          refine List.pairwise_cons.2 ⟨fun entry member => ?_, ascending⟩
          rcases List.mem_cons.1 member with same | later
          · simpa [same] using before
          · exact String.lt_trans before (below entry later)
        next notBefore =>
          refine List.pairwise_cons.2 ⟨fun entry member => ?_, ih tail⟩
          rcases key_mem_alter member with same | ⟨earlier, inside, equal⟩
          · rw [same]
            rcases String.le_total key head.1 with le | ge
            · exact absurd (String.le_antisymm le (String.not_lt.1 notBefore)) different
            · refine String.not_le.1 (fun le => different (String.le_antisymm le ge))
          · exact equal ▸ below earlier inside

/-- Transforming the values keeps the keys in order. -/
theorem Ascending.mapValues {entries : Entries Value} (ascending : Ascending entries)
    (transform : String -> Value -> Image) : Ascending (mapValues transform entries) :=
  List.Pairwise.map _ (fun _ _ before => before) ascending

end Entries

/-- A finite map from strings, in ascending order of the keys. -/
structure Table (Value : Type) where
  entries : Entries Value
  ascending : Entries.Ascending entries

namespace Table

variable {Value Image : Type}

/-- No entries. -/
def empty : Table Value := ⟨[], List.Pairwise.nil⟩

instance : Inhabited (Table Value) := ⟨empty⟩

instance [DecidableEq Value] : DecidableEq (Table Value) := fun left right =>
  match decEq left.entries right.entries with
  | isTrue equal => isTrue (by cases left; cases right; simpa using equal)
  | isFalse different => isFalse (fun equal => different (congrArg Table.entries equal))

/-- Nothing is filed. -/
def isEmpty (table : Table Value) : Bool := table.entries.isEmpty

/-- The keys, ascending. -/
def keys (table : Table Value) : List String := table.entries.map Prod.fst

/-- The values, in the order of their keys. -/
def values (table : Table Value) : List Value := table.entries.map Prod.snd

/-- The value filed under a key. -/
def find? (table : Table Value) (key : String) : Option Value := table.entries.find? key

/-- Something is filed under the key. -/
def contains (table : Table Value) (key : String) : Bool := (table.find? key).isSome

/-- Replace the value under `key` by `update` of what was there, or file a first value. -/
def alter (table : Table Value) (key : String) (update : Option Value -> Value) : Table Value :=
  ⟨table.entries.alter key update, table.ascending.alter key update⟩

/-- File a value, replacing what was there. -/
def insert (table : Table Value) (key : String) (value : Value) : Table Value :=
  table.alter key (fun _ => value)

/-- Transform every value. -/
def map (table : Table Value) (transform : String -> Value -> Image) : Table Image :=
  ⟨table.entries.mapValues transform, table.ascending.mapValues transform⟩

/-- Change the value under `key`, if there is one. -/
def adjust (table : Table Value) (key : String) (change : Value -> Value) : Table Value :=
  table.map (fun other value => if other = key then change value else value)

/-- File the entries of a list one after the other; a later one replaces an earlier one. -/
def ofList (entries : List (String × Value)) : Table Value :=
  entries.foldl (fun table entry => table.insert entry.1 entry.2) empty

end Table
end LanguageServer
