/-! Values under text keys, in the order in which the keys were first used. -/

namespace VolumeGroups

/-- Entries with the value of a key set, in its old place if the key has one. -/
def setEntry {α : Type} (key : String) (value : α) : List (String × α) → List (String × α)
  | [] => [(key, value)]
  | (other, old) :: rest =>
    if other = key then (key, value) :: rest else (other, old) :: setEntry key value rest

/-- The keys after a setting are the new key and the old ones. -/
theorem mem_keys_setEntry {α : Type} {key : String} {value : α} {entries : List (String × α)}
    {name : String} :
    name ∈ (setEntry key value entries).map Prod.fst ↔
      name = key ∨ name ∈ entries.map Prod.fst := by
  -- The induction follows the walk to the key's place.
  induction entries with
  | nil => simp [setEntry]
  | cons entry rest ih =>
    rcases entry with ⟨other, old⟩
    simp only [setEntry]
    -- Either the head has the key, or the walk goes on behind it.
    split
    · rename_i same
      simp [same]
    · simp only [List.map_cons, List.mem_cons, ih]
      constructor
      · rintro (first | second | third)
        · exact Or.inr (Or.inl first)
        · exact Or.inl second
        · exact Or.inr (Or.inr third)
      · rintro (first | second | third)
        · exact Or.inr (Or.inl first)
        · exact Or.inl second
        · exact Or.inr (Or.inr third)

/-- Setting keeps the keys distinct. -/
theorem setEntry_distinct {α : Type} (key : String) (value : α) {entries : List (String × α)}
    (distinct : (entries.map Prod.fst).Nodup) :
    ((setEntry key value entries).map Prod.fst).Nodup := by
  -- The induction follows the walk, which changes a value or goes one entry further.
  induction entries with
  | nil => simp [setEntry]
  | cons entry rest ih =>
    rcases entry with ⟨other, old⟩
    simp only [List.map_cons, List.nodup_cons] at distinct
    simp only [setEntry]
    split
    · rename_i same
      simpa [same] using distinct
    · rename_i different
      simp only [List.map_cons, List.nodup_cons]
      refine ⟨?_, ih distinct.2⟩
      intro member
      -- The head's key would come again either as the new key or among the old ones.
      rcases mem_keys_setEntry.mp member with same | found
      · exact different same
      · exact distinct.1 found

/-- Values under distinct keys, the oldest key first. -/
structure Table (α : Type) where
  entries : List (String × α)
  /-- No key appears twice. -/
  distinct : (entries.map Prod.fst).Nodup
  deriving DecidableEq

namespace Table

variable {α : Type}

/-- The table without values. -/
def empty : Table α := ⟨[], by simp⟩

instance : EmptyCollection (Table α) := ⟨empty⟩

instance : Inhabited (Table α) := ⟨empty⟩

/-- The value under a key. -/
def get? (table : Table α) (key : String) : Option α :=
  (table.entries.find? fun entry => entry.1 == key).map Prod.snd

/-- The table with the value of a key set, where a new key comes last. -/
def set (table : Table α) (key : String) (value : α) : Table α :=
  ⟨setEntry key value table.entries, setEntry_distinct key value table.distinct⟩

/-- The table without a key. -/
def erase (table : Table α) (key : String) : Table α :=
  ⟨table.entries.filter fun entry => entry.1 != key,
    table.distinct.sublist (List.filter_sublist.map Prod.fst)⟩

/-- The values, that of the oldest key first. -/
def values (table : Table α) : List α := table.entries.map Prod.snd

/-- The entries that an earlier table does not have in the same form. -/
def newSince [DecidableEq α] (table earlier : Table α) : List (String × α) :=
  table.entries.filter fun entry => earlier.get? entry.1 ≠ some entry.2

/-- The keys of an earlier table that are there no more. -/
def lostSince (table earlier : Table α) : List String :=
  (earlier.entries.map Prod.fst).filter fun key => (table.get? key).isNone

end Table

end VolumeGroups
