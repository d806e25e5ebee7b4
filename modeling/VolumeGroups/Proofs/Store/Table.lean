import VolumeGroups.Store.Table

/-! Laws of tables: what is found under a key after a value is set or a key is erased. -/

namespace VolumeGroups

/-- After a setting the key has the new value, and every other key has what it had. -/
theorem find?_setEntry {α : Type} (key : String) (value : α) (entries : List (String × α))
    (name : String) :
    ((setEntry key value entries).find? fun entry => entry.1 == name).map Prod.snd =
      if name = key then some value
      else (entries.find? fun entry => entry.1 == name).map Prod.snd := by
  -- The induction follows the walk to the key's place.
  induction entries with
  | nil =>
    by_cases same : name = key
    · simp [setEntry, same]
    · simp [setEntry, same, Ne.symm same]
  | cons entry rest ih =>
    rcases entry with ⟨other, old⟩
    by_cases place : other = key
    · -- The entry is replaced in its place.
      subst place
      by_cases same : name = other
      · simp [setEntry, same]
      · simp [setEntry, same, Ne.symm same]
    · -- The entry stays, and the walk goes on behind it.
      by_cases same : other = name
      · subst same
        simp [setEntry, place]
      · simpa [setEntry, place, same] using ih

namespace Table

variable {α : Type}

/-- Setting a key gives it the value and leaves every other key alone. -/
@[simp] theorem get?_set (table : Table α) (key : String) (value : α) (name : String) :
    (table.set key value).get? name = if name = key then some value else table.get? name :=
  find?_setEntry key value table.entries name

/-- Erasing a key empties it and leaves every other key alone. -/
@[simp] theorem get?_erase (table : Table α) (key name : String) :
    (table.erase key).get? name = if name = key then none else table.get? name := by
  -- A search that wants another key never meets what the filter drops.
  simp only [erase, get?, List.find?_filter]
  by_cases same : name = key
  · subst same
    simp
  · have wanted : (fun entry : String × α =>
        decide ((entry.1 != key) = true ∧ (entry.1 == name) = true))
        = fun entry => entry.1 == name := by
      funext entry
      by_cases found : entry.1 = name
      · simp [found, same]
      · simp [found]
    rw [wanted, if_neg same]

/-- An entry of a table is found under its key, since keys are distinct. -/
theorem get?_of_mem {table : Table α} {key : String} {value : α}
    (listed : (key, value) ∈ table.entries) : table.get? key = some value := by
  have distinct := table.distinct
  -- The entries are searched from the front.
  simp only [get?]
  generalize table.entries = entries at listed distinct
  induction entries with
  | nil => simp at listed
  | cons entry rest ih =>
    rcases entry with ⟨other, old⟩
    simp only [List.map_cons, List.nodup_cons] at distinct
    -- The search stops at the entry, or passes by since no later one has its key.
    rcases List.mem_cons.mp listed with same | later
    · cases same
      simp
    · have apart : other ≠ key := by
        intro same
        exact distinct.1 (same ▸ List.mem_map_of_mem later)
      simpa [apart] using ih later distinct.2

/-- What is found under a key is an entry of the table. -/
theorem mem_of_get? {table : Table α} {key : String} {value : α}
    (found : table.get? key = some value) : (key, value) ∈ table.entries := by
  simp only [get?, Option.map_eq_some_iff] at found
  obtain ⟨⟨other, stored⟩, searched, rfl⟩ := found
  have same : other = key := by simpa using List.find?_some searched
  exact same ▸ List.mem_of_find?_eq_some searched

/-- The values of a table are those found under its keys. -/
theorem mem_values {table : Table α} {value : α} :
    value ∈ table.values ↔ ∃ key, table.get? key = some value := by
  constructor
  -- A value of the table has some key, and no two entries share it.
  · intro member
    obtain ⟨⟨key, stored⟩, listed, rfl⟩ := List.mem_map.mp member
    exact ⟨key, get?_of_mem listed⟩
  · rintro ⟨key, found⟩
    exact List.mem_map_of_mem (mem_of_get? found)

end Table

end VolumeGroups
