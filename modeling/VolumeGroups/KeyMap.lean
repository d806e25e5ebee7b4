/-! Maps from text keys to values, kept in increasing key order, so that equal maps are equal
lists. -/

namespace VolumeGroups

/-- Entries with an entry put in its place, replacing the one that had its key. -/
def insertEntry {α : Type} (key : String) (value : α) : List (String × α) → List (String × α)
  | [] => [(key, value)]
  | (other, old) :: rest =>
    -- The walk stops at the first key that is not smaller, which is where the new key belongs.
    if key < other then (key, value) :: (other, old) :: rest
    else if other < key then (other, old) :: insertEntry key value rest
    else (key, value) :: rest

/-- The keys after an insertion are the new key and the old ones. -/
theorem mem_keys_insertEntry {α : Type} {key : String} {value : α} {entries : List (String × α)}
    {name : String} (member : name ∈ (insertEntry key value entries).map Prod.fst) :
    name = key ∨ name ∈ entries.map Prod.fst := by
  -- The induction follows the walk, and each branch keeps or adds one key.
  induction entries with
  | nil => simpa [insertEntry] using member
  | cons entry rest ih =>
    rcases entry with ⟨other, old⟩
    simp only [insertEntry] at member
    split at member
    · simpa using member
    · split at member
      · simp only [List.map_cons, List.mem_cons] at member ⊢
        rcases member with same | deeper
        · exact Or.inr (Or.inl same)
        · rcases ih deeper with same | found
          · exact Or.inl same
          · exact Or.inr (Or.inr found)
      · simp only [List.map_cons, List.mem_cons] at member ⊢
        rcases member with same | found
        · exact Or.inl same
        · exact Or.inr (Or.inr found)

/-- Inserting keeps the keys strictly increasing. -/
theorem insertEntry_ordered {α : Type} (key : String) (value : α) {entries : List (String × α)}
    (ordered : (entries.map Prod.fst).Pairwise (· < ·)) :
    ((insertEntry key value entries).map Prod.fst).Pairwise (· < ·) := by
  -- At the stopping place the neighbours on both sides are strictly apart from the new key.
  induction entries with
  | nil => simp [insertEntry]
  | cons entry rest ih =>
    rcases entry with ⟨other, old⟩
    simp only [List.map_cons, List.pairwise_cons] at ordered
    simp only [insertEntry]
    split
    · -- The walk stops here, and the new key is below the head and so below all that follow.
      rename_i before
      simp only [List.map_cons, List.pairwise_cons, List.mem_cons]
      refine ⟨?_, ordered⟩
      intro name member
      rcases member with rfl | later
      · exact before
      · exact String.lt_trans before (ordered.1 name later)
    · split
      · -- The walk goes on, and the head stays below the new key and below what was there.
        rename_i _ after
        simp only [List.map_cons, List.pairwise_cons]
        refine ⟨?_, ih ordered.2⟩
        intro name member
        rcases mem_keys_insertEntry member with rfl | found
        · exact after
        · exact ordered.1 name found
      · -- Neither key is smaller, so they are the same and only the value changes.
        rename_i notBefore notAfter
        have same : key = other :=
          String.le_antisymm (String.not_lt.mp notAfter) (String.not_lt.mp notBefore)
        simpa [same] using ordered

/-- An entry whose key is larger than all others goes to the end. -/
theorem insertEntry_of_lt {α : Type} {key : String} (value : α) {entries : List (String × α)}
    (largest : ∀ name ∈ entries.map Prod.fst, name < key) :
    insertEntry key value entries = entries ++ [(key, value)] := by
  induction entries with
  | nil => rfl
  | cons entry rest ih =>
    -- Each key on the way is smaller, so the walk passes it and stops at the end only.
    obtain ⟨before, larger⟩ := List.forall_mem_cons.mp largest
    have notAfter : ¬ key < entry.1 := fun after =>
      String.lt_irrefl _ (String.lt_trans before after)
    simp [insertEntry, before, notAfter, ih larger]

/-- A map from text keys, as its entries in strictly increasing key order. -/
structure KeyMap (α : Type) where
  /-- The entries, smallest key first. -/
  entries : List (String × α)
  /-- No key appears twice and none is out of order. -/
  ordered : (entries.map Prod.fst).Pairwise (· < ·)
  deriving DecidableEq

namespace KeyMap

variable {α β ε : Type}

/-- The map without entries. -/
def empty : KeyMap α := ⟨[], by simp⟩

instance : EmptyCollection (KeyMap α) := ⟨empty⟩

instance : Inhabited (KeyMap α) := ⟨empty⟩

/-- The map with one more entry, which replaces an earlier one of its key. -/
def insert (map : KeyMap α) (key : String) (value : α) : KeyMap α :=
  ⟨insertEntry key value map.entries, insertEntry_ordered key value map.ordered⟩

/-- The map of some entries, where the last of two with one key counts. -/
def ofList (entries : List (String × α)) : KeyMap α :=
  entries.foldl (fun map entry => map.insert entry.1 entry.2) empty

/-- Entries whose keys go on increasing are put behind those of a map. -/
theorem entries_foldl_insert (entries : List (String × α)) (map : KeyMap α)
    (ordered : ((map.entries ++ entries).map Prod.fst).Pairwise (· < ·)) :
    (entries.foldl (fun map entry => map.insert entry.1 entry.2) map).entries
      = map.entries ++ entries := by
  induction entries generalizing map with
  | nil => simp
  | cons entry rest ih =>
    -- The first entry has a larger key than the map, so it goes to the end.
    have largest : ∀ name ∈ map.entries.map Prod.fst, name < entry.1 := by
      intro name member
      rw [List.map_append, List.pairwise_append] at ordered
      exact ordered.2.2 name member entry.1 (by simp)
    have extended : (map.insert entry.1 entry.2).entries = map.entries ++ [entry] :=
      insertEntry_of_lt entry.2 largest
    rw [List.foldl_cons, ih _ (by simpa [extended] using ordered), extended]
    simp

/-- Maps with the same entries are equal. -/
theorem eq_of_entries {map other : KeyMap α} (same : map.entries = other.entries) :
    map = other := by
  cases map; cases other; simpa using same

/-- A map is the map of its entries. -/
theorem ofList_entries (map : KeyMap α) : ofList map.entries = map :=
  eq_of_entries (entries_foldl_insert map.entries empty (by simpa [empty] using map.ordered))

/-- The map with one entry. -/
def singleton (key : String) (value : α) : KeyMap α := ⟨[(key, value)], by simp⟩

/-- The value under a key. -/
def get? (map : KeyMap α) (key : String) : Option α :=
  -- Keys are distinct, so the first match is the only one.
  (map.entries.find? fun entry => entry.1 == key).map Prod.snd

/-- After an insertion the new entry is found under its key, and the others as before. -/
theorem get?_insert (map : KeyMap α) (key : String) (value : α) (name : String) :
    (map.insert key value).get? name = if key = name then some value else map.get? name := by
  have found (entries : List (String × α)) :
      ((insertEntry key value entries).find? fun entry => entry.1 == name) =
        if key = name then some (key, value) else entries.find? fun entry => entry.1 == name := by
    -- The induction follows the walk, which stops at the place of the key.
    induction entries with
    | nil => by_cases same : key = name <;> simp [insertEntry, same]
    | cons entry rest ih =>
      simp only [insertEntry]
      split
      · -- The new entry stands in front, where it is met first.
        by_cases same : key = name <;> simp [same]
      · split
        · -- The walk goes on, and its head has another key than the new one.
          rename_i after
          have apart : entry.1 ≠ key := fun same => String.lt_irrefl _ (same ▸ after)
          simp only [List.find?_cons, ih]
          by_cases same : key = name
          · have differs : (entry.1 == name) = false := beq_false_of_ne (same ▸ apart)
            simp [same, differs]
          · simp [same]
        · -- The new entry takes the place of the old one under the same key.
          rename_i notBefore notAfter
          have same : key = entry.1 :=
            String.le_antisymm (String.not_lt.mp notAfter) (String.not_lt.mp notBefore)
          simp only [List.find?_cons, ← same]
          by_cases here : key = name
          · simp [here]
          · simp [here, beq_false_of_ne here]
  rw [get?, insert, found]
  by_cases same : key = name <;> simp [same, get?]

/-- The map of some entries has the last entry of each key. -/
theorem get?_ofList (entries : List (String × α)) (name : String) :
    (ofList entries).get? name =
      (entries.reverse.find? fun entry => entry.1 == name).map Prod.snd := by
  -- The induction goes along the entries, which are put into a map that already has some.
  have general (map : KeyMap α) :
      (entries.foldl (fun map entry => map.insert entry.1 entry.2) map).get? name =
        ((entries.reverse.find? fun entry => entry.1 == name).map Prod.snd).or (map.get? name) := by
    induction entries generalizing map with
    | nil => rfl
    | cons entry rest ih =>
      rw [List.foldl_cons, ih, get?_insert, List.reverse_cons, List.find?_append]
      cases rest.reverse.find? fun entry => entry.1 == name with
      -- A later entry of the key is found first, whatever the map had.
      | some later => rfl
      | none => by_cases same : entry.1 = name <;> simp [same]
  exact (general empty).trans (Option.or_none ..)

/-- A key has an entry. -/
def contains (map : KeyMap α) (key : String) : Bool :=
  map.entries.any fun entry => entry.1 == key

/-- Nothing is in the map. -/
def isEmpty (map : KeyMap α) : Bool := map.entries.isEmpty

/-- The keys, smallest first. -/
def keys (map : KeyMap α) : List String := map.entries.map Prod.fst

/-- The map of those entries that pass a test. -/
def filter (keep : String → α → Bool) (map : KeyMap α) : KeyMap α :=
  ⟨map.entries.filter fun entry => keep entry.1 entry.2,
    map.ordered.sublist (List.filter_sublist.map Prod.fst)⟩

/-- Entries changed one by one from the front, stopping at the first that fails. -/
def traverseEntries (change : String → α → Except ε β) :
    (entries : List (String × α)) →
      Except ε { result : List (String × β) // result.map Prod.fst = entries.map Prod.fst }
  | [] => .ok ⟨[], rfl⟩
  | (key, value) :: rest =>
    -- The keys stay, so the order that the map promises stays with them.
    match change key value with
    | .error error => .error error
    | .ok changed =>
      match traverseEntries change rest with
      | .error error => .error error
      | .ok ⟨tail, same⟩ => .ok ⟨(key, changed) :: tail, by simp [same]⟩

/-- The map with every value changed, or the failure of the smallest key that fails. -/
def traverse (change : String → α → Except ε β) (map : KeyMap α) : Except ε (KeyMap β) :=
  match traverseEntries change map.entries with
  | .error error => .error error
  | .ok ⟨result, same⟩ => .ok ⟨result, same ▸ map.ordered⟩

end KeyMap

end VolumeGroups
