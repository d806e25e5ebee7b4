import Mathlib.Data.List.Sort
import VolumeGroups.KeyMap
import VolumeGroups.Proofs.Provision.Encoding

/-! What is under the keys of a map, the first of its entries of some kind, and maps that are changed
entry by entry. -/

namespace VolumeGroups

namespace KeyMap

variable {α β ε : Type}

/-- The keys of a map increase along its entries. -/
theorem pairwise_entries (map : KeyMap α) : map.entries.Pairwise fun one other => one.1 < other.1 :=
  List.pairwise_map.mp map.ordered

/-- A value is under its key exactly if the map has the entry. -/
theorem get?_eq_some_iff {map : KeyMap α} {key : String} {value : α} :
    map.get? key = some value ↔ (key, value) ∈ map.entries := by
  obtain ⟨entries, ordered⟩ := map
  show (entries.find? fun entry => entry.1 == key).map Prod.snd = some value ↔ _
  -- The walk stops at the first entry of the key, and no later one has it.
  induction entries with
  | nil => simp
  | cons entry rest ih =>
    obtain ⟨name, worth⟩ := entry
    obtain ⟨larger, ordered⟩ := List.pairwise_cons.mp ordered
    by_cases same : name = key
    · -- The key is the first one, and larger keys follow it.
      subst same
      have alone : (name, value) ∉ rest := fun known =>
        String.lt_irrefl _ (larger name (List.mem_map_of_mem known))
      simp [alone, eq_comm]
    · -- Another key is looked for in the rest.
      rw [List.find?_cons_of_neg (by simpa using same), ih ordered, List.mem_cons]
      simp [Ne.symm same]

/-- Maps that have the same under every key are equal. -/
theorem eq_of_get? {one other : KeyMap α} (same : ∀ key, one.get? key = other.get? key) :
    one = other := by
  refine eq_of_entries ?_
  -- Lists in strict order are equal if they have the same entries.
  have irreflexive : Std.Irrefl fun one other : String × α => one.1 < other.1 :=
    ⟨fun entry => String.lt_irrefl entry.1⟩
  have antisymmetric : Std.Antisymm fun one other : String × α => one.1 < other.1 :=
    ⟨fun _ _ before after => absurd (String.lt_trans before after) (String.lt_irrefl _)⟩
  refine List.Pairwise.eq_of_mem_iff one.pairwise_entries other.pairwise_entries ?_
  rintro ⟨key, value⟩
  rw [← get?_eq_some_iff, ← get?_eq_some_iff, same]

/-- The first entry of some kind: its key has the least bytes of all keys whose entries are of that
kind. -/
structure IsFirst (map : KeyMap α) (kind : String → α → Prop) (key : String) (value : α) : Prop where
  found : map.get? key = some value
  fits : kind key value
  least : ∀ other worth, map.get? other = some worth → kind other worth →
    key.toUTF8.toList ≤ other.toUTF8.toList

/-- An entry of some kind is the first of it if none before it is. -/
theorem isFirst_of_split {map : KeyMap α} {kind : String → α → Prop} {entry : String × α}
    {before after : List (String × α)} (parts : map.entries = before ++ entry :: after)
    (spares : ∀ other ∈ before, ¬ kind other.1 other.2) (fits : kind entry.1 entry.2) :
    map.IsFirst kind entry.1 entry.2 := by
  refine ⟨get?_eq_some_iff.mpr (by simp [parts]), fits, ?_⟩
  intro other worth found wrong
  have known := get?_eq_some_iff.mp found
  -- The entries are ordered, so what comes first is smallest.
  have ordered := map.pairwise_entries
  rw [parts] at known ordered
  rcases List.mem_append.mp known with earlier | later
  · exact absurd wrong (spares _ earlier)
  · rcases List.mem_cons.mp later with rfl | later
    · exact List.le_refl _
    · have larger := (List.pairwise_cons.mp (List.pairwise_append.mp ordered).2.1).1 _ later
      exact List.le_of_lt (lt_iff_bytes_lt.mp larger)

/-- There is one first entry of a kind at most. -/
theorem IsFirst.unique {map : KeyMap α} {kind : String → α → Prop} {key other : String}
    {value worth : α} (first : map.IsFirst kind key value) (again : map.IsFirst kind other worth) :
    key = other :=
  String.le_antisymm (le_iff_bytes_le.mpr (first.least _ _ again.found again.fits))
    (le_iff_bytes_le.mpr (again.least _ _ first.found first.fits))

/-- Entries that are all changed have, under each key, what was there before in its changed form. -/
theorem find?_traverseEntries {change : String → α → Except ε β} {entries : List (String × α)}
    {result : { result : List (String × β) // result.map Prod.fst = entries.map Prod.fst }}
    (done : traverseEntries change entries = .ok result) (key : String) :
    Option.Rel (fun value worth => change key value = .ok worth)
      ((entries.find? fun entry => entry.1 == key).map Prod.snd)
      ((result.1.find? fun entry => entry.1 == key).map Prod.snd) := by
  -- The induction goes along the entries, all of which have been changed.
  induction entries with
  | nil =>
    cases done
    exact .none
  | cons entry rest ih =>
    obtain ⟨name, value⟩ := entry
    simp only [traverseEntries] at done
    split at done
    · cases done
    · rename_i worth changed
      split at done
      · cases done
      · rename_i others
        cases done
        by_cases same : name = key
        · subst same
          simpa using Option.Rel.some changed
        · simpa [same] using ih others

/-- A change that succeeds leaves the keys and changes what is under them. -/
theorem get?_traverse {change : String → α → Except ε β} {map : KeyMap α} {changed : KeyMap β}
    (done : map.traverse change = .ok changed) (key : String) :
    Option.Rel (fun value worth => change key value = .ok worth) (map.get? key) (changed.get? key) := by
  -- The map keeps its keys, and with them their order.
  unfold traverse at done
  split at done
  · cases done
  · rename_i all
    cases done
    exact find?_traverseEntries all key

/-- Entries that cannot all be changed fail as the first of them does that cannot be. -/
theorem traverseEntries_eq_error {change : String → α → Except ε β} {entries : List (String × α)}
    {error : ε} (failed : traverseEntries change entries = .error error) :
    ∃ before entry after, entries = before ++ entry :: after ∧
      (∀ other ∈ before, ¬ ∃ cause, change other.1 other.2 = .error cause) ∧
      change entry.1 entry.2 = .error error := by
  -- The induction goes along the entries, up to the first that cannot be changed.
  induction entries with
  | nil => cases failed
  | cons entry rest ih =>
    simp only [traverseEntries] at failed
    split at failed
    · rename_i refused
      cases failed
      exact ⟨[], entry, rest, rfl, by simp, refused⟩
    · rename_i worth changed
      split at failed
      · rename_i refused
        cases failed
        obtain ⟨before, other, after, rfl, spares, fails⟩ := ih refused
        exact ⟨entry :: before, other, after, rfl, by simpa [changed] using spares, fails⟩
      · cases failed

/-- A change that fails does so at the first entry that cannot be changed. -/
theorem traverse_eq_error {change : String → α → Except ε β} {map : KeyMap α} {error : ε}
    (failed : map.traverse change = .error error) :
    ∃ key value, map.IsFirst (fun key value => ∃ cause, change key value = .error cause) key value ∧
      change key value = .error error := by
  -- What fails is the walk through the entries.
  unfold traverse at failed
  split at failed
  · rename_i refused
    cases failed
    obtain ⟨before, entry, after, parts, spares, fails⟩ := traverseEntries_eq_error refused
    exact ⟨entry.1, entry.2, isFirst_of_split parts spares ⟨_, fails⟩, fails⟩
  · cases failed

end KeyMap

end VolumeGroups
