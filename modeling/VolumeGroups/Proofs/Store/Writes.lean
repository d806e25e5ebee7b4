import VolumeGroups.Proofs.Store.Table
import VolumeGroups.Store

/-! What each operation of a store does to the objects found under its keys, and what it leaves
alone. -/

namespace VolumeGroups

/-- A type of stored objects whose parts read back as they were put. -/
class LawfulStored (α : Type) [Stored α] : Prop where
  /-- A store has the table it was given. -/
  table_withTable : ∀ (table : Table α) (store : Store),
    Stored.table (Stored.withTable table store) = table
  /-- A table given to a store does not count as a write. -/
  revision_withTable : ∀ (table : Table α) (store : Store),
    (Stored.withTable table store).revision = store.revision
  /-- An object has the shared part it was given. -/
  metadata_withMetadata : ∀ (metadata : Metadata) (object : α),
    Resource.metadata (Resource.withMetadata metadata object) = metadata
  /-- The observed state is no part of what objects share. -/
  metadata_withStatusOf : ∀ object source : α,
    Resource.metadata (Stored.withStatusOf object source) = Resource.metadata object

instance : LawfulStored Group :=
  ⟨fun _ _ => rfl, fun _ _ => rfl, fun _ _ => rfl, fun _ _ => rfl⟩

instance : LawfulStored Content :=
  ⟨fun _ _ => rfl, fun _ _ => rfl, fun _ _ => rfl, fun _ _ => rfl⟩

instance : LawfulStored Claim :=
  ⟨fun _ _ => rfl, fun _ _ => rfl, fun _ _ => rfl, fun _ _ => rfl⟩

/-- An object that is being deleted and that no mark holds any more. -/
def Metadata.isForsaken (metadata : Metadata) : Bool :=
  metadata.isTerminating && (metadata.finalizers.getD []).isEmpty

/-- The version an object carries. -/
def Resource.version {α : Type} [Resource α] (object : α) : Option String :=
  (Resource.metadata object).resourceVersion

namespace Store

variable {α : Type} [Stored α]

/-- An object with the version that the store gives it next. -/
def stamped (store : Store) (object : α) : α :=
  let version := some (toString (store.revision + 1))
  Resource.withMetadata { Resource.metadata object with resourceVersion := version } object

/-- The objects listed for a namespace are those found there under any key. -/
theorem mem_list {store : Store} {space : String} {object : α} :
    object ∈ store.list space ↔
      (∃ key, store.find? key = some object) ∧ (Resource.metadata object).namespace = some space := by
  -- Listing filters the values of the table.
  simp [list, find?, Table.mem_values]

/-- Reading an object by namespace and name finds it under their key. -/
theorem get_eq_ok {store : Store} {name space : String} {object : α} :
    store.get name space = .ok object ↔ store.find? (space ++ "/" ++ name) = some object := by
  -- The reading fails exactly where nothing is found.
  simp only [get]
  cases store.find? (α := α) (space ++ "/" ++ name) <;> simp

/-- Reading an object by namespace and name fails only where nothing is found under their key. -/
theorem find?_of_get_eq_error {store : Store} {name space : String} {error : ClusterError}
    (failed : store.get (α := α) name space = .error error) :
    store.find? (α := α) (space ++ "/" ++ name) = none := by
  simp only [get] at failed
  split at failed
  · cases failed
  · assumption

/-- Saving gives the stamped object. -/
@[simp] theorem save_fst (store : Store) (object : α) :
    (store.save object).1 = store.stamped object := rfl

/-- Overwriting answers with the stamped object. -/
@[simp] theorem overwrite_fst (store : Store) (object : α) :
    (store.overwrite object).1 = .ok (store.stamped object) := by
  -- Both ways of ending answer the same.
  simp only [overwrite]
  split <;> rfl

/-- A write that starts from a version either finds that version or fails. -/
theorem current_cases (store : Store) (object : α) :
    (∃ error, store.current object = .error error) ∨
      ∃ stored, store.find? (Resource.key object) = some stored ∧
        Resource.version stored = Resource.version object ∧ store.current object = .ok stored := by
  -- The two checks are whether the object is there and whether it has the version.
  simp only [current, Resource.version]
  cases store.find? (α := α) (Resource.key object) with
  | none => exact Or.inl ⟨_, rfl⟩
  | some stored =>
    by_cases same :
        (Resource.metadata stored).resourceVersion = (Resource.metadata object).resourceVersion
    · exact Or.inr ⟨stored, rfl, same, by simp [same]⟩
    · exact Or.inl ⟨_, by simp [same]; rfl⟩

/-- Replacing either fails without effect or overwrites an object of the same version. -/
theorem replace_cases (store : Store) (object : α) :
    (∃ error, store.replace object = (.error error, store)) ∨
      ∃ stored, store.find? (Resource.key object) = some stored ∧
        Resource.version stored = Resource.version object ∧
        store.replace object = store.overwrite (Stored.withStatusOf object stored) := by
  -- All depends on the check of the version.
  rcases current_cases store object with ⟨error, failed⟩ | ⟨stored, found, same, current⟩
  · exact Or.inl ⟨error, by simp [replace, failed]⟩
  · exact Or.inr ⟨stored, found, same, by simp [replace, current]⟩

/-- Replacing a state either fails without effect or overwrites an object of the same version. -/
theorem replaceStatus_cases (store : Store) (object : α) :
    (∃ error, store.replaceStatus object = (.error error, store)) ∨
      ∃ stored, store.find? (Resource.key object) = some stored ∧
        Resource.version stored = Resource.version object ∧
        store.replaceStatus object = store.overwrite (Stored.withStatusOf stored object) := by
  -- The same check comes first, and then the states change places.
  rcases current_cases store object with ⟨error, failed⟩ | ⟨stored, found, same, current⟩
  · exact Or.inl ⟨error, by simp [replaceStatus, failed]⟩
  · exact Or.inr ⟨stored, found, same, by simp [replaceStatus, current]⟩

/-- A replacement fails without effect, or answers with the object that it stores. -/
theorem replace_answers {store after : Store} {object : α} {answer : Except ClusterError α}
    (done : (answer, after) = store.replace object) :
    (∃ error, answer = .error error ∧ after = store) ∨
      ∃ stored, store.find? (Resource.key object) = some stored ∧
        Resource.version stored = Resource.version object ∧
        answer = .ok (store.stamped (Stored.withStatusOf object stored)) ∧
        after = (store.overwrite (Stored.withStatusOf object stored)).2 := by
  -- The answer and the store after it are the two parts of one result.
  rcases replace_cases store object with ⟨error, failed⟩ | ⟨stored, found, same, replaced⟩
  · exact Or.inl ⟨error, Prod.mk.inj (done.trans failed)⟩
  · rw [replaced] at done
    exact Or.inr ⟨stored, found, same, (congrArg Prod.fst done).trans (overwrite_fst _ _),
      congrArg Prod.snd done⟩

/-- A replacement of a state fails without effect, or answers with the object that it stores. -/
theorem replaceStatus_answers {store after : Store} {object : α} {answer : Except ClusterError α}
    (done : (answer, after) = store.replaceStatus object) :
    (∃ error, answer = .error error ∧ after = store) ∨
      ∃ stored, store.find? (Resource.key object) = some stored ∧
        Resource.version stored = Resource.version object ∧
        answer = .ok (store.stamped (Stored.withStatusOf stored object)) ∧
        after = (store.overwrite (Stored.withStatusOf stored object)).2 := by
  -- The store answers with what it has stored, stamped with a new version.
  rcases replaceStatus_cases store object with ⟨error, failed⟩ | ⟨stored, found, same, replaced⟩
  · exact Or.inl ⟨error, Prod.mk.inj (done.trans failed)⟩
  · rw [replaced] at done
    exact Or.inr ⟨stored, found, same, (congrArg Prod.fst done).trans (overwrite_fst _ _),
      congrArg Prod.snd done⟩

/-- A new object with the identity it is stored under. -/
def identified (object : α) : α :=
  let metadata := Resource.metadata object
  let uid := metadata.uid.getD ("uid-" ++ Resource.displayName object)
  Resource.withMetadata { metadata with uid := some uid } object

/-- Creating either fails without effect or saves the object under a key that was free. -/
theorem create_cases (store : Store) (object : α) :
    (∃ error, store.create object = (.error error, store)) ∨
      store.find? (α := α) (Resource.key object) = none ∧
        store.create object =
          (.ok (store.stamped (identified object)), (store.save (identified object)).2) := by
  -- All depends on whether the key is taken.
  simp only [create]
  cases found : store.find? (α := α) (Resource.key object) with
  | some stored => exact Or.inl ⟨_, rfl⟩
  | none => exact Or.inr ⟨rfl, rfl⟩

/-- An object set to terminate. -/
def ending (object : α) : α :=
  Resource.withMetadata { Resource.metadata object with deletionTimestamp := some now } object

/-- Deleting fails, removes an unmarked object, or lets an object stay as one being deleted. -/
theorem delete_cases (store : Store) (name space : String) :
    (∃ error, store.delete α name space = (.error error, store)) ∨
      ∃ stored : α, store.find? (space ++ "/" ++ name) = some stored ∧
        (((Resource.metadata stored).finalizers.getD [] = [] ∧
            store.delete α name space = (.ok (), store.remove α (space ++ "/" ++ name))) ∨
          store.delete α name space = (.ok (), store) ∨
          ((Resource.metadata stored).finalizers.getD [] ≠ [] ∧
            store.delete α name space = (.ok (), (store.save (ending stored)).2))) := by
  -- The cases are those of the definition.
  simp only [delete, get]
  -- Nothing is deleted that is not there.
  cases found : store.find? (α := α) (space ++ "/" ++ name) with
  | none => exact Or.inl ⟨_, rfl⟩
  | some stored =>
    refine Or.inr ⟨stored, rfl, ?_⟩
    -- An object that no mark holds goes at once.
    by_cases free : ((Resource.metadata stored).finalizers.getD []).isEmpty
    · exact Or.inl ⟨List.isEmpty_iff.mp free, by simp [free]⟩
    · by_cases terminating : (Resource.metadata stored).isTerminating
      · exact Or.inr (Or.inl (by simp [free, terminating]))
      · refine Or.inr (Or.inr ⟨?_, by simp [free, terminating, ending]⟩)
        simpa [List.isEmpty_iff] using free

/-- Deleting fails only if the object is not there. -/
theorem isNotFound_of_delete {store : Store} {name space : String} {error : ClusterError}
    (failed : (store.delete α name space).1 = .error error) : error.isNotFound = true := by
  cases found : store.find? (α := α) (space ++ "/" ++ name) with
  | none =>
    simp only [delete, get, found] at failed
    obtain rfl := Except.error.inj failed
    rfl
  | some stored =>
    -- An object that is there is removed, or it stays as one that is being deleted.
    simp only [delete, get, found] at failed
    split at failed
    · cases failed
    · split at failed <;> cases failed

section Lawful

variable [LawfulStored α]

/-- A stamp changes nothing of what objects share but the version. -/
theorem metadata_stamped (store : Store) (object : α) :
    Resource.metadata (store.stamped object) =
      { Resource.metadata object with resourceVersion := some (toString (store.revision + 1)) } := by
  simp only [stamped, LawfulStored.metadata_withMetadata]

/-- A stamp leaves an object under its key. -/
@[simp] theorem key_stamped (store : Store) (object : α) :
    Resource.key (store.stamped object) = Resource.key object := by
  -- A key is made of the namespace and the name only.
  simp only [Resource.key, Metadata.key, metadata_stamped]

/-- Saving counts as one write. -/
@[simp] theorem revision_save (store : Store) (object : α) :
    (store.save object).2.revision = store.revision + 1 := by
  simp only [save, LawfulStored.revision_withTable]

/-- Saving puts the stamped object under its own key and leaves every other key alone. -/
theorem find?_save (store : Store) (object : α) (key : String) :
    (store.save object).2.find? key =
      if key = Resource.key object then some (store.stamped object) else store.find? key := by
  -- The stamped object goes into the table under the key it has after the stamp.
  have place := key_stamped store object
  simp only [stamped] at place
  simp only [save, find?, LawfulStored.table_withTable, Table.get?_set, place, stamped]

/-- Removing a key empties it and leaves every other key alone. -/
theorem find?_remove (store : Store) (removed key : String) :
    (store.remove α removed).find? key =
      if key = removed then (none : Option α) else store.find? key := by
  simp only [remove, find?, LawfulStored.table_withTable, Table.get?_erase]

/-- Removing an object does not count as a write. -/
@[simp] theorem revision_remove (store : Store) (key : String) :
    (store.remove α key).revision = store.revision := by
  simp only [remove, LawfulStored.revision_withTable]

/-- Overwriting counts as one write. -/
@[simp] theorem revision_overwrite (store : Store) (object : α) :
    (store.overwrite object).2.revision = store.revision + 1 := by
  simp only [overwrite]
  split
  · simp only [revision_remove, revision_save]
  · exact revision_save store object

/-- Overwriting leaves the stamped object under its key, or nothing if the object is forsaken. -/
theorem find?_overwrite (store : Store) (object : α) (key : String) :
    (store.overwrite object).2.find? key =
      if key = Resource.key object then
        if (Resource.metadata object).isForsaken then none else some (store.stamped object)
      else store.find? key := by
  -- Whether the object is forsaken does not depend on its version.
  have same : ((Resource.metadata (store.stamped object)).isTerminating
      && ((Resource.metadata (store.stamped object)).finalizers.getD []).isEmpty)
        = (Resource.metadata object).isForsaken := by
    simp only [metadata_stamped]
    rfl
  simp only [overwrite, save_fst, same]
  -- A forsaken object is gone as soon as it is written.
  by_cases forsaken : (Resource.metadata object).isForsaken = true
  · by_cases place : key = Resource.key object
    · simp only [if_pos forsaken, find?_remove, key_stamped, if_pos place]
    · simp only [if_pos forsaken, find?_remove, key_stamped, if_neg place, find?_save]
  · simp only [if_neg forsaken, find?_save]

/-- Overwriting leaves the stamped object under its key if the object is not forsaken. -/
theorem find?_overwrite_self {store : Store} {object : α}
    (held : (Resource.metadata object).isForsaken = false) :
    (store.overwrite object).2.find? (Resource.key object) = some (store.stamped object) := by
  -- Only a write that leaves the object forsaken removes it.
  rw [find?_overwrite, if_pos rfl, held]
  rfl

/-- What is found after an overwriting is the stamped object or was there before. -/
theorem find?_overwrite_eq_some {store : Store} {object found : α} {key : String}
    (reading : (store.overwrite object).2.find? key = some found) :
    (key = Resource.key object ∧ found = store.stamped object) ∨
      (key ≠ Resource.key object ∧ store.find? key = some found) := by
  -- A reading under another key does not see the write at all.
  rw [find?_overwrite] at reading
  by_cases place : key = Resource.key object
  · rw [if_pos place] at reading
    split at reading
    · cases reading
    · exact Or.inl ⟨place, (Option.some.inj reading).symm⟩
  · rw [if_neg place] at reading
    exact Or.inr ⟨place, reading⟩

/-- What is found after a saving is the stamped object or was there before. -/
theorem find?_save_eq_some {store : Store} {object found : α} {key : String}
    (reading : (store.save object).2.find? key = some found) :
    (key = Resource.key object ∧ found = store.stamped object) ∨
      (key ≠ Resource.key object ∧ store.find? key = some found) := by
  rw [find?_save] at reading
  -- Only the key that was saved under holds anything new.
  by_cases place : key = Resource.key object
  · rw [if_pos place] at reading
    exact Or.inl ⟨place, (Option.some.inj reading).symm⟩
  · rw [if_neg place] at reading
    exact Or.inr ⟨place, reading⟩

end Lawful

/-- A view of stores that no write of a type of objects touches. -/
def Untouched (α : Type) [Stored α] {β : Type} (view : Store → β) : Prop :=
  ∀ (store : Store) (table : Table α) (revision : Nat),
    view (Stored.withTable table { store with revision }) = view store

section Frame

variable {β : Type} {view : Store → β} (untouched : Untouched α view)
include untouched

/-- Saving leaves alone what it does not touch. -/
theorem Untouched.save (store : Store) (object : α) : view (store.save object).2 = view store :=
  untouched _ _ _

/-- Removing leaves alone what it does not touch. -/
theorem Untouched.remove (store : Store) (key : String) :
    view (store.remove α key) = view store :=
  untouched store _ store.revision

/-- Overwriting leaves alone what it does not touch. -/
theorem Untouched.overwrite (store : Store) (object : α) :
    view (store.overwrite object).2 = view store := by
  -- A write that removes the object saves it first.
  simp only [Store.overwrite]
  split
  · rw [untouched.remove, untouched.save]
  · exact untouched.save store object

/-- Replacing leaves alone what it does not touch. -/
theorem Untouched.replace (store : Store) (object : α) :
    view (store.replace object).2 = view store := by
  rcases replace_cases store object with ⟨error, failed⟩ | ⟨stored, found, same, done⟩
  · rw [failed]
  · rw [done, untouched.overwrite]

/-- Replacing a state leaves alone what it does not touch. -/
theorem Untouched.replaceStatus (store : Store) (object : α) :
    view (store.replaceStatus object).2 = view store := by
  rcases replaceStatus_cases store object with ⟨error, failed⟩ | ⟨stored, found, same, done⟩
  · rw [failed]
  · rw [done, untouched.overwrite]

/-- Creating leaves alone what it does not touch. -/
theorem Untouched.create (store : Store) (object : α) :
    view (store.create object).2 = view store := by
  rcases create_cases store object with ⟨error, failed⟩ | ⟨free, done⟩
  · rw [failed]
  · rw [done]
    exact untouched.save store _

/-- Deleting leaves alone what it does not touch. -/
theorem Untouched.delete (store : Store) (name space : String) :
    view (store.delete α name space).2 = view store := by
  -- A deletion removes the object, saves it with a time, or leaves it.
  rcases delete_cases (α := α) store name space with
    ⟨error, failed⟩ | ⟨stored, found, ⟨free, done⟩ | done | ⟨held, done⟩⟩
  · rw [failed]
  · rw [done]
    exact untouched.remove store _
  · rw [done]
  · rw [done]
    exact untouched.save store _

end Frame

end Store

end VolumeGroups
