import VolumeGroups.Proofs.Store.Writes

/-! Versions are never given out twice, so an object that still has the version it was read with is
the object that was read. -/

namespace VolumeGroups

/-- Two numbers written alike are the same. -/
theorem toString_injective {first second : Nat} (same : toString first = toString second) :
    first = second := by
  -- Reading the digits back gives the number.
  have digits : Nat.toDigits 10 first = Nat.toDigits 10 second := by
    simpa [Nat.repr] using congrArg String.toList same
  have read := congrArg (fun text => Nat.ofDigitChars 10 text 0) digits
  simpa only [Nat.ofDigitChars_ten_toDigits] using read

namespace Store

/-- Every object of a type lies under its own key. -/
def Placed (α : Type) [Stored α] (store : Store) : Prop :=
  ∀ (key : String) (object : α), store.find? key = some object → Resource.key object = key

/-- Every object of a type lies under its own key, with a version that will not be given out
again. -/
structure Orderly (α : Type) [Stored α] (store : Store) : Prop where
  /-- An object is found under its own key only. -/
  placed : ∀ {key : String} {object : α}, store.find? key = some object →
    Resource.key object = key
  /-- No object carries a version that is still to be given out. -/
  spent : ∀ {key : String} {object : α} {number : Nat}, store.find? key = some object →
    store.revision < number → Resource.version object ≠ some (toString number)

/-- One store comes before another, so that what is new of a type carries a version given out in
between. -/
structure Precedes (α : Type) [Stored α] (earlier later : Store) : Prop where
  /-- Writes are only ever added. -/
  revision : earlier.revision ≤ later.revision
  /-- An object was there before, or its version is one of those given out in between. -/
  fresh : ∀ {key : String} {object : α}, later.find? key = some object →
    earlier.find? key = some object ∨ ∃ number, earlier.revision < number ∧
      number ≤ later.revision ∧ Resource.version object = some (toString number)

variable {α : Type} [Stored α]

/-- A store comes before itself. -/
@[refl] theorem Precedes.refl (store : Store) : store.Precedes α store :=
  ⟨Nat.le_refl _, Or.inl⟩

/-- What comes before a store comes before all that follows it. -/
theorem Precedes.trans {first second third : Store} (before : first.Precedes α second)
    (after : second.Precedes α third) : first.Precedes α third := by
  -- A version of the later stretch is as new to the first store as one of the earlier stretch.
  refine ⟨Nat.le_trans before.revision after.revision, ?_⟩
  intro key object found
  rcases after.fresh found with kept | ⟨number, above, within, version⟩
  · rcases before.fresh kept with kept | ⟨number, above, within, version⟩
    · exact Or.inl kept
    · exact Or.inr ⟨number, above, Nat.le_trans within after.revision, version⟩
  · exact Or.inr ⟨number, Nat.lt_of_le_of_lt before.revision above, within, version⟩

/-- Writes that leave a type's table alone add nothing new to it. -/
theorem Precedes.of_table {earlier later : Store} (revision : earlier.revision ≤ later.revision)
    (table : Stored.table (α := α) later = Stored.table earlier) : earlier.Precedes α later := by
  -- Whatever is found was there before, so nothing needs a new version.
  refine ⟨revision, fun {key object} found => Or.inl ?_⟩
  simpa only [find?, table] using found

/-- An object found with the version it was read with is the object that was read, and was there
all the time. -/
theorem Orderly.unchanged {past middle now : Store} (orderly : past.Orderly α)
    (before : past.Precedes α middle) (after : middle.Precedes α now) {key : String}
    {object stored : α} (read : past.find? key = some object)
    (found : now.find? key = some stored)
    (same : Resource.version stored = Resource.version object) :
    stored = object ∧ middle.find? key = some object := by
  -- A newer object would carry a version that the past store had yet to give out.
  have halfway : middle.find? key = some stored := by
    rcases after.fresh found with kept | ⟨number, above, within, version⟩
    · exact kept
    · have unspent := orderly.spent read (Nat.lt_of_le_of_lt before.revision above)
      exact absurd (same ▸ version) unspent
  rcases before.fresh halfway with kept | ⟨number, above, within, version⟩
  · have equal : stored = object := by simpa [read] using kept.symm
    exact ⟨equal, equal ▸ halfway⟩
  · exact absurd (same ▸ version) (orderly.spent read above)

/-- An object was stored at some time before. -/
def Recalls (store : Store) (object : α) : Prop :=
  ∃ (past : Store) (key : String), past.Orderly α ∧ past.find? key = some object ∧ past.Precedes α store

/-- What a store recalls is recalled later on. -/
theorem Recalls.later {earlier later : Store} {object : α} (recalls : earlier.Recalls object)
    (precedes : earlier.Precedes α later) : later.Recalls object := by
  obtain ⟨past, key, orderly, read, before⟩ := recalls
  exact ⟨past, key, orderly, read, before.trans precedes⟩

/-- A store recalls what is found in it. -/
theorem Orderly.recalls {store : Store} (orderly : store.Orderly α) {key : String} {object : α}
    (found : store.find? key = some object) : store.Recalls object :=
  ⟨store, key, orderly, found, .refl _⟩

/-- An object listed for a namespace is found under its own key. -/
theorem Placed.found_of_mem_list {store : Store} (placed : store.Placed α) {space : String}
    {object : α} (known : object ∈ store.list space) :
    store.find? (Resource.key object) = some object := by
  obtain ⟨⟨key, found⟩, _⟩ := mem_list.mp known
  exact (placed key object found).symm ▸ found

/-- No two objects that are listed for a namespace have one key. -/
theorem Placed.nodup_list {store : Store} (placed : store.Placed α) (space : String) :
    ((store.list space).map (Resource.key (α := α))).Nodup := by
  -- Each object lies under its own key, and the keys of a table are distinct.
  have keys : (Stored.table (α := α) store).values.map Resource.key =
      (Stored.table (α := α) store).entries.map Prod.fst := by
    rw [Table.values, List.map_map]
    exact List.map_congr_left fun entry listed => placed _ _ (Table.get?_of_mem listed)
  have distinct : ((Stored.table (α := α) store).values.map Resource.key).Nodup :=
    keys ▸ (Stored.table store).distinct
  exact distinct.sublist (List.filter_sublist.map Resource.key)

/-- Where objects are in order, they lie under their own keys. -/
theorem Orderly.isPlaced {store : Store} (orderly : store.Orderly α) : store.Placed α :=
  fun _ _ found => orderly.placed found

/-- An object in order that is listed for a namespace is found under its own key. -/
theorem Orderly.found_of_mem_list {store : Store} (orderly : store.Orderly α) {space : String}
    {object : α} (known : object ∈ store.list space) :
    store.find? (Resource.key object) = some object :=
  orderly.isPlaced.found_of_mem_list known

/-- A store whose entries lie under their own keys with versions that were given out is in order. -/
theorem Orderly.of_entries {store : Store}
    (entries : ∀ entry ∈ (Stored.table (α := α) store).entries, Resource.key entry.2 = entry.1 ∧
      ∃ number ∈ List.range (store.revision + 1),
        Resource.version entry.2 = some (toString number)) : store.Orderly α where
  -- Keys and versions of what is found are those of an entry.
  placed found := (entries _ (Table.mem_of_get? found)).1
  spent {key object number} found above same := by
    obtain ⟨given, known, version⟩ := (entries _ (Table.mem_of_get? found)).2
    have equal := toString_injective (Option.some.inj (version.symm.trans same))
    have within := List.mem_range.mp known
    omega

/-- No two objects in order that are listed for a namespace have one key. -/
theorem Orderly.nodup_list {store : Store} (orderly : store.Orderly α) (space : String) :
    ((store.list space).map (Resource.key (α := α))).Nodup :=
  orderly.isPlaced.nodup_list space

/-- An object that is recalled and found again with its version is there unchanged, and was there
at every moment since it was recalled. -/
theorem Recalls.unchanged {store now : Store} {object stored : α} (recalls : store.Recalls object)
    (after : store.Precedes α now) (found : now.find? (Resource.key object) = some stored)
    (same : Resource.version stored = Resource.version object) :
    stored = object ∧ store.find? (Resource.key object) = some object := by
  -- It was stored under its own key, which is where it is looked for now.
  obtain ⟨past, key, orderly, read, before⟩ := recalls
  obtain rfl := orderly.placed read
  exact orderly.unchanged before after read found same

/-- Replacing a recalled object fails without effect, or overwrites that very object. -/
theorem Recalls.replace {store after : Store} {object later : α} {answer : Except ClusterError α}
    (recalls : store.Recalls object) (key : Resource.key later = Resource.key object)
    (version : Resource.version later = Resource.version object)
    (done : (answer, after) = store.replace later) :
    (∃ error, answer = .error error ∧ after = store) ∨
      store.find? (Resource.key object) = some object ∧
        answer = .ok (store.stamped (Stored.withStatusOf later object)) ∧
        after = (store.overwrite (Stored.withStatusOf later object)).2 := by
  rcases replace_answers done with failed | ⟨stored, found, same, answered, wrote⟩
  · exact Or.inl failed
  · -- The version is still that of the recalled object, so nobody wrote it since.
    rw [key] at found
    obtain ⟨rfl, _⟩ := recalls.unchanged (.refl _) found (same.trans version)
    exact Or.inr ⟨found, answered, wrote⟩

/-- Replacing the state of a recalled object fails without effect, or overwrites that very
object. -/
theorem Recalls.replaceStatus {store after : Store} {object later : α}
    {answer : Except ClusterError α} (recalls : store.Recalls object)
    (key : Resource.key later = Resource.key object)
    (version : Resource.version later = Resource.version object)
    (done : (answer, after) = store.replaceStatus later) :
    (∃ error, answer = .error error ∧ after = store) ∨
      store.find? (Resource.key object) = some object ∧
        answer = .ok (store.stamped (Stored.withStatusOf object later)) ∧
        after = (store.overwrite (Stored.withStatusOf object later)).2 := by
  -- The object in the store has the version that was recalled, hence is the recalled one.
  rcases replaceStatus_answers done with failed | ⟨stored, found, same, answered, wrote⟩
  · exact Or.inl failed
  · rw [key] at found
    obtain ⟨rfl, _⟩ := recalls.unchanged (.refl _) found (same.trans version)
    exact Or.inr ⟨found, answered, wrote⟩

/-- Order lasts as long as objects are put under their own keys. -/
theorem Orderly.of_precedes {earlier later : Store} (orderly : earlier.Orderly α)
    (precedes : earlier.Precedes α later)
    (placed : ∀ {key : String} {object : α}, later.find? key = some object →
      Resource.key object = key) : later.Orderly α := by
  -- A version that was given out is not above the number of writes.
  refine ⟨placed, ?_⟩
  intro key object number found above
  rcases precedes.fresh found with kept | ⟨given, _, within, version⟩
  · exact orderly.spent kept (Nat.lt_of_le_of_lt precedes.revision above)
  · rw [version]
    intro same
    have equal := toString_injective (Option.some.inj same)
    omega

section Lawful

variable [LawfulStored α]

/-- A stamped object carries the version of the next write. -/
theorem version_stamped (store : Store) (object : α) :
    Resource.version (store.stamped object) = some (toString (store.revision + 1)) := by
  simp only [Resource.version, metadata_stamped]

/-- What a saved store has anew is the saved object. -/
theorem precedes_save (store : Store) (object : α) : store.Precedes α (store.save object).2 := by
  -- What is found is the saved object, with the version of this write, or was there before.
  refine ⟨by simp, ?_⟩
  intro key found reading
  rw [find?_save] at reading
  split at reading
  · obtain rfl := Option.some.inj reading
    exact Or.inr ⟨store.revision + 1, by omega, by simp, version_stamped store object⟩
  · exact Or.inl reading

/-- Removing an object adds nothing new. -/
theorem precedes_remove (store : Store) (key : String) :
    store.Precedes α (store.remove α key) := by
  -- What is found after the removal was found before it.
  refine ⟨by simp, ?_⟩
  intro other found reading
  rw [find?_remove] at reading
  split at reading
  · cases reading
  · exact Or.inl reading

/-- What an overwritten store has anew is the new object. -/
theorem precedes_overwrite (store : Store) (object : α) :
    store.Precedes α (store.overwrite object).2 := by
  -- A write that removes the object saves it first.
  simp only [overwrite]
  split
  · exact (precedes_save store object).trans (precedes_remove _ _)
  · exact precedes_save store object

/-- What a store has anew after a replacement is the new object. -/
theorem precedes_replace (store : Store) (object : α) :
    store.Precedes α (store.replace object).2 := by
  rcases replace_cases store object with ⟨error, failed⟩ | ⟨stored, _, _, done⟩
  · rw [failed]
  · rw [done]
    exact precedes_overwrite store _

/-- What a store has anew after the replacement of a state is the new object. -/
theorem precedes_replaceStatus (store : Store) (object : α) :
    store.Precedes α (store.replaceStatus object).2 := by
  rcases replaceStatus_cases store object with ⟨error, failed⟩ | ⟨stored, _, _, done⟩
  · rw [failed]
  · rw [done]
    exact precedes_overwrite store _

/-- What a store has anew after a creation is the new object. -/
theorem precedes_create (store : Store) (object : α) :
    store.Precedes α (store.create object).2 := by
  rcases create_cases store object with ⟨error, failed⟩ | ⟨_, done⟩
  · rw [failed]
  · rw [done]
    exact precedes_save store _

/-- What a store has anew after a deletion is the object that is being deleted. -/
theorem precedes_delete (store : Store) (name space : String) :
    store.Precedes α (store.delete α name space).2 := by
  -- A deletion adds nothing but the object that is set to terminate.
  rcases delete_cases (α := α) store name space with
    ⟨error, failed⟩ | ⟨stored, _, ⟨_, done⟩ | done | ⟨_, done⟩⟩
  · rw [failed]
  · rw [done]
    exact precedes_remove store _
  · rw [done]
  · rw [done]
    exact precedes_save store _

/-- Saving keeps objects under their own keys. -/
theorem Orderly.save {store : Store} (orderly : store.Orderly α) (object : α) :
    (store.save object).2.Orderly α := by
  -- The saved object lies under its own key, and the others stay where they are.
  refine orderly.of_precedes (precedes_save store object) ?_
  intro key found reading
  rw [find?_save] at reading
  split at reading
  · rename_i place
    obtain rfl := Option.some.inj reading
    simpa using place.symm
  · exact orderly.placed reading

/-- Removing keeps objects under their own keys. -/
theorem Orderly.remove {store : Store} (orderly : store.Orderly α) (key : String) :
    (store.remove α key).Orderly α := by
  -- The objects that are left lie where they lay.
  refine orderly.of_precedes (precedes_remove store key) ?_
  intro other found reading
  rw [find?_remove] at reading
  split at reading
  · cases reading
  · exact orderly.placed reading

/-- Overwriting keeps objects under their own keys. -/
theorem Orderly.overwrite {store : Store} (orderly : store.Orderly α) (object : α) :
    (store.overwrite object).2.Orderly α := by
  -- A write that removes the object saves it first.
  simp only [Store.overwrite]
  split
  · exact (orderly.save object).remove _
  · exact orderly.save object

end Lawful

/-- Order among the objects of a type depends on their table and the number of writes only. -/
theorem Orderly.of_table {earlier later : Store} (orderly : earlier.Orderly α)
    (revision : earlier.revision ≤ later.revision)
    (table : Stored.table (α := α) later = Stored.table earlier) : later.Orderly α := by
  refine orderly.of_precedes (.of_table revision table) ?_
  intro key object found
  exact orderly.placed (by simpa only [find?, table] using found)

end Store

end VolumeGroups
