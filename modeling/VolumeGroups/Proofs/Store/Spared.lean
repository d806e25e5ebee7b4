import VolumeGroups.Rehearsal

/-! Changes of a store that spare the objects of a type: reading and writing such objects goes on as if
nothing had changed. -/

namespace VolumeGroups

/-- A change of stores leaves the objects of a type and the number of writes alone, and does the same
before and after such an object is written. -/
structure Stored.Spares (α : Type) [Stored α] (change : Store → Store) : Prop where
  table (store : Store) : Stored.table (α := α) (change store) = Stored.table store
  revision (store : Store) : (change store).revision = store.revision
  withTable (table : Table α) (store : Store) (revision : Nat) :
    Stored.withTable table { change store with revision } =
      change (Stored.withTable table { store with revision })

namespace Stored.Spares

variable {α : Type} [Stored α] {change : Store → Store} (spares : Spares α change) (store : Store)
include spares

/-- What is spared is found all the same. -/
theorem find? (key : String) : (change store).find? (α := α) key = store.find? key := by
  rw [Store.find?, spares.table, Store.find?]

/-- What is spared is read all the same. -/
theorem get (name «namespace» : String) :
    (change store).get (α := α) name «namespace» = store.get name «namespace» := by
  rw [Store.get, spares.find?, Store.get]

/-- What is spared is listed all the same. -/
theorem list («namespace» : String) :
    (change store).list (α := α) «namespace» = store.list «namespace» := by
  rw [Store.list, spares.table, Store.list]

/-- A write starts from the same object. -/
theorem current (object : α) : (change store).current object = store.current object := by
  rw [Store.current, spares.find?, Store.current]

/-- An object is saved in the same way, and the change goes on to the store after that. -/
theorem save (object : α) :
    (change store).save object = ((store.save object).1, change (store.save object).2) := by
  have after := spares.withTable
    ((Stored.table store).set (Resource.key (store.save object).1) (store.save object).1)
    store (store.revision + 1)
  -- The two tables are the same, and so is the number of the write.
  simp only [Store.save, spares.table, spares.revision]
  exact congrArg (Prod.mk (store.save object).1) after

/-- An object is removed in the same way. -/
theorem remove (key : String) : (change store).remove α key = change (store.remove α key) := by
  have after := spares.withTable ((Stored.table (α := α) store).erase key) store store.revision
  rw [Store.remove, spares.table, Store.remove]
  rw [← spares.revision] at after
  exact after.trans (by rw [spares.revision])

/-- An object is overwritten in the same way. -/
theorem overwrite (object : α) :
    (change store).overwrite object =
      ((store.overwrite object).1, change (store.overwrite object).2) := by
  simp only [Store.overwrite, spares.save, spares.remove]
  -- Whether the object only waits to be removed is seen from the object itself.
  split <;> rfl

/-- An object is replaced in the same way. -/
theorem replace (object : α) :
    (change store).replace object =
      ((store.replace object).1, change (store.replace object).2) := by
  -- The object is looked up in the same table, so it is refused or written in both.
  simp only [Store.replace, spares.current, spares.overwrite]
  cases store.current object with
  | error cause => rfl
  | ok stored => rfl

/-- The state of an object is replaced in the same way. -/
theorem replaceStatus (object : α) :
    (change store).replaceStatus object =
      ((store.replaceStatus object).1, change (store.replaceStatus object).2) := by
  -- For a state it is the same lookup.
  simp only [Store.replaceStatus, spares.current, spares.overwrite]
  cases store.current object with
  | error cause => rfl
  | ok stored => rfl

/-- An object is created in the same way. -/
theorem create (object : α) :
    (change store).create object =
      ((store.create object).1, change (store.create object).2) := by
  -- The key is taken in both stores or in none.
  simp only [Store.create, spares.find?, spares.save]
  cases store.find? (α := α) (Resource.key object) with
  | none => rfl
  | some stored => rfl

/-- An object is deleted in the same way. -/
theorem delete (name «namespace» : String) :
    (change store).delete α name «namespace» =
      ((store.delete α name «namespace»).1, change (store.delete α name «namespace»).2) := by
  simp only [Store.delete, spares.get, spares.save, spares.remove]
  cases store.get (α := α) name «namespace» with
  | error cause => rfl
  | ok object =>
    -- A mark on the object decides what becomes of it, whatever else the store holds.
    dsimp only
    split
    · rfl
    · split <;> rfl

end Stored.Spares

/-- A change of stores spares all objects that a call reads or writes. -/
def Call.SparedBy (change : Store → Store) : Call → Prop
  -- Each call reads or writes objects of one type only.
  | .getGroup .. | .listGroups _ | .replaceGroup _ | .replaceGroupStatus _ =>
    Stored.Spares Group change
  | .getClass _ => Stored.Spares GroupClass change
  | .getContent .. | .createContent _ | .replaceContent _ | .replaceContentStatus _
  | .deleteContent .. => Stored.Spares Content change
  | .getSecret .. => Stored.Spares Secret change
  | .listClaims _ | .replaceClaim _ => Stored.Spares Claim change
  | .getVolume _ => Stored.Spares Volume change
  | .getStorageClass _ => Stored.Spares StorageClass change
  -- Events, the driver and the clock have nothing to do with the store.
  | .record _ | .createDriverGroup .. | .deleteDriverGroup .. | .modifyMembership .. | .readClock =>
    True

/-- A call is carried out in the same way where everything it reads or writes is spared. -/
theorem Rehearsal.serve_of_sparedBy {change : Store → Store} {request : Call}
    (spared : request.SparedBy change) (store : Store) :
    (serve { store := change store } request).1 = (serve { store } request).1 ∧
      (serve { store := change store } request).2.store =
        change (serve { store } request).2.store := by
  -- What is spared is looked at and written in the same way, one operation at a time.
  cases request with
  | getGroup | getClass | getContent | getSecret | getVolume | getStorageClass =>
    exact ⟨spared.get .., rfl⟩
  | listGroups | listClaims => exact ⟨congrArg Except.ok (spared.list ..), rfl⟩
  | replaceGroup | replaceContent | replaceClaim => exact Prod.mk.inj (spared.replace ..)
  | replaceGroupStatus | replaceContentStatus => exact Prod.mk.inj (spared.replaceStatus ..)
  | createContent => exact Prod.mk.inj (spared.create ..)
  | deleteContent => exact Prod.mk.inj (spared.delete ..)
  | record | createDriverGroup | deleteDriverGroup | modifyMembership | readClock =>
    exact ⟨rfl, rfl⟩

end VolumeGroups
