import VolumeGroups.Proofs.Store.Versions

/-! Stores that are written by many hands, where every write of a group, a claim or a content takes a
version of its own and leaves the object under its own key. -/

namespace VolumeGroups

namespace Store

/-- One store comes before another, in which every object of a type lies under its own key and is an
old one or carries a version given out in between. -/
structure Renews (α : Type) [Stored α] (earlier later : Store) : Prop
    extends earlier.Precedes α later where
  placed : ∀ {key : String} {object : α}, later.find? key = some object → Resource.key object = key

/-- Groups, claims and contents lie under their own keys, with versions that will not be given out
again. -/
structure Ordered (store : Store) : Prop where
  groups : store.Orderly Group
  claims : store.Orderly Claim
  contents : store.Orderly Content

/-- What anybody may do to a store: groups, claims and contents may come, change and go as long as
versions are not given out twice, and whatever else is stored may change in any way. -/
structure Advances (earlier later : Store) : Prop where
  groups : earlier.Renews Group later
  claims : earlier.Renews Claim later
  contents : earlier.Renews Content later

section Renewal

variable {α : Type} [Stored α] {store first second third : Store}

/-- Objects under their own keys are still there when nothing is written. -/
theorem Orderly.renews (orderly : store.Orderly α) : store.Renews α store :=
  ⟨.refl store, orderly.placed⟩

/-- What is new after two stretches is new after both of them together. -/
theorem Renews.trans (before : first.Precedes α second) (after : second.Renews α third) :
    first.Renews α third :=
  ⟨before.trans after.toPrecedes, after.placed⟩

/-- A store that renews an orderly one is in order. -/
theorem Renews.orderly (renews : first.Renews α second) (orderly : first.Orderly α) :
    second.Orderly α :=
  orderly.of_precedes renews.toPrecedes renews.placed

/-- Writes that leave a type's table alone renew nothing in it. -/
theorem Orderly.renews_of_table {later : Store} (orderly : store.Orderly α)
    (revision : store.revision ≤ later.revision)
    (table : Stored.table (α := α) later = Stored.table store) : store.Renews α later :=
  ⟨.of_table revision table, (orderly.of_table revision table).placed⟩

variable [LawfulStored α] (orderly : store.Orderly α)
include orderly

/-- Overwriting renews one object at most. -/
theorem Orderly.renews_overwrite (object : α) : store.Renews α (store.overwrite object).2 :=
  ⟨precedes_overwrite store object, (orderly.overwrite object).placed⟩

/-- Replacing renews one object at most. -/
theorem Orderly.renews_replace (object : α) : store.Renews α (store.replace object).2 := by
  -- A replacement fails and leaves the store, or overwrites the object.
  rcases replace_cases store object with ⟨error, failed⟩ | ⟨stored, _, _, done⟩
  · rw [failed]
    exact orderly.renews
  · rw [done]
    exact orderly.renews_overwrite _

/-- Replacing a state renews one object at most. -/
theorem Orderly.renews_replaceStatus (object : α) :
    store.Renews α (store.replaceStatus object).2 := by
  -- For a state there are the same two outcomes.
  rcases replaceStatus_cases store object with ⟨error, failed⟩ | ⟨stored, _, _, done⟩
  · rw [failed]
    exact orderly.renews
  · rw [done]
    exact orderly.renews_overwrite _

/-- Creating renews one object at most. -/
theorem Orderly.renews_create (object : α) : store.Renews α (store.create object).2 := by
  -- A creation fails and leaves the store, or saves an object that was not there.
  rcases create_cases store object with ⟨error, failed⟩ | ⟨_, done⟩
  · rw [failed]
    exact orderly.renews
  · rw [done]
    exact ⟨precedes_save store _, (orderly.save _).placed⟩

/-- Deleting renews one object at most, which is set to terminate. -/
theorem Orderly.renews_delete (name space : String) :
    store.Renews α (store.delete α name space).2 := by
  -- Only the object under the key is renewed or removed.
  rcases delete_cases (α := α) store name space with
    ⟨error, failed⟩ | ⟨stored, _, ⟨_, done⟩ | done | ⟨_, done⟩⟩
  · rw [failed]
    exact orderly.renews
  · rw [done]
    exact ⟨precedes_remove store _, (orderly.remove _).placed⟩
  · rw [done]
    exact orderly.renews
  · rw [done]
    exact ⟨precedes_save store _, (orderly.save _).placed⟩

/-- What an overwriting stores is recalled, even if it is removed at once. -/
theorem Orderly.recalls_overwrite (object : α) :
    (store.overwrite object).2.Recalls (store.stamped object) := by
  -- It was there for a moment after it was saved.
  have saved : (store.save object).2.find? (Resource.key object) = some (store.stamped object) := by
    rw [find?_save, if_pos rfl]
  refine ⟨(store.save object).2, Resource.key object, orderly.save object, saved, ?_⟩
  simp only [Store.overwrite]
  split
  · exact precedes_remove _ _
  · exact .refl _

end Renewal

namespace Ordered

variable {store after : Store} (ordered : store.Ordered)
include ordered

/-- Nothing advances where nothing is written. -/
theorem advances : store.Advances store :=
  ⟨ordered.groups.renews, ordered.claims.renews, ordered.contents.renews⟩

/-- A store stays in order as it advances. -/
theorem later (advances : store.Advances after) : after.Ordered :=
  ⟨advances.groups.orderly ordered.groups, advances.claims.orderly ordered.claims,
    advances.contents.orderly ordered.contents⟩

/-- Writes of groups advance a store. -/
theorem advances_of_group (groups : store.Renews Group after)
    (rest : (after.claims, after.contents) = (store.claims, store.contents)) :
    store.Advances after := by
  -- Claims and contents have the tables that they had, only the count of writes goes up.
  obtain ⟨claims, contents⟩ := Prod.mk.inj rest
  exact ⟨groups, ordered.claims.renews_of_table groups.revision claims,
    ordered.contents.renews_of_table groups.revision contents⟩

/-- Writes of claims advance a store. -/
theorem advances_of_claim (claims : store.Renews Claim after)
    (rest : (after.groups, after.contents) = (store.groups, store.contents)) :
    store.Advances after := by
  -- Here it is groups and contents that stay.
  obtain ⟨groups, contents⟩ := Prod.mk.inj rest
  exact ⟨ordered.groups.renews_of_table claims.revision groups, claims,
    ordered.contents.renews_of_table claims.revision contents⟩

/-- Writes of contents advance a store. -/
theorem advances_of_content (contents : store.Renews Content after)
    (rest : (after.groups, after.claims) = (store.groups, store.claims)) :
    store.Advances after := by
  -- Here it is groups and claims that stay.
  obtain ⟨groups, claims⟩ := Prod.mk.inj rest
  exact ⟨ordered.groups.renews_of_table contents.revision groups,
    ordered.claims.renews_of_table contents.revision claims, contents⟩

end Ordered

/-- A store that advances twice advances. -/
theorem Advances.trans {first second third : Store} (before : first.Advances second)
    (after : second.Advances third) : first.Advances third :=
  ⟨.trans before.groups.toPrecedes after.groups, .trans before.claims.toPrecedes after.claims,
    .trans before.contents.toPrecedes after.contents⟩

/-- Writes of groups leave claims and contents alone. -/
theorem beside_groups : Untouched Group fun store => (store.claims, store.contents) :=
  fun _ _ _ => rfl

/-- Writes of claims leave groups and contents alone. -/
theorem beside_claims : Untouched Claim fun store => (store.groups, store.contents) :=
  fun _ _ _ => rfl

/-- Writes of contents leave groups and claims alone. -/
theorem beside_contents : Untouched Content fun store => (store.groups, store.claims) :=
  fun _ _ _ => rfl

end Store

end VolumeGroups
