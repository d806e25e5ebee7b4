import VolumeGroups.Failure.Cluster
import VolumeGroups.Resource.Content
import VolumeGroups.Store.Table

/-! A store of objects in which a write fails unless it starts from the object's stored version. -/

namespace VolumeGroups

/-- All objects, each under its namespace and name, and the number of writes so far. -/
structure Store where
  revision : Nat := 0
  groups : Table Group := ∅
  classes : Table GroupClass := ∅
  contents : Table Content := ∅
  claims : Table Claim := ∅
  volumes : Table Volume := ∅
  secrets : Table Secret := ∅
  storageClasses : Table StorageClass := ∅
  deriving DecidableEq, Inhabited

/-- A type of objects that a store keeps. -/
class Stored (α : Type) extends Resource α where
  /-- The stored objects of the type. -/
  table : Store → Table α
  /-- The store with other objects of the type. -/
  withTable : Table α → Store → Store
  /-- The first object with the observed state of the second. -/
  withStatusOf : α → α → α

instance : Stored Group where
  table := Store.groups
  withTable groups store := { store with groups }
  withStatusOf group source := { group with status := source.status }

instance : Stored GroupClass where
  table := Store.classes
  withTable classes store := { store with classes }
  withStatusOf groupClass _ := groupClass

instance : Stored Content where
  table := Store.contents
  withTable contents store := { store with contents }
  withStatusOf content source := { content with status := source.status }

instance : Stored Claim where
  table := Store.claims
  withTable claims store := { store with claims }
  withStatusOf claim _ := claim

instance : Stored Volume where
  table := Store.volumes
  withTable volumes store := { store with volumes }
  withStatusOf volume _ := volume

instance : Stored Secret where
  table := Store.secrets
  withTable secrets store := { store with secrets }
  withStatusOf secret _ := secret

instance : Stored StorageClass where
  table := Store.storageClasses
  withTable storageClasses store := { store with storageClasses }
  withStatusOf storageClass _ := storageClass

namespace Store

variable {α : Type} [Stored α]

/-- The moment that the store's clock shows, which stands still. -/
def now : Time := ⟨⟨2030, 1, 1⟩, 0, 0⟩

/-- The object under a key. -/
def find? (store : Store) (key : String) : Option α := (Stored.table store).get? key

/-- The object of a namespace and a name. -/
def get (store : Store) (name «namespace» : String) : Except ClusterError α :=
  match store.find? («namespace» ++ "/" ++ name) with
  | some object => .ok object
  | none => .error (.notFound (Resource.kind α) name)

/-- The objects of a namespace, the oldest first. -/
def list (store : Store) («namespace» : String) : List α :=
  (Stored.table store).values.filter fun object =>
    (Resource.metadata object).namespace = some «namespace»

/-- An object stored under its own key with a new version, and the store after that. -/
def save (store : Store) (object : α) : α × Store :=
  -- Every write moves the count on, so that no two states of an object share a version.
  let revision := store.revision + 1
  let metadata := { Resource.metadata object with resourceVersion := some (toString revision) }
  let object := Resource.withMetadata metadata object
  let table := (Stored.table store).set (Resource.key object) object
  (object, Stored.withTable table { store with revision })

/-- The store without the object under a key. -/
def remove (α : Type) [Stored α] (store : Store) (key : String) : Store :=
  Stored.withTable ((Stored.table (α := α) store).erase key) store

/-- A new object stored, with an identity made from its name if it has none. -/
def create (store : Store) (object : α) : Except ClusterError α × Store :=
  -- An object under the same key stays as it is, even if it is terminating.
  match store.find? (α := α) (Resource.key object) with
  | some _ => (.error (.alreadyExists (Resource.kind α) (Resource.displayName object)), store)
  | none =>
    let metadata := Resource.metadata object
    -- Identities follow from names, so a rehearsal that is repeated ends the same.
    let uid := metadata.uid.getD ("uid-" ++ Resource.displayName object)
    let (object, store) :=
      store.save (Resource.withMetadata { metadata with uid := some uid } object)
    (.ok object, store)

/-- The stored object that a write starts from, if it is still the same version. -/
def current (store : Store) (object : α) : Except ClusterError α :=
  -- A write needs the object to be there, in the version that the writer has seen.
  match store.find? (α := α) (Resource.key object) with
  | none => .error (.notFound (Resource.kind α) (Resource.displayName object))
  | some stored =>
    if (Resource.metadata stored).resourceVersion = (Resource.metadata object).resourceVersion then
      .ok stored
    else .error (.conflict (Resource.kind α) (Resource.displayName object))

/-- An object written over the stored one, which removes it if it was only waiting for that. -/
def overwrite (store : Store) (object : α) : Except ClusterError α × Store :=
  let (object, store) := store.save object
  let metadata := Resource.metadata object
  -- A terminating object is there only as long as a mark holds it.
  if metadata.isTerminating && (metadata.finalizers.getD []).isEmpty then
    (.ok object, store.remove α (Resource.key object))
  else (.ok object, store)

/-- An object stored in place of its earlier version, whose observed state stays. -/
def replace (store : Store) (object : α) : Except ClusterError α × Store :=
  match store.current object with
  | .error error => (.error error, store)
  | .ok stored => store.overwrite (Stored.withStatusOf object stored)

/-- The observed state of an object stored, all else of which stays. -/
def replaceStatus (store : Store) (object : α) : Except ClusterError α × Store :=
  match store.current object with
  | .error error => (.error error, store)
  | .ok stored => store.overwrite (Stored.withStatusOf stored object)

/-- An object removed, or only set to terminate if a mark holds it. -/
def delete (α : Type) [Stored α] (store : Store) (name «namespace» : String) :
    Except ClusterError Unit × Store :=
  match store.get (α := α) name «namespace» with
  | .error error => (.error error, store)
  | .ok object =>
    -- Marks decide whether the object goes or only starts to terminate.
    let metadata := Resource.metadata object
    if (metadata.finalizers.getD []).isEmpty then
      (.ok (), store.remove α («namespace» ++ "/" ++ name))
    -- A deletion that is repeated changes nothing, not even the version.
    else if metadata.isTerminating then (.ok (), store)
    else
      let metadata := { metadata with deletionTimestamp := some now }
      (.ok (), (store.save (Resource.withMetadata metadata object)).2)

end Store

end VolumeGroups
