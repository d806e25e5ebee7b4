import VolumeGroups.Json
import VolumeGroups.KeyMap
import VolumeGroups.Time
import VolumeGroups.Resource.Kind

/-! What every object carries: its identity, its labels and what keeps it from being removed. -/

namespace VolumeGroups

/-- A pointer from an object to the one that owns it. -/
structure OwnerReference where
  apiVersion : String
  kind : String
  name : String
  uid : String
  controller : Option Bool
  blockOwnerDeletion : Option Bool
  deriving DecidableEq, Inhabited

/-- A set of fields of an object, written as any value but null. -/
structure FieldSet where
  value : Json
  filled : value ≠ .null
  deriving DecidableEq

/-- Which fields of an object somebody set, how and when. -/
structure ManagedFieldsEntry where
  manager : Option String := none
  operation : Option String := none
  apiVersion : Option String := none
  time : Option Time := none
  fieldsType : Option String := none
  fields : Option FieldSet := none
  subresource : Option String := none
  deriving DecidableEq, Inhabited

/-- The part that all objects share. -/
structure Metadata where
  name : Option String := none
  generateName : Option String := none
  «namespace» : Option String := none
  uid : Option String := none
  resourceVersion : Option String := none
  labels : Option (KeyMap String) := none
  annotations : Option (KeyMap String) := none
  finalizers : Option (List String) := none
  creationTimestamp : Option Time := none
  deletionTimestamp : Option Time := none
  /-- How many seconds the object has from its deletion on to end in order. -/
  deletionGracePeriod : Option Int := none
  generation : Option Int := none
  ownerReferences : Option (List OwnerReference) := none
  managedFields : Option (List ManagedFieldsEntry) := none
  selfLink : Option String := none
  deriving DecidableEq, Inhabited

namespace Metadata

/-- The name an object goes by: its own, else the stem its name is made from, else nothing. -/
def displayName (metadata : Metadata) : String :=
  (metadata.name.or metadata.generateName).getD ""

/-- The namespace and the name, parted by a slash, with nothing for what is missing. -/
def key (metadata : Metadata) : String :=
  metadata.namespace.getD "" ++ "/" ++ metadata.name.getD ""

/-- The object is being deleted. -/
def isTerminating (metadata : Metadata) : Bool := metadata.deletionTimestamp.isSome

end Metadata

/-- A pointer to an object or to a part of it, as far as it is known. -/
structure ObjectReference where
  apiVersion : Option String := none
  kind : Option String := none
  name : Option String := none
  «namespace» : Option String := none
  uid : Option String := none
  resourceVersion : Option String := none
  fieldPath : Option String := none
  deriving DecidableEq, Inhabited

/-- A type of objects of one kind. -/
class Resource (α : Type) where
  /-- The kind of all these objects. -/
  kind : Kind
  /-- The shared part of an object. -/
  metadata : α → Metadata
  /-- The object with another shared part. -/
  withMetadata : Metadata → α → α

namespace Resource

variable {α : Type} [Resource α]

/-- The name an object goes by. -/
def displayName (object : α) : String := (metadata object).displayName

/-- The namespace and the name of an object. -/
def key (object : α) : String := (metadata object).key

/-- A pointer to an object that carries its identity and its version. -/
def reference (object : α) : ObjectReference where
  apiVersion := some (kind α).apiVersion
  kind := some (kind α).name
  name := (metadata object).name
  «namespace» := (metadata object).namespace
  uid := (metadata object).uid
  -- The version is the one at hand, so the pointer tells which state was looked at.
  resourceVersion := (metadata object).resourceVersion

/-- A pointer that makes an object the owner, so that its deletion reaches what it owns. -/
def owner (object : α) : OwnerReference where
  apiVersion := (kind α).apiVersion
  kind := (kind α).name
  -- A pointer to an owner always has a name and an identity, so missing ones are empty.
  name := (metadata object).name.getD ""
  uid := (metadata object).uid.getD ""
  controller := some true
  blockOwnerDeletion := some true

end Resource

end VolumeGroups
