import VolumeGroups.Json.Fields
import VolumeGroups.Resource.Metadata

/-! Documents that hold objects, and the written form of what all objects share. -/

namespace VolumeGroups

/-- A type of objects that documents hold. -/
class Manifest (α : Type) where
  /-- The object in a document, if the document holds one. -/
  ofJson? : Json → Option α
  /-- The document of an object, without its version and kind. -/
  toJson : α → Json

/-- The document of an object with its version and kind. -/
def Manifest.document {α : Type} [Manifest α] [Resource α] (object : α) : Json :=
  let kind := Resource.kind α
  .object (("apiVersion", .text kind.apiVersion) :: ("kind", .text kind.name)
    :: (Manifest.toJson object).members)

/-- The version and the kind of a document are those of a kind, or are not given. -/
def Fields.declares (fields : Fields) (kind : Kind) : Bool :=
  let agrees (name value : String) : Bool :=
    match Json.findMember? name fields with
    -- What is not given is not held against the document, but what is given has to agree.
    | none => true
    | some (.text given) => given == value
    | some _ => false
  agrees "apiVersion" kind.apiVersion && agrees "kind" kind.name

namespace Time

/-- The moment that a value writes as text. -/
def ofJson? (value : Json) : Option Time := value.readText?.bind parse?

/-- A moment as a value. -/
def toJson (time : Time) : Json := .text time.text

end Time

namespace OwnerReference

/-- The pointer in a document, where missing texts are empty. -/
def ofJson? (value : Json) : Option OwnerReference := do
  let fields ← value.readFields?
  -- A missing text reads as an empty one, which is what is written back.
  let apiVersion ← fields.orElse? "apiVersion" Json.readText? ""
  let kind ← fields.orElse? "kind" Json.readText? ""
  let name ← fields.orElse? "name" Json.readText? ""
  let uid ← fields.orElse? "uid" Json.readText? ""
  let controller ← fields.optional? "controller" Json.readBool?
  let blockOwnerDeletion ← fields.optional? "blockOwnerDeletion" Json.readBool?
  return { apiVersion, kind, name, uid, controller, blockOwnerDeletion }

/-- The document of a pointer. -/
def toJson (owner : OwnerReference) : Json :=
  .ofFields
    [("apiVersion", some (.text owner.apiVersion)),
      ("blockOwnerDeletion", owner.blockOwnerDeletion.map .bool),
      ("controller", owner.controller.map .bool),
      ("kind", some (.text owner.kind)),
      ("name", some (.text owner.name)),
      ("uid", some (.text owner.uid))]

end OwnerReference

namespace FieldSet

/-- The set that a value writes. -/
def ofJson? (value : Json) : Option FieldSet :=
  if filled : value ≠ .null then some { value, filled } else none

end FieldSet

namespace ManagedFieldsEntry

/-- The entry in a document. -/
def ofJson? (value : Json) : Option ManagedFieldsEntry := do
  let fields ← value.readFields?
  let manager ← fields.optional? "manager" Json.readText?
  let operation ← fields.optional? "operation" Json.readText?
  let apiVersion ← fields.optional? "apiVersion" Json.readText?
  -- Only the time and the fields have forms of their own, all else is a text.
  let time ← fields.optional? "time" Time.ofJson?
  let fieldsType ← fields.optional? "fieldsType" Json.readText?
  let set ← fields.optional? "fieldsV1" FieldSet.ofJson?
  let subresource ← fields.optional? "subresource" Json.readText?
  return { manager, operation, apiVersion, time, fieldsType, fields := set, subresource }

/-- The document of an entry. -/
def toJson (entry : ManagedFieldsEntry) : Json :=
  .ofFields
    [("apiVersion", entry.apiVersion.map .text),
      ("fieldsType", entry.fieldsType.map .text),
      ("fieldsV1", entry.fields.map FieldSet.value),
      ("manager", entry.manager.map .text),
      ("operation", entry.operation.map .text),
      ("subresource", entry.subresource.map .text),
      ("time", entry.time.map Time.toJson)]

end ManagedFieldsEntry

namespace Metadata

/-- The shared part in a document. -/
def ofJson? (value : Json) : Option Metadata := do
  let fields ← value.readFields?
  -- Nothing of the shared part is required, as the server fills in most of it.
  let name ← fields.optional? "name" Json.readText?
  let generateName ← fields.optional? "generateName" Json.readText?
  let «namespace» ← fields.optional? "namespace" Json.readText?
  let uid ← fields.optional? "uid" Json.readText?
  let resourceVersion ← fields.optional? "resourceVersion" Json.readText?
  let labels ← fields.optional? "labels" Json.readTextMap?
  let annotations ← fields.optional? "annotations" Json.readTextMap?
  let finalizers ← fields.optional? "finalizers" Json.readTexts?
  let creationTimestamp ← fields.optional? "creationTimestamp" Time.ofJson?
  let deletionTimestamp ← fields.optional? "deletionTimestamp" Time.ofJson?
  -- This is a signed number, so one below zero reads as well.
  let deletionGracePeriod ← fields.optional? "deletionGracePeriodSeconds" Json.readInteger?
  let generation ← fields.optional? "generation" Json.readInteger?
  let ownerReferences ←
    fields.optional? "ownerReferences" (Json.readList? OwnerReference.ofJson?)
  let managedFields ←
    fields.optional? "managedFields" (Json.readList? ManagedFieldsEntry.ofJson?)
  let selfLink ← fields.optional? "selfLink" Json.readText?
  return { name, generateName, «namespace», uid, resourceVersion, labels, annotations, finalizers,
           creationTimestamp, deletionTimestamp, deletionGracePeriod, generation, ownerReferences,
           managedFields, selfLink }

/-- The document of the shared part. -/
def toJson (metadata : Metadata) : Json :=
  .ofFields
    -- Fields that are missing are left out, and the others go in the order of their names.
    [("annotations", metadata.annotations.map .ofTextMap),
      ("creationTimestamp", metadata.creationTimestamp.map Time.toJson),
      ("deletionGracePeriodSeconds", metadata.deletionGracePeriod.map .integer),
      ("deletionTimestamp", metadata.deletionTimestamp.map Time.toJson),
      ("finalizers", metadata.finalizers.map .ofTexts),
      ("generateName", metadata.generateName.map .text),
      ("generation", metadata.generation.map .integer),
      ("labels", metadata.labels.map .ofTextMap),
      ("managedFields",
        metadata.managedFields.map fun entries => .list (entries.map ManagedFieldsEntry.toJson)),
      ("name", metadata.name.map .text),
      ("namespace", metadata.namespace.map .text),
      ("ownerReferences",
        metadata.ownerReferences.map fun owners => .list (owners.map OwnerReference.toJson)),
      ("resourceVersion", metadata.resourceVersion.map .text),
      ("selfLink", metadata.selfLink.map .text),
      ("uid", metadata.uid.map .text)]

end Metadata

namespace ObjectReference

/-- The pointer in a document. -/
def ofJson? (value : Json) : Option ObjectReference := do
  let fields ← value.readFields?
  let apiVersion ← fields.optional? "apiVersion" Json.readText?
  let kind ← fields.optional? "kind" Json.readText?
  let name ← fields.optional? "name" Json.readText?
  let «namespace» ← fields.optional? "namespace" Json.readText?
  let uid ← fields.optional? "uid" Json.readText?
  let resourceVersion ← fields.optional? "resourceVersion" Json.readText?
  let fieldPath ← fields.optional? "fieldPath" Json.readText?
  return { apiVersion, kind, name, «namespace», uid, resourceVersion, fieldPath }

/-- The document of a pointer. -/
def toJson (reference : ObjectReference) : Json :=
  .ofFields
    [("apiVersion", reference.apiVersion.map .text),
      ("fieldPath", reference.fieldPath.map .text),
      ("kind", reference.kind.map .text),
      ("name", reference.name.map .text),
      ("namespace", reference.namespace.map .text),
      ("resourceVersion", reference.resourceVersion.map .text),
      ("uid", reference.uid.map .text)]

end ObjectReference

end VolumeGroups
