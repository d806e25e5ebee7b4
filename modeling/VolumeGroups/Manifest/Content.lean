import VolumeGroups.Manifest.Metadata
import VolumeGroups.Resource.Content

/-! Documents of contents and of the classes that bind groups to drivers. -/

namespace VolumeGroups

namespace GroupClassSpec

/-- What the class in a document binds. -/
def ofJson? (value : Json) : Option GroupClassSpec := do
  let fields ← value.readRecord? ["driver", "parameters"]
  let driver ← fields.required? "driver" Json.readText?
  let parameters ← fields.withDefault? "parameters" Json.readTextMap? ∅
  return { driver, parameters }

/-- The document of what a class binds, without parameters if there are none. -/
def toJson (spec : GroupClassSpec) : Json :=
  .ofFields
    [("driver", some (.text spec.driver)),
      ("parameters", if spec.parameters.isEmpty then none else some (.ofTextMap spec.parameters))]

end GroupClassSpec

instance : Manifest GroupClass where
  ofJson? value := do
    let fields ← value.readFullRecord? ["metadata", "spec"]
    let metadata ← fields.required? "metadata" Metadata.ofJson?
    let spec ← fields.required? "spec" GroupClassSpec.ofJson?
    return { metadata, spec }
  toJson groupClass :=
    .ofFields
      [("metadata", some groupClass.metadata.toJson), ("spec", some groupClass.spec.toJson)]

namespace ContentSource

/-- The driver's group in a document. -/
def ofJson? (value : Json) : Option ContentSource := do
  let fields ← value.readRecord? ["driver", "volumeGroupHandle", "volumeGroupAttributes"]
  -- The driver and its handle make the source, while attributes may be missing.
  let driver ← fields.required? "driver" Json.readText?
  let handle ← fields.required? "volumeGroupHandle" Json.readText?
  let attributes ← fields.withDefault? "volumeGroupAttributes" Json.readTextMap? ∅
  return { driver, handle, attributes }

/-- The document of a driver's group, without attributes if there are none. -/
def toJson (source : ContentSource) : Json :=
  .ofFields
    [("driver", some (.text source.driver)),
      ("volumeGroupAttributes",
        if source.attributes.isEmpty then none else some (.ofTextMap source.attributes)),
      ("volumeGroupHandle", some (.text source.handle))]

end ContentSource

namespace SecretReference

/-- Where the credentials of a document lie. -/
def ofJson? (value : Json) : Option SecretReference := do
  let fields ← value.readFields?
  let name ← fields.optional? "name" Json.readText?
  let «namespace» ← fields.optional? "namespace" Json.readText?
  return { name, «namespace» }

/-- The document of where credentials lie. -/
def toJson (reference : SecretReference) : Json :=
  .ofFields
    [("name", reference.name.map .text), ("namespace", reference.namespace.map .text)]

end SecretReference

namespace ContentSpec

/-- The names of the fields, in their own order. -/
def fieldNames : List String :=
  ["volumeGroupClassName", "volumeGroupRef", "source", "volumeGroupSecretRef"]

/-- What the content in a document records. -/
def ofJson? (value : Json) : Option ContentSpec := do
  let fields ← value.readRecord? fieldNames
  -- No part is required, so an empty record reads as well.
  let className ← fields.optional? "volumeGroupClassName" Json.readText?
  let groupReference ← fields.optional? "volumeGroupRef" ObjectReference.ofJson?
  let source ← fields.optional? "source" ContentSource.ofJson?
  let secretReference ← fields.optional? "volumeGroupSecretRef" SecretReference.ofJson?
  return { className, groupReference, source, secretReference }

/-- The document of what a content records. -/
def toJson (spec : ContentSpec) : Json :=
  .ofFields
    [("source", spec.source.map ContentSource.toJson),
      ("volumeGroupClassName", spec.className.map .text),
      ("volumeGroupRef", spec.groupReference.map ObjectReference.toJson),
      ("volumeGroupSecretRef", spec.secretReference.map SecretReference.toJson)]

end ContentSpec

namespace ContentStatus

/-- The state in a document. -/
def ofJson? (value : Json) : Option ContentStatus := do
  let fields ← value.readRecord? ["groupCreationTime", "ready", "pvList"]
  let creationTime ← fields.optional? "groupCreationTime" Time.ofJson?
  let ready ← fields.optional? "ready" Json.readBool?
  -- A missing list and an empty one are the same, so nothing has to be told apart later.
  let volumeNames ← fields.withDefault? "pvList" Json.readTexts? []
  return { creationTime, ready, volumeNames }

/-- The document of a state. -/
def toJson (status : ContentStatus) : Json :=
  .ofFields
    [("groupCreationTime", status.creationTime.map Time.toJson),
      ("pvList", some (.ofTexts status.volumeNames)),
      ("ready", status.ready.map .bool)]

end ContentStatus

instance : Manifest Content where
  ofJson? value := do
    let fields ← value.readFullRecord? ["metadata", "spec", "status"]
    let metadata ← fields.required? "metadata" Metadata.ofJson?
    let spec ← fields.required? "spec" ContentSpec.ofJson?
    let status ← fields.optional? "status" ContentStatus.ofJson?
    return { metadata, spec, status }
  toJson content :=
    .ofFields
      [("metadata", some content.metadata.toJson),
        ("spec", some content.spec.toJson),
        ("status", content.status.map ContentStatus.toJson)]

end VolumeGroups
