import VolumeGroups.Manifest.Metadata
import VolumeGroups.Resource.Group

/-! Documents of groups. -/

namespace VolumeGroups

namespace Requirement

/-- The condition in a document, where missing texts are empty. -/
def ofJson? (value : Json) : Option Requirement := do
  let fields ← value.readFields?
  -- Requirements come from users and may be half written, so their texts may be missing.
  let key ← fields.orElse? "key" Json.readText? ""
  let operator ← fields.orElse? "operator" Json.readText? ""
  let values ← fields.optional? "values" Json.readTexts?
  return { key, operator, values }

/-- The document of a condition. -/
def toJson (requirement : Requirement) : Json :=
  .ofFields
    [("key", some (.text requirement.key)),
      ("operator", some (.text requirement.operator)),
      ("values", requirement.values.map .ofTexts)]

end Requirement

namespace LabelSelector

/-- The selector in a document. -/
def ofJson? (value : Json) : Option LabelSelector := do
  let fields ← value.readFields?
  let matchLabels ← fields.optional? "matchLabels" Json.readTextMap?
  let matchExpressions ←
    fields.optional? "matchExpressions" (Json.readList? Requirement.ofJson?)
  return { matchLabels, matchExpressions }

/-- The document of a selector. -/
def toJson (selector : LabelSelector) : Json :=
  .ofFields
    [("matchExpressions",
        selector.matchExpressions.map fun requirements =>
          .list (requirements.map Requirement.toJson)),
      ("matchLabels", selector.matchLabels.map .ofTextMap)]

end LabelSelector

namespace GroupSource

/-- The source in a document. -/
def ofJson? (value : Json) : Option GroupSource := do
  let fields ← value.readRecord? ["volumeGroupContentName", "selector"]
  let contentName ← fields.optional? "volumeGroupContentName" Json.readText?
  let selector ← fields.optional? "selector" LabelSelector.ofJson?
  return { contentName, selector }

/-- The document of a source. -/
def toJson (source : GroupSource) : Json :=
  .ofFields
    [("selector", source.selector.map LabelSelector.toJson),
      ("volumeGroupContentName", source.contentName.map .text)]

end GroupSource

namespace GroupSpec

/-- What the group in a document asks for. -/
def ofJson? (value : Json) : Option GroupSpec := do
  let fields ← value.readRecord? ["volumeGroupClassName", "source"]
  let className ← fields.optional? "volumeGroupClassName" Json.readText?
  let source ← fields.withDefault? "source" GroupSource.ofJson? {}
  return { className, source }

/-- The document of what a group asks for. -/
def toJson (spec : GroupSpec) : Json :=
  .ofFields
    [("source", some spec.source.toJson), ("volumeGroupClassName", spec.className.map .text)]

end GroupSpec

namespace GroupError

/-- The error in a document. -/
def ofJson? (value : Json) : Option GroupError := do
  let fields ← value.readRecord? ["message"]
  let message ← fields.optional? "message" Json.readText?
  return { message }

/-- The document of an error. -/
def toJson (error : GroupError) : Json := .ofFields [("message", error.message.map .text)]

end GroupError

namespace GroupStatus

/-- The names of the fields, in their own order. -/
def fieldNames : List String :=
  ["boundVolumeGroupContentName", "groupCreationTime", "ready", "error", "pvcList"]

/-- The state in a document. -/
def ofJson? (value : Json) : Option GroupStatus := do
  let fields ← value.readRecord? fieldNames
  let contentName ← fields.optional? "boundVolumeGroupContentName" Json.readText?
  let creationTime ← fields.optional? "groupCreationTime" Time.ofJson?
  let ready ← fields.optional? "ready" Json.readBool?
  let error ← fields.optional? "error" GroupError.ofJson?
  -- A state without a list of members reads as one with an empty list.
  let claimNames ← fields.withDefault? "pvcList" Json.readTexts? []
  return { contentName, creationTime, ready, error, claimNames }

/-- The document of a state. -/
def toJson (status : GroupStatus) : Json :=
  .ofFields
    [("boundVolumeGroupContentName", status.contentName.map .text),
      ("error", status.error.map GroupError.toJson),
      ("groupCreationTime", status.creationTime.map Time.toJson),
      ("pvcList", some (.ofTexts status.claimNames)),
      ("ready", status.ready.map .bool)]

end GroupStatus

instance : Manifest Group where
  ofJson? value := do
    let fields ← value.readFullRecord? ["metadata", "spec", "status"]
    let metadata ← fields.required? "metadata" Metadata.ofJson?
    let spec ← fields.required? "spec" GroupSpec.ofJson?
    let status ← fields.optional? "status" GroupStatus.ofJson?
    return { metadata, spec, status }
  toJson group :=
    .ofFields
      [("metadata", some group.metadata.toJson),
        ("spec", some group.spec.toJson),
        ("status", group.status.map GroupStatus.toJson)]

end VolumeGroups
