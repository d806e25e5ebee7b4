import VolumeGroups.Api.Reply
import VolumeGroups.Call

/-! Events as the server of a cluster keeps them, where one that repeats is counted instead of
told again. -/

namespace VolumeGroups

/-- The name under which the operator reports. -/
def reporter : String := "volume-group-operator"

/-- The namespace of events on objects that live in none. -/
def eventNamespace (regarding : ObjectReference) : String :=
  regarding.namespace.getD "default"

/-- The name of an event. -/
def eventName (regarding : ObjectReference) : String := regarding.name.getD reporter

namespace Event

/-- The document of an event that happened a number of times. -/
def toJson (event : Event) (count : Nat) : Json :=
  .ofFields
    [("action", some (.text "Reconcile")),
      ("apiVersion", some (.text Kind.event.apiVersion)),
      ("kind", some (.text Kind.event.name)),
      ("metadata",
        some (.ofFields
          [("name", some (.text (eventName event.regarding))),
            ("namespace", event.regarding.namespace.map .text)])),
      ("note", some (.text event.message)),
      ("reason", some (.text event.reason)),
      ("regarding", some event.regarding.toJson),
      ("reportingController", some (.text reporter)),
      ("reportingInstance", some (.text reporter)),
      -- An event that happened once makes no series.
      ("series", if count ≤ 1 then none else some (.object [("count", .integer count)])),
      ("type", some (.text event.type.name))]

/-- Two events tell of the same thing, whatever their words. -/
def repeats (event earlier : Event) : Bool :=
  event.type == earlier.type && event.reason == earlier.reason
    && event.regarding == earlier.regarding

/-- The document is one of an event. -/
def readAcceptance? (value : Json) : Option Unit := do
  let fields ← value.readFields?
  guard (fields.declares .event)
  let _ ← fields.optional? "metadata" Metadata.ofJson?
  let _ ← fields.optional? "regarding" ObjectReference.ofJson?
  let _ ← ["action", "note", "reason", "reportingController", "reportingInstance", "type"].mapM
    -- Every field has to be readable if it is there, though none of them is kept.
    fun name => fields.optional? name Json.readText?
  return ()

end Event

/-- An event that the server took, with the number of times it happened. -/
structure PublishedEvent where
  event : Event
  count : Nat

end VolumeGroups
