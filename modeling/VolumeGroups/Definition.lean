import VolumeGroups.Definition.Schema
import VolumeGroups.Resource.Kind

/-! The definitions by which a cluster learns the operator's own resources. -/

namespace VolumeGroups

/-- A column in which a cluster shows the objects of a kind. -/
structure Column where
  name : String
  path : String
  type : String

/-- The definition of a kind of objects. -/
structure Definition where
  kind : Kind
  shortName : String
  columns : List Column
  spec : Schema
  /-- What the observed state looks like, where there is one. -/
  status : Option Schema := none

namespace Column

/-- How long an object has been there. -/
def age : Column := ⟨"Age", ".metadata.creationTimestamp", "date"⟩

/-- The document of a column. -/
def toJson (column : Column) : Json :=
  .object
    [("jsonPath", .text column.path), ("name", .text column.name), ("type", .text column.type)]

end Column

namespace Definition

/-- The group of versions that the operator's resources belong to. -/
def group : String := "csi.ibm.com"

/-- The version in which the operator's resources are served. -/
def version : String := "v1"

/-- What an object of the kind looks like. -/
def schema (definition : Definition) : Json :=
  let name := definition.kind.name
  let status := definition.status.map fun status => ("status", status.toJson)
  .object
    [("description",
        .text ("Auto-generated derived type for " ++ name ++ "Spec via `CustomResource`")),
      ("properties", .object (("spec", definition.spec.toJson) :: status.toList)),
      ("required", .ofTexts ["spec"]),
      ("title", .text name),
      ("type", .text "object")]

/-- The names under which the kind is known. -/
def names (definition : Definition) : Json :=
  .object
    [("categories", .list []),
      ("kind", .text definition.kind.name),
      ("plural", .text definition.kind.plural),
      ("shortNames", .ofTexts [definition.shortName]),
      ("singular", .text definition.kind.name.toLower)]

/-- The document of a definition. -/
def toJson (definition : Definition) : Json :=
  -- The observed state is written apart from the rest, so that neither overwrites the other.
  let subresources := if definition.status.isSome then [("status", Json.object [])] else []
  let served : Json :=
    .object
      [("additionalPrinterColumns", .list (definition.columns.map Column.toJson)),
        ("name", .text version),
        ("schema", .object [("openAPIV3Schema", definition.schema)]),
        ("served", .bool true),
        ("storage", .bool true),
        ("subresources", .object subresources)]
  .object
    [("apiVersion", .text "apiextensions.k8s.io/v1"),
      ("kind", .text "CustomResourceDefinition"),
      ("metadata", .object [("name", .text (definition.kind.plural ++ "." ++ group))]),
      ("spec",
        .object
          [("group", .text group),
            ("names", definition.names),
            ("scope", .text (if definition.kind.isNamespaced then "Namespaced" else "Cluster")),
            ("versions", .list [served])])]

/-- The class that binds groups to a driver. -/
def groupClass : Definition where
  kind := .groupClass
  shortName := "vgclass"
  columns := [⟨"Driver", ".spec.driver", "string"⟩, .age]
  spec :=
    .record (.about "Binds groups to a driver, like a StorageClass does for volumes.")
      [("driver",
          .text { rules := [⟨"driver must be not empty", "self != ''"⟩] } none),
        ("parameters",
          .map
            (.about
              "Opaque driver parameters plus the reserved\n`volumegroup.storage.ibm.io/*` keys.")
            .anyText)]
      ["driver"]

/-- A requirement of a selector. -/
def requirement : Schema :=
  .record
    (.about
      "A label selector requirement is a selector that contains values, a key, and an operator that relates the key and values.")
    [("key", .textAbout "key is the label key that the selector applies to."),
      ("operator",
        .textAbout
          "operator represents a key's relationship to a set of values. Valid operators are In, NotIn, Exists and DoesNotExist."),
      ("values",
        .list
          (.about
            "values is an array of string values. If the operator is In or NotIn, the values array must be non-empty. If the operator is Exists or DoesNotExist, the values array must be empty. This array is replaced during a strategic merge patch.")
          .anyText)]
    ["key", "operator"]

/-- The selector of a group. -/
def selector : Schema :=
  .record
    { description := some
        "Claims in the group's namespace whose labels match join the group.\nDefaults to `volumegroup=<group name>`."
      nullable := true }
    [("matchExpressions",
        .list
          (.about
            "matchExpressions is a list of label selector requirements. The requirements are ANDed.")
          requirement),
      ("matchLabels",
        .map
          (.about
            "matchLabels is a map of \x7bkey,value\x7d pairs. A single \x7bkey,value\x7d in the matchLabels map is equivalent to an element of matchExpressions, whose key field is \"key\", the operator is \"In\", and the values array contains only \"value\". The requirements are ANDed.")
          .anyText)]
    []

/-- The moment a group came to be. -/
def creationTime : Schema :=
  .text
    { description := some
        "Time is a wrapper around time.Time which supports correct marshaling to YAML and JSON.  Wrappers are provided for many of the factory methods that the time package offers."
      nullable := true }
    (some "date-time")

/-- A list of the names of members. -/
def memberNames (description : String) : Schema :=
  .list { description := some description, default := some (.list []) } .anyText

/-- The group of volumes. -/
def volumeGroup : Definition where
  kind := .group
  shortName := "vg"
  columns :=
    [⟨"Class", ".spec.volumeGroupClassName", "string"⟩,
      ⟨"Content", ".status.boundVolumeGroupContentName", "string"⟩,
      ⟨"Ready", ".status.ready", "boolean"⟩, .age]
  spec :=
    .record {}
      [("source",
          .record { default := some (.object []) }
            [("selector", selector),
              ("volumeGroupContentName",
                .text
                  { description := some
                      "Set by the operator once the group is bound to its content."
                    nullable := true }
                  none)]
            []),
        ("volumeGroupClassName",
          .text
            { nullable := true
              rules :=
                [⟨"volumeGroupClassName must be not empty when specified", "self != ''"⟩] }
            none)]
      []
  status := some <|
    .record
      { description := some
          "Observed state of a VolumeGroup. A fresh value is computed on every pass\nand only written when it differs from the stored one."
        nullable := true }
      [("boundVolumeGroupContentName", .optionalText),
        ("error", .record { nullable := true } [("message", .optionalText)] []),
        ("groupCreationTime", creationTime),
        ("pvcList", memberNames "Names of the member claims, sorted."),
        ("ready", .optionalTruth)]
      []

/-- A description that ends with the page that tells more. -/
def withPage (description page : String) : String :=
  description ++ " More info: https://" ++ page

/-- The page on the conventions of the interface. -/
def conventionsPage : String :=
  "git.k8s.io/community/contributors/devel/sig-architecture/api-conventions.md"

/-- The pages on how objects work. -/
def objectsPages : String := "kubernetes.io/docs/concepts/overview/working-with-objects/"

/-- The pointer to the group that a content belongs to. -/
def groupReference : Schema :=
  .record
    { description := some "Back-reference to the owning VolumeGroup.", nullable := true }
    [("apiVersion", .textAbout "API version of the referent."),
      ("fieldPath",
        .textAbout
          "If referring to a piece of an object instead of an entire object, this string should contain a valid JSON/Go field access statement, such as desiredState.manifest.containers[2]. For example, if the object reference is to a container within a pod, this would take on a value like: \"spec.containers\x7bname\x7d\" (where \"name\" refers to the name of the container that triggered the event) or if no container name is specified \"spec.containers[2]\" (container with index 2 in this pod). This syntax is chosen only to have some well-defined way of referencing a part of an object."),
      ("kind",
        .textAbout (withPage "Kind of the referent." (conventionsPage ++ "#types-kinds"))),
      ("name",
        .textAbout (withPage "Name of the referent." (objectsPages ++ "names/#names"))),
      ("namespace",
        .textAbout (withPage "Namespace of the referent." (objectsPages ++ "namespaces/"))),
      ("resourceVersion",
        .textAbout
          (withPage "Specific resourceVersion to which this reference is made, if any."
            (conventionsPage ++ "#concurrency-control-and-consistency"))),
      ("uid", .textAbout (withPage "UID of the referent." (objectsPages ++ "names/#uids")))]
    []

/-- The pointer to the secret with the driver's credentials. -/
def secretReference : Schema :=
  .record
    { description := some
        "SecretReference represents a Secret Reference. It has enough information to retrieve secret in any namespace"
      nullable := true }
    [("name",
        .textAbout "name is unique within a namespace to reference a secret resource."),
      ("namespace",
        .textAbout
          "namespace defines the space within which the secret name must be unique.")]
    []

/-- The content that records a group. -/
def content : Definition where
  kind := .content
  shortName := "vgcontent"
  columns :=
    [⟨"Handle", ".spec.source.volumeGroupHandle", "string"⟩,
      ⟨"Ready", ".status.ready", "boolean"⟩, .age]
  spec :=
    .record (.about "The driver's view of a realized group. Created by the operator only.")
      [("source",
          .record { nullable := true }
            [("driver", .anyText), ("volumeGroupAttributes", .map {} .anyText),
              ("volumeGroupHandle", .anyText)]
            ["driver", "volumeGroupHandle"]),
        ("volumeGroupClassName", .optionalText),
        ("volumeGroupRef", groupReference),
        ("volumeGroupSecretRef", secretReference)]
      []
  status := some <|
    .record { nullable := true }
      [("groupCreationTime", creationTime),
        ("pvList", memberNames "Names of the member PersistentVolumes, in member order."),
        ("ready", .optionalTruth)]
      []

/-- All definitions, in the order in which a cluster has to learn them. -/
def all : List Definition := [groupClass, volumeGroup, content]

/-- The documents of all definitions. -/
def documents : Json := .list (all.map toJson)

end Definition

end VolumeGroups
