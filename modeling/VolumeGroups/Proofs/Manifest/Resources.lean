import VolumeGroups.Manifest.Content
import VolumeGroups.Manifest.Group
import VolumeGroups.Proofs.Manifest.Record

/-! The formats of groups, of their classes and of their contents, field by field. -/

namespace VolumeGroups

/-- A field of records that come back as they are. -/
abbrev PlainSlot (ρ : Type) := Slot (fun record : ρ => record) fun _ => True

namespace Requirement

/-- The fields of a condition. -/
def slots : List (PlainSlot Requirement) :=
  [.orElse "key" .text "" Form.read_write_empty_text key (by simp),
    .orElse "operator" .text "" Form.read_write_empty_text operator (by simp),
    .optional "values" .texts values (by simp)]

/-- A condition is a record of its fields. -/
theorem isRecord : IsRecord slots Json.readFields? ofJson? toJson where
  opening := Json.opens_readFields? _
  reads given requirement := by
    -- Reading says of each field what the slot of that name holds.
    cases requirement
    simp [slots, ofJson?, Option.bind_eq_some_iff]
  writes _ := Slot.wrote_ofFields (by simp) (by simp [slots])

/-- The format of conditions. -/
abbrev form : Form Requirement := .record isRecord

end Requirement

namespace LabelSelector

/-- The fields of a selector. -/
def slots : List (PlainSlot LabelSelector) :=
  [.optional "matchLabels" (.textMap false) matchLabels (by simp),
    .optional "matchExpressions" Requirement.form.list matchExpressions (by simp)]

/-- A selector is a record of its fields. -/
theorem isRecord : IsRecord slots Json.readFields? ofJson? toJson where
  opening := Json.opens_readFields? _
  reads given selector := by
    cases selector
    simp [slots, ofJson?, Option.bind_eq_some_iff]
  -- No name is given twice, so each slot finds what it wrote.
  writes _ := Slot.wrote_ofFields (by simp) (by simp [slots])

/-- The format of selectors. -/
abbrev form : Form LabelSelector := .record isRecord

end LabelSelector

namespace GroupSource

/-- The fields of a source. -/
def slots : List (PlainSlot GroupSource) :=
  [.optional "volumeGroupContentName" .text contentName (by simp),
    .optional "selector" LabelSelector.form selector (by simp)]

/-- A source is a record of its fields. -/
theorem isRecord : IsRecord slots (Json.readRecord? ["volumeGroupContentName", "selector"]) ofJson?
    toJson where
  opening := Json.opens_readRecord? _
  reads given source := by
    cases source
    -- The slots are opened one after another, as the reader does with the fields.
    simp [slots, ofJson?, Option.bind_eq_some_iff]
  writes _ := Slot.wrote_ofFields (by simp) (by simp [slots])

/-- The format of sources. -/
abbrev form : Form GroupSource := .record isRecord

/-- The source that says nothing comes back. -/
theorem read_write_empty : form.read (form.write {}) = some {} := rfl

end GroupSource

namespace GroupSpec

/-- The fields of what a group asks for. -/
def slots : List (PlainSlot GroupSpec) :=
  [.optional "volumeGroupClassName" .text className (by simp),
    .withDefault "source" GroupSource.form {} GroupSource.read_write_empty source (by simp)]

/-- What a group asks for is a record of its fields. -/
theorem isRecord : IsRecord slots (Json.readRecord? ["volumeGroupClassName", "source"]) ofJson?
    toJson where
  opening := Json.opens_readRecord? _
  reads given spec := by
    cases spec
    simp [slots, ofJson?, Option.bind_eq_some_iff]
  writes _ := Slot.wrote_ofFields (by simp) (by simp [slots])

/-- The format of what groups ask for. -/
abbrev form : Form GroupSpec := .record isRecord

end GroupSpec

namespace GroupError

/-- The fields of an error. -/
def slots : List (PlainSlot GroupError) := [.optional "message" .text message (by simp)]

/-- An error is a record of its fields. -/
theorem isRecord : IsRecord slots (Json.readRecord? ["message"]) ofJson? toJson where
  opening := Json.opens_readRecord? _
  reads given error := by
    cases error
    simp [slots, ofJson?, Option.bind_eq_some_iff]
  writes _ := Slot.wrote_ofFields (by simp) (by simp [slots])

/-- The format of errors. -/
abbrev form : Form GroupError := .record isRecord

end GroupError

namespace GroupStatus

/-- A state whose moment has lost the fraction of its second. -/
def truncate (status : GroupStatus) : GroupStatus :=
  { status with creationTime := status.creationTime.map Time.truncate }

/-- The moment of a state is not before the year zero. -/
def IsDated (status : GroupStatus) : Prop :=
  ∀ time, status.creationTime = some time → 0 ≤ time.date.year

instance (status : GroupStatus) : Decidable status.IsDated :=
  inferInstanceAs (Decidable (∀ time ∈ status.creationTime, 0 ≤ time.date.year))

/-- The moment of a state comes back without the fraction of its second. -/
theorem creationTime_truncate (status : GroupStatus) (dated : status.IsDated) :
    status.truncate.creationTime = status.creationTime.map Form.moment.settle ∧
      ∀ time, status.creationTime = some time → Form.moment.Returns time :=
  ⟨rfl, dated⟩

/-- The fields of the state of a group. -/
def slots : List (Slot truncate IsDated) :=
  [.optional "boundVolumeGroupContentName" .text contentName (by simp [truncate]),
    .optional "groupCreationTime" .moment creationTime creationTime_truncate,
    .optional "ready" .bool ready (by simp [truncate]),
    .optional "error" GroupError.form error (by simp [truncate]),
    -- A group without members writes an empty list, so nothing is lost where the list is missing.
    .withDefault "pvcList" .texts [] Form.read_write_no_texts claimNames (by simp [truncate])]

/-- The state of a group is a record of its fields. -/
theorem isRecord : IsRecord slots (Json.readRecord? fieldNames) ofJson? toJson where
  opening := Json.opens_readRecord? _
  reads given status := by
    cases status
    simp [slots, ofJson?, Option.bind_eq_some_iff]
  writes _ := Slot.wrote_ofFields (by simp) (by simp [slots])

/-- The format of states of groups. -/
abbrev form : Form GroupStatus := .record isRecord

end GroupStatus

namespace OwnerReference

/-- The fields of a pointer to an owner. -/
def slots : List (PlainSlot OwnerReference) :=
  -- The texts of a pointer are always written, so missing ones come back as empty ones.
  [.orElse "apiVersion" .text "" Form.read_write_empty_text apiVersion (by simp),
    .orElse "kind" .text "" Form.read_write_empty_text kind (by simp),
    .orElse "name" .text "" Form.read_write_empty_text name (by simp),
    .orElse "uid" .text "" Form.read_write_empty_text uid (by simp),
    .optional "controller" .bool controller (by simp),
    .optional "blockOwnerDeletion" .bool blockOwnerDeletion (by simp)]

/-- A pointer to an owner is a record of its fields. -/
theorem isRecord : IsRecord slots Json.readFields? ofJson? toJson where
  opening := Json.opens_readFields? _
  reads given owner := by
    cases owner
    simp [slots, ofJson?, Option.bind_eq_some_iff]
  writes _ := Slot.wrote_ofFields (by simp) (by simp [slots])

/-- The format of pointers to owners. -/
abbrev form : Form OwnerReference := .record isRecord

end OwnerReference

namespace ManagedFieldsEntry

/-- An entry whose moment has lost the fraction of its second. -/
def truncate (entry : ManagedFieldsEntry) : ManagedFieldsEntry :=
  { entry with time := entry.time.map Time.truncate }

/-- The moment of an entry is not before the year zero. -/
def IsDated (entry : ManagedFieldsEntry) : Prop :=
  ∀ time, entry.time = some time → 0 ≤ time.date.year

instance (entry : ManagedFieldsEntry) : Decidable entry.IsDated :=
  inferInstanceAs (Decidable (∀ time ∈ entry.time, 0 ≤ time.date.year))

/-- The moment of an entry comes back without the fraction of its second. -/
theorem time_truncate (entry : ManagedFieldsEntry) (dated : entry.IsDated) :
    entry.truncate.time = entry.time.map Form.moment.settle ∧
      ∀ time, entry.time = some time → Form.moment.Returns time :=
  ⟨rfl, dated⟩

/-- The fields of an entry. -/
def slots : List (Slot truncate IsDated) :=
  [.optional "manager" .text manager (by simp [truncate]),
    .optional "operation" .text operation (by simp [truncate]),
    .optional "apiVersion" .text apiVersion (by simp [truncate]),
    -- Only the time may lose something, all else comes back as it was.
    .optional "time" .moment time time_truncate,
    .optional "fieldsType" .text fieldsType (by simp [truncate]),
    -- A set of fields is kept as it is written, since nothing looks into it.
    .optional "fieldsV1" .fieldSet fields (by simp [truncate]),
    .optional "subresource" .text subresource (by simp [truncate])]

/-- An entry is a record of its fields. -/
theorem isRecord : IsRecord slots Json.readFields? ofJson? toJson where
  opening := Json.opens_readFields? _
  reads given entry := by
    cases entry
    simp [slots, ofJson?, Option.bind_eq_some_iff]
  writes _ := Slot.wrote_ofFields (by simp) (by simp [slots])

/-- The format of entries. -/
abbrev form : Form ManagedFieldsEntry := .record isRecord

end ManagedFieldsEntry

namespace Metadata

/-- A shared part whose moments have lost the fractions of their seconds. -/
def truncate (metadata : Metadata) : Metadata :=
  { metadata with
    -- These are all the places of a shared part where there are moments.
    creationTimestamp := metadata.creationTimestamp.map Time.truncate
    deletionTimestamp := metadata.deletionTimestamp.map Time.truncate
    managedFields := metadata.managedFields.map (List.map ManagedFieldsEntry.truncate) }

/-- No moment of a shared part is before the year zero. -/
structure IsDated (metadata : Metadata) : Prop where
  created : ∀ time, metadata.creationTimestamp = some time → 0 ≤ time.date.year
  deleted : ∀ time, metadata.deletionTimestamp = some time → 0 ≤ time.date.year
  managed : ∀ entries, metadata.managedFields = some entries → ∀ entry ∈ entries, entry.IsDated

/-- A shared part has moments where it was created and deleted, and in its entries. -/
theorem isDated_iff {metadata : Metadata} : metadata.IsDated ↔
    (∀ time ∈ metadata.creationTimestamp, 0 ≤ time.date.year) ∧
      (∀ time ∈ metadata.deletionTimestamp, 0 ≤ time.date.year) ∧
        ∀ entries ∈ metadata.managedFields, ∀ entry ∈ entries, entry.IsDated :=
  ⟨fun dated => ⟨dated.created, dated.deleted, dated.managed⟩,
    fun ⟨created, deleted, managed⟩ => ⟨created, deleted, managed⟩⟩

instance (metadata : Metadata) : Decidable metadata.IsDated := decidable_of_iff' _ isDated_iff

/-- The creation of a shared part comes back without the fraction of its second. -/
theorem creationTimestamp_truncate (metadata : Metadata) (dated : metadata.IsDated) :
    metadata.truncate.creationTimestamp = metadata.creationTimestamp.map Form.moment.settle ∧
      ∀ time, metadata.creationTimestamp = some time → Form.moment.Returns time :=
  ⟨rfl, dated.created⟩

/-- The deletion of a shared part comes back without the fraction of its second. -/
theorem deletionTimestamp_truncate (metadata : Metadata) (dated : metadata.IsDated) :
    metadata.truncate.deletionTimestamp = metadata.deletionTimestamp.map Form.moment.settle ∧
      ∀ time, metadata.deletionTimestamp = some time → Form.moment.Returns time :=
  ⟨rfl, dated.deleted⟩

/-- The entries of a shared part come back without the fractions of their seconds. -/
theorem managedFields_truncate (metadata : Metadata) (dated : metadata.IsDated) :
    metadata.truncate.managedFields =
        metadata.managedFields.map ManagedFieldsEntry.form.list.settle ∧
      ∀ entries, metadata.managedFields = some entries →
        ManagedFieldsEntry.form.list.Returns entries :=
  -- Truncating an entry is what its form settles for, so the two sides are the same.
  ⟨rfl, dated.managed⟩

/-- The fields of the shared part. -/
def slots : List (Slot truncate IsDated) :=
  [.optional "name" .text name (by simp [truncate]),
    .optional "generateName" .text generateName (by simp [truncate]),
    .optional "namespace" .text Metadata.namespace (by simp [truncate]),
    .optional "uid" .text uid (by simp [truncate]),
    .optional "resourceVersion" .text resourceVersion (by simp [truncate]),
    .optional "labels" (.textMap false) labels (by simp [truncate]),
    .optional "annotations" (.textMap false) annotations (by simp [truncate]),
    .optional "finalizers" .texts finalizers (by simp [truncate]),
    -- The moments lose the fractions of their seconds, as in states.
    .optional "creationTimestamp" .moment creationTimestamp creationTimestamp_truncate,
    .optional "deletionTimestamp" .moment deletionTimestamp deletionTimestamp_truncate,
    .optional "deletionGracePeriodSeconds" .integer deletionGracePeriod (by simp [truncate]),
    .optional "generation" .integer generation (by simp [truncate]),
    .optional "ownerReferences" OwnerReference.form.list ownerReferences (by simp [truncate]),
    -- Each entry has a moment of its own.
    .optional "managedFields" ManagedFieldsEntry.form.list managedFields managedFields_truncate,
    .optional "selfLink" .text selfLink (by simp [truncate])]

/-- The shared part is a record of its fields. -/
theorem isRecord : IsRecord slots Json.readFields? ofJson? toJson where
  opening := Json.opens_readFields? _
  reads given metadata := by
    -- Reading says of each field what the slot of that name holds.
    simp only [slots, List.forall_mem_cons, List.not_mem_nil, false_implies, implies_true, and_true,
      Slot.optional_Holds, Form.plain_read, Form.moment_read, Form.textMap_read, Form.list_read,
      Form.record_read, ofJson?, ↓Fields.read_eq_some_iff, Option.pure_def, Option.some.injEq]
    -- There are too many fields for their values to be found by rewriting, so they are named.
    constructor
    · rintro ⟨fields, opened, _, name, _, stem, _, space, _, uid, _, version, _, labels, _, notes, _,
        finalizers, _, created, _, deleted, _, grace, _, generation, _, owners, _, managed, _, link,
        rfl⟩
      exact ⟨fields, opened, name, stem, space, uid, version, labels, notes, finalizers, created,
        deleted, grace, generation, owners, managed, link⟩
    · rintro ⟨fields, opened, name, stem, space, uid, version, labels, notes, finalizers, created,
        deleted, grace, generation, owners, managed, link⟩
      exact ⟨fields, opened, _, name, _, stem, _, space, _, uid, _, version, _, labels, _, notes, _,
        finalizers, _, created, _, deleted, _, grace, _, generation, _, owners, _, managed, _, link,
        rfl⟩
  writes _ := Slot.wrote_ofFields (by simp) (by simp [slots])

/-- The format of shared parts. -/
abbrev form : Form Metadata := .record isRecord

end Metadata

namespace ObjectReference

/-- The fields of a pointer. -/
def slots : List (PlainSlot ObjectReference) :=
  [.optional "apiVersion" .text apiVersion (by simp), .optional "kind" .text kind (by simp),
    .optional "name" .text name (by simp),
    .optional "namespace" .text ObjectReference.namespace (by simp),
    .optional "uid" .text uid (by simp),
    .optional "resourceVersion" .text resourceVersion (by simp),
    -- The path to a part of the object is a text like the others.
    .optional "fieldPath" .text fieldPath (by simp)]

/-- A pointer is a record of its fields. -/
theorem isRecord : IsRecord slots Json.readFields? ofJson? toJson where
  opening := Json.opens_readFields? _
  reads given reference := by
    cases reference
    simp [slots, ofJson?, Option.bind_eq_some_iff]
  writes _ := Slot.wrote_ofFields (by simp) (by simp [slots])

/-- The format of pointers. -/
abbrev form : Form ObjectReference := .record isRecord

end ObjectReference

namespace GroupClassSpec

/-- The fields of what a class binds. -/
def slots : List (PlainSlot GroupClassSpec) :=
  [.required "driver" .text driver (by simp), .vanishing "parameters" parameters (by simp)]

/-- What a class binds is a record of its fields. -/
theorem isRecord : IsRecord slots (Json.readRecord? ["driver", "parameters"]) ofJson? toJson where
  opening := Json.opens_readRecord? _
  reads given spec := by
    cases spec
    simp [slots, ofJson?, Option.bind_eq_some_iff]
  writes _ := Slot.wrote_ofFields (by simp) (by simp [slots])

/-- The format of what classes bind. -/
abbrev form : Form GroupClassSpec := .record isRecord

end GroupClassSpec

namespace ContentSource

/-- The fields of the driver's group. -/
def slots : List (PlainSlot ContentSource) :=
  [.required "driver" .text driver (by simp), .required "volumeGroupHandle" .text handle (by simp),
    .vanishing "volumeGroupAttributes" attributes (by simp)]

/-- The driver's group is a record of its fields. -/
theorem isRecord : IsRecord slots
    (Json.readRecord? ["driver", "volumeGroupHandle", "volumeGroupAttributes"]) ofJson? toJson where
  opening := Json.opens_readRecord? _
  reads given source := by
    cases source
    simp [slots, ofJson?, Option.bind_eq_some_iff]
  writes _ := Slot.wrote_ofFields (by simp) (by simp [slots])

/-- The format of drivers' groups. -/
abbrev form : Form ContentSource := .record isRecord

end ContentSource

namespace SecretReference

/-- The fields of where credentials lie. -/
def slots : List (PlainSlot SecretReference) :=
  [.optional "name" .text name (by simp),
    .optional "namespace" .text SecretReference.namespace (by simp)]

/-- Where credentials lie is a record of its fields. -/
theorem isRecord : IsRecord slots Json.readFields? ofJson? toJson where
  opening := Json.opens_readFields? _
  reads given reference := by
    cases reference
    simp [slots, ofJson?, Option.bind_eq_some_iff]
  writes _ := Slot.wrote_ofFields (by simp) (by simp [slots])

/-- The format of where credentials lie. -/
abbrev form : Form SecretReference := .record isRecord

end SecretReference

namespace ContentSpec

/-- The fields of what a content records. -/
def slots : List (PlainSlot ContentSpec) :=
  [.optional "volumeGroupClassName" .text className (by simp),
    -- The parts are records of their own, whose forms were put together before.
    .optional "volumeGroupRef" ObjectReference.form groupReference (by simp),
    .optional "source" ContentSource.form source (by simp),
    .optional "volumeGroupSecretRef" SecretReference.form secretReference (by simp)]

/-- What a content records is a record of its fields. -/
theorem isRecord : IsRecord slots (Json.readRecord? fieldNames) ofJson? toJson where
  opening := Json.opens_readRecord? _
  reads given spec := by
    cases spec
    simp [slots, ofJson?, Option.bind_eq_some_iff]
  writes _ := Slot.wrote_ofFields (by simp) (by simp [slots])

/-- The format of what contents record. -/
abbrev form : Form ContentSpec := .record isRecord

end ContentSpec

namespace ContentStatus

/-- A state whose moment has lost the fraction of its second. -/
def truncate (status : ContentStatus) : ContentStatus :=
  { status with creationTime := status.creationTime.map Time.truncate }

/-- The moment of a state is not before the year zero. -/
def IsDated (status : ContentStatus) : Prop :=
  ∀ time, status.creationTime = some time → 0 ≤ time.date.year

instance (status : ContentStatus) : Decidable status.IsDated :=
  inferInstanceAs (Decidable (∀ time ∈ status.creationTime, 0 ≤ time.date.year))

/-- The moment of a state comes back without the fraction of its second. -/
theorem creationTime_truncate (status : ContentStatus) (dated : status.IsDated) :
    status.truncate.creationTime = status.creationTime.map Form.moment.settle ∧
      ∀ time, status.creationTime = some time → Form.moment.Returns time :=
  ⟨rfl, dated⟩

/-- The fields of the state of a content. -/
def slots : List (Slot truncate IsDated) :=
  [.optional "groupCreationTime" .moment creationTime creationTime_truncate,
    .optional "ready" .bool ready (by simp [truncate]),
    .withDefault "pvList" .texts [] Form.read_write_no_texts volumeNames (by simp [truncate])]

/-- The state of a content is a record of its fields. -/
theorem isRecord : IsRecord slots (Json.readRecord? ["groupCreationTime", "ready", "pvList"])
    ofJson? toJson where
  opening := Json.opens_readRecord? _
  reads given status := by
    cases status
    simp [slots, ofJson?, Option.bind_eq_some_iff]
  writes _ := Slot.wrote_ofFields (by simp) (by simp [slots])

/-- The format of states of contents. -/
abbrev form : Form ContentStatus := .record isRecord

end ContentStatus

end VolumeGroups
