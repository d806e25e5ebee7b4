import VolumeGroups.Proofs.Manifest.Resources

/-! Groups, their classes and their contents come back from their documents, which keep all that the
documents say that they were read from. -/

namespace VolumeGroups

/-- A document has the fields of its object beside its version and its kind. -/
theorem Manifest.wrote_document {α : Type} [Manifest α] [Resource α] {settle : α → α}
    {Returns : α → Prop} {slots : List (Slot settle Returns)} {object : α}
    (apart : ∀ slot ∈ slots, slot.name ≠ "apiVersion" ∧ slot.name ≠ "kind")
    (wrote : Slot.Wrote slots object (toJson object)) :
    Slot.Wrote slots object (document object) := by
  obtain ⟨members, written, found⟩ := wrote
  refine ⟨_, rfl, ?_⟩
  intro slot present
  -- The version and the kind stand in front and have names of their own.
  obtain ⟨version, kind⟩ := apart slot present
  rw [written, Json.findMember?_cons, Json.findMember?_cons, if_neg version.symm, if_neg kind.symm,
    Option.or_none, Option.or_none]
  exact found slot present

/-- The moments of states and shared parts are written without the fractions of their seconds. -/
theorem map_toJson_truncate (time : Option Time) :
    (time.map Time.truncate).map Time.toJson = time.map Time.toJson := by
  -- Writing drops the fraction anyway, so it makes no difference whether it was there.
  cases time with
  | none => rfl
  | some time => exact congrArg some time.toJson_truncate

/-- An entry is written alike without the fraction of a second. -/
theorem ManagedFieldsEntry.toJson_truncate (entry : ManagedFieldsEntry) :
    entry.truncate.toJson = entry.toJson := by
  simp only [toJson, truncate, map_toJson_truncate]

/-- A shared part is written alike without the fractions of seconds. -/
theorem Metadata.toJson_truncate (metadata : Metadata) :
    metadata.truncate.toJson = metadata.toJson := by
  simp only [toJson, truncate, Option.map_map, Function.comp_def, List.map_map, Time.toJson_truncate,
    ManagedFieldsEntry.toJson_truncate]

/-- The state of a group is written alike without the fraction of a second. -/
theorem GroupStatus.toJson_truncate (status : GroupStatus) :
    status.truncate.toJson = status.toJson := by
  simp only [toJson, truncate, map_toJson_truncate]

/-- The state of a content is written alike without the fraction of a second. -/
theorem ContentStatus.toJson_truncate (status : ContentStatus) :
    status.truncate.toJson = status.toJson := by
  simp only [toJson, truncate, map_toJson_truncate]

namespace Group

/-- A group whose moments have lost the fractions of their seconds. -/
def truncate (group : Group) : Group :=
  { group with
    metadata := group.metadata.truncate
    status := group.status.map GroupStatus.truncate }

/-- No moment of a group is before the year zero. -/
structure IsDated (group : Group) : Prop where
  metadata : group.metadata.IsDated
  status : ∀ status, group.status = some status → status.IsDated

/-- The moments of a group are those of its shared part and of its state. -/
theorem isDated_iff {group : Group} : group.IsDated ↔
    group.metadata.IsDated ∧ ∀ status ∈ group.status, status.IsDated :=
  ⟨fun dated => ⟨dated.metadata, dated.status⟩, fun ⟨metadata, status⟩ => ⟨metadata, status⟩⟩

instance (group : Group) : Decidable group.IsDated := decidable_of_iff' _ isDated_iff

/-- The shared part of a group comes back. -/
theorem metadata_truncate (group : Group) (dated : group.IsDated) :
    group.truncate.metadata = Metadata.form.settle group.metadata ∧
      Metadata.form.Returns group.metadata :=
  ⟨rfl, dated.metadata⟩

/-- The state of a group comes back. -/
theorem status_truncate (group : Group) (dated : group.IsDated) :
    group.truncate.status = group.status.map GroupStatus.form.settle ∧
      ∀ status, group.status = some status → GroupStatus.form.Returns status :=
  ⟨rfl, dated.status⟩

/-- The fields of a group. -/
def slots : List (Slot truncate IsDated) :=
  [.required "metadata" Metadata.form Group.metadata metadata_truncate,
    .required "spec" GroupSpec.form spec (by simp [truncate]),
    .optional "status" GroupStatus.form status status_truncate]

/-- A group is a record of its fields. -/
theorem isRecord : IsRecord slots (Json.readFullRecord? ["metadata", "spec", "status"])
    Manifest.ofJson? Manifest.document where
  opening := Json.opens_readFullRecord? _
  reads given group := by
    -- The three parts are read one after another.
    cases group
    simp [slots, Manifest.ofJson?, Option.bind_eq_some_iff]
  writes _ := Manifest.wrote_document (by simp [slots])
    (Slot.wrote_ofFields (by simp) (by simp [slots]))

/-- The format of groups. -/
abbrev form : Form Group := .record isRecord

/-- What a document of a group keeps. -/
example : form.shape = .record
    [("metadata", Metadata.form.shape),
      ("spec", .record
        [("volumeGroupClassName", .plain),
          ("source", .record
            [("volumeGroupContentName", .plain),
              ("selector", .record
                [("matchLabels", .map false),
                  ("matchExpressions", .list (.record
                    [("key", .plain), ("operator", .plain), ("values", .plain)]))])])]),
      ("status", .record
        [("boundVolumeGroupContentName", .plain), ("groupCreationTime", .moment),
          ("ready", .plain), ("error", .record [("message", .plain)]), ("pvcList", .plain)])] :=
  rfl

/-- A group is written alike without the fractions of seconds. -/
theorem document_truncate (group : Group) :
    Manifest.document group.truncate = Manifest.document group := by
  obtain ⟨metadata, spec, status⟩ := group
  -- The moments of the state and of the shared part are written alike, and nothing else changed.
  cases status <;>
    simp [Manifest.document, Manifest.toJson, truncate, Metadata.toJson_truncate,
      GroupStatus.toJson_truncate]

end Group

namespace GroupClass

/-- A class whose moments have lost the fractions of their seconds. -/
def truncate (groupClass : GroupClass) : GroupClass :=
  { groupClass with metadata := groupClass.metadata.truncate }

/-- No moment of a class is before the year zero. -/
def IsDated (groupClass : GroupClass) : Prop := groupClass.metadata.IsDated

instance (groupClass : GroupClass) : Decidable groupClass.IsDated :=
  inferInstanceAs (Decidable groupClass.metadata.IsDated)

/-- The shared part of a class comes back. -/
theorem metadata_truncate (groupClass : GroupClass) (dated : groupClass.IsDated) :
    groupClass.truncate.metadata = Metadata.form.settle groupClass.metadata ∧
      Metadata.form.Returns groupClass.metadata :=
  ⟨rfl, dated⟩

/-- The fields of a class. -/
def slots : List (Slot truncate IsDated) :=
  [.required "metadata" Metadata.form GroupClass.metadata metadata_truncate,
    .required "spec" GroupClassSpec.form spec (by simp [truncate])]

/-- A class is a record of its fields. -/
theorem isRecord : IsRecord slots (Json.readFullRecord? ["metadata", "spec"]) Manifest.ofJson?
    Manifest.document where
  opening := Json.opens_readFullRecord? _
  reads given groupClass := by
    cases groupClass
    simp [slots, Manifest.ofJson?, Option.bind_eq_some_iff]
  writes _ := Manifest.wrote_document (by simp [slots])
    (Slot.wrote_ofFields (by simp) (by simp [slots]))

/-- The format of classes. -/
abbrev form : Form GroupClass := .record isRecord

/-- What a document of a class keeps. -/
example : form.shape = .record
    [("metadata", Metadata.form.shape),
      ("spec", .record [("driver", .plain), ("parameters", .map true)])] :=
  rfl

/-- A class is written alike without the fractions of seconds. -/
theorem document_truncate (groupClass : GroupClass) :
    Manifest.document groupClass.truncate = Manifest.document groupClass := by
  simp [Manifest.document, Manifest.toJson, truncate, Metadata.toJson_truncate]

end GroupClass

namespace Content

/-- A content whose moments have lost the fractions of their seconds. -/
def truncate (content : Content) : Content :=
  { content with
    metadata := content.metadata.truncate
    status := content.status.map ContentStatus.truncate }

/-- No moment of a content is before the year zero. -/
structure IsDated (content : Content) : Prop where
  metadata : content.metadata.IsDated
  status : ∀ status, content.status = some status → status.IsDated

/-- The moments of a content are those of its shared part and of its state. -/
theorem isDated_iff {content : Content} : content.IsDated ↔
    content.metadata.IsDated ∧ ∀ status ∈ content.status, status.IsDated :=
  ⟨fun dated => ⟨dated.metadata, dated.status⟩, fun ⟨metadata, status⟩ => ⟨metadata, status⟩⟩

instance (content : Content) : Decidable content.IsDated := decidable_of_iff' _ isDated_iff

/-- The shared part of a content comes back. -/
theorem metadata_truncate (content : Content) (dated : content.IsDated) :
    content.truncate.metadata = Metadata.form.settle content.metadata ∧
      Metadata.form.Returns content.metadata :=
  ⟨rfl, dated.metadata⟩

/-- The state of a content comes back. -/
theorem status_truncate (content : Content) (dated : content.IsDated) :
    content.truncate.status = content.status.map ContentStatus.form.settle ∧
      ∀ status, content.status = some status → ContentStatus.form.Returns status :=
  ⟨rfl, dated.status⟩

/-- The fields of a content. -/
def slots : List (Slot truncate IsDated) :=
  [.required "metadata" Metadata.form Content.metadata metadata_truncate,
    .required "spec" ContentSpec.form spec (by simp [truncate]),
    .optional "status" ContentStatus.form status status_truncate]

/-- A content is a record of its fields. -/
theorem isRecord : IsRecord slots (Json.readFullRecord? ["metadata", "spec", "status"])
    Manifest.ofJson? Manifest.document where
  opening := Json.opens_readFullRecord? _
  reads given content := by
    cases content
    simp [slots, Manifest.ofJson?, Option.bind_eq_some_iff]
  writes _ := Manifest.wrote_document (by simp [slots])
    (Slot.wrote_ofFields (by simp) (by simp [slots]))

/-- The format of contents. -/
abbrev form : Form Content := .record isRecord

/-- What a document of a content keeps. -/
example : form.shape = .record
    [("metadata", Metadata.form.shape),
      ("spec", .record
        [("volumeGroupClassName", .plain),
          ("volumeGroupRef", .record
            [("apiVersion", .plain), ("kind", .plain), ("name", .plain), ("namespace", .plain),
              ("uid", .plain), ("resourceVersion", .plain), ("fieldPath", .plain)]),
          ("source", .record
            [("driver", .plain), ("volumeGroupHandle", .plain),
              ("volumeGroupAttributes", .map true)]),
          ("volumeGroupSecretRef", .record [("name", .plain), ("namespace", .plain)])]),
      ("status", .record
        [("groupCreationTime", .moment), ("ready", .plain), ("pvList", .plain)])] :=
  rfl

/-- A content is written alike without the fractions of seconds. -/
theorem document_truncate (content : Content) :
    Manifest.document content.truncate = Manifest.document content := by
  obtain ⟨metadata, spec, status⟩ := content
  cases status <;>
    simp [Manifest.document, Manifest.toJson, truncate, Metadata.toJson_truncate,
      ContentStatus.toJson_truncate]

end Content

/-- What is written of an object that a document holds comes back as the object without the
fractions of seconds, is written alike from then on, and keeps every field of that document. -/
def Manifest.ComesBack {α : Type} [Manifest α] [Resource α] (shape : Shape) (truncate : α → α)
    (given : Json) (object : α) : Prop :=
  -- The first part is that the document reads at all, which a moment may prevent.
  ofJson? (document object) = some (truncate object) ∧
    (ofJson? (document object) : Option α).map document = some (document object) ∧
    -- The last part compares documents, so it speaks of fields and not of what the reader made of
    -- them.
    shape.Carries given (document object)

/-- An object comes back if the format of its documents says so and what comes back is written
alike. -/
theorem Form.comesBack {α : Type} [Manifest α] [Resource α] (form : Form α)
    (reads : form.read = Manifest.ofJson?) (writes : form.write = Manifest.document)
    (alike : ∀ object, Manifest.document (form.settle object) = Manifest.document object)
    {given : Json} {object : α} (read : Manifest.ofJson? given = some object)
    (returns : form.Returns object) : Manifest.ComesBack form.shape form.settle given object := by
  have known : form.read given = some object := by rw [reads, read]
  have back : Manifest.ofJson? (Manifest.document object) = some (form.settle object) := by
    rw [← reads, ← writes]
    exact form.returns known returns
  refine ⟨back, ?_, ?_⟩
  · -- Only what comes back was lost, and it makes no difference to the next document.
    rw [back, Option.map_some, alike]
  · rw [← writes]
    exact form.carries known returns

/-- The documents of groups, of their classes and of their contents come back, and keep every field
that they are made of, as long as no moment is before the year zero. -/
theorem documents_come_back :
    (∀ (given : Json) (group : Group), Manifest.ofJson? given = some group → group.IsDated →
      Manifest.ComesBack Group.form.shape Group.truncate given group) ∧
    (∀ (given : Json) (groupClass : GroupClass), Manifest.ofJson? given = some groupClass →
      groupClass.IsDated →
        Manifest.ComesBack GroupClass.form.shape GroupClass.truncate given groupClass) ∧
    ∀ (given : Json) (content : Content), Manifest.ofJson? given = some content →
      content.IsDated →
        Manifest.ComesBack Content.form.shape Content.truncate given content := by
  -- The three kinds differ in their forms only.
  refine ⟨?_, ?_, ?_⟩
  · intro given group read dated
    exact Group.form.comesBack rfl rfl Group.document_truncate read dated
  · intro given groupClass read dated
    exact GroupClass.form.comesBack rfl rfl GroupClass.document_truncate read dated
  · intro given content read dated
    exact Content.form.comesBack rfl rfl Content.document_truncate read dated

namespace Sample

/-- A document of a group, whose specification is a list of its values, whose moments have fractions
of a second, and whose creation lies in a year. -/
def groupDocument (year : String) : Json :=
  .object
    [("kind", .text "VolumeGroup"),
      ("metadata", .object
        [("name", .text "group"), ("namespace", .null),
          ("labels", .object [("tier", .text "gold"), ("app", .text "store")]),
          -- The moments have half a second each, which is what is lost.
          ("creationTimestamp", .text "2024-01-01T00:30:00.5Z"),
          ("managedFields", .list
            [.object [("manager", .text "user"), ("time", .text "2024-01-01T00:30:00.5Z"),
              ("fieldsV1", .object [("f:spec", .object [])])]])]),
      ("spec", .list
        -- In a list the class comes before the source of the members.
        [.text "class",
          .object [("selector", .object
            [("matchExpressions", .list
              [.object [("key", .text "tier"), ("operator", .text "Exists")]])])]]),
      ("status", .object
        [("groupCreationTime", .text (year ++ "-01-01T01:30:00.5+01:00")),
          ("pvcList", .list [.text "claim"]), ("error", .object [])])]

/-- A document of a class without parameters. -/
def classDocument : Json :=
  .object
    [("metadata", .object [("name", .text "class")]),
      ("spec", .object [("driver", .text "driver"), ("parameters", .object [])])]

/-- A document of a content whose source is a list of its values, and whose creation has a fraction
of a second. -/
def contentDocument : Json :=
  .object
    [("metadata", .object [("name", .text "content")]),
      ("spec", .object
        -- In a list the driver comes first, then the handle, then the attributes.
        [("source", .list
            [.text "driver", .text "handle", .object [("tier", .text "gold")]]),
          ("volumeGroupRef", .object
            -- A null counts as missing, while the path is kept.
            [("uid", .text "uid"), ("kind", .null), ("fieldPath", .text "spec.source")])]),
      ("status", .object
        [("groupCreationTime", .text "2024-01-01T00:30:00.5Z"),
          ("pvList", .list [.text "volume"])])]

end Sample

/-- A group and a content come back from their documents with all but half a second, and a class
comes back as it is. -/
theorem sample_documents_come_back :
    (∃ group : Group, Manifest.ofJson? (Sample.groupDocument "2024") = some group ∧
      group.truncate ≠ group ∧
        Manifest.ComesBack Group.form.shape Group.truncate (Sample.groupDocument "2024") group) ∧
    (∃ groupClass : GroupClass, Manifest.ofJson? Sample.classDocument = some groupClass ∧
      groupClass.truncate = groupClass ∧
        Manifest.ComesBack GroupClass.form.shape GroupClass.truncate Sample.classDocument
          groupClass) ∧
    ∃ content : Content, Manifest.ofJson? Sample.contentDocument = some content ∧
      content.truncate ≠ content ∧
        Manifest.ComesBack Content.form.shape Content.truncate Sample.contentDocument content := by
  obtain ⟨groups, classes, contents⟩ := documents_come_back
  refine ⟨?_, ?_, ?_⟩
  -- Each reader is run on its document, and no moment that it gives is before the year zero.
  · have read : ∃ group ∈ (Manifest.ofJson? (Sample.groupDocument "2024") : Option Group),
        group.truncate ≠ group ∧ group.IsDated := by
      decide +kernel
    -- The moment has half a second, which the document does not keep.
    obtain ⟨group, read, differs, dated⟩ := read
    exact ⟨group, read, differs, groups _ group read dated⟩
  · -- A class has a moment only in its shared part, which is empty here.
    have read : ∃ groupClass ∈ (Manifest.ofJson? Sample.classDocument : Option GroupClass),
        groupClass.truncate = groupClass ∧ groupClass.IsDated := by
      decide +kernel
    obtain ⟨groupClass, read, same, dated⟩ := read
    exact ⟨groupClass, read, same, classes _ groupClass read dated⟩
  · -- For a content it is the state that loses half a second.
    have read : ∃ content ∈ (Manifest.ofJson? Sample.contentDocument : Option Content),
        content.truncate ≠ content ∧ content.IsDated := by
      decide +kernel
    obtain ⟨content, read, differs, dated⟩ := read
    exact ⟨content, read, differs, contents _ content read dated⟩

/-- A group whose creation is before the year zero does not come back, since such a year is written
with fewer digits than are read. -/
theorem group_document_lost : ∃ group : Group,
    Manifest.ofJson? (Sample.groupDocument "-000005") = some group ∧
      (Manifest.ofJson? (Manifest.document group) : Option Group) = none := by
  -- The year is written with a sign and too few digits.
  have read : ∃ group ∈ (Manifest.ofJson? (Sample.groupDocument "-000005") : Option Group),
      (Manifest.ofJson? (Manifest.document group) : Option Group) = none := by
    decide +kernel
  obtain ⟨group, read, lost⟩ := read
  exact ⟨group, read, lost⟩

end VolumeGroups
