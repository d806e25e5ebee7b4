import VolumeGroups.DriverClient.Message
import VolumeGroups.Manifest.Metadata

/-! Messages of the storage driver as documents, in which what is missing stands at its blank
value. -/

namespace VolumeGroups

namespace Fields

/-- A text field, empty if it is missing. -/
def text? (fields : Fields) (name : String) : Option String := fields.orElse? name Json.readText? ""

/-- A map of texts, empty if it is missing. -/
def textMap? (fields : Fields) (name : String) : Option (KeyMap String) :=
  fields.orElse? name Json.readTextMap? ∅

end Fields

instance : Manifest EmptyMessage where
  ofJson? value := value.readFields?.map fun _ => {}
  toJson _ := .object []

instance : Manifest ProbeResponse where
  ofJson? value := do
    let fields ← value.readFields?
    let ready ← fields.optional? "ready" Json.readBool?
    return { ready }
  toJson response := .object [("ready", (response.ready.map .bool).getD .null)]

instance : Manifest PluginInfo where
  ofJson? value := do
    let fields ← value.readFields?
    let name ← fields.text? "name"
    let vendorVersion ← fields.text? "vendor_version"
    let manifest ← fields.textMap? "manifest"
    return { name, vendorVersion, manifest }
  toJson info :=
    .object
      [("manifest", .ofTextMap info.manifest), ("name", .text info.name),
        ("vendor_version", .text info.vendorVersion)]

instance : Manifest CreateGroupRequest where
  ofJson? value := do
    let fields ← value.readFields?
    let name ← fields.text? "name"
    -- Texts and maps that are missing are empty, as they are in the bytes.
    let parameters ← fields.textMap? "parameters"
    let secrets ← fields.textMap? "secrets"
    return { name, parameters, secrets }
  toJson request :=
    .object
      [("name", .text request.name), ("parameters", .ofTextMap request.parameters),
        ("secrets", .ofTextMap request.secrets)]

instance : Manifest CreatedGroup where
  ofJson? value := do
    let fields ← value.readFields?
    let handle ← fields.text? "volume_group_id"
    let attributes ← fields.textMap? "volume_group_context"
    return { handle, attributes }
  toJson group :=
    .object
      [("volume_group_context", .ofTextMap group.attributes),
        ("volume_group_id", .text group.handle)]

instance : Manifest GroupResponse where
  ofJson? value := do
    let fields ← value.readFields?
    let group ← fields.optional? "volume_group" Manifest.ofJson?
    return { group }
  toJson response :=
    .object [("volume_group", (response.group.map Manifest.toJson).getD .null)]

instance : Manifest DeleteGroupRequest where
  ofJson? value := do
    let fields ← value.readFields?
    let handle ← fields.text? "volume_group_id"
    let secrets ← fields.textMap? "secrets"
    return { handle, secrets }
  toJson request :=
    .object [("secrets", .ofTextMap request.secrets), ("volume_group_id", .text request.handle)]

instance : Manifest ModifyMembershipRequest where
  ofJson? value := do
    let fields ← value.readFields?
    let handle ← fields.text? "volume_group_id"
    let volumeIds ← fields.orElse? "volume_ids" Json.readTexts? []
    let secrets ← fields.textMap? "secrets"
    return { handle, volumeIds, secrets }
  toJson request :=
    .object
      [("secrets", .ofTextMap request.secrets), ("volume_group_id", .text request.handle),
        ("volume_ids", .ofTexts request.volumeIds)]

end VolumeGroups
