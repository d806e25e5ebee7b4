import VolumeGroups.Manifest.Metadata
import VolumeGroups.Resource.Claim
import VolumeGroups.Text.Base64

/-! Documents of claims, volumes, classes of volumes and secrets. -/

namespace VolumeGroups

/-- The fields of a document of a kind that declares itself, with the shared part they hold. -/
def readDeclared? (kind : Kind) (value : Json) : Option (Fields × Metadata) := do
  let fields ← value.readFields?
  guard (fields.declares kind)
  let metadata ← fields.orElse? "metadata" Metadata.ofJson? {}
  return (fields, metadata)

namespace ClaimSpec

/-- What the claim in a document asks for. -/
def ofJson? (value : Json) : Option ClaimSpec := do
  let fields ← value.readFields?
  let volumeName ← fields.optional? "volumeName" Json.readText?
  let storageClassName ← fields.optional? "storageClassName" Json.readText?
  return { volumeName, storageClassName }

/-- The document of what a claim asks for. -/
def toJson (spec : ClaimSpec) : Json :=
  .ofFields
    [("storageClassName", spec.storageClassName.map .text),
      ("volumeName", spec.volumeName.map .text)]

end ClaimSpec

instance : Manifest Claim where
  ofJson? value := do
    -- A version and a kind are looked at only where they are given.
    let (fields, metadata) ← readDeclared? .claim value
    let spec ← fields.optional? "spec" ClaimSpec.ofJson?
    return { metadata, spec }
  toJson claim :=
    .ofFields
      [("metadata", some claim.metadata.toJson), ("spec", claim.spec.map ClaimSpec.toJson)]

namespace DriverSource

/-- Where the driver keeps the volume in a document, where missing texts are empty. -/
def ofJson? (value : Json) : Option DriverSource := do
  let fields ← value.readFields?
  let driver ← fields.orElse? "driver" Json.readText? ""
  let volumeHandle ← fields.orElse? "volumeHandle" Json.readText? ""
  return { driver, volumeHandle }

/-- The document of where a driver keeps a volume. -/
def toJson (source : DriverSource) : Json :=
  .object [("driver", .text source.driver), ("volumeHandle", .text source.volumeHandle)]

end DriverSource

namespace VolumeSpec

/-- What the volume in a document is made of. -/
def ofJson? (value : Json) : Option VolumeSpec := do
  let fields ← value.readFields?
  let driverSource ← fields.optional? "csi" DriverSource.ofJson?
  return { driverSource }

/-- The document of what a volume is made of. -/
def toJson (spec : VolumeSpec) : Json :=
  .ofFields [("csi", spec.driverSource.map DriverSource.toJson)]

end VolumeSpec

instance : Manifest Volume where
  ofJson? value := do
    let (fields, metadata) ← readDeclared? .volume value
    let spec ← fields.optional? "spec" VolumeSpec.ofJson?
    return { metadata, spec }
  toJson volume :=
    .ofFields
      [("metadata", some volume.metadata.toJson), ("spec", volume.spec.map VolumeSpec.toJson)]

/-- The bytes that a value writes in text of sixty-four characters, none for null. -/
def readBytes? : Json → Option (List UInt8)
  | .null => some []
  | .text value => ofBase64? value
  | _ => none

/-- Bytes as a value. -/
def bytesToJson (bytes : List UInt8) : Json := .text (toBase64 bytes)

instance : Manifest Secret where
  ofJson? value := do
    let (fields, metadata) ← readDeclared? .secret value
    -- The bytes of a value are written in letters, and a value that is none spoils the secret.
    let data ← fields.optional? "data" (Json.readMap? readBytes?)
    return { metadata, data }
  toJson secret :=
    .ofFields
      [("data", secret.data.map fun data =>
          .object (data.entries.map fun entry => (entry.1, bytesToJson entry.2))),
        ("metadata", some secret.metadata.toJson)]

instance : Manifest StorageClass where
  ofJson? value := do
    let (fields, metadata) ← readDeclared? .storageClass value
    let provisioner ← fields.orElse? "provisioner" Json.readText? ""
    let parameters ← fields.optional? "parameters" Json.readTextMap?
    return { metadata, provisioner, parameters }
  toJson storageClass :=
    .ofFields
      [("metadata", some storageClass.metadata.toJson),
        ("parameters", storageClass.parameters.map .ofTextMap),
        ("provisioner", some (.text storageClass.provisioner))]

end VolumeGroups
