import VolumeGroups.Resource.Metadata

/-! The storage objects that exist without the operator: claims, volumes, classes of volumes and
secrets. -/

namespace VolumeGroups

/-- What a claim asks for. -/
structure ClaimSpec where
  volumeName : Option String := none
  storageClassName : Option String := none
  deriving DecidableEq, Inhabited

/-- A claim to a volume. -/
structure Claim where
  metadata : Metadata
  spec : Option ClaimSpec := none
  deriving DecidableEq, Inhabited

namespace Claim

instance : Resource Claim where
  kind := .claim
  metadata := Claim.metadata
  withMetadata metadata claim := { claim with metadata }

/-- The labels of a claim, none if it has no map of them. -/
def labels (claim : Claim) : KeyMap String := claim.metadata.labels.getD ∅

/-- The volume a claim is bound to, where an empty name counts as none. -/
def volumeName? (claim : Claim) : Option String :=
  (claim.spec.bind ClaimSpec.volumeName).filter fun name => !name.isEmpty

/-- The class of volumes a claim asks for, where an empty name counts as none. -/
def storageClassName? (claim : Claim) : Option String :=
  (claim.spec.bind ClaimSpec.storageClassName).filter fun name => !name.isEmpty

end Claim

/-- Where a storage driver keeps a volume. -/
structure DriverSource where
  driver : String
  volumeHandle : String
  deriving DecidableEq, Inhabited

/-- What a volume is made of, as far as a driver serves it. -/
structure VolumeSpec where
  driverSource : Option DriverSource := none
  deriving DecidableEq, Inhabited

/-- A volume. -/
structure Volume where
  metadata : Metadata
  spec : Option VolumeSpec := none
  deriving DecidableEq, Inhabited

namespace Volume

instance : Resource Volume where
  kind := .volume
  metadata := Volume.metadata
  withMetadata metadata volume := { volume with metadata }

/-- The name the driver has for a volume, where an empty one counts as none. -/
def handle? (volume : Volume) : Option String :=
  ((volume.spec.bind VolumeSpec.driverSource).map DriverSource.volumeHandle).filter fun handle =>
    !handle.isEmpty

end Volume

/-- Named bytes, such as credentials. -/
structure Secret where
  metadata : Metadata
  data : Option (KeyMap (List UInt8)) := none
  deriving DecidableEq, Inhabited

instance : Resource Secret where
  kind := .secret
  metadata := Secret.metadata
  withMetadata metadata secret := { secret with metadata }

/-- A class of volumes. -/
structure StorageClass where
  metadata : Metadata
  provisioner : String
  parameters : Option (KeyMap String) := none
  deriving DecidableEq, Inhabited

instance : Resource StorageClass where
  kind := .storageClass
  metadata := StorageClass.metadata
  withMetadata metadata storageClass := { storageClass with metadata }

end VolumeGroups
