/-! The kinds of objects the operator meets, with their names and the versions they are served
under. -/

namespace VolumeGroups

/-- A kind of object. -/
inductive Kind where
  /-- A group of volumes. -/
  | group
  /-- A class that binds groups to a storage driver. -/
  | groupClass
  /-- The record of a group that the driver holds. -/
  | content
  /-- A claim to a volume. -/
  | claim
  /-- A volume. -/
  | volume
  /-- Credentials. -/
  | secret
  /-- A class of volumes. -/
  | storageClass
  /-- A note on what happened to an object. -/
  | event
  deriving DecidableEq

namespace Kind

/-- The name of a kind. -/
def name : Kind → String
  | .group => "VolumeGroup"
  | .groupClass => "VolumeGroupClass"
  | .content => "VolumeGroupContent"
  | .claim => "PersistentVolumeClaim"
  | .volume => "PersistentVolume"
  | .secret => "Secret"
  | .storageClass => "StorageClass"
  | .event => "Event"

/-- The name under which objects of a kind are served together. -/
def plural : Kind → String
  | .group => "volumegroups"
  | .groupClass => "volumegroupclasses"
  | .content => "volumegroupcontents"
  | .claim => "persistentvolumeclaims"
  | .volume => "persistentvolumes"
  | .secret => "secrets"
  | .storageClass => "storageclasses"
  | .event => "events"

/-- The version that objects of a kind declare. -/
def apiVersion : Kind → String
  | .group | .groupClass | .content => "csi.ibm.com/v1"
  | .claim | .volume | .secret => "v1"
  | .storageClass => "storage.k8s.io/v1"
  | .event => "events.k8s.io/v1"

/-- The path under which a kind's version is served. -/
def root : Kind → String
  | .claim | .volume | .secret => "/api/v1"
  | kind => "/apis/" ++ kind.apiVersion

/-- Objects of a kind live inside a namespace. -/
def isNamespaced : Kind → Bool
  | .group | .content | .claim | .secret | .event => true
  | .groupClass | .volume | .storageClass => false

end Kind

end VolumeGroups
