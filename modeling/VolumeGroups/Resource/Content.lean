import VolumeGroups.Resource.Metadata

/-! Contents, which record the groups a driver holds, and the classes that bind groups to
drivers. -/

namespace VolumeGroups

/-- What binds groups to a driver. -/
structure GroupClassSpec where
  driver : String
  /-- Parameters for the driver together with the keys the operator reserves. -/
  parameters : KeyMap String := ∅
  deriving DecidableEq, Inhabited

/-- A class that binds groups to a driver. -/
structure GroupClass where
  metadata : Metadata
  spec : GroupClassSpec
  deriving DecidableEq, Inhabited

instance : Resource GroupClass where
  kind := .groupClass
  metadata := GroupClass.metadata
  withMetadata metadata groupClass := { groupClass with metadata }

/-- The group as the driver returned it. -/
structure ContentSource where
  driver : String
  handle : String
  attributes : KeyMap String := ∅
  deriving DecidableEq, Inhabited

/-- Where credentials lie. -/
structure SecretReference where
  name : Option String := none
  «namespace» : Option String := none
  deriving DecidableEq, Inhabited

/-- What a content records. -/
structure ContentSpec where
  className : Option String := none
  /-- The group that the content was made for. -/
  groupReference : Option ObjectReference := none
  source : Option ContentSource := none
  secretReference : Option SecretReference := none
  deriving DecidableEq, Inhabited

/-- The observed state of a content. -/
structure ContentStatus where
  creationTime : Option Time := none
  ready : Option Bool := none
  /-- The names of the member volumes. -/
  volumeNames : List String := []
  deriving DecidableEq, Inhabited

/-- The record of a group that the driver holds. -/
structure Content where
  metadata : Metadata
  spec : ContentSpec
  status : Option ContentStatus := none
  deriving DecidableEq, Inhabited

namespace Content

instance : Resource Content where
  kind := .content
  metadata := Content.metadata
  withMetadata metadata content := { content with metadata }

/-- The driver's name for the group, where an empty one counts as none. -/
def handle? (content : Content) : Option String :=
  (content.spec.source.map ContentSource.handle).filter fun handle => !handle.isEmpty

/-- The identity of the group that the content was made for. -/
def ownerUid? (content : Content) : Option String :=
  content.spec.groupReference.bind ObjectReference.uid

end Content

end VolumeGroups
