import VolumeGroups.Failure.Pass
import VolumeGroups.Resource.Content

/-! The calls a pass makes on the cluster, the storage driver and the clock, and the answers they
get. -/

namespace VolumeGroups

/-- Why an event is recorded. -/
inductive Reason where
  | volumeGroupCreated
  | membershipChanged
  | membershipRejected
  | classResolutionFailed
  | invalidParameters
  | secretResolutionFailed
  | membershipResolutionFailed
  | createVolumeGroupFailed
  | modifyVolumeGroupFailed
  | deleteVolumeGroupFailed
  deriving DecidableEq

namespace Reason

/-- All reasons, in the order they are declared. -/
def all : List Reason :=
  [.volumeGroupCreated, .membershipChanged, .membershipRejected, .classResolutionFailed,
    .invalidParameters, .secretResolutionFailed, .membershipResolutionFailed,
    .createVolumeGroupFailed, .modifyVolumeGroupFailed, .deleteVolumeGroupFailed]

/-- The word for a reason. -/
def name : Reason → String
  | .volumeGroupCreated => "VolumeGroupCreated"
  | .membershipChanged => "MembershipChanged"
  | .membershipRejected => "MembershipRejected"
  | .classResolutionFailed => "ClassResolutionFailed"
  | .invalidParameters => "InvalidParameters"
  | .secretResolutionFailed => "SecretResolutionFailed"
  | .membershipResolutionFailed => "MembershipResolutionFailed"
  | .createVolumeGroupFailed => "CreateVolumeGroupFailed"
  | .modifyVolumeGroupFailed => "ModifyVolumeGroupFailed"
  | .deleteVolumeGroupFailed => "DeleteVolumeGroupFailed"

end Reason

/-- How much an event matters. -/
inductive EventType where
  | normal
  | warning
  deriving DecidableEq

/-- The word for how much an event matters. -/
def EventType.name : EventType → String
  | .normal => "Normal"
  | .warning => "Warning"

/-- A note on what happened to an object. -/
structure Event where
  regarding : ObjectReference
  type : EventType
  reason : String
  message : String
  deriving DecidableEq

/-- What the driver returns for a group it made. -/
structure CreatedGroup where
  handle : String
  attributes : KeyMap String := ∅
  deriving DecidableEq, Inhabited

/-- A call on the cluster, the storage driver or the clock. -/
inductive Call where
  | getGroup (name «namespace» : String)
  | listGroups («namespace» : String)
  | replaceGroup (group : Group)
  | replaceGroupStatus (group : Group)
  | getClass (name : String)
  | getContent (name «namespace» : String)
  | createContent (content : Content)
  | replaceContent (content : Content)
  | replaceContentStatus (content : Content)
  | deleteContent (name «namespace» : String)
  | getSecret (name «namespace» : String)
  | listClaims («namespace» : String)
  | replaceClaim (claim : Claim)
  | getVolume (name : String)
  | getStorageClass (name : String)
  | record (event : Event)
  | createDriverGroup (name : String) (secrets parameters : KeyMap String)
  | deleteDriverGroup (handle : String) (secrets : KeyMap String)
  | modifyMembership (handle : String) (volumeIds : List String) (secrets : KeyMap String)
  | readClock
  deriving DecidableEq

/-- What a call may answer. -/
@[reducible] def Call.Answer : Call → Type
  | .getGroup .. | .replaceGroup _ | .replaceGroupStatus _ => Except ClusterError Group
  | .listGroups _ => Except ClusterError (List Group)
  | .getClass _ => Except ClusterError GroupClass
  | .getContent .. | .createContent _ | .replaceContent _ | .replaceContentStatus _ =>
    Except ClusterError Content
  | .deleteContent .. | .record _ => Except ClusterError Unit
  | .getSecret .. => Except ClusterError Secret
  -- Answers that a call cannot give have no type here, so no run has to rule them out.
  | .listClaims _ => Except ClusterError (List Claim)
  | .replaceClaim _ => Except ClusterError Claim
  | .getVolume _ => Except ClusterError Volume
  | .getStorageClass _ => Except ClusterError StorageClass
  | .createDriverGroup .. => Except DriverError CreatedGroup
  | .deleteDriverGroup .. | .modifyMembership .. => Except DriverError Unit
  | .readClock => Time

end VolumeGroups
