import VolumeGroups.Call

/-! Faults that calls can be made to fail with, and the calls they can be laid on. -/

namespace VolumeGroups

/-- What a call asks for, whatever it asks it about. -/
inductive Method where
  | getGroup
  | listGroups
  | replaceGroup
  | replaceGroupStatus
  | getClass
  | getContent
  | createContent
  | replaceContent
  | replaceContentStatus
  | deleteContent
  | getSecret
  | listClaims
  | replaceClaim
  | getVolume
  | getStorageClass
  | record
  | createDriverGroup
  | deleteDriverGroup
  | modifyMembership
  | readClock
  deriving DecidableEq

/-- What a call asks for. -/
def Call.method : Call → Method
  | .getGroup .. => .getGroup
  | .listGroups _ => .listGroups
  | .replaceGroup _ => .replaceGroup
  | .replaceGroupStatus _ => .replaceGroupStatus
  | .getClass _ => .getClass
  | .getContent .. => .getContent
  | .createContent _ => .createContent
  | .replaceContent _ => .replaceContent
  | .replaceContentStatus _ => .replaceContentStatus
  | .deleteContent .. => .deleteContent
  | .getSecret .. => .getSecret
  | .listClaims _ => .listClaims
  | .replaceClaim _ => .replaceClaim
  | .getVolume _ => .getVolume
  | .getStorageClass _ => .getStorageClass
  | .record _ => .record
  | .createDriverGroup .. => .createDriverGroup
  | .deleteDriverGroup .. => .deleteDriverGroup
  | .modifyMembership .. => .modifyMembership
  | .readClock => .readClock

/-- The call changes something or tells somebody something. -/
def Method.isEffect : Method → Bool
  | .replaceGroup | .replaceGroupStatus | .createContent | .replaceContent
  | .replaceContentStatus | .deleteContent | .replaceClaim | .record | .createDriverGroup
  | .deleteDriverGroup | .modifyMembership => true
  | .getGroup | .listGroups | .getClass | .getContent | .getSecret | .listClaims | .getVolume
  | .getStorageClass | .readClock => false

/-- A failure that a call can be made to end with. -/
inductive Fault where
  | notFound
  | alreadyExists
  | conflict
  | noNamespace
  /-- The cluster refuses the request. -/
  | refused (account : ApiStatus)
  /-- The cluster refuses an event. -/
  | eventRefused (account : ApiStatus)
  /-- The driver answers with a failing code. -/
  | status (code : Nat) (text : String)
  /-- The driver does not answer in time. -/
  | timeout (limit : Duration)
  /-- The driver names no group. -/
  | missingGroup
  deriving DecidableEq

namespace Fault

/-- The fault as the failure of a call on an object of the cluster. -/
def clusterError? (fault : Fault) (kind : Kind) (name : String) : Option ClusterError :=
  match fault with
  -- The cluster's faults name the object they happen to.
  | .notFound => some (.notFound kind name)
  | .alreadyExists => some (.alreadyExists kind name)
  | .conflict => some (.conflict kind name)
  | .noNamespace => some (.object .noNamespace)
  | .refused account => some (.request (.refused account))
  | .eventRefused account => some (.event (.refused account))
  | .status .. | .timeout _ | .missingGroup => none

/-- The fault as the failure of a call of the driver. -/
def driverError? (fault : Fault) (method : String) : Option DriverError :=
  match fault with
  -- The driver's faults name the method that was called.
  | .status code text => some (.status method code (some text))
  | .timeout limit => some (.timeout method limit)
  | .missingGroup => some (.missingGroup method)
  | _ => none

end Fault

/-- The answer by which a call fails with a fault, if it can fail with it at all. -/
def Call.failWith? (request : Call) (fault : Fault) : Option request.Answer :=
  match request with
  | .getGroup name _ => (fault.clusterError? .group name).map .error
  | .listGroups space => (fault.clusterError? .group space).map .error
  | .replaceGroup group => (fault.clusterError? .group (Resource.displayName group)).map .error
  | .replaceGroupStatus group =>
    (fault.clusterError? .group (Resource.displayName group)).map .error
  | .getClass name => (fault.clusterError? .groupClass name).map .error
  | .getContent name _ => (fault.clusterError? .content name).map .error
  | .createContent content =>
    (fault.clusterError? .content (Resource.displayName content)).map .error
  | .replaceContent content =>
    (fault.clusterError? .content (Resource.displayName content)).map .error
  | .replaceContentStatus content =>
    (fault.clusterError? .content (Resource.displayName content)).map .error
  | .deleteContent name _ => (fault.clusterError? .content name).map .error
  | .getSecret name _ => (fault.clusterError? .secret name).map .error
  | .listClaims space => (fault.clusterError? .claim space).map .error
  | .replaceClaim claim => (fault.clusterError? .claim (Resource.displayName claim)).map .error
  | .getVolume name => (fault.clusterError? .volume name).map .error
  | .getStorageClass name => (fault.clusterError? .storageClass name).map .error
  | .record event => (fault.clusterError? .event event.reason).map .error
  | .createDriverGroup .. => (fault.driverError? DriverMethod.create).map .error
  | .deleteDriverGroup .. => (fault.driverError? DriverMethod.delete).map .error
  | .modifyMembership .. => (fault.driverError? DriverMethod.modify).map .error
  -- Reading the clock never fails.
  | .readClock => none

end VolumeGroups
