import VolumeGroups.Failure.Cluster
import VolumeGroups.Failure.Driver

/-! Why a pass over a group fails, by the step that fails, and how soon it is tried again. -/

namespace VolumeGroups

/-- What comes before every key that the operator reserves. -/
def reservedStem : String := "volumegroup.storage.ibm.io/"

/-- Why the parameters of a class are refused. -/
inductive ParameterError where
  /-- A reserved key is not one the operator knows. -/
  | unknownReservedKey (key : String)
  /-- A reserved key has no value. -/
  | emptyValue (key : String)
  deriving DecidableEq

/-- What is wrong with the parameters. -/
def ParameterError.message : ParameterError → String
  | .unknownReservedKey key =>
    "found unknown parameter key '" ++ key ++ "' with reserved prefix " ++ reservedStem
  | .emptyValue key => "parameter '" ++ key ++ "' must be not empty"

/-- Why credentials cannot be had. -/
inductive SecretError where
  /-- The secret is not there. -/
  | notFound (name «namespace» : String)
  /-- The secret cannot be read. -/
  | unavailable (name «namespace» : String) (cause : ClusterError)
  /-- A value is no text. -/
  | invalidData (name «namespace» key : String)
  deriving DecidableEq

/-- What is wrong with the credentials. -/
def SecretError.message : SecretError → String
  | .notFound name space => "secret '" ++ space ++ "/" ++ name ++ "' not found"
  | .unavailable name space cause =>
    "error getting secret '" ++ space ++ "/" ++ name ++ "': " ++ cause.message
  | .invalidData name space key =>
    "secret '" ++ space ++ "/" ++ name ++ "' key '" ++ key ++ "' is not valid UTF-8"

/-- Why a claim may not join a group that selects it. -/
inductive Rejection where
  /-- Other groups list the claim. -/
  | alreadyInGroup (claim : String) (candidates existing : List String)
  /-- More than one group would take the claim. -/
  | multipleNewGroups (claim : String) (candidates : List String)
  /-- The claim's class of volumes groups them by itself. -/
  | groupedByStorageClass (claim storageClass : String)
  deriving DecidableEq

/-- The parameter of classes of volumes that group on their own. -/
def storageClassGroupParameter : String := "volume_group"

/-- Why the claim is refused. -/
def Rejection.message : Rejection → String
  | .alreadyInGroup claim candidates existing =>
    "failed to add " ++ claim ++ " persistentVolumeClaim to volumeGroups " ++ quotedList candidates
      ++ " because it belongs to other volumeGroups " ++ quotedList existing
  | .multipleNewGroups claim candidates =>
    "failed to add " ++ claim ++ " persistentVolumeClaim to volumeGroups " ++ quotedList candidates
      ++ " because it matched more than one new volumeGroup"
  | .groupedByStorageClass claim storageClass =>
    claim ++ " persistentVolumeClaim uses storageClass '" ++ storageClass
      ++ "', which groups its volumes through the '" ++ storageClassGroupParameter ++ "' parameter"

/-- Why the members of a group cannot be told. -/
inductive MembershipError where
  /-- The volume of a claim is not there. -/
  | volumeNotFound (claim volume : String)
  /-- The volume of a claim is no driver's. -/
  | notDriverVolume (claim volume : String)
  /-- A read fails. -/
  | cluster (cause : ClusterError)
  /-- The group is not in order. -/
  | object (cause : ObjectError)
  deriving DecidableEq

/-- What is wrong with the members. -/
def MembershipError.message : MembershipError → String
  | .volumeNotFound claim volume =>
    volume ++ " persistentVolume of claim " ++ claim ++ " does not exist"
  | .notDriverVolume claim volume =>
    volume ++ " persistentVolume of claim " ++ claim ++ " is not a CSI volume"
  | .cluster cause => cause.message
  | .object cause => cause.message

/-- Why a group's content cannot be used. -/
inductive ContentError where
  /-- The content was made for another group. -/
  | foreign (name : String) (owner : Option String) (uid : String)
  /-- A read or a write fails. -/
  | cluster (cause : ClusterError)
  /-- The group is not in order. -/
  | object (cause : ObjectError)
  deriving DecidableEq

/-- What is wrong with the content. -/
def ContentError.message : ContentError → String
  | .foreign name owner uid =>
    "volumeGroupContent '" ++ name ++ "' is bound to volumeGroup uid " ++ quotedOption owner
      ++ ", not " ++ uid
  | .cluster cause => cause.message
  | .object cause => cause.message

/-- Why a pass over a group fails. -/
inductive PassError where
  /-- The group names no class. -/
  | missingClassName (group : String)
  /-- The class is not there. -/
  | classNotFound (name : String)
  /-- The parameters of the class are refused. -/
  | parameters (groupClass : String) (cause : ParameterError)
  /-- The content names no group of the driver. -/
  | missingHandle (content : String)
  /-- Some claims may not join. -/
  | claimsRejected (message : String)
  /-- The credentials cannot be had. -/
  | secret (cause : SecretError)
  /-- The members cannot be told. -/
  | membership (cause : MembershipError)
  /-- The content cannot be used. -/
  | content (cause : ContentError)
  /-- The driver fails. -/
  | driver (cause : DriverError)
  /-- A read or a write fails. -/
  | cluster (cause : ClusterError)
  /-- The group is not in order. -/
  | object (cause : ObjectError)
  deriving DecidableEq

namespace PassError

/-- What is wrong with the pass. -/
def message : PassError → String
  -- The causes tell themselves, and only what the pass finds out adds words of its own.
  | .missingClassName group => "volumeGroup '" ++ group ++ "' has no volumeGroupClassName"
  | .classNotFound name => "volumeGroupClass '" ++ name ++ "' not found"
  | .parameters groupClass cause =>
    "invalid parameters in volumeGroupClass '" ++ groupClass ++ "': " ++ cause.message
  | .missingHandle name => "volumeGroupContent '" ++ name ++ "' has no volume group handle"
  | .claimsRejected message => message
  | .secret cause => cause.message
  | .membership cause => cause.message
  | .content cause => cause.message
  | .driver cause => cause.message
  | .cluster cause => cause.message
  | .object cause => cause.message

/-- The text for the group's status. -/
def statusMessage : PassError → String
  | .driver cause => cause.statusMessage
  | error => error.message

/-- The failure lasts until somebody changes an object. -/
def isConfiguration : PassError → Bool
  -- Such a failure waits for a change, any other is tried again by itself.
  | .missingClassName _ | .classNotFound _ | .parameters .. | .missingHandle _
  | .claimsRejected _ | .object _ => true
  | .secret (.unavailable ..) => false
  | .secret _ => true
  | .content (.foreign ..) => true
  | .content (.cluster _) | .content (.object _) => false
  | .membership (.volumeNotFound ..) | .membership (.notDriverVolume ..) => true
  | .membership (.cluster _) | .membership (.object _) => false
  | .driver _ | .cluster _ => false

end PassError

/-- What happens to a group after a pass. -/
inductive Action where
  /-- Nothing, until an object changes. -/
  | awaitChange
  /-- Another pass after some seconds. -/
  | requeue (seconds : Nat)
  deriving DecidableEq

/-- When a failed pass is tried again: late where only a change helps, soon where time may. -/
def PassError.retry (error : PassError) : Action :=
  match error with
  | .claimsRejected _ => .requeue 300
  | _ => if error.isConfiguration then .requeue 30 else .requeue 5

end VolumeGroups
