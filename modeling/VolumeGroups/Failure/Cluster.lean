import VolumeGroups.Resource.Group
import VolumeGroups.Text.Quoted

/-! Why a read or a write of the cluster's objects fails. -/

namespace VolumeGroups

/-- How the server says that a request ended. -/
inductive Outcome where
  | success
  | failure
  deriving DecidableEq

/-- The server's account of a request. -/
structure ApiStatus where
  outcome : Option Outcome := none
  code : Nat := 0
  message : String := ""
  reason : String := ""
  deriving DecidableEq

namespace ApiStatus

/-- The outcome as it stands in a text. -/
def outcomeText : Option Outcome → String
  | some .success => "Some(Success)"
  | some .failure => "Some(Failure)"
  | none => "None"

/-- The account as text: message and reason first, then all of it. -/
def text (status : ApiStatus) : String :=
  "ApiError: " ++ status.message ++ ": " ++ status.reason ++ " (Status \x7b status: "
    ++ outcomeText status.outcome ++ ", code: " ++ toString status.code ++ ", message: "
    ++ quoted status.message ++ ", metadata: None, reason: " ++ quoted status.reason
    ++ ", details: None \x7d)"

end ApiStatus

/-- Why an exchange with the server fails. -/
inductive RequestError where
  /-- The server refuses. -/
  | refused (status : ApiStatus)
  /-- The answer is no object of the expected kind. -/
  | unreadable
  /-- No request can be made of the arguments. -/
  | unaddressable
  /-- No answer comes. -/
  | unanswered
  deriving DecidableEq

/-- What is wrong with the exchange. -/
def RequestError.message : RequestError → String
  | .refused status => status.text
  | .unreadable => "Error deserializing response"
  | .unaddressable => "Failed to build request"
  | .unanswered => "ServiceError"

/-- Why a read or a write of the cluster's objects fails. -/
inductive ClusterError where
  /-- The object is not there. -/
  | notFound (kind : Kind) (name : String)
  /-- An object of that name is there already. -/
  | alreadyExists (kind : Kind) (name : String)
  /-- The object changed since it was read. -/
  | conflict (kind : Kind) (name : String)
  /-- The exchange with the server fails for any other reason. -/
  | request (cause : RequestError)
  /-- An event cannot be recorded. -/
  | event (cause : RequestError)
  /-- The object lacks what the call needs. -/
  | object (cause : ObjectError)
  deriving DecidableEq

namespace ClusterError

/-- What is wrong with the call. -/
def message : ClusterError → String
  | .notFound kind name => kind.name ++ " '" ++ name ++ "' not found"
  | .alreadyExists kind name => kind.name ++ " '" ++ name ++ "' already exists"
  | .conflict kind name =>
    "conflict writing " ++ kind.name ++ " '" ++ name
      ++ "': the object has been modified, the pass will be retried"
  | .request cause => "Kubernetes API error: " ++ cause.message
  | .event cause => "record event error: " ++ cause.message
  | .object cause => cause.message

/-- The object is not there. -/
def isNotFound : ClusterError → Bool
  | .notFound .. => true
  | _ => false

/-- An object of that name is there already. -/
def isAlreadyExists : ClusterError → Bool
  | .alreadyExists .. => true
  | _ => false

/-- The object changed since it was read. -/
def isConflict : ClusterError → Bool
  | .conflict .. => true
  | _ => false

end ClusterError

end VolumeGroups
