import VolumeGroups.Resource.Claim
import VolumeGroups.Resource.Selector

/-! Groups of volumes: what their objects say, and which claims they select and list. -/

namespace VolumeGroups

/-- An object lacks what it needs or contradicts itself. -/
inductive ObjectError where
  /-- The object belongs to no namespace. -/
  | noNamespace
  /-- The object has no identity of its own. -/
  | missingUid (kind : Kind) (name : String)
  /-- The selector of a group makes no sense. -/
  | invalidSelector (group : String) (cause : SelectorError)
  deriving DecidableEq

/-- What is wrong with the object. -/
def ObjectError.message : ObjectError → String
  | .noNamespace => "object has no namespace associated"
  | .missingUid kind name => "corrupted " ++ kind.name ++ " object '" ++ name ++ "', it is missing UID"
  | .invalidSelector group cause =>
    "invalid label selector on volumeGroup '" ++ group ++ "': " ++ cause.message

/-- What went wrong with a group last. -/
structure GroupError where
  message : Option String := none
  deriving DecidableEq, Inhabited

/-- The observed state of a group. -/
structure GroupStatus where
  contentName : Option String := none
  creationTime : Option Time := none
  ready : Option Bool := none
  error : Option GroupError := none
  /-- The names of the member claims. -/
  claimNames : List String := []
  deriving DecidableEq, Inhabited

namespace GroupStatus

/-- The text of what went wrong last. -/
def errorMessage (status : GroupStatus) : Option String := status.error.bind GroupError.message

/-- The earlier state with a new error, and with a new readiness if one is known. -/
def failed (previous : Option GroupStatus) (message : String) (ready : Option Bool) : GroupStatus :=
  -- Members and content stay as they were, since a failed pass learned nothing about them.
  let base := previous.getD {}
  { base with error := some ⟨some message⟩, ready := ready.or base.ready }

end GroupStatus

/-- Where a group's content and members come from. -/
structure GroupSource where
  contentName : Option String := none
  selector : Option LabelSelector := none
  deriving DecidableEq, Inhabited

/-- What a group asks for. -/
structure GroupSpec where
  className : Option String := none
  source : GroupSource := {}
  deriving DecidableEq, Inhabited

/-- A group of volumes. -/
structure Group where
  metadata : Metadata
  spec : GroupSpec
  status : Option GroupStatus := none
  deriving DecidableEq, Inhabited

/-- The label that puts a claim into the group of that name. -/
def defaultSelectorLabel : String := "volumegroup"

/-- What comes before the identity in a group's name at the driver. -/
def driverNameStem : String := "volumegroup"

namespace Group

instance : Resource Group where
  kind := .group
  metadata := Group.metadata
  withMetadata metadata group := { group with metadata }

/-- The name a group goes by. -/
def name (group : Group) : String := group.metadata.displayName

/-- The namespace of a group. -/
def «namespace» (group : Group) : Except ObjectError String :=
  match group.metadata.namespace with
  | some value => .ok value
  | none => .error .noNamespace

/-- The identity of a group. -/
def uid (group : Group) : Except ObjectError String :=
  match group.metadata.uid with
  | some value => .ok value
  | none => .error (.missingUid .group group.name)

/-- The name under which the driver knows a group. -/
def driverName (group : Group) : Except ObjectError String :=
  group.uid.map fun uid => driverNameStem ++ "-" ++ uid

/-- The name of a group's content: the recorded one, else one made from the group's name. -/
def contentName (group : Group) : String :=
  group.spec.source.contentName.getD (group.name ++ "-content")

/-- The class of a group, where an empty name counts as none. -/
def className? (group : Group) : Option String :=
  group.spec.className.filter fun name => !name.isEmpty

/-- The selector of a group: its own, else the default label with the group's name. -/
def selector (group : Group) : LabelSelector :=
  group.spec.source.selector.getD
    { matchLabels := some (KeyMap.singleton defaultSelectorLabel group.name) }

/-- A claim's labels match the group's selector, where claims of other namespaces never do. -/
def selects (group : Group) (claim : Claim) : Except ObjectError Bool :=
  -- The namespace comes first, so a selector that makes no sense troubles only its own namespace.
  if claim.metadata.namespace ≠ group.metadata.namespace then .ok false
  else (group.selector.matchesLabels claim.labels).mapError (.invalidSelector group.name)

/-- The names of the claims recorded as members. -/
def members (group : Group) : List String := (group.status.map GroupStatus.claimNames).getD []

/-- A claim is recorded as a member of the group. -/
def lists (group : Group) (claim : Claim) : Bool :=
  claim.metadata.namespace == group.metadata.namespace
    && group.members.any fun name => some name == claim.metadata.name

/-- The group is being deleted. -/
def isTerminating (group : Group) : Bool := group.metadata.isTerminating

end Group

end VolumeGroups
