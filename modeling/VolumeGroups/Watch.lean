import VolumeGroups.Resource.Group

/-! The groups that a change of a claim may concern. -/

namespace VolumeGroups

/-- A change of the claim may concern the group. -/
def Group.concerns (group : Group) (claim : Claim) : Bool :=
  -- A selector that makes no sense counts as matching, so that the group's pass reports it.
  group.metadata.namespace == claim.metadata.namespace
    && (group.lists claim || !(group.selects claim matches .ok false))

/-- The groups that a change of a claim may concern, in their own order. -/
def groupsConcerning (claim : Claim) (groups : List Group) : List Group :=
  groups.filter fun group => group.concerns claim

/-- Where a group is found. -/
structure GroupAddress where
  name : String
  «namespace» : Option String
  deriving DecidableEq, Inhabited

/-- Where a group is found, if it has a name of its own. -/
def Group.address? (group : Group) : Option GroupAddress :=
  group.metadata.name.map fun name => ⟨name, group.metadata.namespace⟩

/-- Where the groups are found that a change of a claim may concern, if all of them have names. -/
def addressesConcerning (claim : Claim) (groups : List Group) : Option (List GroupAddress) :=
  (groupsConcerning claim groups).mapM Group.address?

end VolumeGroups
