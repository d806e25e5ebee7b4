import VolumeGroups.Program

/-! Which claims of its namespace a group takes, refuses and lets go. -/

namespace VolumeGroups

/-- The names of the groups that list a claim. -/
def groupsListing (claim : Claim) (groups : List Group) : List String :=
  (groups.filter fun group => group.lists claim).map Group.name

/-- A group would take a claim anew. -/
def Group.seeks (group : Group) (claim : Claim) : Bool :=
  -- A selector that makes no sense selects nothing here, and its own group reports it.
  !group.lists claim && !group.isTerminating && group.selects claim matches .ok true

/-- The names of the groups that would take a claim anew. -/
def groupsSeeking (claim : Claim) (groups : List Group) : List String :=
  (groups.filter fun group => group.seeks claim).map Group.name

/-- Whether a claim may join a group that newly selects it, given all groups of the namespace. -/
def checkExclusive (claim : Claim) (groups : List Group) : Except Rejection Unit :=
  -- Groups that list the claim and groups that would take it are kept apart: no group is both.
  let existing := groupsListing claim groups
  let candidates := groupsSeeking claim groups
  -- Being listed elsewhere only counts against the claim if some group seeks it.
  if !existing.isEmpty && !candidates.isEmpty then
    .error (.alreadyInGroup (Resource.key claim) candidates existing)
  else if 1 < candidates.length then .error (.multipleNewGroups (Resource.key claim) candidates)
  else .ok ()

/-- The refusal of a claim whose class of volumes groups them by itself. -/
def storageClassGuard (claim : Claim) : Attempt MembershipError (Option Rejection) :=
  match claim.storageClassName? with
  | none => return none
  | some name => do
    let answer ← Attempt.outcome (.of (.ask (.getStorageClass name)))
    match answer with
    | .ok storageClass =>
      if (storageClass.parameters.getD ∅).contains storageClassGroupParameter then
        return some (.groupedByStorageClass (Resource.key claim) name)
      else return none
    -- A class that is not there groups nothing.
    | .error cause => if cause.isNotFound then return none else throw (.cluster cause)

/-- The volume a claim is bound to, with the driver's name for it. -/
def boundVolume (claim : Claim) : Attempt MembershipError (Option (String × String)) :=
  match claim.volumeName? with
  | none => return none
  | some name => do
    -- A volume that is not there is a mistake in an object, while a failing read passes by itself.
    let unavailable (cause : ClusterError) : MembershipError :=
      if cause.isNotFound then .volumeNotFound (Resource.key claim) name else .cluster cause
    let volume ← Attempt.within unavailable (.of (.ask (.getVolume name)))
    match volume.handle? with
    | some handle => return some (name, handle)
    -- Volumes that no driver made have no identifier that could be told.
    | none => throw (.notDriverVolume (Resource.key claim) name)

/-- A claim of a group, with the volume it is bound to. -/
structure Member where
  claim : Claim
  volumeName : String
  /-- The driver's name for the volume. -/
  volumeId : String
  deriving DecidableEq, Inhabited

/-- Where a claim stands towards a group. -/
inductive Standing where
  /-- The group has nothing to do with the claim. -/
  | irrelevant
  /-- The group lists the claim and has to let it go. -/
  | departed
  /-- The group selects the claim but may not take it. -/
  | rejected (cause : Rejection)
  /-- The group takes the claim once it is bound. -/
  | waiting
  /-- The group has the claim. -/
  | member (volumeName volumeId : String)
  deriving DecidableEq

/-- Where a claim stands towards a group, given all groups of the namespace. -/
def Group.standing (group : Group) (groups : List Group) (claim : Claim) :
    Attempt MembershipError Standing := do
  let listed := group.lists claim
  let stays ←
    if claim.metadata.isTerminating then pure false
    else .within MembershipError.object (.known (group.selects claim))
  if !stays then return if listed then .departed else .irrelevant
  -- Only a newcomer can be refused, so a member never loses its place to another group.
  if !listed then
    if let .error cause := checkExclusive claim groups then return .rejected cause
    if let some cause ← storageClassGuard claim then return .rejected cause
  match ← boundVolume claim with
  | some (volumeName, volumeId) => return .member volumeName volumeId
  | none => return .waiting

/-- What a group does about the claims of its namespace, each list in the order of the names. -/
structure MembershipPlan where
  members : List Member := []
  /-- Claims the group selects but may not take. -/
  rejected : List (Claim × Rejection) := []
  /-- Claims the group lists but has to let go. -/
  departed : List Claim := []
  deriving DecidableEq, Inhabited

namespace MembershipPlan

/-- The plan with one claim more, before all others. -/
def cons (claim : Claim) (standing : Standing) (plan : MembershipPlan) : MembershipPlan :=
  match standing with
  -- A waiting claim is left for the pass that finds it bound.
  | .irrelevant | .waiting => plan
  | .departed => { plan with departed := claim :: plan.departed }
  | .rejected cause => { plan with rejected := (claim, cause) :: plan.rejected }
  | .member volumeName volumeId =>
    { plan with members := ⟨claim, volumeName, volumeId⟩ :: plan.members }

/-- The driver's names for the members' volumes. -/
def volumeIds (plan : MembershipPlan) : List String := plan.members.map Member.volumeId

/-- The names of the members. -/
def claimNames (plan : MembershipPlan) : List String :=
  plan.members.map fun member => Resource.displayName member.claim

/-- The names of the members' volumes. -/
def volumeNames (plan : MembershipPlan) : List String := plan.members.map Member.volumeName

/-- All refusals in one line, if there are any. -/
def rejectionMessage (plan : MembershipPlan) : Option String :=
  if plan.rejected.isEmpty then none
  else some ("; ".intercalate (plan.rejected.map fun entry => entry.2.message))

end MembershipPlan

/-- The plan of a group for some claims, in their own order. -/
def Group.planFor (group : Group) (groups : List Group) :
    List Claim → Attempt MembershipError MembershipPlan
  | [] => return {}
  | claim :: rest => do
    -- The first claim that cannot be placed ends the plan, before any later one is looked at.
    let standing ← group.standing groups claim
    let plan ← group.planFor groups rest
    return plan.cons claim standing

/-- Claims in the order of their names, where equal names keep their order. -/
def sortedByName (claims : List Claim) : List Claim :=
  claims.mergeSort fun left right =>
    !decide (Resource.displayName right < Resource.displayName left)

/-- The plan of a group for all claims of its namespace, given all groups there. -/
def Group.plan (group : Group) (groups : List Group) : Attempt MembershipError MembershipPlan := do
  let space ← Attempt.within .object (.known group.namespace)
  let claims ← Attempt.within .cluster (.of (.ask (.listClaims space)))
  group.planFor groups (sortedByName claims)

end VolumeGroups
