import VolumeGroups.ContentRecord
import VolumeGroups.Credentials
import VolumeGroups.Membership

/-! A pass over a group, which brings the driver, the content, the claims and the state in line
with it. -/

namespace VolumeGroups

/-- Record an event, where one that cannot be recorded is let go. -/
def note (regarding : ObjectReference) (type : EventType) (reason : Reason) (message : String) :
    Program Unit := do
  let _ ← Program.ask (.record { regarding, type, reason := reason.name, message })
  return ()

/-- Tell on a group why its pass fails, in its state and by an event, as far as that works. -/
def Group.tell (group : Group) (reason : Reason) (ready : Option Bool) (error : PassError) :
    Program Unit := do
  let status := GroupStatus.failed group.status error.statusMessage ready
  -- A state that says the same already is not written again, so a failure that lasts is quiet.
  if group.status ≠ some status then
    let _ ← Program.ask (.replaceGroupStatus { group with status := some status })
  -- The event is recorded whether or not the state was, as both are best effort.
  note (Resource.reference group) .warning reason error.statusMessage

/-- An attempt whose failure is told on a group before it ends the pass. -/
def Attempt.tellingOn {α : Type} (group : Group) (reason : Reason) (ready : Option Bool)
    (attempt : Attempt PassError α) : Attempt PassError α :=
  ExceptT.mk do
    match ← attempt.run with
    | .ok value => return .ok value
    | .error error =>
      -- Failures of telling stay inside it, so the pass ends with the failure that was told.
      group.tell reason ready error
      return .error error

/-- The class of a group. -/
def Group.resolveClass (group : Group) : Attempt PassError GroupClass :=
  match group.className? with
  | none => throw (.missingClassName group.name)
  | some name =>
    -- A missing class is a mistake that a user can mend, any other failure passes by itself.
    .within (fun cause => if cause.isNotFound then .classNotFound name else .cluster cause)
      (.of (.ask (.getClass name)))

/-- The content of a group, and whether this pass made it together with the driver's group. -/
def Group.obtainContent (group : Group) (groupClass : GroupClass) (parameters : ClassParameters)
    (secrets : KeyMap String) : Attempt PassError (Content × Bool) := do
  match ← Attempt.within .content group.lookupContent with
  | some content => return (content, false)
  | none =>
    let name ← Attempt.within .object (.known group.driverName)
    let created ← Attempt.tellingOn group .createVolumeGroupFailed (some false) <|
      .within .driver (.of (.ask (.createDriverGroup name secrets parameters.driver)))
    -- From here on the driver has a group that nothing records until the content is made.
    let content ← Attempt.within .object <| .known <|
      group.newContent (Resource.displayName groupClass) groupClass.spec.driver created
        parameters.secret
    let content ← Attempt.within .content content.create
    return (content, true)

/-- The group with the name of its content recorded in it. -/
def Group.rememberContent (group : Group) (contentName : String) : Attempt PassError Group :=
  if group.spec.source.contentName = some contentName then return group
  else
    let source := { group.spec.source with contentName := some contentName }
    .within .cluster (.of (.ask (.replaceGroup { group with spec := { group.spec with source } })))

/-- The group with a state that differs from its own stored. -/
def Group.syncStatus (group : Group) (status : GroupStatus) : Attempt PassError Group :=
  if group.status = some status then return group
  else .within .cluster (.of (.ask (.replaceGroupStatus { group with status := some status })))

/-- Take the marks off some claims, except off those that another group lists. -/
def releaseClaims (claims : List Claim) (others : List Group) : Attempt PassError Unit :=
  claims.forM fun claim => Attempt.within .cluster (claim.release others)

/-- The groups that go by another name. -/
def Group.others (group : Group) (groups : List Group) : List Group :=
  groups.filter fun other => other.name != group.name

/-- Bring everything in line with a live group. -/
def Group.sync (group : Group) (groupClass : GroupClass) (parameters : ClassParameters)
    (secrets : KeyMap String) : Attempt PassError Action := do
  let space ← Attempt.within .object (.known group.namespace)
  let groups ← Attempt.within .cluster (.of (.ask (.listGroups space)))
  let plan ← Attempt.tellingOn group .membershipResolutionFailed none <|
    .within .membership (group.plan groups)
  plan.rejected.forM fun (claim, cause) =>
    note (Resource.reference claim) .warning .membershipRejected cause.message
  -- Every member is marked before the driver hears of it.
  plan.members.forM fun member => Attempt.within .cluster member.claim.protect
  let (content, created) ← group.obtainContent groupClass parameters secrets
  let contentName := Resource.displayName content
  let some handle := content.handle? | throw (.missingHandle contentName)
  let group ← group.rememberContent contentName
  -- A group that was just made has no members to take away.
  if !created || !plan.volumeIds.isEmpty then
    Attempt.tellingOn group .modifyVolumeGroupFailed (some false) <|
      .within .driver (.of (.ask (.modifyMembership handle plan.volumeIds secrets)))
  let contentStatus ← content.readyStatus plan.volumeNames
  let content ← Attempt.within .content (content.syncStatus contentStatus)
  let status : GroupStatus :=
    { contentName := some contentName
      creationTime := content.status.bind ContentStatus.creationTime
      ready := some true
      error := plan.rejectionMessage.map fun message => { message := some message }
      claimNames := plan.claimNames }
  let changed := group.members ≠ status.claimNames
  let group ← group.syncStatus status
  -- The list forgets a claim before its mark goes, so a group that the write wakes finds it free.
  releaseClaims plan.departed (group.others groups)
  if created then
    note (Resource.reference group) .normal .volumeGroupCreated
      ("created volume group " ++ handle ++ " with content " ++ contentName)
  if changed then
    note (Resource.reference group) .normal .membershipChanged
      ("members: [" ++ ", ".intercalate status.claimNames ++ "]")
  match plan.rejectionMessage with
  | some message => throw (.claimsRejected message)
  | none => return .awaitChange

/-- A terminating group with no members recorded any more, so that other groups may take them. -/
def Group.forgetMembers (group : Group) : Attempt PassError Group :=
  match group.status with
  | none => return group
  | some status =>
    -- A group that recorded none is not written, so a pass that runs again finds it as it is.
    if status.claimNames.isEmpty then return group
    else
      let status := some { status with claimNames := [] }
      .within .cluster (.of (.ask (.replaceGroupStatus { group with status })))

/-- The driver forgets a group, where one that it does not know is as good. -/
def Group.deleteAtDriver (group : Group) (handle : String) (secrets : KeyMap String) :
    Attempt PassError Unit :=
  Attempt.tellingOn group .deleteVolumeGroupFailed (some false) do
    let answer ← Attempt.outcome (.of (.ask (.deleteDriverGroup handle secrets)))
    match answer with
    -- An earlier pass that was interrupted may have had it deleted already.
    | .ok () => return ()
    | .error cause => if cause.isNotFound then return () else throw (.driver cause)

/-- A terminating group has to release a claim, given the volumes of its content. -/
def Group.owes (group : Group) (volumeNames : List String) (claim : Claim) : Bool :=
  -- The content still names the members after an interrupted pass made the group forget them.
  group.lists claim || group.selects claim matches .ok true
    || claim.volumeName?.any volumeNames.contains

/-- Take down a terminating group: the driver's group first, then claims, content and group. -/
def Group.finalize (group : Group) (secrets : KeyMap String) : Attempt PassError Action := do
  -- Without the mark the group is not held, and the teardown is done.
  if !group.metadata.hasFinalizer groupFinalizer then return .awaitChange
  let space ← Attempt.within .object (.known group.namespace)
  let content ← Attempt.tellingOn group .deleteVolumeGroupFailed none <|
    .within .content group.lookupContent
  -- No content means that no handle is known, and the driver is left out of it.
  if let some handle := content.bind Content.handle? then group.deleteAtDriver handle secrets
  -- The content names the volumes even after the group forgot its members in an interrupted pass.
  let volumeNames := ((content.bind Content.status).map ContentStatus.volumeNames).getD []
  let claims ← Attempt.within .cluster (.of (.ask (.listClaims space)))
  let released := claims.filter (group.owes volumeNames)
  -- The members are forgotten before they lose their marks, so no group lists an unmarked claim.
  let group ← group.forgetMembers
  let groups ← Attempt.within .cluster (.of (.ask (.listGroups space)))
  releaseClaims released (group.others groups)
  if let some content := content then Attempt.within .content content.delete
  -- The mark on the group comes off last, since it says that some of this is still owed.
  Attempt.within .cluster group.release
  return .awaitChange

/-- A pass over a stored group on behalf of the driver of some name. -/
def Group.advance (group : Group) (driver : String) : Attempt PassError Action := do
  let groupClass ← group.resolveClass.tellingOn group .classResolutionFailed none
  -- The group of another driver is none of this operator's business.
  if groupClass.spec.driver ≠ driver then return .awaitChange
  let parameters ← Attempt.tellingOn group .invalidParameters none <|
    .within (.parameters (Resource.displayName groupClass)) <|
      .known (ClassParameters.resolve groupClass.spec.parameters)
  let secrets ← Attempt.tellingOn group .secretResolutionFailed none <|
    .within .secret parameters.secret.credentials
  if group.isTerminating then group.finalize secrets
  else
    let group ← Attempt.within .cluster group.protect
    group.sync groupClass parameters secrets

/-- A pass over a group that may have changed or gone since it was seen. -/
def Group.reconcile (seen : Group) (driver : String) : Attempt PassError Action := do
  let space ← Attempt.within .object (.known seen.namespace)
  let answer ← Attempt.outcome (.of (.ask (.getGroup seen.name space)))
  match answer with
  -- The pass works on the group as it is now, not as it was when it was seen.
  | .ok group => group.advance driver
  | .error cause => if cause.isNotFound then return .awaitChange else throw (.cluster cause)

end VolumeGroups
