import VolumeGroups.Pass
import VolumeGroups.Proofs.Store.Regular

/-! A pass as the sequence of its stages, which are defined here and shown to make up the pass. -/

namespace VolumeGroups

namespace Group

/-- The first stage of a live group: what it does about claims, given the groups that it then sees,
with all members marked. -/
def prepare (group : Group) : Attempt PassError (List Group × MembershipPlan) := do
  -- The groups are seen before the claims are counted.
  let space ← Attempt.within .object (.known group.namespace)
  let groups ← Attempt.within .cluster (.of (.ask (.listGroups space)))
  let plan ← Attempt.tellingOn group .membershipResolutionFailed none <|
    .within .membership (group.plan groups)
  plan.rejected.forM fun (claim, cause) =>
    -- Events of refusals come before any mark is set.
    note (Resource.reference claim) .warning .membershipRejected cause.message
  plan.members.forM fun member => Attempt.within .cluster member.claim.protect
  return (groups, plan)

/-- A live group whose content and whose group at the driver are in line with a plan. -/
structure Furnished where
  group : Group
  content : Content
  contentName : String
  handle : String
  /-- The content was made in this pass. -/
  created : Bool

/-- The second stage of a live group: content and driver are brought in line with the plan. -/
def furnish (group : Group) (groupClass : GroupClass) (parameters : ClassParameters)
    (secrets : KeyMap String) (plan : MembershipPlan) : Attempt PassError Furnished := do
  -- Content and handle come first, as the driver is spoken to by its handle.
  let (content, created) ← group.obtainContent groupClass parameters secrets
  let contentName := Resource.displayName content
  let some handle := content.handle? | throw (.missingHandle contentName)
  let group ← group.rememberContent contentName
  -- A group that was there before is told nothing while it has no members to take in.
  if !created || !plan.volumeIds.isEmpty then
    Attempt.tellingOn group .modifyVolumeGroupFailed (some false) <|
      .within .driver (.of (.ask (.modifyMembership handle plan.volumeIds secrets)))
  let contentStatus ← content.readyStatus plan.volumeNames
  let content ← Attempt.within .content (content.syncStatus contentStatus)
  return { group, content, contentName, handle, created }

/-- The state of a group that is in line with a plan. -/
def Furnished.status (furnished : Furnished) (plan : MembershipPlan) : GroupStatus where
  contentName := some furnished.contentName
  creationTime := furnished.content.status.bind ContentStatus.creationTime
  ready := some true
  error := plan.rejectionMessage.map fun message => { message := some message }
  claimNames := plan.claimNames

/-- The last stage of a live group: events tell what is new, and refusals end the pass. -/
def Furnished.announce (furnished : Furnished) (plan : MembershipPlan) (later : Group) :
    Attempt PassError Action := do
  -- Events tell of a new group and of a change of members only.
  if furnished.created then
    note (Resource.reference later) .normal .volumeGroupCreated
      ("created volume group " ++ furnished.handle ++ " with content " ++ furnished.contentName)
  if furnished.group.members ≠ plan.claimNames then
    note (Resource.reference later) .normal .membershipChanged
      ("members: [" ++ ", ".intercalate plan.claimNames ++ "]")
  -- Refusals are the last word of the pass, and the reason for another one.
  match plan.rejectionMessage with
  | some message => throw (.claimsRejected message)
  | none => return .awaitChange

/-- A pass over a live group goes through its stages. -/
theorem sync_eq (group : Group) (groupClass : GroupClass) (parameters : ClassParameters)
    (secrets : KeyMap String) :
    group.sync groupClass parameters secrets = (do
      let (groups, plan) ← group.prepare
      let furnished ← group.furnish groupClass parameters secrets plan
      let later ← furnished.group.syncStatus (furnished.status plan)
      releaseClaims plan.departed (later.others groups)
      furnished.announce plan later) := by
  simp only [sync, prepare, furnish, bind_assoc, pure_bind]
  -- Both sides agree call by call until the content is there.
  refine bind_congr fun space => bind_congr fun groups => bind_congr fun plan =>
    bind_congr fun _ => bind_congr fun _ => bind_congr fun obtained => ?_
  -- A content without a handle ends both, and what follows it is the same in both.
  cases obtained.1.handle? with
  | none => rfl
  | some handle =>
    simp only [bind_assoc]
    refine bind_congr fun remembered => ?_
    split
    · simp only [bind_assoc, pure_bind]
      rfl
    · simp only [bind_assoc, pure_bind]
      rfl

/-- The first stage of a terminating group: the driver forgets it, and its content is known. -/
def dissolve (group : Group) (secrets : KeyMap String) : Attempt PassError (Option Content) := do
  let content ← Attempt.tellingOn group .deleteVolumeGroupFailed none <|
    .within .content group.lookupContent
  if let some handle := content.bind Content.handle? then group.deleteAtDriver handle secrets
  return content

/-- The second stage of a terminating group: it forgets its members, and then their marks go. -/
def disband (group : Group) (space : String) (content : Option Content) :
    Attempt PassError Group := do
  -- Which claims are owed their release follows from the content, as the group will have forgotten
  -- them.
  let volumeNames := ((content.bind Content.status).map ContentStatus.volumeNames).getD []
  let claims ← Attempt.within .cluster (.of (.ask (.listClaims space)))
  -- The members are forgotten first, so that a group that lists nothing releases what it listed.
  let later ← group.forgetMembers
  let groups ← Attempt.within .cluster (.of (.ask (.listGroups space)))
  releaseClaims (claims.filter (group.owes volumeNames)) (later.others groups)
  return later

/-- The last stage of a terminating group: the content goes, and then the group's own mark. -/
def depart (group : Group) (content : Option Content) : Attempt PassError Action := do
  if let some content := content then Attempt.within .content content.delete
  Attempt.within .cluster group.release
  return .awaitChange

/-- A pass over a terminating group goes through its stages. -/
theorem finalize_eq (group : Group) (secrets : KeyMap String) :
    group.finalize secrets =
      if group.isMarked then (do
        let space ← Attempt.within .object (.known group.namespace)
        let content ← group.dissolve secrets
        let later ← group.disband space content
        later.depart content)
      else return .awaitChange := by
  -- The definitions of the stages are put together again.
  simp only [finalize, dissolve, disband, bind_assoc, pure_bind]
  cases marked : group.metadata.hasFinalizer groupFinalizer with
  | false => simp [isMarked, marked]
  | true =>
    simp only [isMarked, marked, Bool.not_true, Bool.false_eq_true, if_false, if_true]
    -- The driver is asked only if the content has a handle, and what follows is the same.
    refine bind_congr fun space => bind_congr fun content => ?_
    cases content.bind Content.handle? with
    | none =>
      simp only [pure_bind]
      rfl
    | some handle =>
      simp only [bind_assoc, pure_bind]
      rfl

end Group

end VolumeGroups
