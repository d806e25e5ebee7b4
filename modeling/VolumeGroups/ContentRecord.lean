import VolumeGroups.Finalizer
import VolumeGroups.Parameters

/-! The content of a group: finding it, making it, keeping its state and removing it. -/

namespace VolumeGroups

/-- The content, if it was made for the group of an identity. -/
def Content.boundTo (content : Content) (uid : String) : Except ContentError Content :=
  if content.ownerUid? = some uid then .ok content
  else .error (.foreign (content.metadata.name.getD "") content.ownerUid? uid)

/-- The content of a group, if there is one and it was made for this group. -/
def Group.lookupContent (group : Group) : Attempt ContentError (Option Content) := do
  let space ← Attempt.within .object (.known group.namespace)
  let answer ← Attempt.outcome (.of (.ask (.getContent group.contentName space)))
  -- A content that is missing is no failure: the driver's group was not made yet or is gone.
  match answer with
  | .ok content =>
    -- What is there under the name may have been made for another group.
    let uid ← Attempt.within .object (.known group.uid)
    some <$> Attempt.known (content.boundTo uid)
  | .error cause => if cause.isNotFound then return none else throw (.cluster cause)

/-- The content that records a group the driver just made. -/
def Group.newContent (group : Group) (className driver : String) (created : CreatedGroup)
    (secret : SecretLocation) : Except ObjectError Content := do
  let space ← group.namespace
  return {
    metadata := {
      name := some group.contentName
      -- The owner lets the content go with the group, and the mark holds it until the driver let
      -- go.
      «namespace» := some space
      ownerReferences := some [Resource.owner group]
      finalizers := some [contentFinalizer] }
    spec := {
      className := some className
      groupReference := some (Resource.reference group)
      source := some { driver, handle := created.handle, attributes := created.attributes }
      -- Half a location of a secret is none, and is not written down either.
      secretReference := secret.both.map fun (name, space) =>
        { name := some name, «namespace» := some space } } }

namespace Content

/-- Store a new content, or give the one that is there if it was made for the same group. -/
def create (content : Content) : Attempt ContentError Content := do
  let answer ← Attempt.outcome (.of (.ask (.createContent content)))
  match answer with
  | .ok created => return created
  | .error cause =>
    -- The pass before may have made it and been interrupted, so it counts if it is this group's.
    if cause.isAlreadyExists then
      let name := content.metadata.name.getD ""
      let space := content.metadata.namespace.getD ""
      let existing ← Attempt.within .cluster (.of (.ask (.getContent name space)))
      .known (existing.boundTo (content.ownerUid?.getD ""))
    else throw (.cluster cause)

/-- The moment the group came to be, which the clock tells if nothing is recorded yet. -/
def creationTime (content : Content) : Program Time :=
  match content.status.bind ContentStatus.creationTime with
  | some time => return time
  | none => .ask .readClock

/-- The state of a content whose group is ready and has some volumes. -/
def readyStatus (content : Content) (volumeNames : List String) : Program ContentStatus := do
  let time ← content.creationTime
  return { creationTime := some time, ready := some true, volumeNames }

/-- Store a state that differs from the content's own, and give the stored content. -/
def syncStatus (content : Content) (status : ContentStatus) : Attempt ContentError Content :=
  if content.status = some status then return content
  else .within .cluster (.of (.ask (.replaceContentStatus { content with status := some status })))

/-- Take the mark off a content and delete it, where one that is gone is as good. -/
def delete (content : Content) : Attempt ContentError Unit := do
  -- The mark comes off first, or else the deletion would only set the content to terminate.
  Attempt.within .cluster content.release
  let name := content.metadata.name.getD ""
  let space := content.metadata.namespace.getD ""
  let answer ← Attempt.outcome (.of (.ask (.deleteContent name space)))
  match answer with
  | .ok () => return ()
  | .error cause => if cause.isNotFound then return () else throw (.cluster cause)

end Content

end VolumeGroups
