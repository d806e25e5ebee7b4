import VolumeGroups.Proofs.Handles.Custody
import VolumeGroups.Proofs.Handles.Teardown

/-! What a pass may write and what it may ask of the driver, given the calls that it has made: every
object that it writes is a copy that it was given, edited in one place. -/

namespace VolumeGroups

namespace Exchange

/-- The content that a call brought, with the key where the call looked for it or put it. -/
def brings? : Exchange → Option (String × Content)
  | ⟨.getContent name space, .ok content⟩ => some (space ++ "/" ++ name, content)
  | ⟨.createContent record, .ok content⟩ => some (Resource.key record, content)
  | _ => none

/-- The driver did not do as it was told, unless it was to delete a group that it does not know. -/
def IsRefusal : Exchange → Prop
  | ⟨.createDriverGroup .., .error _⟩ | ⟨.modifyMembership .., .error _⟩ => True
  | ⟨.deleteDriverGroup .., .error cause⟩ => cause.isNotFound = false
  | _ => False

end Exchange

/-- A call that writes the observed state of a group or of a content. -/
def Call.States : Call → Prop
  | .replaceGroupStatus _ | .replaceContentStatus _ => True
  | _ => False

/-- The driver has done all that it was told. -/
def Unrefused (log : List Exchange) : Prop := ∀ exchange ∈ log, ¬ exchange.IsRefusal

/-- No observed state has been written. -/
def Unstated (log : List Exchange) : Prop := ∀ exchange ∈ log, ¬ exchange.request.States

/-- The content carries the mark of a content whose group the driver may still hold. -/
def Content.isMarked (content : Content) : Bool := content.metadata.hasFinalizer contentFinalizer

/-- The content was made for the group. -/
def Content.BelongsTo (content : Content) (group : Group) : Prop :=
  ∃ uid, group.metadata.uid = some uid ∧ content.ownerUid? = some uid

/-- A content that is written belongs to whom it belonged. -/
theorem Content.BelongsTo.of_spec {content other : Content} {group : Group}
    (belongs : content.BelongsTo group) (spec : other.spec = content.spec) :
    other.BelongsTo group := by
  obtain ⟨uid, identity, owner⟩ := belongs
  exact ⟨uid, identity, by rw [Content.ownerUid?, spec]; exact owner⟩

/-- The state of a content that is ready with the volumes of a plan, and that came to be when it did
before, if that is known. -/
structure Content.Readies (content : Content) (plan : MembershipPlan) (status : ContentStatus) :
    Prop where
  volumeNames : status.volumeNames = plan.volumeNames
  ready : status.ready = some true
  dated : status.creationTime.isSome = true
  -- A content that has a time of its own keeps it.
  kept : ∀ time, content.status.bind ContentStatus.creationTime = some time →
    status.creationTime = some time

/-- A pass has a content of its group: it found the content under the name that its group goes by, or
put it there. -/
structure InUse (group : Group) (content : Content) (log : List Exchange) : Prop where
  belongs : content.BelongsTo group
  brought : ∃ exchange ∈ log, exchange.brings? = some (group.contentKey, content)

/-- A content has no mark, or lost it by a write. -/
def Released (content : Content) (log : List Exchange) : Prop :=
  content.isMarked = false ∨ ∃ metadata stored,
    content.metadata.removeFinalizer? contentFinalizer = some metadata ∧
      ⟨.replaceContent { content with metadata }, .ok stored⟩ ∈ log

/-- There was no content under the name that a group goes by. -/
def Absent (group : Group) (log : List Exchange) : Prop :=
  ∃ space cause, group.metadata.namespace = some space ∧ cause.isNotFound = true ∧
    ⟨.getContent group.contentName space, .error cause⟩ ∈ log

/-- There was no content of the group, or it has lost its mark. -/
def AbsentOrReleased (group : Group) (log : List Exchange) : Prop :=
  Absent group log ∨ ∃ content, InUse group content log ∧ Released content log

/-- The driver has made a group. -/
def Made (log : List Exchange) : Prop :=
  ∃ name secrets parameters created, ⟨.createDriverGroup name secrets parameters, .ok created⟩ ∈ log

/-- A volume was read for which the driver has a name. -/
def Served (volumeName volumeId : String) (log : List Exchange) : Prop :=
  ∃ volume : Volume, ⟨.getVolume volumeName, .ok volume⟩ ∈ log ∧ volume.handle? = some volumeId

/-- A plan is made of claims that were counted in the namespace of a group, and its members are bound
to volumes for which the driver has the names in the plan. -/
structure Planned (group : Group) (claims : List Claim) (plan : MembershipPlan)
    (log : List Exchange) : Prop where
  counted : ∃ space, group.metadata.namespace = some space ∧ ⟨.listClaims space, .ok claims⟩ ∈ log
  bound : ∀ member ∈ plan.members,
    -- The volume is the one that the claim is bound to.
    member.claim ∈ claims ∧ member.claim.volumeName? = some member.volumeName
  served : ∀ member ∈ plan.members, Served member.volumeName member.volumeId log
  departed : ∀ claim ∈ plan.departed, claim ∈ claims

/-- The driver took the volumes of a plan into the group that a content records, or made a group when
there were none to take. -/
def Accepted (content : Content) (plan : MembershipPlan) (log : List Exchange) : Prop :=
  (∃ handle secrets, content.handle? = some handle ∧
    ⟨.modifyMembership handle plan.volumeIds secrets, .ok ()⟩ ∈ log) ∨
  plan.members = [] ∧ Made log

/-- The driver acknowledges a plan for a live group and its content. -/
structure Acknowledged (group : Group) (content : Content) (plan : MembershipPlan)
    (log : List Exchange) : Prop where
  live : group.isTerminating = false
  planned : ∃ claims, Planned group claims plan log
  inUse : InUse group content log
  accepted : Accepted content plan log
  unrefused : Unrefused log

/-- A content has a state, and no other was written in the pass. -/
structure Stated (content : Content) (status : ContentStatus) (log : List Exchange) : Prop where
  has : content.status = some status ∨ ∃ stored,
    ⟨.replaceContentStatus { content with status := some status }, .ok stored⟩ ∈ log
  only : ∀ exchange ∈ log, ∀ later, exchange.request = .replaceContentStatus later →
    later = { content with status := some status }

namespace Group

/-- The group with the name of its content recorded in it. -/
def naming (group : Group) (contentName : String) : Group :=
  { group with spec :=
      { group.spec with source := { group.spec.source with contentName := some contentName } } }

/-- A state tells of a failure and leaves all else but the readiness as it was. -/
def Reports (held : Group) (status : GroupStatus) : Prop :=
  ∃ message ready, status = GroupStatus.failed held.status message ready ∧ ready ≠ some true

/-- A state has no members any more and is the same otherwise. -/
def Forgets (held : Group) (status : GroupStatus) : Prop :=
  ∃ previous, held.status = some previous ∧ status = { previous with claimNames := [] }

/-- A state records a plan that the driver acknowledges, together with the content's state. -/
def Records (group : Group) (status : GroupStatus) (log : List Exchange) : Prop :=
  ∃ content plan contentStatus, Acknowledged group content plan log ∧
    -- The content says so before the group does.
    content.Readies plan contentStatus ∧ Stated content contentStatus log ∧
    status.contentName = some (Resource.displayName content) ∧
    status.creationTime = contentStatus.creationTime ∧ status.ready = some true ∧
    status.claimNames = plan.claimNames

/-- What a pass that began with a group may ask for after some calls. -/
def Permits (group : Group) (log : List Exchange) : Call → Prop
  -- The group is read once, before anything else, so never again.
  | .getGroup .. => False
  -- The mark of the group comes first and goes last, and the name of the content in between.
  | .replaceGroup later => ∃ held, latest? log = some held ∧
    ((∃ metadata, group.isTerminating = false ∧
        held.metadata.addFinalizer? groupFinalizer = some metadata ∧
        later = { held with metadata }) ∨
      (∃ content, group.isTerminating = false ∧ InUse group content log ∧
        later = held.naming (Resource.displayName content)) ∨
      ∃ metadata, group.isTerminating = true ∧ AbsentOrReleased group log ∧
        held.metadata.removeFinalizer? groupFinalizer = some metadata ∧
        later = { held with metadata })
  -- A state tells of a failure, forgets the members of a terminating group, or records an
  -- acknowledged plan.
  | .replaceGroupStatus later => ∃ held status, latest? log = some held ∧
    later = { held with status := some status } ∧
    (held.Reports status ∨
      group.isTerminating = true ∧ Unrefused log ∧ held.Forgets status ∨
      group.Records status log)
  -- A claim is written only as it was counted, and only in its mark.
  | .replaceClaim later => ∃ space claims claim metadata, group.metadata.namespace = some space ∧
    ⟨.listClaims space, .ok claims⟩ ∈ log ∧ claim ∈ claims ∧
    (claim.metadata.addFinalizer? claimFinalizer = some metadata ∨
      claim.metadata.removeFinalizer? claimFinalizer = some metadata) ∧
    later = { claim with metadata }
  -- A content is made only for what the driver returned in this pass.
  | .createContent record => group.isTerminating = false ∧ record.BelongsTo group ∧
    Resource.key record = group.contentKey ∧ record.status = none ∧
    ∃ name secrets parameters created source,
      ⟨.createDriverGroup name secrets parameters, .ok created⟩ ∈ log ∧
      record.spec.source = some source ∧ source.handle = created.handle
  -- The mark of the content goes only while the group is taken down.
  | .replaceContent later => ∃ content metadata, group.isTerminating = true ∧
    InUse group content log ∧
    content.metadata.removeFinalizer? contentFinalizer = some metadata ∧
    later = { content with metadata }
  -- The state of the content comes before that of the group.
  | .replaceContentStatus later => Unstated log ∧ ∃ content plan status,
    Acknowledged group content plan log ∧ content.Readies plan status ∧
    later = { content with status := some status }
  | .deleteContent name space => ∃ content, group.isTerminating = true ∧
    InUse group content log ∧ space ++ "/" ++ name = Resource.key content
  -- The driver is told nothing any more once a state has been written.
  | .createDriverGroup .. => Unstated log
  | .modifyMembership handle ids _ => Unstated log ∧ ∃ content claims plan,
    InUse group content log ∧ content.handle? = some handle ∧ Planned group claims plan log ∧
    ids = plan.volumeIds
  | .deleteDriverGroup handle _ => Unstated log ∧ ∃ content, InUse group content log ∧
    content.handle? = some handle
  | _ => True

end Group

/-- A pass over the group under a key begins by reading it, and from then on makes calls that the group
it began with permits. -/
def Upkeep (place : String) : Rule := fun log request =>
  (log = [] ∧ ∃ name space, request = .getGroup name space ∧ space ++ "/" ++ name = place) ∨
    ∃ group, origin? log = some group ∧ group.Permits log request

/-- A call that only looks at objects, records an event or reads the clock. -/
def Call.IsPassive : Call → Prop
  | .listGroups _ | .getClass _ | .getContent .. | .getSecret .. | .listClaims _ | .getVolume _
  | .getStorageClass _ | .record _ | .readClock => True
  | _ => False

/-- A call that brings no group, writes no state and tells the driver nothing. -/
def Call.IsAside : Call → Prop
  | .getGroup .. | .replaceGroup _ | .replaceGroupStatus _ | .replaceContentStatus _
  | .createDriverGroup .. | .deleteDriverGroup .. | .modifyMembership .. => False
  | _ => True

/-- What is idle is passive. -/
theorem Call.IsIdle.isPassive {request : Call} (idle : request.IsIdle) : request.IsPassive := by
  cases request <;> trivial

/-- What is passive is done aside. -/
theorem Call.IsPassive.isAside {request : Call} (passive : request.IsPassive) : request.IsAside := by
  cases request <;> trivial

/-- A group permits everything passive. -/
theorem Group.Permits.of_passive {group : Group} {log : List Exchange} {request : Call}
    (passive : request.IsPassive) : group.Permits log request := by
  cases request <;> trivial

/-- What is done aside writes no state. -/
theorem Call.IsAside.stateless {request : Call} (aside : request.IsAside) : ¬ request.States := by
  cases request <;> first | exact aside.elim | exact id

/-- What is done aside brings no group and is nothing that the driver refuses. -/
theorem Call.IsAside.silent {exchange : Exchange} (aside : exchange.request.IsAside) :
    exchange.group? = none ∧ ¬ exchange.IsRefusal := by
  obtain ⟨request, answer⟩ := exchange
  cases request <;> first | exact aside.elim | exact ⟨rfl, id⟩

section Growth

variable {calls : Call → Prop} {before after : List Exchange} {group : Group} {content : Content}
  {plan : MembershipPlan} {claims : List Claim}

/-- A content in use stays in use as the log goes on. -/
theorem InUse.later (inUse : InUse group content before) (goes : Extends calls before after) :
    InUse group content after where
  belongs := inUse.belongs
  brought := inUse.brought.imp fun _ brought => brought.imp_left goes.mem

/-- A volume that was read is still in the log as it goes on. -/
theorem Served.later {volumeName volumeId : String} (served : Served volumeName volumeId before)
    (goes : Extends calls before after) : Served volumeName volumeId after :=
  served.imp fun _ read => read.imp_left goes.mem

/-- A plan stays one as the log goes on. -/
theorem Planned.later (planned : Planned group claims plan before)
    (goes : Extends calls before after) : Planned group claims plan after where
  -- What was counted is still in the log, and so is what was looked up.
  counted := planned.counted.imp fun _ counted => counted.imp_right goes.mem
  bound := planned.bound
  served member known := (planned.served member known).later goes
  departed := planned.departed

/-- What the driver made stays in the log as it goes on. -/
theorem Made.later (made : Made before) (goes : Extends calls before after) : Made after := by
  obtain ⟨name, secrets, parameters, created, known⟩ := made
  exact ⟨name, secrets, parameters, created, goes.mem known⟩

/-- What the driver accepted stays accepted as the log goes on. -/
theorem Accepted.later (accepted : Accepted content plan before)
    (goes : Extends calls before after) : Accepted content plan after := by
  rcases accepted with ⟨handle, secrets, has, took⟩ | ⟨none, made⟩
  · exact .inl ⟨handle, secrets, has, goes.mem took⟩
  · exact .inr ⟨none, made.later goes⟩

/-- An acknowledged plan stays one as the log goes on, as long as the driver does as it is told. -/
theorem Acknowledged.later (acknowledged : Acknowledged group content plan before)
    (goes : Extends calls before after) (unrefused : Unrefused after) :
    -- All but the last part is about what was told before, which stays told.
    Acknowledged group content plan after where
  live := acknowledged.live
  planned := acknowledged.planned.imp fun _ planned => planned.later goes
  inUse := acknowledged.inUse.later goes
  accepted := acknowledged.accepted.later goes
  unrefused := unrefused

/-- A content that was released stays so as the log goes on. -/
theorem Released.later (released : Released content before) (goes : Extends calls before after) :
    Released content after :=
  released.imp_right fun ⟨metadata, stored, freed, known⟩ => ⟨metadata, stored, freed, goes.mem known⟩

/-- A content that was not there stays so in the log as it goes on. -/
theorem Absent.later (absent : Absent group before) (goes : Extends calls before after) :
    Absent group after := by
  obtain ⟨space, cause, inSpace, missing, looked⟩ := absent
  exact ⟨space, cause, inSpace, missing, goes.mem looked⟩

/-- The driver has still done all that it was told after calls that it has no part in. -/
theorem Unrefused.later (unrefused : Unrefused before) (goes : Extends calls before after)
    (silent : ∀ exchange : Exchange, calls exchange.request → ¬ exchange.IsRefusal) :
    Unrefused after :=
  fun exchange known => (goes.mem_or known).elim (unrefused exchange) (silent exchange)

/-- Still no state has been written after calls that write none. -/
theorem Unstated.later (unstated : Unstated before) (goes : Extends calls before after)
    (silent : ∀ request, calls request → ¬ request.States) : Unstated after :=
  fun exchange known => (goes.mem_or known).elim (unstated exchange) (silent exchange.request)

end Growth

end VolumeGroups
