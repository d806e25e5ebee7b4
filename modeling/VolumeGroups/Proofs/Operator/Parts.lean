import VolumeGroups.Proofs.Operator.Calm
import VolumeGroups.Proofs.Operator.Stages

/-! Which sorts of calls the parts of a pass make. -/

namespace VolumeGroups

/-- What writes neither groups nor claims is calm. -/
theorem Call.IsPlain.isCalm {request : Call} (plain : request.IsPlain) (group : Group) :
    request.IsCalm group := by
  cases request <;> first | exact plain | exact plain.elim

namespace Attempt

/-- The namespace of a group is known without any call. -/
theorem honours_namespace {ε : Type} {conditions : Conditions} {promise : Promise} {scene : Scene}
    {wider : ObjectError → ε} (group : Group) :
    Honours conditions promise
      (fun result after => after = scene ∧
        Ends (fun space _ => group.metadata.namespace = some space) result after)
      (within wider (known group.namespace)) scene := by
  -- A group without a namespace has none to give, and that takes no call either.
  refine .within (.known ⟨rfl, ?_⟩)
  unfold Group.namespace
  cases group.metadata.namespace with
  | none => trivial
  | some space => rfl

/-- A group that belongs to a namespace goes on with it. -/
theorem space_bind {ε α : Type} {wider : ObjectError → ε} {group : Group} {space : String}
    (inSpace : group.metadata.namespace = some space) (next : String → Attempt ε α) :
    (Attempt.within wider (.known group.namespace) >>= next) = next space := by
  rw [Group.namespace, inSpace]
  rfl

/-- An event is recorded without a write. -/
theorem asks_note (regarding : ObjectReference) (type : EventType) (reason : Reason)
    (message : String) :
    (note regarding type reason message).Asks Call.IsIdle fun _ => True :=
  ⟨trivial, fun _ => trivial⟩

/-- Credentials are only read. -/
theorem asks_credentials (location : SecretLocation) :
    Asks Call.IsIdle (fun _ => True) location.credentials := by
  unfold SecretLocation.credentials
  split
  · exact .pure trivial
  · refine .bind (.within (.only ⟨trivial, fun _ => trivial⟩)) fun secret _ => .known ?_
    exact gives_any _

/-- A result that is known takes no call. -/
theorem honours_knowing {α ε ε' : Type} {conditions : Conditions} {promise : Promise}
    {scene : Scene} {wider : ε → ε'} (result : Except ε α) :
    Honours conditions promise
      (fun told after => after = scene ∧ Ends (fun value _ => result = .ok value) told after)
      (within wider (known result)) scene := by
  -- The result is there before the attempt starts.
  refine .within (.known ⟨rfl, ?_⟩)
  cases result with
  | ok value => rfl
  | error error => trivial

/-- The content of a group is only looked up. -/
theorem asks_lookupContent {calls : Call → Prop} (group : Group)
    (looks : ∀ name space, calls (.getContent name space)) :
    Asks calls (fun _ => True) group.lookupContent := by
  -- One call, and then a look at the owner of what it found.
  unfold Group.lookupContent
  refine .bind (.within (.known (gives_any _))) fun space _ => ?_
  refine .bind (.outcome (.only ⟨looks _ _, fun _ => trivial⟩)) fun answer _ => ?_
  split
  · refine .bind (.within (.known (gives_any _))) fun uid _ => ?_
    exact .map (.known (gives_any _)) fun _ _ => trivial
  -- A content that does not exist is an answer, and any other failure ends the attempt.
  · split
    · exact .pure trivial
    · exact .throw

/-- The creation of a content only stores it, or looks it up. -/
theorem asks_createContent {calls : Call → Prop} (content : Content)
    (creates : calls (.createContent content)) (looks : ∀ name space, calls (.getContent name space)) :
    Asks calls (fun _ => True) content.create := by
  unfold Content.create
  -- A content that exists already is read once more and taken if it is the group's.
  refine .bind (.outcome (.only ⟨creates, fun _ => trivial⟩)) fun answer _ => ?_
  split
  · exact .pure trivial
  · split
    · refine .bind (.within (.only ⟨looks _ _, fun _ => trivial⟩)) fun existing _ => ?_
      exact .known (gives_any _)
    · exact .throw

/-- The state of a content that is ready takes at most a look at the clock. -/
theorem asks_readyStatus {calls : Call → Prop} (content : Content) (volumeNames : List String)
    (looks : calls .readClock) :
    Program.Asks calls (fun _ => True) (content.readyStatus volumeNames) := by
  -- A content that has a time already keeps it, and the clock is not needed.
  have creationTime : content.creationTime.Asks calls fun _ => True := by
    unfold Content.creationTime
    split
    · trivial
    · exact ⟨looks, fun _ => trivial⟩
  exact creationTime.bind fun _ _ => trivial

/-- The state of a content is only written. -/
theorem asks_syncStatus {calls : Call → Prop} (content : Content) (status : ContentStatus)
    (writes : calls (.replaceContentStatus { content with status := some status })) :
    Asks calls (fun _ => True) (content.syncStatus status) := by
  unfold Content.syncStatus
  split
  · exact .pure trivial
  · exact .within (.only ⟨writes, fun _ => trivial⟩)

/-- A content is deleted by a write that takes its mark off and by the deletion itself. -/
theorem asks_deleteContent {calls : Call → Prop} (content : Content)
    (frees : ∀ metadata, calls (.replaceContent { content with metadata }))
    (deletes : ∀ name space, calls (.deleteContent name space)) :
    Asks calls (fun _ => True) content.delete := by
  -- A content without the mark is not written.
  have releases : Asks calls (fun _ => True) content.release := by
    unfold Content.release
    split
    · exact .pure trivial
    · exact .bind (.only ⟨frees _, fun _ => trivial⟩) fun _ _ => .pure trivial
  refine .bind (.within releases) fun _ _ => ?_
  -- That the content is gone already is as good as its deletion.
  refine .bind (.outcome (.only ⟨deletes _ _, fun _ => trivial⟩)) fun answer _ => ?_
  split
  · exact .pure trivial
  · split
    · exact .pure trivial
    · exact .throw

/-- A group is marked by a write of it at most. -/
theorem asks_protectGroup {calls : Call → Prop} (group : Group)
    (marks : ∀ metadata, calls (.replaceGroup { group with metadata })) :
    Asks calls (fun _ => True) group.protect := by
  -- A group that carries its mark is not written.
  unfold Group.protect
  split
  · exact .pure trivial
  · exact .only ⟨marks _, fun _ => trivial⟩

/-- The mark of a group is taken off by a write of it at most. -/
theorem asks_releaseGroup {calls : Call → Prop} (group : Group)
    (frees : ∀ metadata, calls (.replaceGroup { group with metadata })) :
    Asks calls (fun _ => True) group.release := by
  -- A group that carries no mark is not written.
  unfold Group.release
  split
  · exact .pure trivial
  · exact .bind (.only ⟨frees _, fun _ => trivial⟩) fun _ _ => .pure trivial

/-- A claim is marked by a write of it at most. -/
theorem asks_protectClaim {calls : Call → Prop} (claim : Claim)
    (marks : ∀ metadata, calls (.replaceClaim { claim with metadata })) :
    Asks calls (fun _ => True) claim.protect := by
  -- A claim that carries the mark is not written.
  unfold Claim.protect
  split
  · exact .pure trivial
  · exact .bind (.only ⟨marks _, fun _ => trivial⟩) fun _ _ => .pure trivial

/-- The marks of claims are taken off by writes of claims. -/
theorem asks_releaseClaims {calls : Call → Prop} (claims : List Claim) (others : List Group)
    (frees : ∀ claim, calls (.replaceClaim claim)) :
    Asks calls (fun _ => True) (releaseClaims claims others) := by
  refine .forM fun claim _ => .within ?_
  -- A claim that another group lists keeps its mark.
  unfold Claim.release
  split
  · exact .pure trivial
  · split
    · exact .pure trivial
    · exact .bind (.only ⟨frees _, fun _ => trivial⟩) fun _ _ => .pure trivial

/-- The name of its content is recorded in a group by a write of it at most. -/
theorem asks_rememberContent {calls : Call → Prop} (group : Group) (contentName : String)
    (writes : ∀ spec, calls (.replaceGroup { group with spec })) :
    Asks calls (fun _ => True) (group.rememberContent contentName) := by
  unfold Group.rememberContent
  split
  · exact .pure trivial
  · exact .within (.only ⟨writes _, fun _ => trivial⟩)

/-- The state of a group is only written. -/
theorem asks_syncGroupStatus {calls : Call → Prop} (group : Group) (status : GroupStatus)
    (writes : calls (.replaceGroupStatus { group with status := some status })) :
    Asks calls (fun _ => True) (group.syncStatus status) := by
  unfold Group.syncStatus
  split
  · exact .pure trivial
  · exact .within (.only ⟨writes, fun _ => trivial⟩)

/-- A terminating group is disbanded by counting claims and groups, by a write of its state and by
writes of claims. -/
theorem asks_disband {calls : Call → Prop} (group : Group) (space : String)
    (content : Option Content) (counts : calls (.listClaims space))
    (states : ∀ status, calls (.replaceGroupStatus { group with status }))
    (looks : calls (.listGroups space)) (frees : ∀ claim, calls (.replaceClaim claim)) :
    Asks calls (fun _ => True) (group.disband space content) := by
  -- A group without members has none to forget.
  have forgets : Asks calls (fun _ => True) group.forgetMembers := by
    unfold Group.forgetMembers
    split
    · exact .pure trivial
    · split
      · exact .pure trivial
      · exact .within (.only ⟨states _, fun _ => trivial⟩)
  -- The claims are counted before the members are forgotten, and the groups are seen after that.
  unfold Group.disband
  refine .bind (.within (.only ⟨counts, fun _ => trivial⟩)) fun claims _ => ?_
  refine .bind forgets fun later _ => ?_
  refine .bind (.within (.only ⟨looks, fun _ => trivial⟩)) fun groups _ => ?_
  exact .bind (asks_releaseClaims _ _ frees) fun _ _ => .pure trivial

/-- A terminating group departs with the deletion of its content and a write of itself. -/
theorem asks_depart {calls : Call → Prop} (group : Group) (content : Option Content)
    (retires : ∀ content, calls (.replaceContent content))
    (deletes : ∀ name space, calls (.deleteContent name space))
    (frees : ∀ metadata, calls (.replaceGroup { group with metadata })) :
    Asks calls (fun _ => True) (group.depart content) := by
  have releases : Asks calls (fun _ => True) (do
      Attempt.within PassError.cluster group.release
      return Action.awaitChange) :=
    .bind (.within (asks_releaseGroup group frees)) fun _ _ => .pure trivial
  -- The content goes first, if there is one.
  unfold Group.depart
  split
  · exact .bind (.within (asks_deleteContent _ (fun _ => retires _) deletes)) fun _ _ => releases
  · exact releases

/-- Telling a failure on a group adds no calls of another sort where telling is of that sort. -/
theorem Asks.telling {α : Type} {calls : Call → Prop} {gives : α → Prop} {group : Group}
    {reason : Reason} {ready : Option Bool} {attempt : Attempt PassError α}
    (asks : Asks calls gives attempt) (tells : ∀ request, request.IsTelling group → calls request) :
    Asks calls gives (Attempt.tellingOn group reason ready attempt) :=
  .tellingOn asks fun error => (group.asks_tell reason ready error).mono tells fun _ => id

/-- What has nothing to do with groups and claims is calm. -/
theorem Asks.calmly {ε α : Type} {gives : α → Prop} {attempt : Attempt ε α} {group : Group}
    (asks : Asks Call.IsApart gives attempt) : Asks (Call.IsCalm group) gives attempt :=
  asks.mono (fun _ apart => apart.isPlain.isCalm group) fun _ => id

/-- The content of a group is found or made by calls that are calm. -/
theorem asks_obtainContent (group : Group) (groupClass : GroupClass)
    (parameters : ClassParameters) (secrets : KeyMap String) :
    Asks (Call.IsCalm group) (fun _ => True)
      (group.obtainContent groupClass parameters secrets) := by
  -- The lookup is calm by being plain, and a failure of the driver is told on the group.
  unfold Group.obtainContent
  refine .bind (.calmly (.within (asks_lookupContent group fun _ _ => trivial))) fun found _ => ?_
  split
  · exact .pure trivial
  · -- No content is found, so the driver makes a group and a content records it.
    refine .bind (.within (.known (gives_any _))) fun name _ => ?_
    refine .bind (.telling (.within (.only ⟨trivial, fun _ => trivial⟩))
      fun _ tells => tells.isCalm) fun created _ => ?_
    refine .bind (.within (.known (gives_any _))) fun content _ => ?_
    exact .bind (.calmly (.within (asks_createContent content trivial fun _ _ => trivial)))
      fun _ _ => .pure trivial

/-- The driver's group is deleted by calls that are calm. -/
theorem asks_deleteAtDriver (group : Group) (handle : String) (secrets : KeyMap String) :
    Asks (Call.IsCalm group) (fun _ => True) (group.deleteAtDriver handle secrets) := by
  -- A group that the driver does not have counts as deleted.
  refine .telling (.bind (.outcome (.only ⟨trivial, fun _ => trivial⟩)) fun answer _ => ?_)
    fun _ tells => tells.isCalm
  split
  · exact .pure trivial
  · split
    · exact .pure trivial
    · exact .throw

/-- A terminating group is dissolved by calls that are calm. -/
theorem asks_dissolve (group : Group) (secrets : KeyMap String) :
    Asks (Call.IsCalm group) (fun _ => True) (group.dissolve secrets) := by
  -- There is something to delete at the driver only if the content has a handle.
  unfold Group.dissolve
  refine .bind (.telling (.calmly (.within (asks_lookupContent group fun _ _ => trivial)))
    fun _ tells => tells.isCalm) fun content _ => ?_
  extract_lets finish
  split
  · exact .bind (asks_deleteAtDriver ..) fun _ _ => .pure trivial
  · exact .pure trivial

/-- Announcing what is new makes no write, and succeeds only if no claim was refused. -/
theorem asks_announce (furnished : Group.Furnished) (plan : MembershipPlan) (later : Group) :
    Asks Call.IsIdle (fun _ => plan.rejected = []) (furnished.announce plan later) := by
  unfold Group.Furnished.announce
  extract_lets finish tell
  -- The refusals come last, after the events, and make the pass fail if there are any.
  have finishes : Asks Call.IsIdle (fun _ => plan.rejected = []) (finish ()) := by
    simp only [finish, MembershipPlan.rejectionMessage]
    cases refusals : plan.rejected with
    | nil => exact .pure rfl
    | cons refusal rest => exact .throw
  have tells : Asks Call.IsIdle (fun _ => plan.rejected = []) (tell ()) := by
    simp only [tell]
    split
    · exact .bind (.lift (asks_note ..)) fun _ _ => finishes
    · exact finishes
  -- The content tells of itself only where it was made in this pass.
  split
  · exact .bind (.lift (asks_note ..)) fun _ _ => tells
  · exact tells

end Attempt

end VolumeGroups
