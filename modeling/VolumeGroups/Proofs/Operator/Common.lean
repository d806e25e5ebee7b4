import VolumeGroups.Proofs.Operator.Parts

/-! The parts of a pass that have nothing to do with credentials: they neither read any nor call the
driver, which is the only one that credentials are for. -/

namespace VolumeGroups

/-- A call that neither reads credentials nor goes to the driver. -/
def Call.IsCommon : Call → Prop
  | .getSecret .. | .createDriverGroup .. | .deleteDriverGroup .. | .modifyMembership .. => False
  | _ => True

/-- A call that is common and records no event. -/
def Call.IsEventless : Call → Prop
  | .getSecret .. | .createDriverGroup .. | .deleteDriverGroup .. | .modifyMembership .. | .record _ =>
    False
  | _ => True

/-- A call that records an event of something that went well. -/
def Call.RecordsSuccess : Call → Prop
  | .record event => event.type = .normal ∧ event.reason ≠ Reason.membershipRejected.name
  | _ => False

/-- An event is recorded by a common call. -/
theorem Call.RecordsSuccess.isCommon {request : Call} (success : request.RecordsSuccess) :
    request.IsCommon := by
  cases request <;> first | exact success.elim | trivial

/-- What is eventless is common. -/
theorem Call.IsEventless.isCommon {request : Call} (eventless : request.IsEventless) :
    request.IsCommon := by
  cases request <;> first | exact eventless.elim | trivial

/-- What only peeks is eventless. -/
theorem Call.IsPeek.isEventless {request : Call} (peeks : request.IsPeek) :
    request.IsEventless := by
  cases request <;> trivial

/-- A program all of whose calls are common. -/
def Program.IsCommon {α : Type} (program : Program α) : Prop :=
  program.Asks Call.IsCommon fun _ => True

/-- An attempt all of whose calls are common. -/
def Attempt.IsCommon {ε α : Type} (attempt : Attempt ε α) : Prop :=
  attempt.Asks Call.IsCommon fun _ => True

/-- A program all of whose calls are eventless. -/
def Program.IsEventless {α : Type} (program : Program α) : Prop :=
  program.Asks Call.IsEventless fun _ => True

/-- An attempt all of whose calls are eventless. -/
def Attempt.IsEventless {ε α : Type} (attempt : Attempt ε α) : Prop :=
  attempt.Asks Call.IsEventless fun _ => True

/-- A program that is eventless is common. -/
theorem Program.IsEventless.isCommon {α : Type} {program : Program α}
    (eventless : program.IsEventless) : program.IsCommon :=
  eventless.mono (fun _ sort => sort.isCommon) fun _ => id

/-- An attempt that is eventless is common. -/
theorem Attempt.IsEventless.isCommon {ε α : Type} {attempt : Attempt ε α}
    (eventless : attempt.IsEventless) : attempt.IsCommon :=
  eventless.mono (fun _ sort => sort.isCommon) fun _ => id

/-- An event is recorded by a common call. -/
theorem common_note (regarding : ObjectReference) (type : EventType) (reason : Reason)
    (message : String) : (note regarding type reason message).IsCommon :=
  ⟨trivial, fun _ => trivial⟩

/-- An event of something that went well is recorded by such a call. -/
theorem recordsSuccess_note (regarding : ObjectReference) {reason : Reason}
    (other : reason.name ≠ Reason.membershipRejected.name) (message : String) :
    (note regarding .normal reason message).Asks Call.RecordsSuccess fun _ => True :=
  ⟨⟨rfl, other⟩, fun _ => trivial⟩

/-- A failure is told on a group by common calls. -/
theorem Group.common_tell (group : Group) (reason : Reason) (ready : Option Bool)
    (error : PassError) : (group.tell reason ready error).IsCommon :=
  asks_tell_of trivial (fun _ => trivial) reason

namespace Attempt

variable {ε ε' α : Type}

/-- The outcome of a common attempt is had by common calls. -/
theorem IsCommon.outcome {attempt : Attempt ε α} (common : attempt.IsCommon) :
    (attempt.outcome : Attempt ε' (Except ε α)).IsCommon :=
  Asks.mono (Asks.outcome common) (fun _ => id) fun _ _ => trivial

/-- Nothing but common calls follows from telling a failure. -/
theorem IsCommon.tellingOn {attempt : Attempt PassError α} {group : Group} {reason : Reason}
    {ready : Option Bool} (common : attempt.IsCommon) :
    (attempt.tellingOn group reason ready).IsCommon :=
  Asks.tellingOn common fun error => group.common_tell reason ready error

/-- The class of a group is read by an eventless call. -/
theorem eventless_resolveClass (group : Group) : group.resolveClass.IsEventless := by
  unfold Group.resolveClass
  split
  · exact .throw
  · exact .within (.only ⟨trivial, fun _ => trivial⟩)

/-- A group is marked by an eventless call. -/
theorem eventless_protectGroup (group : Group) : group.protect.IsEventless :=
  asks_protectGroup group fun _ => trivial

/-- A claim is marked by an eventless call. -/
theorem eventless_protectClaim (claim : Claim) : claim.protect.IsEventless :=
  asks_protectClaim claim fun _ => trivial

/-- The marks of claims are taken off by eventless calls. -/
theorem eventless_releaseClaims (claims : List Claim) (others : List Group) :
    (releaseClaims claims others).IsEventless :=
  asks_releaseClaims claims others fun _ => trivial

/-- A plan is made by eventless calls. -/
theorem eventless_plan (group : Group) (groups : List Group) : (group.plan groups).IsEventless := by
  unfold Group.plan
  refine .bind (.within (.known (gives_any _))) fun space _ => ?_
  refine .bind (.within (.only ⟨trivial, fun _ => trivial⟩)) fun claims _ => ?_
  -- What the claims are bound to is only peeked at.
  exact (asks_planFor group groups (sortedByName claims)).mono (fun _ peeks => peeks.isEventless)
    fun _ _ => trivial

/-- The first stage of a live group is common. -/
theorem common_prepare (group : Group) : group.prepare.IsCommon := by
  -- The calls of the stage are gone through in the order in which it makes them.
  unfold Group.prepare
  refine .bind (.within (.known (gives_any _))) fun space _ => ?_
  refine .bind (.within (.only ⟨trivial, fun _ => trivial⟩)) fun groups _ => ?_
  -- Making the plan is eventless, but telling that it failed records an event.
  refine .bind (IsCommon.tellingOn (.within (eventless_plan group groups).isCommon))
    fun plan _ => ?_
  refine .bind (.forM fun _ _ => .lift (common_note ..)) fun _ _ => ?_
  refine .bind (.forM fun member _ => .within (eventless_protectClaim member.claim).isCommon)
    fun _ _ => ?_
  exact .pure trivial

/-- The content of a group is looked up by an eventless call. -/
theorem eventless_lookupContent (group : Group) : group.lookupContent.IsEventless :=
  asks_lookupContent group fun _ _ => trivial

/-- A content is stored by eventless calls. -/
theorem eventless_createContent (content : Content) : content.create.IsEventless :=
  asks_createContent content trivial fun _ _ => trivial

/-- The name of its content is recorded in a group by an eventless call. -/
theorem eventless_rememberContent (group : Group) (contentName : String) :
    (group.rememberContent contentName).IsEventless :=
  asks_rememberContent group contentName fun _ => trivial

/-- The state of a content is made with a look at the clock at most. -/
theorem eventless_readyStatus (content : Content) (volumeNames : List String) :
    (content.readyStatus volumeNames).IsEventless :=
  asks_readyStatus content volumeNames trivial

/-- The state of a content is stored by an eventless call. -/
theorem eventless_syncContent (content : Content) (status : ContentStatus) :
    (content.syncStatus status).IsEventless :=
  asks_syncStatus content status trivial

/-- The state of a group is stored by an eventless call. -/
theorem eventless_syncGroup (group : Group) (status : GroupStatus) :
    (group.syncStatus status).IsEventless :=
  asks_syncGroupStatus group status trivial

/-- The last stage of a live group records nothing but what went well. -/
theorem recordsSuccess_announce (furnished : Group.Furnished) (plan : MembershipPlan)
    (later : Group) : (furnished.announce plan later).Asks Call.RecordsSuccess fun _ => True := by
  -- The stage ends in a refusal or in waiting, neither of which is a call, so it is read from its
  -- end.
  unfold Group.Furnished.announce
  extract_lets finish tell
  have finishes : Asks Call.RecordsSuccess (fun _ => True) (finish ()) := by
    simp only [finish]
    split
    · exact .throw
    · exact .pure trivial
  -- The second event is due only where the list of members changed.
  have tells : Asks Call.RecordsSuccess (fun _ => True) (tell ()) := by
    simp only [tell]
    split
    · exact .bind (.lift (recordsSuccess_note _ (by decide) _)) fun _ _ => finishes
    · exact finishes
  -- The first event is due only where the content was made in this pass.
  split
  · exact .bind (.lift (recordsSuccess_note _ (by decide) _)) fun _ _ => tells
  · exact tells

/-- The last stage of a live group is common. -/
theorem common_announce (furnished : Group.Furnished) (plan : MembershipPlan) (later : Group) :
    (furnished.announce plan later).IsCommon :=
  (recordsSuccess_announce furnished plan later).mono (fun _ success => success.isCommon)
    fun _ => id

/-- A terminating group is disbanded by eventless calls. -/
theorem eventless_disband (group : Group) (space : String) (content : Option Content) :
    (group.disband space content).IsEventless :=
  asks_disband group space content trivial (fun _ => trivial) trivial fun _ => trivial

/-- The last stage of a terminating group is eventless. -/
theorem eventless_depart (group : Group) (content : Option Content) :
    (group.depart content).IsEventless :=
  asks_depart group content (fun _ => trivial) (fun _ _ => trivial) fun _ => trivial

end Attempt

end VolumeGroups
