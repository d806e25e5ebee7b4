import VolumeGroups.Proofs.Handles.Making
import VolumeGroups.Proofs.Records.Upkept

/-! A pass over a live group, from its plan on: the content is found or made, the driver takes the plan,
and only then states are written. -/

namespace VolumeGroups

/-- A form of a group has all that the content of the group is told by. -/
structure Group.SharesContentIdentity (group held : Group) : Prop where
  «namespace» : held.metadata.namespace = group.metadata.namespace
  uid : held.metadata.uid = group.metadata.uid
  contentName : held.contentName = group.contentName

/-- A group has all that its own content is told by. -/
theorem Group.SharesContentIdentity.refl (group : Group) : group.SharesContentIdentity group :=
  ⟨rfl, rfl, rfl⟩

/-- Forms of a group have their contents under one key. -/
theorem Group.SharesContentIdentity.contentKey {group held : Group}
    (shares : group.SharesContentIdentity held) :
    held.contentKey = group.contentKey := by
  simp only [Group.contentKey, shares.namespace, shares.contentName]

/-- Other marks do not matter to the content of a group. -/
theorem Group.SharesContentIdentity.of_continues {group held : Group}
    (continues : group.metadata.Continues held.metadata) (spec : held.spec = group.spec) :
    group.SharesContentIdentity held := by
  refine ⟨by rw [continues], by rw [continues], ?_⟩
  rw [Group.contentName, Group.contentName, Group.name, Group.name, spec, continues]
  rfl

/-- A content is stored with what it records. -/
theorem Exchange.IsPossible.spec {record content : Content}
    (possible : (Exchange.mk (.createContent record) (.ok content)).IsPossible) :
    content.spec = record.spec := by
  -- A store that makes the content copies its specification, and one that fails gives no content.
  rcases possible with ⟨store, after, serves⟩ | failed
  · rcases Store.create_cases store record with ⟨error, refused⟩ | ⟨_, done⟩
    · cases (Prod.mk.inj (serves.trans refused)).1
    · rw [Except.ok.inj (Prod.mk.inj (serves.trans done)).1]
      rfl
  · cases failed

/-- A state that is written is the content's state from then on. -/
theorem Exchange.IsPossible.contentStatus {later stored : Content}
    (possible : (Exchange.mk (.replaceContentStatus later) (.ok stored)).IsPossible) :
    stored.status = later.status := by
  rcases possible with ⟨store, after, serves⟩ | failed
  -- A store that accepts the state gives the content back with it.
  · rcases Store.replaceStatus_answers serves with ⟨_, wrong, _⟩ | ⟨_, _, _, answered, _⟩
    · cases wrong
    · rw [Except.ok.inj answered]
      rfl
  · cases failed

/-- Only a content of the group is taken for its content. -/
theorem Content.boundTo_eq_ok {content taken : Content} {uid : String}
    (bound : content.boundTo uid = .ok taken) :
    taken = content ∧ content.ownerUid? = some uid := by
  -- There is one test, whether the owner that is recorded is the one that is asked for.
  unfold Content.boundTo at bound
  split at bound
  · rename_i owner
    exact ⟨(Except.ok.inj bound).symm, owner⟩
  · cases bound

/-- A new content records whom it is made for and what the driver returned. -/
theorem Group.newContent_records {group : Group} {className driver : String}
    {created : CreatedGroup} {secret : SecretLocation} {content : Content}
    (made : group.newContent className driver created secret = .ok content) :
    content.ownerUid? = group.metadata.uid ∧ content.status = none ∧
      content.spec.source = some ⟨driver, created.handle, created.attributes⟩ := by
  -- Without a namespace there is no place for a content, and none is made.
  unfold Group.newContent Group.namespace at made
  cases inSpace : group.metadata.namespace with
  | none => simp [inSpace, bind, Except.bind] at made
  | some space =>
    simp only [inSpace, bind, Except.bind, pure, Except.pure, Except.ok.injEq] at made
    subst made
    exact ⟨rfl, rfl, rfl⟩

/-- The identity of a group is the one that it was given. -/
theorem Group.uid_eq_ok {group : Group} {uid : String} (known : group.uid = .ok uid) :
    group.metadata.uid = some uid := by
  unfold Group.uid at known
  split at known
  · rename_i value given
    exact given.trans (congrArg some (Except.ok.inj known))
  · cases known

/-- A group with a name at the driver has an identity. -/
theorem Group.uid_of_driverName {group : Group} {name : String}
    (named : group.driverName = .ok name) : ∃ uid, group.metadata.uid = some uid := by
  unfold Group.driverName at named
  cases known : group.uid with
  | error error => simp [known, Except.map] at named
  | ok uid => exact ⟨uid, Group.uid_eq_ok known⟩

namespace Upkeep

open Attempt

section Rules

variable {driver place : String} {group held own : Group} {scene : Scene}

/-- A content that is looked up is in use, and none is found only where there is none. -/
theorem honours_lookingUp (shares : group.SharesContentIdentity held)
    (origin : origin? scene.exchanges = some group) :
    Honours (.unruly driver) (Upkeep place).promise
      (Ends fun found after => (found = none → Absent group after.exchanges) ∧
        ∀ content, found = some content → InUse group content after.exchanges)
      held.lookupContent scene := by
  unfold Group.lookupContent
  -- First the pass has to know where its group lies.
  refine .then (honours_namespace held) ?_
  rintro space scene ⟨rfl, inSpace⟩
  replace inSpace : held.metadata.namespace = some space := inSpace
  have allowed : Upkeep place scene.exchanges (.getContent held.contentName space) :=
    .inr ⟨group, origin, trivial⟩
  -- Then it looks under the name that the group goes by, and keeps the answer whatever that is.
  have looking : Honours (.unruly driver) (Upkeep place).promise
      (Ends fun answer after =>
        ⟨.getContent held.contentName space, answer⟩ ∈ after.exchanges)
      (outcome (of (.ask (.getContent held.contentName space))) :
        Attempt ContentError (Except ClusterError Content)) scene := by
    refine .outcome (.of (Program.Honours.mono ?_ (Program.honours_next allowed)))
    rintro answer after ⟨log, _⟩
    show _ ∈ after.exchanges
    rw [log]
    exact List.mem_cons_self ..
  refine .then looking ?_
  intro answer looked known
  replace known : ⟨.getContent held.contentName space, answer⟩ ∈ looked.exchanges := known
  -- The answer is a content, that there is none, or that the store cannot tell.
  split
  · rename_i content
    -- A content that is found counts only if it is bound to the group.
    refine .then (honours_knowing held.uid) ?_
    rintro uid _ ⟨rfl, identified⟩
    have identity : held.metadata.uid = some uid := Group.uid_eq_ok identified
    cases bound : content.boundTo uid with
    | error error => exact .throw trivial
    | ok taken =>
      obtain ⟨rfl, owner⟩ := Content.boundTo_eq_ok bound
      refine .pure ⟨nofun, ?_⟩
      rintro _ ⟨⟩
      refine ⟨⟨uid, shares.uid.symm.trans identity, owner⟩, _, known, ?_⟩
      rw [← shares.contentKey, Group.contentKey, inSpace]
      rfl
  · rename_i cause
    split
    · rename_i missing
      -- The pass goes on without a content only if it was told that there is none.
      refine .pure ⟨fun _ => ?_, by simp⟩
      exact ⟨space, cause, shares.namespace.symm.trans inSpace, missing, shares.contentName ▸ known⟩
    · exact .throw trivial

/-- A content that is stored for a group is in use, and so is the one that is there already. -/
theorem honours_creating {record : Content} (origin : origin? scene.exchanges = some group)
    (belongs : record.BelongsTo group) (key : Resource.key record = group.contentKey)
    (permitted : group.Permits scene.exchanges (.createContent record)) :
    Honours (.unruly driver) (Upkeep place).promise
      (Ends fun content after => Extends Call.IsAside scene.exchanges after.exchanges ∧
        InUse group content after.exchanges)
      record.create scene := by
  unfold Content.create
  obtain ⟨uid, identity, owner⟩ := belongs
  have storing : Honours (.unruly driver) (Upkeep place).promise
      (Ends fun answer after => after.exchanges = ⟨.createContent record, answer⟩ :: scene.exchanges ∧
        (Exchange.mk (.createContent record) answer).IsPossible)
      (outcome (of (.ask (.createContent record))) :
        Attempt ContentError (Except ClusterError Content)) scene :=
    .outcome (.of (Program.honours_next (.inr ⟨group, origin, permitted⟩)))
  -- The content is offered to the store under the group's name.
  refine .then storing ?_
  rintro answer stored ⟨log, possible⟩
  have goes : Extends Call.IsAside scene.exchanges stored.exchanges := log ▸ .single trivial
  -- Either it is stored, or there is one already, or the store fails.
  split
  · rename_i content
    -- The store gives back what it was given, so the new content is the group's.
    refine .pure ⟨goes, ⟨uid, identity, ?_⟩, _, log ▸ List.mem_cons_self .., ?_⟩
    · rw [Content.ownerUid?, possible.spec]
      exact owner
    · exact congrArg (fun key => some (key, content)) key
  · split
    · -- The content that is there is read, and taken only if it is the group's.
      extract_lets name space
      have allowed : Upkeep place stored.exchanges (.getContent name space) :=
        .inr ⟨group, goes.origin? origin, trivial⟩
      refine .then (.told (.ends (.of (Program.honours_next allowed)))) ?_
      rintro existing read ⟨reading, _⟩
      cases bound : existing.boundTo (record.ownerUid?.getD "") with
      | error error => exact .known trivial
      | ok taken =>
        obtain ⟨rfl, same⟩ := Content.boundTo_eq_ok bound
        have known : ⟨.getContent name space, .ok taken⟩ ∈ read.exchanges :=
          reading ▸ List.mem_cons_self ..
        refine .known ⟨goes.trans (reading ▸ .single trivial), ⟨uid, identity, ?_⟩, _, known,
          congrArg (fun key => some (key, taken)) key⟩
        simpa [owner] using same
    · exact .throw trivial

/-- A driver makes a group for the group in hand. -/
theorem honours_making {name : String} {secrets parameters : KeyMap String}
    (holding : Holding group held scene.exchanges) :
    Honours (.unruly driver) (Upkeep place).promise
      (Ends fun created after =>
        after.exchanges = ⟨.createDriverGroup name secrets parameters, .ok created⟩ :: scene.exchanges ∧
          Holding group held after.exchanges)
      (tellingOn held .createVolumeGroupFailed (some false) <|
        within .driver (of (.ask (.createDriverGroup name secrets parameters)))) scene := by
  -- No state has been written yet, so the driver may still be asked.
  have allowed : Upkeep place scene.exchanges (.createDriverGroup name secrets parameters) :=
    .inr ⟨group, holding.origin, holding.unstated⟩
  refine honours_telling group (by simp) (.retold (.of (Program.Honours.mono ?_
    (Program.honours_next allowed))))
  rintro answer after ⟨log, _⟩
  -- A failure is told on the group in hand, which is the same as before.
  refine ⟨log ▸ holding.toHoldsForm.cons rfl, ?_⟩
  cases answer with
  | error cause => trivial
  | ok created => exact ⟨log, log ▸ holding.drive rfl id id⟩

/-- The content of the group in hand is found, or is made together with the driver's group. -/
theorem honours_obtaining {groupClass : GroupClass} {parameters : ClassParameters}
    {secrets : KeyMap String} (holding : Holding group held scene.exchanges)
    (shares : group.SharesContentIdentity held)
    (live : group.isTerminating = false) :
    Honours (.unruly driver) (Upkeep place).promise
      (Ends fun obtained after => Holding group held after.exchanges ∧
        Extends (fun _ => True) scene.exchanges after.exchanges ∧
        InUse group obtained.1 after.exchanges ∧ (obtained.2 = true → Made after.exchanges))
      (held.obtainContent groupClass parameters secrets) scene := by
  unfold Group.obtainContent
  have passively : Asks Call.IsPassive (fun _ => True) held.lookupContent :=
    asks_lookupContent held fun _ _ => trivial
  -- A content that is found makes the driver's group unnecessary.
  refine .then (.told (.ends ((honours_lookingUp shares holding.origin).both
    (honours_passive passively holding.origin)))) ?_
  rintro found looked ⟨⟨absent, inUse⟩, given, looking⟩
  replace holding := holding.passive looking
  -- Without a content the driver is asked for a group first, so that its handle can be recorded.
  split
  · rename_i content
    exact .pure ⟨holding, looking.mono fun _ _ => trivial, inUse content rfl, nofun⟩
  · refine .then (honours_knowing held.driverName) ?_
    rintro name named ⟨rfl, goes⟩
    obtain ⟨uid, identity⟩ := Group.uid_of_driverName goes
    refine .then (honours_making holding) ?_
    rintro created made ⟨log, holding⟩
    have making : Extends (fun _ => True) named.exchanges made.exchanges := log ▸ .single trivial
    refine .then (honours_knowing _) ?_
    rintro record written ⟨rfl, recorded⟩
    -- The record has the identity of the group and the handle that the driver has just returned.
    have suits := Group.newContent_eq_ok recorded
    obtain ⟨owner, stateless, source⟩ := Group.newContent_records recorded
    have belongs : record.BelongsTo group :=
      ⟨uid, shares.uid.symm.trans identity, owner.trans identity⟩
    have key : Resource.key record = group.contentKey := suits.key.trans shares.contentKey
    have known : ⟨.createDriverGroup name secrets parameters.driver, .ok created⟩ ∈
        written.exchanges := log ▸ List.mem_cons_self ..
    have permitted : group.Permits written.exchanges (.createContent record) :=
      ⟨live, belongs, key, stateless, name, secrets, parameters.driver, created, _, known, source, rfl⟩
    refine .then (.told (honours_creating holding.origin belongs key permitted)) ?_
    rintro content stored ⟨storing, inUse⟩
    -- The group in hand is untouched by all this, and what the driver was asked is known.
    refine .pure ⟨holding.aside storing, ?_, inUse, fun _ => ?_⟩
    · exact (looking.mono fun _ _ => trivial).trans
        (making.trans (storing.mono fun _ _ => trivial))
    · exact Made.later ⟨_, _, _, _, known⟩ storing

/-- The name of the content in use is recorded in the group in hand. -/
theorem honours_remembering {content : Content} (holding : Holding group held scene.exchanges)
    (live : group.isTerminating = false) (inUse : InUse group content scene.exchanges) :
    Honours (.unruly driver) (Upkeep place).promise
      (Ends fun own after => Holding group own after.exchanges ∧
        Extends (fun _ => True) scene.exchanges after.exchanges)
      (held.rememberContent (Resource.displayName content)) scene := by
  unfold Group.rememberContent
  -- A group that goes by this name already is not written.
  split
  · exact .pure ⟨holding, .refl _⟩
  · have allowed : Upkeep place scene.exchanges
        (.replaceGroup (held.naming (Resource.displayName content))) :=
      .inr ⟨group, holding.origin, held, holding.latest,
        .inr (.inl ⟨content, live, inUse, rfl⟩)⟩
    refine .told (.of (Program.Honours.mono ?_ (Program.honours_next allowed)))
    rintro answer after ⟨log, _⟩
    cases answer with
    | error cause => trivial
    -- What the store gives back is in hand from now on.
    | ok own => exact ⟨log ▸ holding.bring _ own, log ▸ .single trivial⟩

/-- The driver takes the volumes of a plan. -/
theorem honours_modifying {content : Content} {claims : List Claim} {plan : MembershipPlan}
    {handle : String} {secrets : KeyMap String} (holding : Holding group held scene.exchanges)
    (inUse : InUse group content scene.exchanges) (named : content.handle? = some handle)
    (planned : Planned group claims plan scene.exchanges) :
    Honours (.unruly driver) (Upkeep place).promise
      (Ends fun _ after => Holding group held after.exchanges ∧
        Extends (fun _ => True) scene.exchanges after.exchanges ∧
        Accepted content plan after.exchanges)
      (tellingOn held .modifyVolumeGroupFailed (some false) <|
        within .driver (of (.ask (.modifyMembership handle plan.volumeIds secrets)))) scene := by
  -- The plan says which volumes the driver is handed, and the content by which handle.
  have allowed : Upkeep place scene.exchanges (.modifyMembership handle plan.volumeIds secrets) :=
    .inr ⟨group, holding.origin, holding.unstated, content, claims, plan, inUse, named, planned, rfl⟩
  refine honours_telling group (by simp) (.retold (.of (Program.Honours.mono ?_
    (Program.honours_next allowed))))
  rintro answer after ⟨log, _⟩
  refine ⟨log ▸ holding.toHoldsForm.cons rfl, ?_⟩
  -- Only an answer of the driver counts as its acceptance.
  cases answer with
  | error cause => trivial
  | ok done =>
    refine ⟨log ▸ holding.drive rfl id id, log ▸ .single trivial, .inl ⟨handle, secrets, named, ?_⟩⟩
    exact log ▸ List.mem_cons_self ..

/-- The state of a content that is ready takes at most a look at the clock. -/
theorem asks_readying (content : Content) (plan : MembershipPlan) :
    (content.readyStatus plan.volumeNames).Asks Call.IsIdle (content.Readies plan) := by
  -- A time that is recorded is kept; otherwise the clock is read.
  have dated : content.creationTime.Asks Call.IsIdle fun time =>
      ∀ known, content.status.bind ContentStatus.creationTime = some known → time = known := by
    unfold Content.creationTime
    split
    · rename_i time recorded
      exact fun known same => Option.some.inj (recorded.symm.trans same)
    · rename_i none
      exact ⟨trivial, fun time known same => by simp [none] at same⟩
  exact dated.bind fun time kept => ⟨rfl, rfl, rfl, fun known same => congrArg some (kept known same)⟩

/-- The state of a content is written if it is another. -/
theorem honours_stating {content : Content} {plan : MembershipPlan} {status : ContentStatus}
    (holding : Holding group held scene.exchanges)
    (acknowledged : Acknowledged group content plan scene.exchanges)
    (readies : content.Readies plan status) :
    Honours (.unruly driver) (Upkeep place).promise
      (Ends fun later after => HoldsForm group held after.exchanges ∧ Unrefused after.exchanges ∧
        Extends (fun _ => True) scene.exchanges after.exchanges ∧
        Stated content status after.exchanges ∧ later.status = some status)
      (content.syncStatus status) scene := by
  -- No state has been written yet, so none of a content either.
  have fresh : ∀ exchange ∈ scene.exchanges, ∀ later,
      exchange.request ≠ .replaceContentStatus later :=
    fun exchange known later same => holding.unstated exchange known (same ▸ trivial)
  unfold Content.syncStatus
  -- A content that is in this state already is not written.
  split
  · rename_i same
    exact .pure ⟨holding.toHoldsForm, holding.unrefused, .refl _,
      ⟨.inl same, fun exchange known later wrote => absurd wrote (fresh exchange known later)⟩, same⟩
  · have allowed : Upkeep place scene.exchanges
        (.replaceContentStatus { content with status := some status }) :=
      .inr ⟨group, holding.origin, holding.unstated, content, plan, status, acknowledged, readies,
        rfl⟩
    refine .told (.of (Program.Honours.mono ?_ (Program.honours_next allowed)))
    rintro answer after ⟨log, possible⟩
    cases answer with
    | error cause => trivial
    | ok stored =>
      -- The write is in the log, and nothing has been refused.
      refine ⟨log ▸ holding.toHoldsForm.cons rfl, ?_, log ▸ .single trivial, ⟨.inr ⟨stored, ?_⟩, ?_⟩,
        possible.contentStatus⟩
      · rw [log]
        simpa [Unrefused] using ⟨id, holding.unrefused⟩
      · exact log ▸ List.mem_cons_self ..
      · -- This is the only write of a content's state.
        rw [log]
        intro exchange known later wrote
        rcases List.mem_cons.mp known with rfl | known
        · exact (Call.replaceContentStatus.inj wrote).symm
        · exact absurd wrote (fresh exchange known later)

/-- A content and its state are in line with a plan that the driver acknowledges. -/
structure Backs (group : Group) (plan : MembershipPlan) (furnished : Group.Furnished)
    (log : List Exchange) : Prop where
  holdsForm : HoldsForm group furnished.group log
  states : ∃ content status, Acknowledged group content plan log ∧ content.Readies plan status ∧
    Stated content status log ∧ furnished.contentName = Resource.displayName content ∧
    furnished.content.status = some status

/-- The second stage of a live group brings its content in line with a plan that the driver took. -/
theorem honours_furnishing {groupClass : GroupClass} {parameters : ClassParameters}
    {secrets : KeyMap String} {claims : List Claim} {plan : MembershipPlan}
    (holding : Holding group held scene.exchanges) (shares : group.SharesContentIdentity held)
    (live : group.isTerminating = false) (planned : Planned group claims plan scene.exchanges) :
    Honours (.unruly driver) (Upkeep place).promise
      (Ends fun furnished after => Backs group plan furnished after.exchanges ∧
        Extends (fun _ => True) scene.exchanges after.exchanges)
      (held.furnish groupClass parameters secrets plan) scene := by
  unfold Group.furnish
  -- First there is a content, with a handle that the driver knows.
  refine .then (honours_obtaining holding shares live) ?_
  rintro ⟨content, created⟩ obtained ⟨holding, obtaining, inUse, made⟩
  dsimp -zeta only
  extract_lets contentName
  split
  -- Without a handle nothing can be told to the driver.
  case h_2 => exact .throw trivial
  case h_1 handle named =>
  -- Next the group records the name of the content.
  refine .then (honours_remembering holding live inUse) ?_
  rintro own remembered ⟨holding, remembering⟩
  -- Both branches below end in the same rest, the state of the content.
  replace inUse := inUse.later remembering
  extract_lets rest
  -- What follows needs only that the driver accepted the plan, in whichever of the two ways.
  have finishes (told : Scene) (holding : Holding group own told.exchanges)
      (goes : Extends (fun _ => True) remembered.exchanges told.exchanges)
      (accepted : Accepted content plan told.exchanges) :
      Honours (.unruly driver) (Upkeep place).promise
        (Ends fun furnished after => Backs group plan furnished after.exchanges ∧
          Extends (fun _ => True) scene.exchanges after.exchanges) (rest ()) told := by
    have before := obtaining.trans (remembering.trans goes)
    have acknowledged : Acknowledged group content plan told.exchanges :=
      ⟨live, ⟨claims, planned.later before⟩, inUse.later goes, accepted, holding.unrefused⟩
    refine .then (honours_idle (.lift (asks_readying content plan)) holding.origin) ?_
    rintro status read ⟨readies, reading⟩
    replace holding := holding.passive reading
    replace acknowledged := acknowledged.later reading holding.unrefused
    refine .then (.told (honours_stating holding acknowledged readies)) ?_
    rintro later stated ⟨holdsForm, unrefused, stating, states, same⟩
    refine .pure ⟨⟨holdsForm, content, status, acknowledged.later stating unrefused, readies, states,
      rfl, same⟩, before.trans ((reading.mono fun _ _ => trivial).trans stating)⟩
  -- Now the driver takes the volumes, unless there is nothing to tell it.
  split
  · refine .then (honours_modifying holding inUse named
      (planned.later (obtaining.trans remembering))) ?_
    exact fun _ told reached => finishes told reached.1 reached.2.1 reached.2.2
  · -- The driver is spared only if it has just made the group and there is nothing to take.
    rename_i spared
    simp only [Bool.or_eq_true, Bool.not_eq_true', not_or, Bool.not_eq_false,
      List.isEmpty_iff] at spared
    refine finishes remembered holding (.refl _) (.inr ⟨?_, (made spared.1).later remembering⟩)
    exact List.map_eq_nil_iff.mp spared.2

/-- The state of a live group is written if it is another, and records the plan. -/
theorem honours_recording {furnished : Group.Furnished} {plan : MembershipPlan}
    (backs : Backs group plan furnished scene.exchanges) :
    Honours (.unruly driver) (Upkeep place).promise
      (Ends fun _ after => Extends (fun _ => True) scene.exchanges after.exchanges)
      (furnished.group.syncStatus (furnished.status plan)) scene := by
  obtain ⟨holdsForm, content, status, acknowledged, readies, states, named, same⟩ := backs
  unfold Group.syncStatus
  -- A group that is in this state already is not written.
  split
  · exact .pure (.refl scene.exchanges : Extends (fun _ => True) scene.exchanges scene.exchanges)
  -- What is written is what the content in hand records.
  · have records : group.Records (furnished.status plan) scene.exchanges := by
      refine ⟨content, plan, status, acknowledged, readies, states, congrArg some named, ?_, rfl, rfl⟩
      simp [Group.Furnished.status, same]
    refine .told (.of (Program.Honours.mono ?_ (Program.honours_next (.inr ⟨group, holdsForm.origin,
      furnished.group, furnished.status plan, holdsForm.latest, rfl, .inr (.inr records)⟩))))
    rintro answer after ⟨log, _⟩
    cases answer with
    | error cause => trivial
    | ok later =>
      exact (log ▸ .single trivial : Extends (fun _ => True) scene.exchanges after.exchanges)

/-- A pass over a live group makes calls that the group permits. -/
theorem honours_syncing {groupClass : GroupClass} {parameters : ClassParameters}
    {secrets : KeyMap String} (holding : Holding group held scene.exchanges)
    (shares : group.SharesContentIdentity held)
    (live : group.isTerminating = false) :
    Honours (.unruly driver) (Upkeep place).promise (Ends fun _ _ => True)
      (held.sync groupClass parameters secrets) scene := by
  -- The stages come one after another, each with the log that the one before has left.
  rw [Group.sync_eq]
  -- The plan is made before anything is told to the driver.
  refine .then (honours_preparing holding shares.namespace) ?_
  rintro ⟨groups, plan⟩ prepared ⟨preparing, claims, planned⟩
  replace holding := holding.aside preparing
  -- The driver and the content come before the state of the group.
  refine .then (honours_furnishing holding shares live planned) ?_
  rintro furnished done ⟨backs, furnishing⟩
  refine .then (honours_recording backs) ?_
  rintro later written writing
  have goes := furnishing.trans writing
  have origin := goes.origin? holding.origin
  -- The claims that leave come from the list that was counted for the plan.
  obtain ⟨space, inSpace, counted⟩ := planned.counted
  refine .then (honours_releasing origin inSpace (goes.mem counted) planned.departed) ?_
  rintro _ released releasing
  exact (honours_idle (asks_announce furnished plan later) (releasing.origin? origin)).mono
    fun result _ _ => gives_any result

end Rules

end Upkeep

end VolumeGroups
