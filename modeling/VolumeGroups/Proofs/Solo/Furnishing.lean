import VolumeGroups.Proofs.Solo.Syncing

/-! The middle of a pass over a live group when nobody else writes: its content is found or made, and
the driver gets the members. -/

namespace VolumeGroups

/-- The handle that a content takes over from what the driver gave. -/
def CreatedGroup.handle? (created : CreatedGroup) : Option String :=
  (some created.handle).filter fun handle => !handle.isEmpty

namespace Venture

variable {driver : String} {venture : Venture driver} {conditions : Conditions}

namespace Underway

variable {now : Store} {log : List Exchange} {own : Group}
  (underway : venture.Underway now log own)
include underway

/-- A content that belonged to the group still does. -/
theorem ownsContent (owns : venture.start.OwnsContent venture.group) : now.OwnsContent own := by
  intro content found
  rw [underway.contentKey] at found
  have identity : own.metadata.uid = venture.group.metadata.uid := by
    rw [underway.continues.metadata]
  -- The content was there at the start, or it was made for the group.
  cases before : venture.start.find? (α := Content) venture.group.contentKey with
  | none =>
    -- A content that was made for the group says so.
    have makes := underway.made before content found
    obtain ⟨uid, known⟩ := Option.isSome_iff_exists.mp makes.owned
    obtain ⟨created, version, _, spec⟩ := makes.spec
    refine ⟨uid, identity.trans known, ?_⟩
    rw [Content.ownerUid?, spec]
    exact known
  | some first =>
    obtain ⟨later, there, keeps⟩ := underway.kept first before
    obtain rfl := Option.some.inj (found.symm.trans there)
    obtain ⟨uid, known, owner⟩ := owns first before
    refine ⟨uid, identity.trans known, ?_⟩
    rw [Content.ownerUid?, keeps.spec]
    exact owner

/-- The content has a handle if nothing is wrong with what is stored and with what the driver gave. -/
theorem handle (ready : venture.Ready log) {content : Content}
    (found : now.find? venture.group.contentKey = some content) : content.handle?.isSome := by
  -- A content that was made has the handle that the driver gave; any other has kept its own.
  cases before : venture.start.find? (α := Content) venture.group.contentKey with
  | none =>
    obtain ⟨created, version, obtains, spec⟩ := (underway.made before content found).spec
    rw [Content.handle?, spec]
    simp [Venture.contentSpec, ready.made created obtains]
  | some first =>
    obtain ⟨later, there, keeps⟩ := underway.kept first before
    obtain rfl := Option.some.inj (found.symm.trans there)
    rw [Content.handle?, keeps.spec]
    exact ready.handle first before

end Underway

/-- What a pass knows once the group has a content. -/
structure Obtained (venture : Venture driver) (own : Group) (content : Content) (created : Bool)
    (before after : Scene) : Prop where
  -- The group is still on its way.
  underway : venture.Underway after.store after.exchanges own
  found : after.store.find? venture.group.contentKey = some content
  owned : ∃ uid, venture.group.metadata.uid = some uid ∧ content.ownerUid? = some uid
  claims : after.store.claims = before.store.claims
  -- The driver was called exactly if the content is new.
  calls : ∃ calls, GrowsByCalls calls [] before.exchanges after.exchanges ∧
    (created = false ∧ calls = [] ∨ created = true ∧ ∃ name given,
      venture.group.driverName = .ok name ∧ content.handle? = given.handle? ∧
      calls = [⟨.createDriverGroup name venture.secrets venture.parameters.driver, .ok given⟩])

/-- What a pass knows once content and driver are in line with a plan. -/
structure Stocked (venture : Venture driver) (plan : MembershipPlan) (own : Group)
    (furnished : Group.Furnished) (before after : Scene) : Prop where
  -- The group is still on its way, and names its content.
  underway : venture.Underway after.store after.exchanges furnished.group
  spec : furnished.group.spec = venture.spec
  finalizers : furnished.group.metadata.finalizers = own.metadata.finalizers
  found : after.store.find? venture.group.contentKey = some furnished.content
  contentName : furnished.contentName = venture.group.contentName
  handle : furnished.content.handle? = some furnished.handle
  owned : ∃ uid, venture.group.metadata.uid = some uid ∧ furnished.content.ownerUid? = some uid
  -- The content records that the driver's group is ready, with the volumes of the plan.
  status : ∃ time, furnished.content.status = some ⟨some time, some true, plan.volumeNames⟩
  claims : after.store.claims = before.store.claims
  -- The driver was told of the members last.
  calls : ∃ calls, GrowsByCalls calls [] before.exchanges after.exchanges ∧
    (∀ exchange ∈ calls, venture.Calls exchange) ∧
    membersAt? furnished.handle calls = some plan.volumeIds

end Venture

namespace Attempt

/-- A value that is known is gone on with. -/
theorem known_ok_bind {ε ε' α β : Type} (wider : ε → ε') (value : α) (next : α → Attempt ε' β) :
    (Attempt.within wider (.known (.ok value)) >>= next) = next value := rfl

/-- A failure that is known ends an attempt. -/
theorem known_error_bind {ε ε' α β : Type} (wider : ε → ε') (error : ε)
    (next : α → Attempt ε' β) :
    (Attempt.within wider (.known (.error error)) >>= next) = throw (wider error) := rfl

variable {driver : String} {venture : Venture driver} {conditions : Conditions}
  (solo : conditions.Solo) {scene : Scene}
include solo

/-- A new content is stored under a key that is free, unless the call fails. -/
theorem ensures_createContent {content : Content}
    (absent : scene.store.find? (Resource.key content) = (none : Option Content)) :
    Ensures conditions
      (EndsEither
        (fun stored after => stored = scene.store.stamped (Store.identified content) ∧
          after.store = (scene.store.save (Store.identified content)).2 ∧
          Extends Call.IsSilent scene.exchanges after.exchanges)
        (fun _ after => conditions.LetsCallsFail ∧ after.store = scene.store ∧
          Extends Call.IsSilent scene.exchanges after.exchanges))
      content.create scene := by
  -- The answer is kept whatever it is, as one of the failures would be put up with.
  have asked : Ensures conditions (fun result after => ∃ answer, result = .ok answer ∧
      Extends Call.IsSilent scene.exchanges after.exchanges ∧
        ((answer = .ok (scene.store.stamped (Store.identified content)) ∧
          after.store = (scene.store.save (Store.identified content)).2) ∨
        ∃ cause, answer = .error cause ∧ conditions.LetsCallsFail ∧ cause.isAlreadyExists = false ∧
          after.store = scene.store))
      (Attempt.outcome (.of (.ask (.createContent content))) :
        Attempt ContentError (Except ClusterError Content)) scene := by
    refine .outcome (ensures_call solo (.createContent content) trivial id (fun _ => rfl) ?_ ?_)
    · intro answer after serves log
      refine ⟨answer, rfl, log, .inl ?_⟩
      -- The key is free, so the store makes the content.
      have created : (answer, after.store) = scene.store.create content := serves
      rcases Store.create_cases scene.store content with ⟨error, failed⟩ | ⟨_, done⟩
      · simp [Store.create, absent] at failed
      · exact Prod.mk.inj (created.trans done)
    · exact fun cause after letsFail _ new kept log =>
        ⟨_, rfl, log, .inr ⟨cause, rfl, letsFail, new, kept⟩⟩
  -- An answer that the content exists already would be put up with, and no failing call gives it.
  unfold Content.create
  refine .bind asked ?_ ?_
  · rintro error after ⟨_, wrong, _⟩
    cases wrong
  · rintro answer after ⟨_, ⟨⟩, log, ⟨rfl, wrote⟩ | ⟨cause, rfl, letsFail, new, kept⟩⟩
    · exact .pure ⟨rfl, wrote, log⟩
    · simp only [new, Bool.false_eq_true, if_false]
      exact .throw ⟨letsFail, kept, log⟩

/-- A call of the driver that does not touch the store is answered, with an error only if it fails. -/
theorem ensures_ask {α : Type} (request : Call) (view : request.Answer → Except DriverError α)
    (firm : ∀ answer, (Exchange.mk request answer).drops? = none)
    (serves : ∀ (store after : Store) answer, store.Serves request answer after →
      after = store ∧ ∃ value, view answer = .ok value) :
    Ensures conditions
      (fun result after => after.store = scene.store ∧ ∃ answer,
        after.exchanges = ⟨request, answer⟩ :: scene.exchanges ∧
        result = (view answer).mapError PassError.driver ∧
        (∀ cause, view answer = .error cause → conditions.LetsCallsFail))
      (.within PassError.driver (of ((Program.ask request).bind fun answer => .done (view answer))))
      scene := by
  -- The driver answers, or the call fails.
  refine .within (.of (Program.Honours.bind (Program.honours_ask solo _ scene) ?_))
  rintro answer after ⟨log, served | ⟨failing, same⟩⟩
  · obtain ⟨same, value, told⟩ := serves _ _ _ served
    refine ⟨same, answer, log, rfl, fun cause wrong => ?_⟩
    rw [told] at wrong
    cases wrong
  · exact ⟨same, answer, log, rfl, fun cause _ => ⟨_, _, failing, firm answer⟩⟩

/-- A call of the driver is carried out, or its failure is told. -/
theorem ensures_drive {α : Type} {own : Group}
    (underway : venture.Underway scene.store scene.exchanges own) (request : Call)
    (view : request.Answer → Except DriverError α)
    (drives : ∀ answer, (Exchange.mk request answer).drives = true ∧
      (Exchange.mk request answer).refusal? = none ∧ (Exchange.mk request answer).drops? = none)
    (serves : ∀ (store after : Store) answer, store.Serves request answer after →
      after = store ∧ ∃ value, view answer = .ok value)
    (proper : ∀ answer, venture.Calls ⟨request, answer⟩) {reason : Reason}
    (other : reason ≠ .membershipRejected) :
    Ensures conditions
      (EndsEither
        (fun value after => after.store = scene.store ∧ ∃ answer, view answer = .ok value ∧
          after.exchanges = ⟨request, answer⟩ :: scene.exchanges)
        (venture.Fails conditions scene))
      (Attempt.tellingOn own reason (some false) <| .within PassError.driver <|
        of ((Program.ask request).bind fun answer => .done (view answer))) scene := by
  -- A failure is told on the group, which a pass may do at any time.
  refine .telling solo (ensures_ask solo request view (fun answer => (drives answer).2.2) serves)
    other ?_ ?_ ?_
  · -- The driver has done what it was asked for.
    rintro value after ⟨same, answer, log, told, _⟩
    cases given : view answer with
    | ok own =>
      rw [given] at told
      obtain rfl := Except.ok.inj told
      exact ⟨same, answer, given, log⟩
    | error cause =>
      rw [given] at told
      cases told
  · -- The group is stored as it was, so a failure can be told on it.
    rintro error after ⟨same, _⟩
    exact same ▸ underway.found_own
  · -- The call is in the log even if it failed.
    rintro error after last ⟨same, answer, log, told, letsFail⟩ tells more
    cases given : view answer with
    | ok value =>
      rw [given] at told
      cases told
    | error cause =>
      rw [given] at told
      obtain rfl := Except.error.inj told
      have driving : GrowsByCalls [⟨request, answer⟩] [] scene.exchanges after.exchanges :=
        log ▸ .drive (drives answer).1 (drives answer).2.1 scene.exchanges
      have goes := driving.quiet more
      obtain ⟨later, underway⟩ := underway.tells (same ▸ tells)
      refine ⟨id, fun _ => letsFail cause given, ⟨later, underway.later goes.longer⟩, _, _, goes,
        ?_⟩
      intro exchange known
      obtain rfl := List.mem_singleton.mp known
      exact proper answer

/-- The content of a group is looked up, unless a call fails. -/
theorem ensures_lookupContent {group : Group} {space : String}
    (inSpace : group.metadata.namespace = some space) :
    Ensures conditions
      (EndsEither
        (fun content after => content = scene.store.find? group.contentKey ∧
          scene.store.OwnsContent group ∧ after.store = scene.store ∧
          Extends Call.IsSilent scene.exchanges after.exchanges)
        (fun error after => ¬ error.IsRefusal ∧
          (scene.store.OwnsContent group → conditions.LetsCallsFail) ∧ after.store = scene.store ∧
          Extends Call.IsSilent scene.exchanges after.exchanges))
      (.within PassError.content group.lookupContent) scene := by
  refine .within (((reads_lookupContent solo group).endsEither scene).mono ?_)
  -- What the store alone decides is the content, as far as it is the group's own.
  rintro (cause | content) after ⟨told, same, log⟩
  · refine ⟨id, fun owns => ?_, same, log.quiet⟩
    refine told.resolve_left fun wrong => ?_
    rw [(Store.learns_lookupContent inSpace).mpr ⟨rfl, owns⟩] at wrong
    cases wrong
  · obtain ⟨found, owns⟩ := (Store.learns_lookupContent inSpace).mp told
    exact ⟨found, owns, same, log.quiet⟩

/-- A content is stored that records what the driver gave for the group, unless the call fails. -/
theorem ensures_recordContent {own : Group} {given : CreatedGroup}
    (underway : venture.Underway scene.store scene.exchanges own)
    (absent : scene.store.find? venture.group.contentKey = (none : Option Content))
    (obtains : Venture.Obtains scene.exchanges given) (owned : venture.group.metadata.uid.isSome) :
    Ensures conditions
      (EndsEither
        (fun obtained after => venture.Underway after.store after.exchanges own ∧
          after.store.find? venture.group.contentKey = some obtained.1 ∧
          obtained.1.spec = venture.contentSpec given own.metadata.resourceVersion ∧
          obtained.2 = true ∧ after.store.claims = scene.store.claims ∧
          Extends Call.IsSilent scene.exchanges after.exchanges)
        (venture.Fails conditions scene))
      (do
        let content ← Attempt.within PassError.object <| .known <|
          own.newContent (Resource.displayName venture.groupClass) venture.groupClass.spec.driver given
            venture.parameters.secret
        let content ← Attempt.within PassError.content content.create
        return (content, true)) scene := by
  -- The group has a namespace, so a record can be made.
  obtain ⟨content, fresh⟩ : ∃ content, own.newContent (Resource.displayName venture.groupClass)
      venture.groupClass.spec.driver given venture.parameters.secret = .ok content := by
    rw [Group.newContent, Group.namespace, underway.inSpace]
    exact ⟨_, rfl⟩
  obtain ⟨place, spec, stored⟩ := underway.creates absent obtains owned fresh
  -- The new content lies under the key where the group looks.
  have site : Resource.key (Store.identified content) = venture.group.contentKey := place
  obtain ⟨_, rest⟩ := Prod.mk.inj
    (Store.apart_of_contents.save scene.store (Store.identified content))
  rw [fresh, known_ok_bind]
  refine .bind (Ensures.widened (ensures_createContent solo (place ▸ absent))) ?_ ?_
  · -- Nothing was stored.
    rintro _ after ⟨⟨cause, rfl⟩, letsFail, same, log⟩
    exact .of_quiet id (fun _ => letsFail) underway same log
  · -- The content is stored with what it was made to record.
    rintro record after ⟨rfl, wrote, log⟩
    refine .pure ⟨stored.of_quiet wrote log, ?_, spec, rfl, ?_, log⟩
    · rw [wrote, Store.find?_save, if_pos site.symm]
    · rw [wrote, (Prod.mk.inj rest).1]

/-- The group's content is found, or made together with the group at the driver. -/
theorem ensures_obtainContent {own : Group}
    (underway : venture.Underway scene.store scene.exchanges own) :
    Ensures conditions
      (EndsEither
        (fun obtained after => venture.Obtained own obtained.1 obtained.2 scene after)
        (venture.Fails conditions scene))
      (own.obtainContent venture.groupClass venture.parameters venture.secrets) scene := by
  -- The group has kept its identity and its name.
  have identity : own.metadata.uid = venture.group.metadata.uid := by
    rw [underway.continues.metadata]
  have driverName : own.driverName = venture.group.driverName := by
    rw [Group.driverName, Group.driverName, Group.uid, Group.uid, identity,
      underway.continues.name]
  unfold Group.obtainContent
  refine .bind (ensures_lookupContent solo underway.inSpace) ?_ ?_
  · -- The lookup failed, or the content is not the group's own.
    rintro error after ⟨other, blames, same, log⟩
    exact .of_quiet other (fun ready => blames (underway.ownsContent ready.owns)) underway same log
  rintro found middle ⟨rfl, owns, same, log⟩
  have goes : GrowsByCalls [] [] scene.exchanges middle.exchanges := .of_quiet log
  have there := underway.of_quiet same log
  rw [underway.contentKey]
  -- A content that is there is taken; otherwise the driver is asked first.
  cases present : scene.store.find? (α := Content) venture.group.contentKey with
  | some content =>
    obtain ⟨uid, known, owner⟩ := owns content (underway.contentKey ▸ present)
    exact .pure ⟨there, same ▸ present, ⟨uid, identity ▸ known, owner⟩, by rw [same], [], goes,
      .inl ⟨rfl, rfl⟩⟩
  | none =>
    simp only [driverName]
    -- A group has a name at the driver exactly if it has an identity.
    cases known : venture.group.metadata.uid with
    | none =>
      rw [Group.driverName, Group.uid, known]
      refine .throw (.of_growsByCalls id (fun ready => ?_) there goes)
      simpa [known] using ready.identified
    | some uid =>
      obtain ⟨name, named⟩ : ∃ name, venture.group.driverName = .ok name := by
        rw [Group.driverName, Group.uid, known]
        exact ⟨_, rfl⟩
      rw [named, known_ok_bind]
      -- The driver makes a group.
      refine .bind (ensures_drive solo there
        (.createDriverGroup name venture.secrets venture.parameters.driver) id
        (fun _ => ⟨rfl, rfl, rfl⟩) (fun _ _ _ served => ⟨served.2, served.1⟩)
        (fun _ => ⟨named, rfl, rfl⟩) (by decide)) ?_ ?_
      · exact fun error after fails => fails.after goes (by simp)
      rintro given third ⟨kept, answer, told, log⟩
      obtain rfl : answer = .ok given := told
      have drives : GrowsByCalls [⟨.createDriverGroup name venture.secrets
          venture.parameters.driver, .ok given⟩] [] middle.exchanges third.exchanges :=
        log ▸ .drive rfl rfl middle.exchanges
      have going := goes.trans drives
      have driven : venture.Underway third.store third.exchanges own := by
        rw [kept]
        exact there.later drives.longer
      -- What it gave is recorded in a content.
      have absent : third.store.find? venture.group.contentKey = (none : Option Content) := by
        rw [kept, same]
        exact present
      refine (ensures_recordContent solo driven absent ⟨name, _, _, log ▸ List.mem_cons_self ..⟩
        (by simp [known])).mono ?_
      -- The content is stored, or the call fails and the driver's group is there without it.
      rintro (error | ⟨content, created⟩) after ended
      · refine Venture.Fails.after ended going ?_
        intro exchange asked
        obtain rfl := List.mem_singleton.mp asked
        exact ⟨named, rfl, rfl⟩
      · obtain ⟨last, found, spec, made, claims, quiet⟩ := ended
        refine ⟨last, found, ⟨uid, known, ?_⟩, ?_, _, going.quiet quiet,
          .inr ⟨made, name, given, named, ?_, rfl⟩⟩
        · -- The owner is the group.
          rw [Content.ownerUid?, spec]
          exact known
        · -- Claims were not written at all.
          rw [claims, kept, same]
        · -- The handle is the one that the driver gave.
          rw [Content.handle?, spec]
          rfl

/-- The group names its content, unless the call fails. -/
theorem ensures_rememberContent {own : Group}
    (underway : venture.Underway scene.store scene.exchanges own) :
    Ensures conditions
      (EndsEither
        (fun later after => venture.Underway after.store after.exchanges later ∧
          later.spec = venture.spec ∧ later.metadata.finalizers = own.metadata.finalizers ∧
          (after.store.claims, after.store.contents) =
            (scene.store.claims, scene.store.contents) ∧
          Extends Call.IsSilent scene.exchanges after.exchanges)
        (venture.Fails conditions scene))
      (own.rememberContent venture.group.contentName) scene := by
  -- Whatever the group named before, it names the content from now on.
  have named : (⟨own.spec.className, ⟨some venture.group.contentName, own.spec.source.selector⟩⟩ :
      GroupSpec) = venture.spec := by
    rcases underway.spec with same | same <;> rw [same] <;> rfl
  unfold Group.rememberContent
  split
  · -- The group goes by this name already.
    rename_i known
    refine .pure ⟨underway, ?_, rfl, rfl, .refl _⟩
    rw [← named, ← known]
  · -- The name is written, and nothing else of the group.
    have writing : Ensures conditions (Writes conditions scene { own with spec := venture.spec })
        (of (.ask (.replaceGroup { own with spec := venture.spec }))) scene :=
      ensures_replaceGroup solo underway.found_own rfl rfl
    have further : venture.Underway (scene.store.overwrite { own with spec := venture.spec }).2
        scene.exchanges (scene.store.stamped { own with spec := venture.spec }) :=
      underway.write rfl underway.finalizers (.inr rfl) underway.members
    rw [← named] at writing
    refine .within (writing.mono ?_)
    rw [named]
    -- The write fails without effect, or the group is a step further.
    rintro (cause | stored) after ended
    · obtain ⟨letsFail, _, same, log⟩ := ended
      exact .of_quiet id (fun _ => letsFail) underway same log
    · obtain ⟨rfl, wrote, log⟩ := ended
      obtain ⟨claims, rest⟩ := Prod.mk.inj
        (Store.apart_of_groups.overwrite scene.store { own with spec := venture.spec })
      exact ⟨further.of_quiet wrote log, rfl, rfl, by rw [wrote, claims, (Prod.mk.inj rest).1], log⟩

/-- The state that a content is to have says since when its group is there, as far as that is known. -/
theorem ensures_readyStatus (content : Content) (volumeNames : List String) :
    Ensures conditions
      (EndsEither
        (fun status after => (∃ time, status = ⟨some time, some true, volumeNames⟩ ∧
            ∀ known, content.status.bind ContentStatus.creationTime = some known → time = known) ∧
          after.store = scene.store ∧ Extends Call.IsSilent scene.exchanges after.exchanges)
        fun _ _ => False)
      (liftM (content.readyStatus volumeNames) : Attempt PassError ContentStatus) scene := by
  have timed : content.creationTime.Honours conditions .any (fun time after =>
      (∀ known, content.status.bind ContentStatus.creationTime = some known → time = known) ∧
        after.store = scene.store ∧ Extends Call.IsSilent scene.exchanges after.exchanges) scene := by
    -- The clock is read only where no time is recorded.
    unfold Content.creationTime
    split
    · rename_i time recorded
      exact ⟨fun known same => Option.some.inj (recorded.symm.trans same), rfl, .refl _⟩
    · rename_i none
      refine (Program.honours_ask solo _ scene).mono ?_
      rintro time after ⟨log, done⟩
      refine ⟨fun known same => ?_, done.elim id (·.2), log ▸ .single trivial⟩
      rw [none] at same
      cases same
  -- The state is made of the time and of what is known without a call.
  refine Program.Honours.bind (Program.Honours.bind timed fun time after ended => ?_)
    fun _ _ ended => ended
  exact ⟨⟨time, rfl, ended.1⟩, ended.2⟩

/-- The state of the group's content is written, unless the call fails. -/
theorem ensures_syncContent {own : Group} {content : Content}
    (underway : venture.Underway scene.store scene.exchanges own)
    (found : scene.store.find? venture.group.contentKey = some content) {time : Time}
    {volumeNames : List String}
    (known : ∀ known, content.status.bind ContentStatus.creationTime = some known → time = known) :
    Ensures conditions
      (EndsEither
        (fun stored after => venture.Underway after.store after.exchanges own ∧
          after.store.find? venture.group.contentKey = some stored ∧ stored.spec = content.spec ∧
          stored.status = some ⟨some time, some true, volumeNames⟩ ∧
          after.store.claims = scene.store.claims ∧
          Extends Call.IsSilent scene.exchanges after.exchanges)
        (venture.Fails conditions scene))
      (.within PassError.content (content.syncStatus ⟨some time, some true, volumeNames⟩)) scene := by
  unfold Content.syncStatus
  split
  · -- The content has that state already.
    rename_i same
    exact .within (.pure ⟨underway, found, rfl, same, rfl, .refl _⟩)
  · -- The state is written over the content that was read.
    have here : scene.store.find? (Resource.key content) = some content :=
      (underway.beside.tidy.contents.placed found).symm ▸ found
    refine .within (.within ((ensures_replaceContentStatus solo _ here).mono ?_))
    rintro (cause | stored) after ended
    · obtain ⟨letsFail, _, same, log⟩ := ended
      exact .of_quiet id (fun _ => letsFail) underway same log
    · obtain ⟨rfl, wrote, log⟩ := ended
      obtain ⟨written, further⟩ := underway.content found ⟨some time, some true, volumeNames⟩
        -- The time that is written is the recorded one.
        fun recorded same => by rw [known recorded same]
      obtain ⟨_, rest⟩ := Prod.mk.inj (Store.apart_of_contents.overwrite scene.store
        { content with status := some ⟨some time, some true, volumeNames⟩ })
      exact ⟨further.of_quiet wrote log, wrote ▸ written, rfl, rfl, by rw [wrote, (Prod.mk.inj rest).1],
        log⟩

/-- The content of a group records since when the group is there and which volumes it has, unless a call
fails. -/
theorem ensures_statusOf {own : Group} {content : Content} (volumeNames : List String)
    (underway : venture.Underway scene.store scene.exchanges own)
    (found : scene.store.find? venture.group.contentKey = some content) :
    Ensures conditions
      (EndsEither
        (fun stored after => venture.Underway after.store after.exchanges own ∧
          after.store.find? venture.group.contentKey = some stored ∧ stored.spec = content.spec ∧
          (∃ time, stored.status = some ⟨some time, some true, volumeNames⟩) ∧
          after.store.claims = scene.store.claims ∧
          Extends Call.IsSilent scene.exchanges after.exchanges)
        (venture.Fails conditions scene))
      (do
        let contentStatus ← (liftM (content.readyStatus volumeNames) :
          Attempt PassError ContentStatus)
        Attempt.within PassError.content (content.syncStatus contentStatus)) scene := by
  -- First the clock, then the write.
  refine .bind (ensures_readyStatus solo content volumeNames) (fun _ _ never => never.elim) ?_
  rintro _ middle ⟨⟨time, rfl, known⟩, same, log⟩
  have there : middle.store.find? venture.group.contentKey = some content := by
    rw [same]
    exact found
  refine (ensures_syncContent solo (underway.of_quiet same log) there known).mono ?_
  rintro (error | stored) after ended
  · exact Venture.Fails.after ended (.of_quiet log) (by simp)
  · obtain ⟨reached, written, spec, status, claims, more⟩ := ended
    exact ⟨reached, written, spec, ⟨time, status⟩, by rw [claims, same], log.trans more⟩

/-- The group's content is found or made, and content and driver are brought in line with a plan,
unless a call fails. -/
theorem ensures_furnish {own : Group} {plan : MembershipPlan}
    (underway : venture.Underway scene.store scene.exchanges own) :
    Ensures conditions
      (EndsEither
        (fun furnished after => venture.Stocked plan own furnished scene after)
        (venture.Fails conditions scene))
      (own.furnish venture.groupClass venture.parameters venture.secrets plan) scene := by
  -- First there is a content, and the calls that this took.
  unfold Group.furnish
  refine .bind (ensures_obtainContent solo underway) (fun _ _ => id) ?_
  rintro ⟨content, created⟩ first obtained
  obtain ⟨calls, goes, how⟩ := obtained.calls
  -- The only call so far is the creation of the driver's group.
  have proper : ∀ exchange ∈ calls, venture.Calls exchange := by
    intro exchange known
    rcases how with ⟨_, rfl⟩ | ⟨_, name, given, named, _, rfl⟩
    · cases known
    · obtain rfl := List.mem_singleton.mp known
      exact ⟨named, rfl, rfl⟩
  have contentName : Resource.displayName content = venture.group.contentName :=
    Metadata.displayName_of_name (obtained.underway.isShelved obtained.found).named
  simp only [contentName]
  -- Without a handle nothing can be told to the driver.
  cases handled : content.handle? with
  | none =>
    refine .throw ⟨id, fun ready => ?_, ⟨own, obtained.underway⟩, calls, [], goes, proper⟩
    have handle := obtained.underway.handle ready obtained.found
    simp [handled] at handle
  | some handle =>
    -- The group names its content.
    refine .bind (ensures_rememberContent solo obtained.underway) ?_ ?_
    · exact fun error after fails => fails.after goes proper
    rintro later second ⟨underway, spec, finalizers, tables, quiet⟩
    obtain ⟨claims, contents⟩ := Prod.mk.inj tables
    have going := goes.quiet quiet
    -- What follows once the driver has the members, whichever calls that took.
    have finishes (third : Scene) (same : third.store = second.store) {made : List Exchange}
        (goes : GrowsByCalls made [] scene.exchanges third.exchanges)
        (longer : ∀ exchange ∈ second.exchanges, exchange ∈ third.exchanges)
        (proper : ∀ exchange ∈ made, venture.Calls exchange)
        (members : membersAt? handle made = some plan.volumeIds) :
        Ensures conditions
          (EndsEither (fun furnished after => venture.Stocked plan own furnished scene after)
            (venture.Fails conditions scene))
          (do
            let contentStatus ← content.readyStatus plan.volumeNames
            let content ← Attempt.within .content (content.syncStatus contentStatus)
            return { group := later, content, contentName := venture.group.contentName, handle, created })
          third := by
      have reached : venture.Underway third.store third.exchanges later := by
        rw [same]
        exact underway.later longer
      have found : third.store.find? venture.group.contentKey = some content := by
        simp only [same, Store.find?, Stored.table, contents]
        exact obtained.found
      have stated := ensures_statusOf solo plan.volumeNames reached found
      -- The state of the content is all that is left to be written.
      rw [← bind_assoc]
      refine .bind stated ?_ ?_
      · exact fun error after fails => fails.after goes proper
      rintro stored after ⟨reached, written, record, status, unclaimed, more⟩
      obtain ⟨uid, identified, owner⟩ := obtained.owned
      refine .pure ⟨reached, spec, finalizers, written, rfl, ?_, ⟨uid, identified, ?_⟩, status, ?_,
        made, goes.quiet more, proper, members⟩
      · -- The content records the same handle.
        rw [Content.handle?, record]
        exact handled
      · -- It records the same owner.
        rw [Content.ownerUid?, record]
        exact owner
      · -- Nobody has written a claim.
        rw [unclaimed, same, claims, obtained.claims]
    split
    · -- The driver is told of the members.
      refine .bind (ensures_drive solo underway (.modifyMembership handle plan.volumeIds venture.secrets)
        id (fun _ => ⟨rfl, rfl, rfl⟩) (fun _ _ _ served => ⟨served.2, (), served.1⟩)
        (fun _ => trivial) (by decide)) ?_ ?_
      · exact fun error after fails => fails.after going proper
      rintro _ third ⟨same, answer, told, log⟩
      obtain rfl : answer = .ok () := told
      have drives : GrowsByCalls [⟨.modifyMembership handle plan.volumeIds venture.secrets, .ok ()⟩]
          [] second.exchanges third.exchanges := log ▸ .drive rfl rfl second.exchanges
      refine finishes third same (going.trans drives) drives.longer ?_ ?_
      · -- The calls are the new one and those before.
        intro exchange known
        rcases List.mem_cons.mp known with rfl | known
        · trivial
        · exact proper exchange known
      · -- The latest call decides which members the driver has.
        simp [membersAt?, Exchange.membersAt?]
    · rename_i idle
      -- A group that was just made and gets no members has none.
      simp only [Bool.or_eq_true, Bool.not_eq_true', not_or, Bool.not_eq_false,
        List.isEmpty_iff] at idle
      rcases how with ⟨wrong, _⟩ | ⟨_, name, given, _, same, rfl⟩
      · simp [idle.1] at wrong
      · have own : given.handle = handle := by
          have taken : given.handle? = some handle := same.symm.trans handled
          simp only [CreatedGroup.handle?, Option.filter_eq_some_iff, Option.some.injEq] at taken
          exact taken.1
        refine finishes second rfl going (fun _ => id) proper ?_
        simp [membersAt?, Exchange.membersAt?, own, idle.2]

end Attempt

end VolumeGroups
