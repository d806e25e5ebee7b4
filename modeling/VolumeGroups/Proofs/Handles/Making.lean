import VolumeGroups.Proofs.Handles.Quiet

/-! A pass over a live group, in which the driver makes a group and a content records its handle. -/

namespace VolumeGroups

/-- As long as the group under a key is stored, the driver made no group or a content goes by the
name that the group goes by. -/
def Named (place : String) (group : Group) (content : Content) (scene : Scene) : Prop :=
  ∀ {own : Group}, scene.store.find? place = some own →
    Unmade scene.exchanges ∨ content.metadata.name = some group.contentName

/-- A content lies where a group looks for it, goes by the name that the group goes by, and is there
to stay. -/
structure Content.Suits (content : Content) (group : Group) : Prop where
  name : content.metadata.name = some group.contentName
  key : Resource.key content = group.contentKey
  live : content.metadata.isTerminating = false

namespace Custody

variable {group : Group} {before after : Scene} {exchange : Exchange}

/-- The driver may make a group while there is no content. -/
theorem make (custody : Custody group before)
    (absent : before.store.find? (α := Content) group.contentKey = none)
    (store : after.store = before.store) (told : after.exchanges = exchange :: before.exchanges)
    (records : exchange.records? = none) (drops : exchange.drops? = none) :
    Custody group after where
  -- There is no content to vouch for.
  vouched found := by
    rw [store, absent] at found
    cases found
  -- No content holds a handle, so whatever is to be deleted is still to be recorded.
  kept {handle} pending := by
    rw [told] at pending ⊢
    refine Or.inl ?_
    rcases pending with makes | ⟨pending, _⟩
    · exact Or.inl makes
    · rcases custody.kept pending with unrecorded | ⟨content, found, _⟩
      · exact Or.inr ⟨unrecorded, by simp [records]⟩
      · simp [absent] at found
  dropped {handle} pending := by
    rw [told] at pending ⊢
    rcases pending with makes | ⟨pending, _⟩
    · exact Or.inl makes
    · exact Or.inr ⟨custody.dropped pending, by simp [drops]⟩

/-- A new content may be stored where there is none. -/
theorem record (custody : Custody group before)
    (absent : before.store.find? (α := Content) group.contentKey = none) {content : Content}
    (found : after.store.find? group.contentKey = some content)
    (name : content.metadata.name = some group.contentName)
    (live : content.metadata.isTerminating = false)
    (told : after.exchanges = exchange :: before.exchanges) (makes : exchange.makes? = none)
    (records : exchange.records? = content.handle?) (drops : exchange.drops? = none) :
    Custody group after where
  -- The new content is the one that records the handle.
  vouched {stored} there := by
    obtain rfl : content = stored := by simpa [found] using there
    refine ⟨Or.inr name, ?_⟩
    intro handle has pending
    rw [told] at pending
    rcases pending with made | ⟨_, open'⟩
    · simp [makes] at made
    · exact open' (records.trans has)
  kept {handle} pending := by
    rw [told, Pending.cons_iff makes drops] at pending
    rcases custody.kept pending with unrecorded | ⟨other, there, _⟩
    · -- Either the new content records the handle, or the handle is still to be recorded.
      by_cases has : content.handle? = some handle
      · exact Or.inr ⟨content, found, has, live⟩
      · rw [told]
        exact Or.inl (Or.inr ⟨unrecorded, fun same => has (records.symm.trans same)⟩)
    · simp [absent] at there
  -- Recording adds nothing that could be deleted.
  dropped {handle} pending := by
    rw [told] at pending ⊢
    rw [Pending.cons_iff makes drops]
    rcases pending with made | ⟨pending, _⟩
    · simp [makes] at made
    · exact custody.dropped pending

end Custody

/-- A new content suits the group that it is made up for. -/
theorem Group.newContent_eq_ok {group : Group} {className driver : String} {created : CreatedGroup}
    {secret : SecretLocation} {content : Content}
    (made : group.newContent className driver created secret = .ok content) :
    content.Suits group := by
  -- Without a namespace no content is made up at all.
  unfold Group.newContent Group.namespace at made
  cases inSpace : group.metadata.namespace with
  | none => simp [inSpace, bind, Except.bind] at made
  | some space =>
    simp only [inSpace, bind, Except.bind, pure, Except.pure, Except.ok.injEq] at made
    subst made
    refine ⟨rfl, ?_, rfl⟩
    simp [Resource.key, Metadata.key, Resource.metadata, Group.contentKey, inSpace]

section Calls

variable {conditions : Conditions} {place : String} {group : Group} {met after : Scene}

/-- Storing a content under a free key fails honestly, or stores it there. -/
theorem Conditions.Reserved.createContent {content : Content}
    {answer : (Call.createContent content).Answer} (reserved : conditions.Reserved place)
    (free : met.store.find? (α := Content) (Resource.key content) = none)
    (answers : conditions.Answers met (.createContent content) answer after) :
    (∃ error, answer = .error error ∧ error.isAlreadyExists = false ∧ after.store = met.store) ∨
      answer = .ok (met.store.stamped (Store.identified content)) ∧
        after.store = (met.store.save (Store.identified content)).2 := by
  -- The store stores the content, or the call failed.
  rcases answers.2 with serves | ⟨failing, unchanged⟩
  · rcases Store.create_cases met.store content with ⟨error, failed⟩ | ⟨_, done⟩
    · -- The store refuses a content only if its key is taken.
      simp only [Store.create, free] at failed
      cases failed
    · exact Or.inr (Prod.mk.inj (serves.trans done))
  · cases answer with
    | error cause => exact Or.inl ⟨cause, rfl, ((reserved.honest failing).2 _ rfl).2, unchanged⟩
    | ok stored => cases (reserved.honest failing).1

/-- A group stays tended when the driver makes a group while there is no content. -/
theorem Tended.make {name : String} {secrets parameters : KeyMap String}
    {answer : (Call.createDriverGroup name secrets parameters).Answer}
    (tended : Tended place group met)
    (absent : met.store.find? (α := Content) group.contentKey = none)
    (answers : conditions.Answers met (.createDriverGroup name secrets parameters) answer after) :
    Tends place met (.createDriverGroup name secrets parameters) answer after ∧
      Tended place group after ∧ after.store.find? (α := Content) group.contentKey = none := by
  -- The store does not hear of it, whether the driver makes the group or not.
  obtain ⟨told, done⟩ := answers
  have store : after.store = met.store := done.elim (fun serves => serves.2) And.right
  have now : Tended place group after := by
    refine ⟨tended.key, store ▸ tended.contents, ?_⟩
    intro own found
    obtain ⟨known, custody⟩ := tended.own (store ▸ found)
    exact ⟨known, custody.make absent store told rfl rfl⟩
  exact ⟨now.guarded.tends_of_find? (by rw [store]), now, store ▸ absent⟩

/-- A group stays tended when its content is stored where there was none. -/
theorem Tended.record {content : Content} {answer : (Call.createContent content).Answer}
    (tended : Tended place group met) (reserved : conditions.Reserved place)
    (absent : met.store.find? (α := Content) group.contentKey = none)
    (suits : content.Suits group)
    (answers : conditions.Answers met (.createContent content) answer after) :
    Tends place met (.createContent content) answer after ∧ Tended place group after ∧
      (∀ stored, answer = .ok stored → stored.metadata.name = some group.contentName) ∧
      ∀ cause, answer = .error cause → cause.isAlreadyExists = false := by
  -- Either nothing was stored, or the new content lies under its key.
  rcases reserved.createContent (suits.key ▸ absent) answers with
    ⟨error, rfl, other, unchanged⟩ | ⟨rfl, wrote⟩
  · have silent : (Exchange.mk (.createContent content) (.error error)).IsSilent := ⟨rfl, rfl, rfl⟩
    have rests : met.Rests place after := .of_silent silent answers.1 (unchanged ▸ .refl _)
    refine ⟨(tended.rests rests).tends rests, tended.rests rests, ?_, ?_⟩
    · exact fun _ never => by cases never
    · rintro cause ⟨⟩
      exact other
  · -- Groups are another table, and the content is found where the group looks for it.
    have groups : after.store.find? place = (met.store.find? place : Option Group) := by
      rw [wrote]
      exact Store.find?_of_groups (Store.groups_of_contents.save met.store _) place
    have there : after.store.find? group.contentKey =
        some (met.store.stamped (Store.identified content)) := by
      rw [wrote, Store.find?_save]
      exact if_pos suits.key.symm
    have now : Tended place group after := by
      refine ⟨tended.key, ?_, ?_⟩
      · intro other stored found
        rw [wrote] at found
        rcases Store.find?_save_eq_some found with ⟨here, rfl⟩ | ⟨_, kept⟩
        · exact here.symm
        · exact tended.contents kept
      · intro own found
        obtain ⟨known, custody⟩ := tended.own (groups.symm.trans found)
        exact ⟨known, custody.record absent there suits.name suits.live answers.1 rfl rfl rfl⟩
    refine ⟨now.guarded.tends_of_find? groups, now, ?_, fun _ never => by cases never⟩
    rintro stored ⟨⟩
    exact suits.name

/-- A group may go by another content as long as the driver made no group. -/
theorem Tended.rename {later : Group} {answer : (Call.replaceGroup later).Answer}
    (tended : Tended place group met) (reserved : conditions.Reserved place)
    (answers : conditions.Answers met (.replaceGroup later) answer after)
    (metadata : later.metadata = group.metadata) (marked : later.isMarked = true)
    (unmade : ∀ {own : Group}, met.store.find? place = some own → Unmade met.exchanges) :
    Tends place met (.replaceGroup later) answer after ∧
      ∀ stored, answer = .ok stored → Tended place stored after := by
  have silent := Exchange.isSilent (.replaceGroup later) answer (by simp [Call.method])
  -- The write fails without effect, or goes over the stored group.
  rcases reserved.replaceGroup answers with ⟨error, rfl, unchanged⟩ | ⟨own, found, rfl, wrote⟩
  · have rests : met.Rests place after := .of_silent silent answers.1 (unchanged ▸ .refl _)
    exact ⟨(tended.rests rests).tends rests, fun _ never => by cases never⟩
  · have key : Resource.key later = place :=
      (congrArg Metadata.key metadata).trans tended.key
    rw [key] at found
    have written : Resource.key (Stored.withStatusOf later own) = place := key
    -- The mark holds the group, so the write does not remove it.
    have there : after.store.find? place =
        some (met.store.stamped (Stored.withStatusOf later own)) := by
      rw [wrote, ← written]
      exact Store.find?_overwrite_self (Metadata.isForsaken_of_hasFinalizer marked)
    have now : Tended place (met.store.stamped (Stored.withStatusOf later own)) after := by
      refine ⟨key, ?_, ?_⟩
      · intro other content present
        rw [wrote, Store.content_overwrite] at present
        exact tended.contents present
      · intro stored reading
        obtain rfl := Option.some.inj (there.symm.trans reading)
        -- Where the driver made no group, it does not matter which content the group goes by.
        exact ⟨.refl _, .of_unmade _ (answers.1 ▸ (unmade found).cons silent.makes)⟩
    refine ⟨now.guarded.tends fun _ _ => ⟨_, there, marked⟩, ?_⟩
    rintro stored ⟨⟩
    exact now

end Calls

namespace Attempt

variable {conditions : Conditions} {place : String} {group : Group} {scene : Scene}

/-- Storing a content where there is none leaves the group tended, and the stored content goes by the
same name. -/
theorem honours_create {content : Content} (reserved : conditions.Reserved place)
    (tended : Tended place group scene)
    (absent : scene.store.find? (α := Content) group.contentKey = none)
    (suits : content.Suits group) :
    Honours conditions (Tends place)
      (Ends fun stored after => Tended place group after ∧
        stored.metadata.name = some group.contentName)
      content.create scene := by
  unfold Content.create
  -- What the store says is kept, together with what it means for the group.
  have asking : Honours conditions (Tends place)
      (Ends fun answer after => Tended place group after ∧
        (∀ stored, answer = .ok stored → stored.metadata.name = some group.contentName) ∧
        ∀ cause, answer = .error cause → cause.isAlreadyExists = false)
      (outcome (of (.ask (.createContent content))) :
        Attempt ContentError (Except ClusterError Content)) scene := by
    refine .outcome (.of (Program.Honours.ask ?_))
    intro met waits answer after answers
    have rested := reserved.waits tended waits
    exact (tended.rests rested).record reserved (rested.store.absent absent) suits answers
  -- The content is stored, or the failure is passed on.
  refine .then asking ?_
  rintro answer after ⟨now, stored, failed⟩
  split
  · rename_i created
    exact .pure ⟨now, stored created rfl⟩
  · -- Nobody else stores a content, so the cluster cannot have one of that name already.
    rename_i cause
    simp only [failed cause rfl, Bool.false_eq_true, if_false]
    exact .throw trivial

/-- The driver may make a group for a group that has no content. -/
theorem honours_makeDriverGroup {name : String} {secrets parameters : KeyMap String}
    (reserved : conditions.Reserved place) (tended : Tended place group scene)
    (absent : scene.store.find? (α := Content) group.contentKey = none) :
    Honours conditions (Tends place)
      (Ends fun _ after => Tended place group after ∧
        after.store.find? (α := Content) group.contentKey = none)
      (tellingOn group .createVolumeGroupFailed (some false) <|
        within PassError.driver (of (.ask (.createDriverGroup name secrets parameters)))) scene := by
  -- Whether the driver makes it or not, the group is tended, so a failure may be told on it.
  refine honours_tellingQuietly reserved (.retold (.of (Program.Honours.ask ?_)))
  intro met waits answer after answers
  have rested := reserved.waits tended waits
  obtain ⟨tends, made, none⟩ :=
    (tended.rests rested).make (rested.store.absent absent) answers
  refine ⟨tends, made, ?_⟩
  -- In either case there is still no content.
  cases answer with
  | error cause => trivial
  | ok created => exact none

/-- A new content is made up without any call. -/
theorem honours_newContent {promise : Promise} {className driver : String} {created : CreatedGroup}
    {secret : SecretLocation} :
    Honours conditions promise
      (fun result after => after = scene ∧ Ends (fun content _ => content.Suits group) result after)
      (within PassError.object (known (group.newContent className driver created secret))) scene := by
  -- A group without a namespace has no content to store, which ends the pass.
  refine .within (.known ⟨rfl, ?_⟩)
  cases built : group.newContent className driver created secret with
  | error cause => trivial
  | ok content => exact Group.newContent_eq_ok built

/-- The content of a group is found, or made together with a group of the driver. -/
theorem honours_obtain {groupClass : GroupClass} {parameters : ClassParameters}
    {secrets : KeyMap String} (reserved : conditions.Reserved place)
    (tended : Tended place group scene) :
    Honours conditions (Tends place)
      (Ends fun obtained after => Tended place group after ∧ Named place group obtained.1 after)
      (group.obtainContent groupClass parameters secrets) scene := by
  unfold Group.obtainContent
  refine .then (.retold (honours_lookup reserved tended)) ?_
  rintro found looked ⟨looks, there⟩
  have now := tended.rests looks
  split
  · -- A content that is there is vouched for as long as the group is stored.
    refine .pure ⟨now, ?_⟩
    intro own alive
    exact ((now.own alive).2.vouched there).name
  · -- Where there is none, the driver makes a group first and a new content records its handle.
    have naming : Asks (Call.IsQuiet group) (fun _ => True)
        (Attempt.within PassError.object (.known group.driverName)) := .within (.known (gives_any _))
    refine .then (honours_quiet reserved now naming) ?_
    rintro name named ⟨_, names⟩
    have absent := names.store.absent there
    refine .then (honours_makeDriverGroup reserved (now.rests names) absent) ?_
    rintro created made ⟨now, absent⟩
    refine .then honours_newContent ?_
    rintro content made ⟨rfl, suits⟩
    refine .then (.told (honours_create reserved now absent suits)) ?_
    rintro stored after ⟨now, goes⟩
    exact .pure ⟨now, fun _ => Or.inr goes⟩

/-- Recording the name of a content in a marked group leaves the group tended. -/
theorem honours_remember {content : Content} (reserved : conditions.Reserved place)
    (tended : Tended place group scene) (named : Named place group content scene)
    (marked : group.isMarked = true) :
    Honours conditions (Tends place) (Ends fun own after => Tended place own after)
      (group.rememberContent (Resource.displayName content)) scene := by
  unfold Group.rememberContent
  -- A group that goes by this name already is not written.
  split
  · exact .pure tended
  · refine .told (.of (Program.Honours.ask ?_))
    intro met waits answer after answers
    have rested := reserved.waits tended waits
    have now := tended.rests rested
    by_cases same : content.metadata.name = some group.contentName
    · -- The group goes on to look for the content under the same name.
      obtain ⟨rests, stored⟩ := now.replaceGroup reserved answers
        ⟨rfl, rfl, Metadata.displayName_of_name same⟩ marked
      refine ⟨(now.rests rests).tends rests, ?_⟩
      cases answer with
      | error cause => trivial
      | ok own => exact (now.rests rests).matching (stored own rfl).1
    · -- A content of another name was found before the driver made anything.
      have unmade {own : Group} (alive : met.store.find? place = some own) :
          Unmade met.exchanges := by
        obtain ⟨before, found, _⟩ := rested.store.group alive
        exact rested.log.unmade ((named found).resolve_right same)
      obtain ⟨tends, stored⟩ := now.rename reserved answers rfl marked unmade
      refine ⟨tends, ?_⟩
      cases answer with
      | error cause => trivial
      | ok own => exact stored own rfl

/-- A live group is furnished so that it stays tended. -/
theorem honours_furnishTended {groupClass : GroupClass} {parameters : ClassParameters}
    {secrets : KeyMap String} {plan : MembershipPlan} (reserved : conditions.Reserved place)
    (tended : Tended place group scene) (marked : group.isMarked = true) :
    Honours conditions (Tends place)
      (Ends fun furnished after => Tended place furnished.group after)
      (group.furnish groupClass parameters secrets plan) scene := by
  unfold Group.furnish
  -- First a content is found or made.
  refine .then (honours_obtain reserved tended) ?_
  rintro ⟨content, created⟩ obtained ⟨now, named⟩
  dsimp -zeta only
  extract_lets contentName
  split
  case h_2 => exact .throw trivial
  case h_1 handle _ =>
  -- Then the group goes by its name.
  refine .then (honours_remember reserved now named marked) ?_
  intro own remembered now
  extract_lets rest
  -- Whether the driver is told or not, what follows is quiet.
  have furnishes (told : Scene) (tended : Tended place own told) :
      Honours conditions (Tends place)
        (Ends fun furnished after => Tended place furnished.group after) (rest ()) told := by
    have reading : Asks (Call.IsQuiet own) (fun _ => True)
        (liftM (content.readyStatus plan.volumeNames) : Attempt PassError ContentStatus) :=
      .lift (asks_readyStatus content plan.volumeNames trivial)
    refine .then (honours_quiet reserved tended reading) ?_
    rintro status read ⟨_, reads⟩
    have now := tended.rests reads
    refine .then (honours_quiet reserved now (.within (asks_syncStatus _ _ trivial))) ?_
    rintro later written ⟨_, writes⟩
    exact .pure (now.rests writes)
  -- The driver takes the volumes unless there is nothing to tell it.
  split
  · have telling : Asks (Call.IsQuiet own) (fun _ => True)
        (Attempt.tellingOn own .modifyVolumeGroupFailed (some false) <|
          .within PassError.driver
            (.of (.ask (.modifyMembership handle plan.volumeIds secrets)))) :=
      .tellingQuietly (.within (.only ⟨trivial, fun _ => trivial⟩))
    refine .then (honours_quiet reserved now telling) ?_
    exact fun _ told reached => furnishes told (now.rests reached.2)
  · exact furnishes remembered now

/-- A pass over a live group loses no handle. -/
theorem honours_syncTended {groupClass : GroupClass} {parameters : ClassParameters}
    {secrets : KeyMap String} (reserved : conditions.Reserved place)
    (tended : Tended place group scene) (marked : group.isMarked = true) :
    Honours conditions (Tends place) (Ends fun _ _ => True)
      (group.sync groupClass parameters secrets) scene := by
  -- Only the second stage makes or records handles, and it does so for a group that is tended.
  rw [Group.sync_eq]
  refine .then (honours_quiet reserved tended (asks_prepare group)) ?_
  rintro ⟨groups, plan⟩ prepared ⟨_, prepares⟩
  refine .then (honours_furnishTended reserved (tended.rests prepares) marked) ?_
  intro furnished done tended
  refine .then (honours_quiet reserved tended (asks_syncGroupStatus _ _ rfl)) ?_
  rintro later written ⟨_, writes⟩
  have tended := tended.rests writes
  refine .then (honours_quiet reserved tended (asks_releaseClaims _ _ fun _ => trivial)) ?_
  rintro _ released ⟨_, releases⟩
  have announcing := asks_announce furnished plan later
  exact (honours_quiet reserved (tended.rests releases) announcing.quietly).mono
    fun result _ _ => gives_any result

end Attempt

end VolumeGroups
