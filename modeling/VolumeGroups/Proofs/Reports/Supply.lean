import VolumeGroups.Proofs.Handles.Making
import VolumeGroups.Proofs.Reports.Account

/-! The middle of a pass over a live group where only the driver fails: its content is found or made, the
driver gets the members, and the content tells so. -/

namespace VolumeGroups

/-- A later form of a group that names the same content looks for it in the same place. -/
theorem Group.Continues.contentKey {group own : Group} (continues : group.Continues own)
    (names : own.contentName = group.contentName) : own.contentKey = group.contentKey := by
  rw [Group.contentKey, Group.contentKey, names, continues.namespace]

/-- A group that asks for the same names the same content. -/
theorem Group.Continues.contentName {group own : Group} (continues : group.Continues own)
    (spec : own.spec = group.spec) : own.contentName = group.contentName := by
  rw [Group.contentName, Group.contentName, spec, continues.name]

/-- A new content lies where its group looks for it. -/
theorem Content.Suits.liesFor {content : Content} {group : Group} (suits : content.Suits group) :
    content.LiesFor group where
  named := suits.name
  held := by simp [Metadata.isForsaken, suits.live]
  key := suits.key

/-- A group that is in a namespace gets a content without any state. -/
theorem Group.exists_newContent {group : Group} {space : String}
    (inSpace : group.metadata.namespace = some space) (className driver : String)
    (created : CreatedGroup) (secret : SecretLocation) :
    ∃ content, group.newContent className driver created secret = .ok content ∧
      content.status = none := by
  rw [Group.newContent, Group.namespace, inSpace]
  exact ⟨_, rfl, rfl⟩

section Supply

variable {driver : String} {group own : Group} {start scene : Scene} {told : List Event}
  {calls : List Exchange}

/-- A call of the driver is carried out, or its failure is told for good. -/
theorem Attempt.ensures_drives {α : Type} (found : scene.store.find? (Resource.key own) = some own)
    (held : own.metadata.isForsaken = false) (request : Call)
    (view : request.Answer → Except DriverError α)
    (firm : ∀ answer, (Exchange.mk request answer).drops? = none)
    (serves : ∀ (store after : Store) answer, store.Serves request answer after →
      after = store ∧ ∃ value, view answer = .ok value)
    {reason : Reason} (other : reason ≠ .membershipRejected) :
    Attempt.Ensures (.fickle driver)
      (EndsEither
        (fun value after => after.store = scene.store ∧ ∃ answer, view answer = .ok value ∧
          after.exchanges = ⟨request, answer⟩ :: scene.exchanges)
        (fun error after => ∃ answer cause, view answer = .error cause ∧ error = .driver cause ∧
          own.TellsForGood reason (some false) error.statusMessage
            ⟨scene.store, ⟨request, answer⟩ :: scene.exchanges⟩ after))
      (Attempt.tellingOn own reason (some false) <| .within PassError.driver <|
        of ((Program.ask request).bind fun answer => .done (view answer))) scene := by
  -- First comes the call by itself, and the answer decides how it ends.
  have asked : Ensures (.fickle driver)
      (EndsEither
        (fun value after => after.store = scene.store ∧ ∃ answer, view answer = .ok value ∧
          after.exchanges = ⟨request, answer⟩ :: scene.exchanges)
        (fun error after => ∃ answer cause, view answer = .error cause ∧ error = .driver cause ∧
          after = ⟨scene.store, ⟨request, answer⟩ :: scene.exchanges⟩))
      (.within PassError.driver <| of ((Program.ask request).bind fun answer => .done (view answer)))
      scene := by
    refine (ensures_ask (Conditions.fickle_solo driver) request view firm serves).mono ?_
    rintro result after ⟨same, answer, log, gave, -⟩
    cases given : view answer with
    | ok value =>
      rw [given] at gave
      exact gave ▸ ⟨same, answer, given, log⟩
    | error cause =>
      rw [given] at gave
      exact gave ▸ ⟨answer, cause, given, rfl, by rw [← same, ← log]⟩
  -- Then its failure is told, while the group is still as it was.
  refine Honours.mono (asked.proclaiming ?_ held other) ?_
  · rintro error after ⟨answer, cause, given, rfl, rfl⟩
    exact found
  · rintro (error | value) last
    · rintro ⟨after, ⟨answer, cause, given, rfl, rfl⟩, tellsForGood⟩
      exact ⟨answer, cause, given, rfl, tellsForGood⟩
    · exact id

/-- What the driver gave for a group without a content is recorded in a new content. -/
theorem Group.Midway.ensures_records {space : String} {before : Scene} {given : CreatedGroup}
    {exchange : Exchange} (groupClass : GroupClass) (parameters : ClassParameters)
    (midway : group.Midway own [] told start before) (inSpace : own.metadata.namespace = some space)
    (names : own.contentName = group.contentName)
    (absent : before.store.find? group.contentKey = (none : Option Content))
    (kept : scene.store = before.store)
    (log : GrowsByWarnings [exchange] [] [] before.exchanges scene.exchanges)
    (worked : exchange.failure? = none) :
    Attempt.Ensures (.fickle driver)
      (Attempt.EndsEither
        (fun obtained after => ∃ calls, group.Midway own calls told start after ∧
          after.store.find? group.contentKey = some obtained.1 ∧
          (obtained.2 = true → calls ≠ []))
        (fun error after => group.Account start (.error error) after))
      (do
        let content ← Attempt.within .object <| .known <|
          own.newContent (Resource.displayName groupClass) groupClass.spec.driver given
            parameters.secret
        let content ← Attempt.within .content content.create
        return (content, true)) scene := by
  have place : own.contentKey = group.contentKey := midway.continues.contentKey names
  -- A group in a namespace has a content that is made for it.
  obtain ⟨content, fresh, blank⟩ := Group.exists_newContent inSpace
    (Resource.displayName groupClass) groupClass.spec.driver given parameters.secret
  have suits := Group.newContent_eq_ok fresh
  have lies : content.LiesFor group := by
    refine ⟨⟨names ▸ suits.name, suits.liesFor.held⟩, place ▸ suits.key⟩
  rw [fresh, Attempt.known_ok_bind]
  -- Nothing lies under the key of the new content.
  have free : scene.store.find? (Resource.key content) = (none : Option Content) := by
    rw [kept, lies.key]
    exact absent
  have creates := Attempt.Ensures.surely
    (Attempt.ensures_createContent (Conditions.undisturbed_solo driver) free)
    (fun _ _ failed => failed.1) (Attempt.eventless_createContent content)
  refine .bind creates.widely (fun _ _ => False.elim) ?_
  rintro stored last ⟨⟨rfl, wrote, -⟩, mute⟩
  -- Nor did anything lie there when the pass began.
  have missing : start.store.find? group.contentKey = (none : Option Content) := by
    rcases midway.stocks with ⟨contents, -⟩ | ⟨missing, -⟩
    · exact (congrArg (Table.get? · _) contents).symm.trans absent
    · exact missing
  obtain ⟨found, made⟩ := midway.creates missing lies blank (kept ▸ wrote) (log.tacitly mute) worked
  exact .pure ⟨_, made, kept ▸ found, fun _ => List.cons_ne_nil _ _⟩

/-- The content of a group is found, or it is made together with the group at the driver, or the pass
fails as it tells. -/
theorem Group.ensures_obtainsContent {space : String} (groupClass : GroupClass)
    (parameters : ClassParameters) (secrets : KeyMap String)
    (inSpace : group.metadata.namespace = some space) (live : group.isTerminating = false)
    (spec : own.spec = group.spec) (midway : group.Midway own [] told start scene) :
    (own.obtainContent groupClass parameters secrets).Ensures (.fickle driver)
      (Attempt.EndsEither
        (fun obtained after => ∃ calls, group.Midway own calls told start after ∧
          after.store.find? group.contentKey = some obtained.1 ∧
          (obtained.2 = true → calls ≠ []))
        (fun error after => group.Account start (.error error) after)) scene := by
  have there : own.metadata.namespace = some space := midway.continues.namespace.trans inSpace
  have names : own.contentName = group.contentName := midway.continues.contentName spec
  have place : own.contentKey = group.contentKey := midway.continues.contentKey names
  unfold Group.obtainContent
  -- First the content is looked up, which says nothing.
  refine Attempt.Honours.bind ((Attempt.reads_lookupContent (Conditions.fickle_solo driver)
    own).tacitly .content) ?_ ?_
  · rintro _ after ⟨⟨cause, rfl⟩, same, tacit⟩
    refine .silent (midway.quietly (.of_same same tacit)) ?_
    rintro _ ⟨⟩ configured
    -- Of the failures of a look-up, only that of a content of somebody else is one of configuration.
    cases cause with
    | foreign => rfl
    | cluster | object => cases configured
  rintro found middle ⟨learnt, same, tacit⟩
  obtain ⟨rfl, -⟩ := (Store.learns_lookupContent there).mp learnt
  have quiet := midway.quietly (.of_same same tacit)
  rw [place]
  -- The content is there, or the driver makes a group for a new one.
  cases present : scene.store.find? (α := Content) group.contentKey with
  | some content =>
    refine .pure ⟨[], quiet, ?_, nofun⟩
    rw [same]
    exact present
  | none =>
    -- A group has a name at the driver exactly if it has an identity.
    cases named : own.driverName with
    | error cause =>
      rw [Attempt.known_error_bind]
      refine .throw (.silent quiet ?_)
      rintro _ ⟨⟩ -
      trivial
    | ok name =>
      rw [Attempt.known_ok_bind]
      -- The driver is asked by a step of its own.
      refine .bind (Attempt.ensures_drives quiet.found_own (quiet.held live)
        (.createDriverGroup name secrets parameters.driver) id (fun _ => rfl)
        (fun _ _ _ served => ⟨served.2, served.1⟩) (by decide)) ?_ ?_
      · rintro _ after ⟨answer, cause, wrong, rfl, tellsForGood⟩
        obtain rfl : answer = .error cause := wrong
        exact .refused quiet rfl rfl tellsForGood
      rintro given third ⟨kept, answer, gave, log⟩
      obtain rfl : answer = .ok given := gave
      -- No content has come in between.
      have missing : middle.store.find? group.contentKey = (none : Option Content) := by
        rw [same]
        exact present
      exact quiet.ensures_records groupClass parameters there names missing kept
        (log ▸ GrowsByWarnings.cons
          ⟨.createDriverGroup name secrets parameters.driver, .ok given⟩ _) rfl

/-- A live group is written as it is but for its marks and the content that it names. -/
theorem Group.Midway.ensures_rewrite {later : Group} (live : group.isTerminating = false)
    (midway : group.Midway own calls told start scene) (continues : own.Continues later)
    (version : Resource.version own = Resource.version later) (status : later.status = own.status)
    (names : group.ContentInPlace start.store → later.contentName = group.contentName) :
    Attempt.Ensures (.fickle driver)
      (Attempt.EndsEither
        (fun stored after => group.Midway stored calls told start after ∧ stored.spec = later.spec ∧
          after.store.contents = scene.store.contents)
        fun _ _ => False)
      (Attempt.within PassError.cluster (.of (.ask (.replaceGroup later)))) scene := by
  have place : Resource.key later = Resource.key own := continues.metadata.key
  -- The write succeeds where only the driver fails.
  have writes := Attempt.Ensures.surely
    (Attempt.ensures_replaceGroup (Conditions.undisturbed_solo driver)
      (place.symm ▸ midway.found_own) version status)
    (fun _ _ failed => failed.1) (.only ⟨trivial, fun _ => trivial⟩)
  refine writes.widely.mono ?_
  rintro (error | stored) after ended
  · exact ended
  · obtain ⟨⟨rfl, wrote, -⟩, tacit⟩ := ended
    refine ⟨midway.rewrite live continues status names wrote tacit, rfl, ?_⟩
    rw [wrote]
    exact Store.contents_of_groups.overwrite scene.store later

/-- A live group names its content. -/
theorem Group.ensures_remembersContent {contentName : String} (live : group.isTerminating = false)
    (midway : group.Midway own calls told start scene)
    (names : group.ContentInPlace start.store → contentName = group.contentName) :
    (own.rememberContent contentName).Ensures (.fickle driver)
      (Attempt.EndsEither
        (fun later after => group.Midway later calls told start after ∧
          after.store.contents = scene.store.contents)
        fun _ _ => False) scene := by
  unfold Group.rememberContent
  split
  · -- The group names it already.
    rename_i known
    refine .pure ⟨{ midway with names := fun contentInPlace => ?_ }, rfl⟩
    rw [← names contentInPlace, Group.contentName, known]
    rfl
  · have continues : own.Continues { own with spec := { own.spec with source :=
        { own.spec.source with contentName := some contentName } } } := ⟨rfl, rfl, rfl⟩
    refine Attempt.Honours.mono (midway.ensures_rewrite live continues rfl rfl names) ?_
    rintro (error | later) after ended
    · exact ended
    · exact ⟨ended.1, ended.2.2⟩

/-- A live group is marked. -/
theorem Group.ensures_marks (live : group.isTerminating = false)
    (midway : group.Midway group [] [] start scene) :
    (Attempt.within PassError.cluster group.protect).Ensures (.fickle driver)
      (Attempt.EndsEither
        (fun own after => group.Midway own [] [] start after ∧ own.spec = group.spec)
        fun _ _ => False) scene := by
  unfold Group.protect
  split
  · -- The group has the mark.
    exact .within (.pure ⟨midway, rfl⟩)
  · rename_i metadata added
    obtain ⟨same, version, -⟩ := Metadata.addFinalizer?_eq_some added
    -- The marked group is the same but for its mark.
    have continues : group.Continues { group with metadata } := ⟨same, rfl, rfl⟩
    refine Attempt.Honours.mono (midway.ensures_rewrite live continues version.symm rfl fun _ =>
      continues.contentName rfl) ?_
    rintro (error | own) after ended
    · exact ended
    · exact ⟨ended.1, ended.2.1⟩

/-- The state of a content is written, which succeeds if the content lies under its own key. -/
theorem Content.ensures_states (content : Content) (volumeNames : List String) :
    Attempt.Ensures (.fickle driver)
      (Attempt.EndsEither
        (fun stored after => after.store.groups = scene.store.groups ∧
          Extends Call.IsTacit scene.exchanges after.exchanges ∧
          (scene.store.find? (Resource.key content) = some content →
            content.metadata.isForsaken = false →
            after.store.find? (Resource.key content) = some stored ∧
              stored.status.bind ContentStatus.ready = some true ∧
              stored.metadata = { content.metadata with
                resourceVersion := stored.metadata.resourceVersion }))
        (fun error _ => error.IsRetriable ∧
          scene.store.find? (Resource.key content) ≠ some content))
      (do
        let contentStatus ← (liftM (content.readyStatus volumeNames) :
          Attempt PassError ContentStatus)
        Attempt.within PassError.content (content.syncStatus contentStatus)) scene := by
  -- The clock is read, and the state may be the same as before.
  refine .bind (Attempt.Ensures.surely
    (Attempt.ensures_readyStatus (Conditions.undisturbed_solo driver) content volumeNames)
    (fun _ _ => False.elim) (.lift (Attempt.eventless_readyStatus content volumeNames)))
    (fun _ _ => False.elim) ?_
  rintro _ middle ⟨⟨⟨time, rfl, -⟩, same, -⟩, tacit⟩
  unfold Content.syncStatus
  split
  · -- The content has that state already.
    rename_i kept
    refine .within (.pure ⟨congrArg Store.groups same, tacit, fun found _ => ⟨?_, ?_, rfl⟩⟩)
    · rw [same]
      exact found
    · rw [kept]
      rfl
  · refine .within (.within (.of ((Program.honours_served id).mono ?_)))
    rintro answer after ⟨serves, log⟩
    have groups : after.store.groups = scene.store.groups := by
      have wrote : after.store = (middle.store.replaceStatus { content with
          status := some ⟨some time, some true, volumeNames⟩ }).2 := congrArg Prod.snd serves
      rw [wrote, Store.groups_of_contents.replaceStatus, same]
    have mute := tacit.trans (log ▸ .single trivial :
      Extends Call.IsTacit middle.exchanges after.exchanges)
    -- A content that is still as it was read is overwritten, and that is what is answered.
    have exactly (found : scene.store.find? (Resource.key content) = some content) :
        answer = .ok (middle.store.stamped { content with
            status := some ⟨some time, some true, volumeNames⟩ }) ∧
          after.store = (middle.store.overwrite { content with
            status := some ⟨some time, some true, volumeNames⟩ }).2 := by
      rw [← same] at found
      have done := serves.trans (Store.replaceStatus_eq found rfl)
      exact ⟨(congrArg Prod.fst done).trans (Store.overwrite_fst _ _), congrArg Prod.snd done⟩
    cases answer with
    -- Only a content that is no more as it was read is not overwritten.
    | error cause => exact ⟨rfl, fun found => nomatch (exactly found).1⟩
    | ok stored =>
      refine ⟨groups, mute, fun found held => ?_⟩
      obtain ⟨gave, wrote⟩ := exactly found
      obtain rfl := Except.ok.inj gave
      exact ⟨wrote ▸ Store.find?_overwrite_self held, rfl, rfl⟩

/-- Once the driver has the members, whichever calls that took, the content tells that the group is
ready. -/
theorem Group.Midway.ensures_readies {later : Group} {content : Content} {before : Scene}
    {exchange : Exchange} {earlier : List Exchange} (midway : group.Midway later calls told start before)
    (found : before.store.find? group.contentKey = some content)
    (same : scene.store = before.store)
    (log : GrowsByWarnings (exchange :: earlier) told [] start.exchanges scene.exchanges)
    (worked : exchange.failure? = none) (volumeNames : List String) (contentName handle : String)
    (created : Bool) :
    Attempt.Ensures (.fickle driver)
      (Attempt.EndsEither
        (fun furnished after => group.Settles furnished told start after)
        (fun error after => group.Account start (.error error) after))
      (do
        let contentStatus ← content.readyStatus volumeNames
        let stored ← Attempt.within .content (content.syncStatus contentStatus)
        return { group := later, content := stored, contentName, handle, created }) scene := by
  -- The state is made and written as one step.
  rw [← bind_assoc]
  refine .bind (content.ensures_states volumeNames) ?_ ?_
  · rintro error after ⟨retriable, misplaced⟩
    -- The write fails only if the content lies under another key than its own.
    refine .astray (fun contentInPlace => misplaced ?_) retriable
    rw [(midway.liesFor contentInPlace found).key, same]
    exact found
  rintro stored after ⟨groups, tacit, states⟩
  refine .pure ⟨?_, midway.continues, midway.names, fun contentInPlace => ?_, exchange, earlier,
    log.tacitly tacit, worked⟩
  · -- The group is where it was, as only contents were written.
    rw [Store.find?_of_groups groups, same]
    exact midway.found
  · -- The content keeps its name and its hold, and now it is ready.
    have lies := midway.liesFor contentInPlace found
    have place := lies.key
    have there : scene.store.find? (Resource.key content) = some content := by
      rw [place, same]
      exact found
    obtain ⟨written, ready, metadata⟩ := states there lies.held
    have shelved : stored.IsShelved group.contentName := by
      constructor
      · rw [metadata]
        exact lies.named
      · rw [metadata]
        exact lies.held
    exact ⟨place ▸ written, ready, shelved, (congrArg Metadata.key metadata).trans place⟩

/-- Content and driver are brought in line with a plan, or the pass fails as it tells. -/
theorem Group.ensures_furnishes {space : String} (groupClass : GroupClass)
    (parameters : ClassParameters) (secrets : KeyMap String) (plan : MembershipPlan)
    (inSpace : group.metadata.namespace = some space) (live : group.isTerminating = false)
    (spec : own.spec = group.spec) (midway : group.Midway own [] told start scene) :
    (own.furnish groupClass parameters secrets plan).Ensures (.fickle driver)
      (Attempt.EndsEither
        (fun furnished after => group.Settles furnished told start after)
        (fun error after => group.Account start (.error error) after)) scene := by
  unfold Group.furnish
  -- First a content is obtained.
  refine .bind (ensures_obtainsContent groupClass parameters secrets inSpace live spec midway)
    (fun _ _ => id) ?_
  rintro ⟨content, created⟩ first ⟨calls, obtained, found, made⟩
  dsimp only
  -- A content without a handle cannot be told to the driver.
  cases handled : content.handle? with
  | none =>
    refine .throw (.silent obtained ?_)
    rintro _ ⟨⟩ -
    trivial
  | some handle =>
    have names (contentInPlace : group.ContentInPlace start.store) :
        Resource.displayName content = group.contentName :=
      Metadata.displayName_of_name (obtained.liesFor contentInPlace found).named
    -- Then the group is made to name it.
    refine .bind (ensures_remembersContent live obtained names) (fun _ _ => False.elim) ?_
    rintro later second ⟨remembered, contents⟩
    replace found : second.store.find? group.contentKey = some content :=
      (congrArg (Table.get? · _) contents).trans found
    split
    · -- The driver is told of the members.
      refine .bind (Attempt.ensures_drives remembered.found_own (remembered.held live)
        (.modifyMembership handle plan.volumeIds secrets) id (fun _ => rfl)
        (fun _ _ _ served => ⟨served.2, (), served.1⟩) (by decide)) ?_ ?_
      · rintro _ after ⟨answer, cause, wrong, rfl, tellsForGood⟩
        obtain rfl : answer = .error cause := wrong
        exact .refused remembered rfl rfl tellsForGood
      rintro _ third ⟨same, answer, gave, log⟩
      obtain rfl : answer = .ok () := gave
      have adds := remembered.log.trans (GrowsByWarnings.cons
        ⟨.modifyMembership handle plan.volumeIds secrets, .ok ()⟩ second.exchanges)
      exact remembered.ensures_readies found same (log ▸ adds) rfl plan.volumeNames _ handle created
    · rename_i idle
      -- A group that was just made and gets no members has none.
      simp only [Bool.or_eq_true, Bool.not_eq_true', not_or, Bool.not_eq_false] at idle
      rcases remembered.stocks with ⟨-, none⟩ | ⟨-, -, exchange, -, -, -, rfl, worked⟩
      · -- The content was made by a call, and there was none.
        exact absurd none (made idle.1)
      · exact remembered.ensures_readies found rfl remembered.log worked plan.volumeNames _ handle created

end Supply

end VolumeGroups
