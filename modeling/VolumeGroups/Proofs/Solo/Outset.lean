import VolumeGroups.Proofs.Solo.Resuming

/-! A pass over a live group that no earlier pass prepared: once the group is marked, everything is done
as the plan says that is made then. -/

namespace VolumeGroups

namespace Store

/-- What a pass over a live group of a namespace needs besides calls that do not fail. -/
structure Suits (store : Store) (driver : String) (group : Group) (space : String) : Prop where
  -- Class and volumes are there.
  equips : store.Equips driver group
  backs : store.Backs space
  -- The group can be told from others, and its selector makes sense.
  sensible : group.IsSensible
  identified : group.metadata.uid.isSome
  -- Its content, if there is one, is its own and known to the driver.
  owns : store.OwnsContent group
  handle : ∀ content : Content, store.find? group.contentKey = some content →
    content.handle?.isSome

section Later

variable {driver space : String}

/-- Claims that are still bound as they were are bound to volumes that a driver serves. -/
theorem Backs.later {before after : Store} (backs : before.Backs space)
    (grounds : after.grounds = before.grounds)
    (origin : ∀ {key : String} {now : Claim}, after.find? key = some now →
      ∃ claim : Claim, before.find? key = some claim ∧ claim.Continues now) : after.Backs space := by
  intro key name claim found inSpace bound
  -- The claim was there before, bound to the same volume.
  obtain ⟨first, foundFirst, continues⟩ := origin found
  obtain ⟨volume, there, served⟩ := backs foundFirst (continues.namespace.symm.trans inSpace)
    (continues.volumeName?.symm.trans bound)
  obtain ⟨_, rest⟩ := Prod.mk.inj grounds
  refine ⟨volume, ?_, served⟩
  simpa only [get, find?, Stored.table, (Prod.mk.inj rest).1] using there

/-- A later form of a group has what a pass needs if its content is its own and has a handle. -/
theorem Suits.later {before after : Store} {group own : Group} (suits : before.Suits driver group space)
    (grounds : after.grounds = before.grounds)
    (origin : ∀ {key : String} {now : Claim}, after.find? key = some now →
      ∃ claim : Claim, before.find? key = some claim ∧ claim.Continues now)
    (continues : group.Continues own) (owns : after.OwnsContent own)
    (handle : ∀ content : Content, after.find? own.contentKey = some content →
      content.handle?.isSome) : after.Suits driver own space where
  equips := suits.equips.later grounds continues.className?
  backs := Backs.later suits.backs grounds origin
  -- The selector and the identity are those of the first form.
  sensible := by
    obtain ⟨tests, known⟩ := suits.sensible
    exact ⟨tests, (congrArg LabelSelector.tests continues.selector_eq).trans known⟩
  identified := by
    rw [continues.metadata]
    exact suits.identified
  owns := owns
  handle := handle

end Later

/-- A live group is marked, and nothing else differs. -/
structure Readies (store : Store) (group : Group) (after : Store) (own : Group) : Prop where
  beside : store.Beside (Resource.key group) group.contentKey after
  found : after.find? (Resource.key group) = some own
  continues : group.Continues own
  -- Only the mark is new.
  marked : own.isMarked = true
  spec : own.spec = group.spec
  status : own.status = group.status
  claims : after.claims = store.claims
  contents : after.contents = store.contents

namespace Readies

variable {store after : Store} {group own : Group}

/-- A group that is marked needs nothing. -/
theorem refl (tidy : store.Tidy) (found : store.find? (Resource.key group) = some group)
    (marked : group.isMarked = true) : store.Readies group store group :=
  ⟨.refl tidy, found, .refl group, marked, rfl, rfl, rfl, rfl⟩

/-- A group that is not marked gets its mark. -/
theorem of_overwrite (tidy : store.Tidy) (found : store.find? (Resource.key group) = some group)
    (live : group.isTerminating = false) {metadata : Metadata}
    (added : group.metadata.addFinalizer? groupFinalizer = some metadata) :
    store.Readies group (store.overwrite { group with metadata }).2
      (store.stamped { group with metadata }) := by
  -- One mark is added, and a live group is not removed by a write.
  obtain ⟨continues, _, marked⟩ := Metadata.addFinalizer?_eq_some added
  have place : Resource.key ({ group with metadata } : Group) = Resource.key group := continues.key
  have held : metadata.isForsaken = false := continues.held live
  obtain ⟨claims, rest⟩ := Prod.mk.inj (apart_of_groups.overwrite store { group with metadata })
  exact ⟨.of_group tidy found continues, place ▸ find?_overwrite_self held,
    ⟨continues.trans rfl, rfl, rfl⟩, marked, rfl, rfl, claims, (Prod.mk.inj rest).1⟩

variable (readies : store.Readies group after own)
include readies

/-- The group lies where it lay. -/
theorem key : Resource.key own = Resource.key group := readies.continues.metadata.key

/-- The group is found where it lies. -/
theorem found_own : after.find? (Resource.key own) = some own :=
  readies.key ▸ readies.found

/-- The group goes by the same name of a content. -/
theorem contentName : own.contentName = group.contentName := by
  rw [Group.contentName, Group.contentName, readies.spec, readies.continues.name]

/-- The group goes by the same content. -/
theorem contentKey : own.contentKey = group.contentKey := by
  rw [Group.contentKey, Group.contentKey, readies.contentName, readies.continues.namespace]

/-- The group lists what it listed. -/
theorem members : own.members = group.members := by
  rw [Group.members, Group.members, readies.status]

/-- Claims are as they were. -/
theorem claim (key : String) : after.find? key = (store.find? key : Option Claim) :=
  find?_of_claims readies.claims key

/-- Contents are as they were. -/
theorem content (key : String) : after.find? key = (store.find? key : Option Content) := by
  simp only [find?, Stored.table, readies.contents]

/-- What a pass needs is still there. -/
theorem suits {driver space : String} (suits : store.Suits driver group space) :
    after.Suits driver own space := by
  -- The content is the same, under the same name.
  refine suits.later readies.beside.grounds readies.beside.origin readies.continues ?_ ?_
  · intro content found
    rw [readies.contentKey, readies.content] at found
    obtain ⟨uid, known, owner⟩ := suits.owns content found
    refine ⟨uid, ?_, owner⟩
    rw [readies.continues.metadata]
    exact known
  · intro content found
    rw [readies.contentKey, readies.content] at found
    exact suits.handle content found

end Readies

end Store

/-- The marked form of a live group, with what a pass over it finds and plans. -/
def Venture.ofReadies {driver space : String} {store after : Store} {group own : Group}
    {groupClass : GroupClass} {parameters : ClassParameters} {secrets : KeyMap String}
    {plan : MembershipPlan} (readies : store.Readies group after own)
    (provides : store.Provides driver group groupClass parameters secrets)
    (live : group.isTerminating = false)
    (shelved : ∀ content : Content, store.find? group.contentKey = some content →
      content.IsShelved group.contentName)
    (intends : after.Intends own space plan) : Venture driver where
  -- The start is the store in which the group has its mark.
  start := after
  group := own
  space := space
  groupClass := groupClass
  parameters := parameters
  secrets := secrets
  plan := plan
  intends := intends
  -- What a pass over the group finds does not depend on its mark.
  provides := provides.later readies.beside.grounds readies.continues.className?
  live := readies.continues.isTerminating.trans live
  shelved content there := by
    rw [readies.contentKey, readies.content] at there
    exact readies.contentName ▸ shelved content there

/-- The driver gives every group that it makes a handle. -/
def Handles (log : List Exchange) : Prop :=
  ∀ created, Venture.Obtains log created → created.handle.isEmpty = false

variable {conditions : Conditions} (solo : conditions.Solo) {scene : Scene}
include solo

/-- A live group is marked, and nothing else is done, unless the call fails. -/
theorem Group.ensures_readies {group : Group} (tidy : scene.store.Tidy)
    (found : scene.store.find? (Resource.key group) = some group)
    (live : group.isTerminating = false) :
    Attempt.Ensures conditions
      (Attempt.EndsEither
        (fun own after => scene.store.Readies group after.store own ∧
          Extends Call.IsSilent scene.exchanges after.exchanges)
        (fun error _ => ¬ error.IsRefusal ∧ conditions.LetsCallsFail))
      (Attempt.within PassError.cluster group.protect) scene := by
  refine (Group.ensures_protect solo found).mono ?_
  rintro (error | own) after ended
  · -- The call failed.
    exact ⟨ended.1, ended.2.1⟩
  · obtain ⟨log, ⟨rfl, same, marked⟩ | ⟨metadata, added, rfl, wrote⟩⟩ := ended
    · -- The group had its mark.
      refine ⟨?_, log⟩
      rw [same]
      exact .refl tidy found marked
    · -- The group got its mark.
      refine ⟨?_, log⟩
      rw [wrote]
      exact .of_overwrite tidy found live added

/-- A pass over a live group fails, which takes a failing call if nothing else is wrong, or it marks the
group and brings everything in line with what it plans then. -/
theorem Group.ensures_outset {driver space : String} {group seen : Group}
    (tidy : scene.store.Tidy) (found : scene.store.find? (Resource.key group) = some group)
    (inSpace : group.metadata.namespace = some space) (live : group.isTerminating = false)
    (managed : scene.store.Manages driver group)
    (shelved : ∀ content : Content, scene.store.find? group.contentKey = some content →
      content.IsShelved group.contentName)
    (sights : group.Sights seen) :
    (seen.reconcile driver).Ensures conditions
      (fun result after =>
        (∃ error, result = .error error ∧ ¬ error.IsRefusal ∧
          (scene.store.Suits driver group space → Handles after.exchanges →
            conditions.LetsCallsFail)) ∨
        ∃ venture : Venture driver, venture.space = space ∧
          scene.store.Readies group venture.start venture.group ∧
          result = venture.plan.verdict ∧ ∃ own content handle time calls,
            venture.Concluded scene after own content handle time calls) scene := by
  have place : seen.place = Resource.key group := sights.place (tidy.groupNamed found)
  -- The pass reads the group first, which is there.
  refine Group.ensures_reconcile solo (sights.namespace.trans inSpace) ?_ ?_ ?_
  · intro after none
    rw [place, found] at none
    cases none
  · exact fun cause after letsFail _ _ => .inl ⟨_, rfl, id, fun _ _ => letsFail⟩
  -- Looks change nothing, so all that was known of the store stays known.
  intro stored first there same looks
  have log := looks.quiet
  rw [place, found] at there
  obtain rfl := Option.some.inj there
  rw [← same] at tidy found managed shelved ⊢
  -- Then the class, its parameters and the credentials.
  refine Group.ensures_advance solo found managed ?_ ?_
  · exact fun error after other letsFail _ _ =>
      .inl ⟨error, rfl, other, fun suits _ => letsFail suits.equips⟩
  intro groupClass parameters secrets second provides kept looks
  have log := log.trans looks.quiet
  rw [← kept] at tidy found shelved provides ⊢
  rw [if_neg (by simp [live])]
  -- Then the group is marked.
  refine .bind (Group.ensures_readies solo tidy found live) ?_ ?_
  · rintro error after ⟨other, letsFail⟩
    exact .inl ⟨error, rfl, other, fun _ _ => letsFail⟩
  rintro own third ⟨readies, quiet⟩
  have log := log.trans quiet
  have ownSpace := readies.continues.namespace.trans inSpace
  -- Then the plan is made.
  refine Group.ensures_sync solo readies.beside.tidy readies.found_own ownSpace ?_ ?_
  · -- A plan can be made of any namespace whose claims are bound to volumes of the driver.
    intro error after other letsFail _ _
    refine .inl ⟨error, rfl, other, fun suits _ => letsFail ?_⟩
    have ready := readies.suits suits
    obtain ⟨plan, planned⟩ : ∃ plan,
        third.store.learns (own.plan (third.store.list space)) = .ok plan :=
      Store.Backs.exists_plan ready.backs ownSpace ready.sensible
    exact ⟨plan, readies.beside.tidy, readies.found_own, ownSpace, planned⟩
  intro plan fourth intends keptFourth looks
  have log := log.trans looks.quiet
  -- From here on the pass carries out what is planned for the marked group.
  let venture := Venture.ofReadies readies provides live shelved intends
  have underway : venture.Underway fourth.store fourth.exchanges own := by
    rw [keptFourth]
    exact venture.underway_start _
  have marks : own.metadata.finalizers = venture.finalizers :=
    underway.finalizers_of_isMarked readies.marked
  -- Last the plan is carried out, as far as no call fails.
  refine (Attempt.ensures_enact solo _ underway marks (keptFourth.symm ▸ intends) (.refl plan)).mono ?_
  rintro result last (⟨rfl, later, content, handle, time, calls, concluded⟩ | ⟨error, rfl, fails⟩)
  · refine .inr ⟨venture, rfl, readies, rfl, later, content, handle, time, calls,
      concluded.inLine, ?_, concluded.proper, concluded.members⟩
    exact .after_quiet log concluded.goes
  · refine .inl ⟨error, rfl, fails.other, fun suits handles => fails.blames ?_⟩
    have ready := readies.suits suits
    exact ⟨ready.identified, ready.owns, ready.handle, handles⟩

end VolumeGroups
