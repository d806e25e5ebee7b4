import VolumeGroups.Proofs.Operator.Live
import VolumeGroups.Proofs.Operator.Rehearsed
import VolumeGroups.Proofs.Recovery.Passes
import VolumeGroups.Proofs.Solo.Ending

/-! A terminating group whose passes are cut short is taken down all the same by the first pass that
is not. -/

namespace VolumeGroups

namespace Store

variable {group : Group} {start now : Store}

/-- A terminating group is being taken down: it is still there with its mark, and its content still
says which claims it has to release, or all that it listed are released. -/
structure Unwinding (group : Group) (start now : Store) : Prop where
  own : ∃ own, start.Finalizing group now own
  retains : start.Retains group.contentKey now
  released : now.find? group.contentKey = (none : Option Content) →
    start.Releases group (fun claim => group.lists claim = true) now

/-- A terminating group is taken down. -/
structure Unwound (group : Group) (start now : Store) : Prop extends start.Finalized group now where
  released : start.Releases group (fun claim => group.lists claim = true) now

/-- A claim that is unmarked or listed elsewhere at a later moment is so with respect to the start, as
long as the volumes tell that it is owed. -/
theorem Finalizing.releases {own : Group} {after : Store}
    (finalizing : start.Finalizing group now own)
    (retains : start.Retains group.contentKey now) {content : Content}
    (there : now.find? group.contentKey = some content)
    (bound : ∀ {key : String} {claim : Claim}, start.find? key = some claim →
      group.lists claim = true →
        ∃ volume ∈ start.volumeNamesOf group, claim.volumeName? = some volume)
    (origin : ∀ {key : String} {later : Claim}, after.find? key = some later →
      ∃ claim : Claim, now.find? key = some claim ∧ claim.Continues later)
    (releases : now.Releases own (fun claim => own.owes (now.volumeNamesOf own) claim = true)
      after) :
    start.Releases group (fun claim => group.lists claim = true) after := by
  -- A claim of the last store goes back to the start over the store in between.
  intro key claim later found inSpace listed foundLater held
  obtain ⟨middle, foundMiddle, _⟩ := origin foundLater
  obtain ⟨before, foundBefore, continues⟩ := finalizing.beside.origin foundMiddle
  obtain rfl := Option.some.inj (found.symm.trans foundBefore)
  obtain ⟨volume, known, volumeName⟩ := bound found listed
  -- The content still records the volumes, and the claim is still bound to its own.
  obtain ⟨first, foundFirst, inTeardown⟩ := retains there
  have volumes : now.volumeNamesOf own = start.volumeNamesOf group := by
    simp only [volumeNamesOf, finalizing.inTeardown.contentKey, there, foundFirst, Option.bind_some,
      inTeardown.status]
  have same : middle.metadata.namespace = claim.metadata.namespace ∧
      middle.metadata.name = claim.metadata.name := by
    rw [continues.metadata]
    exact ⟨rfl, rfl⟩
  -- So the claim is still owed in between.
  have owed : own.owes (now.volumeNamesOf own) middle = true := by
    have volumeMiddle : middle.volumeName? = some volume := by
      simpa only [Claim.volumeName?, continues.spec] using volumeName
    rw [volumes, Group.owes, volumeMiddle]
    simp [known]
  have space : middle.metadata.namespace = own.metadata.namespace :=
    same.1.trans (inSpace.trans finalizing.inTeardown.continues.namespace.symm)
  -- Whoever lists the claim then is not the group itself, and was there at the start.
  obtain ⟨place, other, apart, foundOther, lists⟩ :=
    releases foundMiddle space owed foundLater held
  have elsewhere : place ≠ Resource.key group :=
    fun here => apart (here.trans finalizing.inTeardown.continues.metadata.key.symm)
  refine ⟨place, other, elsewhere, (finalizing.beside.groups place elsewhere) ▸ foundOther, ?_⟩
  simpa only [Group.lists, same.1, same.2] using lists

/-- What a content still records at two moments it records over both. -/
theorem Retains.trans {room : String} {middle after : Store} (before : start.Retains room middle)
    (later : middle.Retains room after) : start.Retains room after := by
  intro content there
  obtain ⟨between, foundBetween, inTeardown⟩ := later there
  obtain ⟨first, foundFirst, faded⟩ := before foundBetween
  exact ⟨first, foundFirst, faded.trans inTeardown⟩

/-- A pass goes on from where an earlier one left the group. -/
theorem Finalizing.trans {own later : Group} {after : Store}
    (before : start.Finalizing group now own)
    (finalizing : now.Finalizing own after later) : start.Finalizing group after later := by
  -- Both steps are beside the same group and the same content.
  have place : Resource.key own = Resource.key group := before.inTeardown.continues.metadata.key
  obtain ⟨beside, marksNoClaim, found, inTeardown⟩ := finalizing
  rw [place, before.inTeardown.contentKey] at beside
  exact ⟨before.beside.trans beside, before.marksNoClaim.trans marksNoClaim, place ▸ found,
    before.inTeardown.trans inTeardown⟩

/-- A pass ends what an earlier one began. -/
theorem Finalizing.finalized {own : Group} {after : Store} (before : start.Finalizing group now own)
    (retains : start.Retains group.contentKey now) (finalized : now.Finalized own after) :
    start.Finalized group after := by
  -- The group keeps its key and the name of its content all the way.
  have place : Resource.key own = Resource.key group := before.inTeardown.continues.metadata.key
  obtain ⟨beside, marksNoClaim, left, gone, held, content, absent⟩ := finalized
  rw [place, before.inTeardown.finalizers] at gone held
  rw [place] at left
  rw [before.inTeardown.contentKey] at content absent
  rw [place, before.inTeardown.contentKey] at beside
  -- What holds of the group and of the content last is carried back to their first forms.
  refine ⟨before.beside.trans beside, before.marksNoClaim.trans marksNoClaim, ?_, gone, held, ?_,
    ?_⟩
  · intro last there
    obtain ⟨continues, unmarked, forgot, marks⟩ := left there
    rw [before.inTeardown.finalizers] at marks
    exact ⟨before.inTeardown.continues.trans continues, unmarked, forgot, marks⟩
  · intro recorded there
    -- A content that was gone in between stays gone, and one that was there recorded the same.
    cases middle : now.find? (α := Content) group.contentKey with
    | none => exact ⟨fun wrong => by simp [absent middle] at wrong, fun _ => absent middle⟩
    | some between =>
      obtain ⟨first, foundFirst, inTeardown⟩ := retains middle
      obtain rfl := Option.some.inj (there.symm.trans foundFirst)
      obtain ⟨left, gone⟩ := content middle
      exact ⟨fun last => ⟨inTeardown.trans (left last).1, (left last).2⟩,
        fun none => gone (inTeardown.others.trans none)⟩
  · -- The same goes for a content that was never there.
    intro none
    refine absent ?_
    cases middle : now.find? (α := Content) group.contentKey with
    | none => rfl
    | some between =>
      obtain ⟨first, foundFirst, _⟩ := retains middle
      simp [none] at foundFirst

/-- A failure that is told on a group that was taken down, but that something else holds, changes
nothing about that. -/
theorem Finalized.tells {own : Group} {after : Store} (finalized : start.Finalized group now)
    (found : now.find? (Resource.key group) = some own) (tells : own.Tells now after) :
    start.Finalized group after := by
  -- Telling nothing leaves the store, and telling a state writes the group in place.
  cases tells with
  | nothing => exact finalized
  | state message ready =>
    -- As the group is still there, it has lost its mark and its members.
    obtain ⟨continues, unmarked, forgot, marks⟩ := finalized.left found
    have place : Resource.key own = Resource.key group := continues.metadata.key
    -- The group would be gone if nothing held it.
    have others : (group.metadata.finalizers.getD []).filter (· != groupFinalizer) ≠ [] := by
      intro none
      simp [finalized.gone none] at found
    have some : own.metadata.finalizers.getD [] ≠ [] := by
      rw [marks]
      intro none
      refine others ?_
      cases given : group.metadata.finalizers with
      | none => rfl
      | some finalizers => simpa [given] using none
    -- A group that something holds stays under its key when it is written.
    have held : own.metadata.isForsaken = false := by
      simp [Metadata.isForsaken, some]
    have reading (key : String) := find?_overwrite now
      ({ own with status := Option.some (.failed own.status message ready) } : Group) key
    have rooms (key : String) := content_overwrite now
      ({ own with status := Option.some (.failed own.status message ready) } : Group) key
    have here : Resource.key ({ own with
        status := Option.some (.failed own.status message ready) } : Group) =
        Resource.key group := place
    rw [here] at reading
    have there := (reading (Resource.key group)).trans ((if_pos rfl).trans (if_neg
      (ne_true_of_eq_false held)))
    -- The group differs in its state only, so all that was said of it still holds.
    refine ⟨finalized.beside.trans (.of_group finalized.beside.tidy found rfl), ?_, ?_,
      fun none => absurd none others, fun _ => ⟨_, there⟩, ?_, ?_⟩
    · exact finalized.marksNoClaim.trans (.of_claims
        (Prod.mk.inj (apart_of_groups.overwrite now _)).1)
    · intro later foundLater
      obtain rfl := Option.some.inj (there.symm.trans foundLater)
      exact ⟨continues.trans ⟨rfl, rfl, rfl⟩, unmarked,
        (own.members_failed message ready).trans forgot, marks⟩
    · intro recorded before
      obtain ⟨left, gone⟩ := finalized.content before
      exact ⟨fun last => left ((rooms _).symm.trans last), fun none => (rooms _).trans (gone none)⟩
    · exact fun none => (rooms _).trans (finalized.absent none)

/-- A marked terminating group of the driver that a pass can take down: its content is absent or its
own, and each claim that it lists is bound to a volume that the content records. -/
structure MayEnd (store : Store) (driver : String) (group : Group) : Prop where
  -- The objects of the store lie where their names say.
  tidy : store.Tidy
  found : store.find? (Resource.key group) = some group
  inSpace : group.metadata.namespace.isSome
  -- Only a marked group has anything to be cleaned up.
  terminating : group.isTerminating = true
  marked : group.isMarked = true
  -- Its class and its content must not stop the pass.
  equips : store.Equips driver group
  owns : store.OwnsContent group
  -- Claims are released by the volumes that the content records.
  bound : ∀ {key : String} {claim : Claim}, store.find? key = some claim →
    group.lists claim = true →
      ∃ volume ∈ store.volumeNamesOf group, claim.volumeName? = some volume

namespace MayEnd

variable {driver : String} (ends : start.MayEnd driver group)
include ends

/-- Nothing is taken down yet. -/
theorem unwinding : start.Unwinding group start where
  own := ⟨group, .refl ends.tidy ends.found⟩
  retains there := ⟨_, there, .refl _⟩
  released none := by
    -- Without a content there are no volumes that a listed claim could be bound to.
    intro key claim later found _ listed
    obtain ⟨volume, known, _⟩ := ends.bound found listed
    simp [volumeNamesOf, none] at known

/-- A failure is told on a group that is being taken down. -/
theorem tells {own : Group} {after : Store} (unwinding : start.Unwinding group now)
    (found : now.find? (Resource.key group) = some own) (tells : own.Tells now after) :
    start.Unwinding group after := by
  -- Only the state of the group differs, so its content and the claims are as they were.
  obtain ⟨⟨current, finalizing⟩, retains, released⟩ := unwinding
  obtain rfl := Option.some.inj (finalizing.found.symm.trans found)
  have rooms (key : String) : after.find? key = (now.find? key : Option Content) := by
    simp only [find?, Stored.table, tells.contents]
  refine ⟨finalizing.tells (finalizing.inTeardown.isMarked.trans ends.marked) tells,
    ?_, fun none => ?_⟩
  · exact fun there => retains ((rooms _).symm.trans there)
  · exact Releases.lighter (released ((rooms _).symm.trans none)) (.of_claims tells.claims)

/-- The content of a group that is being taken down is its own. -/
theorem ownsContent {own : Group} (finalizing : start.Finalizing group now own)
    (retains : start.Retains group.contentKey now) : now.OwnsContent own := by
  -- The content recorded its owner at the start, and owners do not change.
  intro content there
  rw [finalizing.inTeardown.contentKey] at there
  obtain ⟨first, foundFirst, inTeardown⟩ := retains there
  obtain ⟨uid, known, owner⟩ := ends.owns first foundFirst
  refine ⟨uid, ?_, ?_⟩
  · rw [finalizing.inTeardown.metadata]
    exact known
  · rw [Content.ownerUid?, inTeardown.spec]
    exact owner

/-- A group that is being taken down is taken down unless a call fails, and then it still can be. -/
theorem ensures_finalize {conditions : Conditions} (solo : conditions.Solo) {own : Group}
    {scene : Scene} (finalizing : start.Finalizing group scene.store own)
    (retains : start.Retains group.contentKey scene.store)
    (released : scene.store.find? group.contentKey = (none : Option Content) →
      start.Releases group (fun claim => group.lists claim = true) scene.store)
    (secrets : KeyMap String) :
    (own.finalize secrets).Ensures conditions
      (fun result after =>
        (start.Unwinding group after.store ∨ start.Unwound group after.store) ∧
        (¬ conditions.LetsCallsFail → result = .ok .awaitChange ∧ start.Unwound group after.store))
      scene := by
  obtain ⟨space, inSpace⟩ := Option.isSome_iff_exists.mp ends.inSpace
  have continues := finalizing.inTeardown.continues
  have place : Resource.key own = Resource.key group := continues.metadata.key
  -- The pass is one over the form that the group has by now.
  refine (Attempt.ensures_finalize solo finalizing.beside.tidy (place.symm ▸ finalizing.found)
    (continues.isTerminating.trans ends.terminating)
    (finalizing.inTeardown.isMarked.trans ends.marked)
    (continues.namespace.trans inSpace) secrets).mono ?_
  -- What the volumes of the content tell is owed, and without a content nothing is owed any more.
  have releases {after : Store} (marksNoClaim : scene.store.MarksNoClaim after)
      (beside : scene.store.Beside (Resource.key own) own.contentKey after)
      (done : scene.store.Releases own (fun claim =>
        own.owes (scene.store.volumeNamesOf own) claim = true) after) :
      start.Releases group (fun claim => group.lists claim = true) after := by
    cases there : scene.store.find? (α := Content) group.contentKey with
    | none => exact Releases.lighter (released there) marksNoClaim
    | some content => exact finalizing.releases retains there ends.bound beside.origin done
  rintro (error | action) after ended
  · -- The pass failed somewhere on the way.
    obtain ⟨letsFail, ⟨later, further⟩, keeps, left⟩ := ended
    refine ⟨.inl ⟨⟨later, finalizing.trans further⟩, ?_, fun none => ?_⟩,
      fun never => absurd (letsFail (ends.ownsContent finalizing retains)) never⟩
    · exact retains.trans (finalizing.inTeardown.contentKey ▸ keeps)
    · -- The content was gone before, or it went after the claims were released.
      rcases left with same | done
      · rw [finalizing.inTeardown.contentKey] at same
        exact Releases.lighter (released (same.symm.trans none)) further.marksNoClaim
      · exact releases further.marksNoClaim further.beside done
  · -- The pass came to its end.
    obtain ⟨rfl, finalized, done⟩ := ended
    have unwound : start.Unwound group after.store :=
      ⟨finalizing.finalized retains finalized,
        releases finalized.marksNoClaim finalized.beside done⟩
    exact ⟨.inr unwound, fun _ => ⟨rfl, unwound⟩⟩

/-- A pass over a group that is being taken down, or that is, leaves it so, and takes it down if no call
fails. -/
theorem ensures {conditions : Conditions} (solo : conditions.Solo)
    (served : conditions.driver = driver) {seen : Group} (sights : group.Sights seen)
    {scene : Scene}
    (state : start.Unwinding group scene.store ∨ start.Unwound group scene.store) :
    (seen.reconcile conditions.driver).Ensures conditions
      (fun result after =>
        (start.Unwinding group after.store ∨ start.Unwound group after.store) ∧
        (¬ conditions.LetsCallsFail → result = .ok .awaitChange ∧ start.Unwound group after.store))
      scene := by
  obtain ⟨space, inSpace⟩ := Option.isSome_iff_exists.mp ends.inSpace
  have place : seen.place = Resource.key group := sights.place (ends.tidy.groupNamed ends.found)
  -- The pass reads the group first, and may find that it is gone or fail.
  refine Group.ensures_reconcile solo (sights.namespace.trans inSpace) ?_ ?_ ?_
  · -- A group that is gone is one that was taken down.
    intro after absent same _
    rw [place] at absent
    rcases state with unwinding | unwound
    · obtain ⟨own, finalizing⟩ := unwinding.own
      simp [finalizing.found] at absent
    · exact ⟨.inr (same ▸ unwound), fun _ => ⟨rfl, same ▸ unwound⟩⟩
  · -- A pass that cannot read the group leaves everything.
    intro cause after letsFail same _
    exact ⟨same ▸ state, fun never => absurd letsFail never⟩
  intro own middle found same _
  rw [place, ← same] at found
  rw [← same] at state
  -- Whatever passes did so far, the group and what it needs of its class are the same.
  have alike : group.Continues own ∧ middle.store.grounds = start.grounds := by
    rcases state with ⟨⟨current, finalizing⟩, _⟩ | unwound
    · obtain rfl := Option.some.inj (finalizing.found.symm.trans found)
      exact ⟨finalizing.inTeardown.continues, finalizing.beside.grounds⟩
    · exact ⟨(unwound.left found).1, unwound.beside.grounds⟩
  obtain ⟨continues, grounds⟩ := alike
  have ownPlace : Resource.key own = Resource.key group := continues.metadata.key
  have equips : middle.store.Equips conditions.driver own :=
    served ▸ ends.equips.later grounds continues.className?
  obtain ⟨_, _, _, provides⟩ := id equips
  -- Then the class is checked, where the pass may stop with a failure that is told.
  refine Group.ensures_advance solo (ownPlace.symm ▸ found) provides.manages ?_ ?_
  · intro error after _ letsFail tells _
    refine ⟨?_, fun never => absurd (letsFail equips) never⟩
    rcases state with unwinding | unwound
    · exact .inl (ends.tells unwinding found tells)
    · exact .inr ⟨unwound.toFinalized.tells found tells,
        Releases.lighter unwound.released (.of_claims tells.claims)⟩
  -- What is left is the way of a terminating group.
  intro _ _ secrets last _ kept _
  rw [if_pos (continues.isTerminating.trans ends.terminating)]
  rw [← kept] at state found grounds
  rcases state with ⟨⟨current, finalizing⟩, retains, released⟩ | unwound
  · obtain rfl := Option.some.inj (finalizing.found.symm.trans found)
    exact ends.ensures_finalize solo finalizing retains released secrets
  · -- There is nothing left to do for a group that is only held by somebody else.
    obtain ⟨_, unmarked, _⟩ := unwound.left found
    rw [Group.finalize_eq, if_neg (by simp [unmarked])]
    exact .pure ⟨.inr unwound, fun _ => ⟨rfl, unwound⟩⟩

end MayEnd

end Store

/-- However many passes over a marked terminating group were cut short by calls that failed, the first
pass that is not takes the group down: it succeeds, the marks are gone from the group and its content,
which go with them if nothing else holds them, and from every claim that the group listed at first,
unless another group of the namespace lists the claim. -/
theorem unwound_after_interruptions {driver : String} {group seen : Group}
    {start interrupted final : Scene} {result : Except PassError Action}
    (ends : start.store.MayEnd driver group)
    (passes : Relation.ReflTransGen ((Conditions.flaky driver).Passes group) start interrupted)
    (sights : group.Sights seen)
    (plays : (seen.reconcile driver).run.Plays (.steady driver) result final interrupted) :
    result = .ok .awaitChange ∧
      (∀ own : Group, final.store.find? (Resource.key group) = some own → own.isMarked = false) ∧
      ((group.metadata.finalizers.getD []).filter (· != groupFinalizer) = [] →
        final.store.find? (Resource.key group) = (none : Option Group)) ∧
      (∀ content : Content, final.store.find? group.contentKey = some content →
        content.metadata.hasFinalizer contentFinalizer = false) ∧
      (∀ content : Content, start.store.find? group.contentKey = some content →
        (content.metadata.finalizers.getD []).filter (· != contentFinalizer) = [] →
          final.store.find? group.contentKey = (none : Option Content)) ∧
      ∀ (key : String) (claim later : Claim), start.store.find? key = some claim →
        group.lists claim = true → final.store.find? key = some later → later.isMarked = true →
          ∃ place, ∃ other : Group, place ≠ Resource.key group ∧
            final.store.find? place = some other ∧ other.lists later = true := by
  -- Every interrupted pass leaves a store from which the group can still be taken down.
  have state : start.store.Unwinding group interrupted.store ∨
      start.store.Unwound group interrupted.store := by
    clear plays
    induction passes with
    | refl => exact .inl ends.unwinding
    | tail _ pass ih =>
      obtain ⟨other, ended, sighted, played⟩ := pass
      exact (played.goal (ends.ensures (Conditions.flaky_solo driver) rfl sighted ih)).1
  -- The last pass has no failing call, so it ends what the others began.
  obtain ⟨_, done⟩ :=
    plays.goal (ends.ensures (Conditions.steady_solo driver) rfl sights state)
  obtain ⟨rfl, unwound⟩ := done (Conditions.steady_not_letsCallsFail driver)
  refine ⟨rfl, fun own there => (unwound.left there).2.1, unwound.gone, ?_,
    fun content there => (unwound.content there).gone, ?_⟩
  · -- A content that is still there is held by somebody else, without the mark.
    intro content there
    cases before : start.store.find? (α := Content) group.contentKey with
    | none => simp [unwound.absent before] at there
    | some first => exact ((unwound.content before).left there).2
  · -- A claim that still has the mark is listed by another group.
    intro key claim later found listed foundLater held
    have inSpace := (Group.lists_iff.mp listed).1
    obtain ⟨place, other, apart, foundOther, lists⟩ :=
      unwound.released found inSpace listed foundLater held
    obtain ⟨before, foundBefore, continues⟩ := unwound.beside.origin foundLater
    obtain rfl := Option.some.inj (found.symm.trans foundBefore)
    refine ⟨place, other, apart, (unwound.beside.groups place apart).trans foundOther, ?_⟩
    have same : later.metadata.namespace = claim.metadata.namespace ∧
        later.metadata.name = claim.metadata.name := by
      rw [continues.metadata]
      exact ⟨rfl, rfl⟩
    simpa only [Group.lists, same.1, same.2] using lists

namespace Sample

/-- The cluster after a pass over its group, which has the claim, and after the group's deletion. -/
def retired : Store :=
  (UserAction.deleteGroup "group" "space").on
    (Rehearsal.pass { store := stocked } "driver" group).store

/-- The group that is being deleted. -/
def leaving : Group := (retired.find? "space/group").getD group

/-- The cluster refuses once to take the mark off the content. -/
def refusedRelease : Disturbance Edit where
  method := .replaceContent
  fault := some (.conflict)

/-- A pass over the group that is being deleted, in which the content keeps its mark. -/
def halfway : Rehearsal :=
  Rehearsal.pass { store := retired, disturbances := [refusedRelease] } "driver" group

/-- The group that is being deleted can be taken down. -/
theorem mayEnd_retired : retired.MayEnd "driver" leaving where
  tidy := .of_entries (by decide +kernel) (by decide +kernel) (by decide +kernel)
  found := by decide +kernel
  inSpace := by decide +kernel
  terminating := by decide +kernel
  marked := by decide +kernel
  equips := Sample.equips (by decide +kernel) (by decide +kernel)
  owns := by
    -- The content of the group records the identity of the group.
    have own : ∀ content ∈ (retired.find? leaving.contentKey : Option Content),
        leaving.metadata.uid.isSome ∧ content.ownerUid? = leaving.metadata.uid := by
      decide +kernel
    intro content found
    obtain ⟨identified, same⟩ := own content found
    obtain ⟨uid, known⟩ := Option.isSome_iff_exists.mp identified
    exact ⟨uid, known, same.trans known⟩
  bound := by
    -- Every claim that the group lists is bound to a volume that the content records.
    have bound : ∀ entry ∈ retired.claims.entries, leaving.lists entry.2 = true →
        ∃ volume ∈ retired.volumeNamesOf leaving, entry.2.volumeName? = some volume := by
      decide +kernel
    intro key claim found
    exact bound _ (Table.mem_of_get? found)

/-- The refusal is an honest failure. -/
theorem fits_refusedRelease : Rehearsal.Fits (.flaky "driver") [refusedRelease] := by
  -- There is one disturbance in the list.
  intro disturbance known
  obtain rfl := List.mem_singleton.mp known
  refine ⟨rfl, ?_⟩
  -- The refusal tells the truth about the call that it answers.
  rintro fault ⟨⟩ request answer failed
  refine Call.failsHonestly_of_failWith? failed fun kind name cause told => ?_
  cases told
  exact ⟨rfl, rfl⟩

end Sample

/-- A group whose content could not be released at first is gone after the next pass, its claim is
unmarked and its content removed. -/
theorem unwound_after_refusal : ∃ interrupted final : Scene,
    (Conditions.flaky "driver").Passes Sample.leaving ⟨Sample.retired, []⟩ interrupted ∧
      (∃ content : Content, interrupted.store.find? Sample.leaving.contentKey = some content ∧
        content.metadata.hasFinalizer contentFinalizer = true) ∧
      (Sample.group.reconcile "driver").run.Plays (.steady "driver") (.ok .awaitChange) final
        interrupted ∧
      final.store.find? (Resource.key Sample.leaving) = (none : Option Group) ∧
      final.store.find? Sample.leaving.contentKey = (none : Option Content) := by
  have sights : Sample.leaving.Sights Sample.group := by
    constructor <;> decide +kernel
  -- In the first pass the store refuses to take the mark off the content.
  obtain ⟨log, first, told⟩ := Rehearsal.plays_pass (.flaky "driver")
    { store := Sample.retired, disturbances := [Sample.refusedRelease] } Sample.group
    [] Sample.fits_refusedRelease rfl
  -- After that nothing disturbs any more.
  have healed : Sample.halfway.disturbances = [] := by decide +kernel
  obtain ⟨full, last, _⟩ := Rehearsal.plays_pass (.steady "driver") Sample.halfway Sample.group
    log (healed ▸ .nil _) told
  have pass : (Conditions.flaky "driver").Passes Sample.leaving ⟨Sample.retired, []⟩
      ⟨Sample.halfway.store, log⟩ := ⟨_, _, sights, first⟩
  obtain ⟨succeeds, _, gone, _, removed, _⟩ :=
    unwound_after_interruptions Sample.mayEnd_retired (.single pass) sights last
  -- Nothing but the mark held the content, so it is removed with it.
  obtain ⟨content, found, others⟩ :
      ∃ content ∈ (Sample.retired.find? Sample.leaving.contentKey : Option Content),
        (content.metadata.finalizers.getD []).filter (· != contentFinalizer) = [] := by
    decide +kernel
  refine ⟨_, _, pass, ?_, succeeds ▸ last, gone (by decide +kernel),
    removed content found others⟩
  have kept : ∃ content ∈ (Sample.halfway.store.find? Sample.leaving.contentKey : Option Content),
      content.metadata.hasFinalizer contentFinalizer = true := by
    decide +kernel
  exact kept

end VolumeGroups
