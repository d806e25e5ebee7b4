import VolumeGroups.Proofs.Reports.Account

/-! How a pass over a stored group begins where only the driver fails: what is wrong with the group's
class or with the credentials is told on the group. -/

namespace VolumeGroups

section Opening

variable {driver : String} {group : Group} {scene : Scene}
  (found : scene.store.find? (Resource.key group) = some group)
  (held : group.metadata.isForsaken = false)
include found held

/-- The class of a group is read, or it is told why not. -/
theorem Group.ensures_resolvesClass :
    (group.resolveClass.tellingOn group .classResolutionFailed none).Ensures (.fickle driver)
      (Attempt.EndsEither
        (fun _ after => after.store = scene.store ∧
          Extends Call.IsTacit scene.exchanges after.exchanges)
        (fun error after => error.IsTold ∧
          group.TellsForGood .classResolutionFailed none error.statusMessage
            scene after)) scene := by
  unfold Group.resolveClass
  split
  · -- A group that names no class fails before any call.
    have fails : Attempt.Ensures (.fickle driver)
        (Attempt.EndsEither (fun (_ : GroupClass) _ => False)
          (fun error after => error = PassError.missingClassName group.name ∧ after = scene))
        (throw (.missingClassName group.name)) scene := .throw ⟨rfl, rfl⟩
    refine Attempt.Honours.mono (fails.proclaiming ?_ held (by decide)) ?_
    · rintro _ _ ⟨-, rfl⟩
      exact found
    · rintro (error | value) last
      · rintro ⟨_, ⟨rfl, rfl⟩, tellsForGood⟩
        exact ⟨⟨id, fun _ => id⟩, tellsForGood⟩
      · exact False.elim
  · rename_i name named
    have reads := Attempt.reads_look (Conditions.fickle_solo driver) (.getClass name) trivial id
      fun _ => rfl
    refine Attempt.Honours.mono (reads.proclaiming found held (by decide) none) ?_
    rintro (error | groupClass) last
    · -- The class could not be read.
      rintro ⟨⟨cause, rfl⟩, tellsForGood⟩
      refine ⟨?_, tellsForGood⟩
      split <;> exact ⟨id, fun _ => id⟩
    · rintro ⟨same, tacit, -⟩
      exact ⟨same, tacit⟩

/-- A pass over a stored group reads what it needs and goes on, or it tells what keeps it from that, or
the group is none of its business. -/
theorem Group.ensures_opens {goal : Except PassError Action → Scene → Prop}
    (told : ∀ reason error after, error.IsTold →
      group.TellsForGood reason none error.statusMessage scene after → goal (.error error) after)
    (foreign : ∀ after, after.store = scene.store →
      Extends Call.IsTacit scene.exchanges after.exchanges → goal (.ok .awaitChange) after)
    (goes : ∀ groupClass parameters secrets middle, middle.store = scene.store →
      Extends Call.IsTacit scene.exchanges middle.exchanges →
      Attempt.Ensures (.fickle driver) goal
        (if group.isTerminating then group.finalize secrets
        else do
          let group ← Attempt.within .cluster group.protect
          group.sync groupClass parameters secrets) middle) :
    (group.advance driver).Ensures (.fickle driver) goal scene := by
  -- The class is read, then its parameters, then the credentials, and each failure is told on the group.
  unfold Group.advance
  refine .bind (group.ensures_resolvesClass found held) ?_ ?_
  · -- Without a class nothing else is read.
    exact fun error after ended => told _ error after ended.1 ended.2
  rintro groupClass first ⟨same, tacit⟩
  split
  · -- The class is another driver's.
    exact .pure (foreign first same tacit)
  -- The parameters are not read from anywhere: they are known or they are wrong.
  have known : Attempt.Reads (.fickle driver) (fun _ => True)
      (.known (ClassParameters.resolve groupClass.spec.parameters)) := .known _
  refine .bind (known.proclaiming (same ▸ found) held (by decide) none) ?_ ?_
  · rintro _ after ⟨⟨cause, rfl⟩, tellsForGood⟩
    exact told _ _ after ⟨id, fun _ => id⟩ (tellsForGood.after (congrArg Store.contents same) tacit)
  rintro parameters second ⟨sameSecond, tacitSecond, -⟩
  -- The store is still the one that the pass began with.
  replace same := sameSecond.trans same
  replace tacit := tacit.trans tacitSecond
  refine .bind ((Attempt.reads_credentials (Conditions.fickle_solo driver)
    parameters.secret).proclaiming (same ▸ found) held (by decide) none) ?_ ?_
  · rintro _ after ⟨⟨cause, rfl⟩, tellsForGood⟩
    exact told _ _ after ⟨id, fun _ => id⟩ (tellsForGood.after (congrArg Store.contents same) tacit)
  rintro secrets third ⟨sameThird, tacitThird, -⟩
  exact goes groupClass parameters secrets third (sameThird.trans same) (tacit.trans tacitThird)

end Opening

end VolumeGroups
