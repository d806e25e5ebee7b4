import VolumeGroups.Proofs.Recovery.Passes
import VolumeGroups.Proofs.Solo.Enacting

/-! A whole pass over a live group, which takes up wherever earlier passes left off. -/

namespace VolumeGroups

/-- A pass finds one class, one set of parameters and one set of credentials only. -/
theorem Store.Provides.unique {store : Store} {driver : String} {group : Group}
    {firstClass secondClass : GroupClass} {firstParameters secondParameters : ClassParameters}
    {firstSecrets secondSecrets : KeyMap String}
    (first : store.Provides driver group firstClass firstParameters firstSecrets)
    (second : store.Provides driver group secondClass secondParameters secondSecrets) :
    firstClass = secondClass ∧ firstParameters = secondParameters ∧
      firstSecrets = secondSecrets := by
  -- Both name the class and read what the store has under that name.
  obtain ⟨name, named, found⟩ := first.found
  obtain ⟨other, otherNamed, otherFound⟩ := second.found
  obtain rfl := Option.some.inj (named.symm.trans otherNamed)
  obtain rfl := Except.ok.inj (found.symm.trans otherFound)
  obtain rfl := Except.ok.inj (first.resolved.symm.trans second.resolved)
  have read := (Store.learns_credentials.mpr first.readable).symm.trans
    (Store.learns_credentials.mpr second.readable)
  exact ⟨rfl, rfl, Except.ok.inj read⟩

namespace Venture

variable {driver : String} {venture : Venture driver}

/-- The marks that the group is to have are its own mark and others. -/
theorem isMarked_of_finalizers (venture : Venture driver) {own : Group}
    (same : own.metadata.finalizers = venture.finalizers) : own.isMarked = true := by
  rw [Group.isMarked, Metadata.hasFinalizer, same, Venture.finalizers]
  cases added : venture.group.metadata.addFinalizer? groupFinalizer with
  | none => exact Metadata.addFinalizer?_eq_none added
  | some marked => exact (Metadata.addFinalizer?_eq_some added).2.2

namespace Underway

variable {now : Store} {log : List Exchange} {own : Group}
  (underway : venture.Underway now log own)
include underway

/-- A group that is marked has the marks that it is to have. -/
theorem finalizers_of_isMarked (marked : own.isMarked = true) :
    own.metadata.finalizers = venture.finalizers := by
  -- A group that had its mark gets no other.
  rcases underway.finalizers with same | same
  · have kept : venture.group.metadata.addFinalizer? groupFinalizer = none := by
      rw [Group.isMarked, Metadata.hasFinalizer, same] at marked
      exact if_pos marked
    rw [same, Venture.finalizers, kept]
    rfl
  · exact same

/-- A group that is not marked has the marks that it is to have once it is. -/
theorem finalizers_of_addFinalizer? {metadata : Metadata}
    (added : own.metadata.addFinalizer? groupFinalizer = some metadata) :
    metadata.finalizers = venture.finalizers := by
  -- The mark was not there before it was added.
  have unmarked : own.metadata.hasFinalizer groupFinalizer = false := by
    cases marked : own.metadata.hasFinalizer groupFinalizer with
    | false => rfl
    | true =>
      rw [Metadata.addFinalizer?, if_pos marked] at added
      cases added
  rcases underway.finalizers with same | same
  · have unmarkedFirst : venture.group.metadata.hasFinalizer groupFinalizer = false := by
      rw [Metadata.hasFinalizer, ← same]
      exact unmarked
    rw [Metadata.addFinalizer?, unmarked] at added
    rw [Venture.finalizers, Metadata.addFinalizer?, unmarkedFirst]
    simp only [Bool.false_eq_true, if_false, Option.some.injEq] at added
    rw [← added, same]
    rfl
  · -- With all marks that it is to have it would be marked.
    have held : own.isMarked = true := venture.isMarked_of_finalizers same
    rw [Group.isMarked, unmarked] at held
    cases held

end Underway

variable {conditions : Conditions} (solo : conditions.Solo) {scene : Scene}
include solo

/-- A live group is marked, unless the call fails, and may be on its way already. -/
theorem Underway.ensures_protect {own : Group}
    (underway : venture.Underway scene.store scene.exchanges own) :
    Attempt.Ensures conditions
      (Attempt.EndsEither
        (fun later after => venture.Underway after.store after.exchanges later ∧
          later.metadata.finalizers = venture.finalizers ∧
          Extends Call.IsSilent scene.exchanges after.exchanges)
        (venture.Fails conditions scene))
      (Attempt.within PassError.cluster own.protect) scene := by
  refine (Group.ensures_protect solo underway.found_own).mono ?_
  -- The write fails without effect, or the group is marked.
  rintro (error | later) after ended
  · obtain ⟨other, letsFail, same, log⟩ := ended
    exact .of_quiet other (fun _ => letsFail) underway same log
  · obtain ⟨log, ⟨rfl, same, marked⟩ | ⟨metadata, added, rfl, wrote⟩⟩ := ended
    · exact ⟨underway.of_quiet same log, underway.finalizers_of_isMarked marked, log⟩
    · have finalizers := underway.finalizers_of_addFinalizer? added
      have written : venture.Underway (scene.store.overwrite { own with metadata }).2
          scene.exchanges (scene.store.stamped { own with metadata }) :=
        underway.write (Metadata.addFinalizer?_eq_some added).1 (.inr finalizers) underway.spec
          underway.members
      exact ⟨written.of_quiet wrote log, finalizers, log⟩

/-- A pass over a group that is on its way ends as the plan says, with everything in line with it, unless
a call fails. -/
theorem Underway.ensures_reconcile {own seen : Group}
    (underway : venture.Underway scene.store scene.exchanges own)
    (bound : ∀ {key : String} {claim : Claim}, venture.start.find? key = some claim →
      venture.group.lists claim = true → venture.group.Wants claim →
        claim.volumeName?.isSome = true)
    (sights : venture.group.Sights seen) :
    (seen.reconcile driver).Ensures conditions (venture.Concludes conditions scene) scene := by
  -- The operator sees the group under the key where it lies.
  have place : seen.place = Resource.key venture.group :=
    sights.place (venture.intends.tidy.groupNamed venture.intends.found)
  have provides {store : Store} {later : Group} {log : List Exchange}
      (there : venture.Underway store log later) : store.Provides driver later venture.groupClass
        venture.parameters venture.secrets :=
    venture.provides.later there.beside.grounds there.continues.className?
  -- However far a pass gets, it leaves the group on its way.
  have cut {middle last : Scene} {later : Group} {error : PassError} (other : ¬ error.IsRefusal)
      (letsFail : conditions.LetsCallsFail)
      (there : venture.Underway middle.store middle.exchanges later)
      (before : Extends Call.IsSilent scene.exchanges middle.exchanges)
      (tells : later.Tells middle.store last.store)
      (after : Extends Call.IsSilent middle.exchanges last.exchanges) :
      venture.Concludes conditions scene (.error error) last := by
    obtain ⟨told, reached⟩ := there.tells tells
    have goes : GrowsByCalls [] [] middle.exchanges last.exchanges := .of_quiet after
    exact .inr ⟨error, rfl, (Fails.of_growsByCalls other (fun _ => letsFail)
      (reached.later goes.longer) goes).after (.of_quiet before) (by simp)⟩
  -- The pass reads the group first, which is there.
  refine Group.ensures_reconcile solo (sights.namespace.trans venture.intends.inSpace) ?_ ?_ ?_
  · intro after none
    rw [place, underway.found] at none
    cases none
  · intro cause after letsFail same log
    exact cut id letsFail underway (.refl _) (same ▸ .nothing) log.quiet
  intro found first there same looks
  have log := looks.quiet
  rw [place, underway.found] at there
  obtain rfl := Option.some.inj there
  have onWay := underway.of_quiet same log
  -- Then the class, its parameters and the credentials.
  refine Group.ensures_advance solo onWay.found_own (provides onWay).manages ?_ ?_
  · intro error after other letsFail tells quiet
    exact cut other (letsFail ⟨_, _, _, provides onWay⟩) onWay log tells quiet
  intro groupClass parameters secrets second given kept looks
  have quiet := looks.quiet
  obtain ⟨rfl, rfl, rfl⟩ := given.unique (provides onWay)
  have onWay := onWay.of_quiet kept quiet
  have log := log.trans quiet
  rw [if_neg (by simp [onWay.live])]
  -- Then the group is marked.
  refine .bind (onWay.ensures_protect solo) ?_ ?_
  · exact fun error after fails => .inr ⟨error, rfl, fails.after (.of_quiet log) (by simp)⟩
  rintro later third ⟨onWay, marks, quiet⟩
  have log := log.trans quiet
  obtain ⟨again, planned⟩ := onWay.exists_intends venture.intends bound
  -- Then the plan is made.
  refine Group.ensures_sync solo onWay.beside.tidy onWay.found_own onWay.inSpace ?_ ?_
  · intro error after other letsFail tells quiet
    exact cut other (letsFail ⟨again, planned⟩) onWay log tells quiet
  intro plan fourth intends kept looks
  have quiet := looks.quiet
  have onWay := onWay.of_quiet kept quiet
  -- The plan that is made now agrees with the one that was made at the start.
  have agrees := onWay.agrees venture.intends bound (kept.symm ▸ intends)
  refine (Attempt.ensures_enact solo _ onWay marks (kept.symm ▸ intends) agrees).mono ?_
  rintro result last (⟨rfl, own', content, handle, time, calls, concluded⟩ | ⟨error, rfl, fails⟩)
  · refine .inl ⟨rfl, own', content, handle, time, calls, concluded.inLine, ?_, concluded.proper,
      concluded.members⟩
    exact .after_quiet (log.trans quiet) concluded.goes
  · exact .inr ⟨error, rfl, fails.after (.of_quiet (log.trans quiet)) (by simp)⟩

end Venture

end VolumeGroups
