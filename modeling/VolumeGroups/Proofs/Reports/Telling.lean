import VolumeGroups.Proofs.Membership.Placing
import VolumeGroups.Proofs.Reports.Opening
import VolumeGroups.Proofs.Reports.Supply
import VolumeGroups.Proofs.Solo.Enacting

/-! A pass over a live group where only the driver fails, from the plan to the state that is written. -/

namespace VolumeGroups

/-- A log goes on with the recording of a notice. -/
theorem GrowsByWarnings.notice (claim : Claim) (message : String) (log : List Exchange) :
    let event : Event :=
      ⟨Resource.reference claim, .warning, Reason.membershipRejected.name, message⟩
    GrowsByWarnings [] [event] [] log (⟨.record event, .ok ()⟩ :: log) := by
  have adds := GrowsByWarnings.cons ⟨.record ⟨Resource.reference claim, .warning,
    Reason.membershipRejected.name, message⟩, .ok ()⟩ log
  exact adds

section Telling

variable {driver : String} {scene : Scene}

/-- All refusals are told one after another. -/
theorem Attempt.ensures_refusals {ε : Type} (rejected : List (Claim × Rejection)) :
    Attempt.Ensures (.fickle driver)
      (EndsEither
        (fun _ after => after.store = scene.store ∧
          GrowsByWarnings [] (MembershipPlan.notices { rejected }).reverse [] scene.exchanges
          after.exchanges ∧ ∀ event ∈ MembershipPlan.notices { rejected },
            ⟨.record event, .ok ()⟩ ∈ after.exchanges)
        fun _ _ => False)
      (rejected.forM fun (claim, cause) =>
        (liftM (note (Resource.reference claim) .warning .membershipRejected cause.message) :
          Attempt ε Unit)) scene := by
  -- The induction goes along the refusals, the latest of which stands first in the log.
  induction rejected generalizing scene with
  | nil => exact .pure ⟨rfl, .refl _, nofun⟩
  | cons entry rest ih =>
    obtain ⟨claim, cause⟩ := entry
    -- The first refusal is recorded by one call, which succeeds.
    have noted : Attempt.Ensures (.fickle driver)
        (EndsEither
          (fun _ after => after.store = scene.store ∧ after.exchanges =
            ⟨.record ⟨Resource.reference claim, .warning, Reason.membershipRejected.name,
              cause.message⟩, .ok ()⟩ :: scene.exchanges)
          fun _ _ => False)
        (liftM (note (Resource.reference claim) .warning .membershipRejected cause.message) :
          Attempt ε Unit) scene := by
      refine Program.Honours.bind (Program.Honours.bind (Program.honours_served id) ?_)
        fun _ _ ended => ended
      rintro _ after ⟨⟨rfl, same⟩, log⟩
      exact ⟨same, log⟩
    refine .bind noted (fun _ _ => False.elim) ?_
    rintro _ middle ⟨same, log⟩
    -- The rest is recorded after it.
    refine ih.mono ?_
    rintro (error | value) after ended
    · exact ended
    · obtain ⟨kept, goes, recorded⟩ := ended
      refine ⟨kept.trans same, ?_, ?_⟩
      · have adds := (GrowsByWarnings.notice claim cause.message scene.exchanges).trans (log ▸ goes)
        simpa [MembershipPlan.notices] using adds
      · intro event known
        rcases List.mem_cons.mp known with rfl | known
        · exact goes.longer _ (log ▸ List.mem_cons_self ..)
        · exact recorded event known

/-- The marks of claims are changed one after another, as far as that works, and all else is left. -/
theorem Claim.ensures_marksAll (marking : Marking) (claims : List Claim) :
    Attempt.Ensures (.fickle driver)
      (Attempt.EndsEither (fun _ after => KeepsGroupsAndContents scene after)
        (fun error after => (∃ cause, error = .cluster cause) ∧ KeepsGroupsAndContents scene after))
      (claims.forM fun claim => Attempt.within PassError.cluster (claim.mark marking)) scene := by
  -- The induction goes along the claims, each of which is marked by one write at most.
  induction claims generalizing scene with
  | nil => exact .pure (.of_same rfl (.refl _))
  | cons claim rest ih =>
    -- A write of claims leaves groups and contents alone, whether it succeeds or not.
    have marks : Attempt.Ensures (.fickle driver)
        (Attempt.EndsEither (fun _ after => KeepsGroupsAndContents scene after)
          fun _ after => KeepsGroupsAndContents scene after) (claim.mark marking) scene := by
      unfold Claim.mark
      split
      · exact .pure (.of_same rfl (.refl _))
      · rename_i metadata marked
        have writes : Attempt.Ensures (.fickle driver)
            (fun _ after => KeepsGroupsAndContents scene after)
            (.of (.ask (.replaceClaim { claim with metadata }))) scene := by
          refine .of ((Program.honours_served id).mono ?_)
          rintro answer after ⟨serves, log⟩
          have wrote : after.store = (scene.store.replace { claim with metadata }).2 :=
            congrArg Prod.snd serves
          have apart := Store.apart_of_claims.replace scene.store { claim with metadata }
          rw [← wrote] at apart
          exact ⟨(Prod.mk.inj apart).1, (Prod.mk.inj (Prod.mk.inj apart).2).1, log ▸ .single trivial⟩
        exact .bind writes (fun _ _ => id) fun _ _ keptBoth => .pure keptBoth
    -- A claim that cannot be marked ends the loop.
    refine .bind marks.widened (fun _ _ => id) ?_
    rintro _ middle keptBoth
    refine ih.mono ?_
    rintro (error | value) after ended
    · exact ⟨ended.1, keptBoth.trans ended.2⟩
    · exact keptBoth.trans ended

variable {group own : Group} {start : Scene}

/-- A live group gets a plan, whose refusals are told and whose members are marked, or the pass fails as
it tells. -/
theorem Group.ensures_prepares (live : group.isTerminating = false)
    (midway : group.Midway own [] [] start scene) :
    own.prepare.Ensures (.fickle driver)
      (Attempt.EndsEither
        (fun prepared after => group.metadata.namespace.isSome ∧
          group.Midway own [] prepared.2.notices.reverse start after ∧
          Devised own prepared.2 after.exchanges ∧
          ∀ event ∈ prepared.2.notices, ⟨.record event, .ok ()⟩ ∈ after.exchanges)
        (fun error after => group.Account start (.error error) after)) scene := by
  have spaces := midway.continues.namespace
  unfold Group.prepare
  -- Without a namespace there are no groups to look at.
  rcases Option.eq_none_or_eq_some own.metadata.namespace with inSpace | ⟨space, inSpace⟩
  · rw [Group.namespace, inSpace]
    refine .throw (.silent midway ?_)
    rintro _ ⟨⟩ -
    trivial
  rw [Attempt.space_bind inSpace]
  -- The groups are listed by one call.
  have lists : Attempt.Ensures (.fickle driver)
      (Attempt.EndsEither
        (fun groups after => after.store = scene.store ∧
          after.exchanges = ⟨.listGroups space, .ok groups⟩ :: scene.exchanges)
        fun _ _ => False)
      (.of (.ask (.listGroups space)) : Attempt ClusterError (List Group)) scene := by
    refine .of ((Program.honours_served id).mono ?_)
    rintro answer after ⟨⟨rfl, same⟩, log⟩
    exact ⟨same, log⟩
  refine .bind lists.widely (fun _ _ => False.elim) ?_
  rintro groups first ⟨same, log⟩
  have quiet := midway.quietly (.of_same same (log ▸ .single trivial))
  -- The plan is made of what is read after the groups were listed.
  refine .bind ((Attempt.reads_plan (Conditions.fickle_solo driver) own groups).proclaiming
    quiet.found_own (quiet.held live) (by decide) none) ?_ ?_
  · rintro _ after ⟨⟨cause, rfl⟩, tellsForGood⟩
    exact .told quiet ⟨id, fun _ => id⟩ tellsForGood
  rintro plan second ⟨sameSecond, tacit, trace, logSecond, yields⟩
  have planned := quiet.quietly (.of_same sameSecond tacit)
  -- The calls of the plan are those that were made since the groups were listed.
  have devised : Devised own plan second.exchanges :=
    ⟨space, groups, trace, [], scene.exchanges, by rw [logSecond, log]; rfl, yields⟩
  -- What is refused is told next, and it is all that is told.
  refine .bind (Attempt.ensures_refusals plan.rejected) (fun _ _ => False.elim) ?_
  rintro _ third ⟨sameThird, told, recorded⟩
  have refused := planned.saying (congrArg Store.groups sameThird)
    (congrArg Store.contents sameThird) told
  rw [List.append_nil] at refused
  -- Protecting the members is one case of changing marks.
  have loop : (plan.members.forM fun member => Attempt.within PassError.cluster member.claim.protect) =
      (plan.members.map Member.claim).forM fun claim =>
        Attempt.within PassError.cluster (claim.mark .protecting) := by
    rw [List.forM_eq_forM, List.forM_eq_forM, List.forM_map]
    rfl
  rw [loop]
  refine .bind (Claim.ensures_marksAll .protecting _) ?_ ?_
  · rintro _ after ⟨⟨cause, rfl⟩, keptBoth⟩
    have retriable : (PassError.cluster cause).IsRetriable := rfl
    refine .silent (refused.quietly keptBoth) ?_
    rintro _ ⟨⟩
    exact retriable.isToldOrRetriable
  rintro _ last keptBoth
  refine .pure ⟨?_, refused.quietly keptBoth, ?_, fun event known =>
    keptBoth.tacit.mem (recorded event known)⟩
  · simp [← spaces, inSpace]
  exact (devised.later told.onward).later keptBoth.tacit

/-- Events tell what is new, and the pass ends as the plan says. -/
theorem Group.Furnished.ensures_announces (furnished : Group.Furnished) (plan : MembershipPlan)
    (later : Group) :
    (furnished.announce plan later).Ensures (.fickle driver)
      (fun result after => result = plan.verdict ∧ KeepsGroupsAndContents scene after) scene := by
  -- What is announced are successes, which are tacit.
  have tacit : (furnished.announce plan later).IsTacit :=
    (Attempt.recordsSuccess_announce furnished plan later).mono
      (fun _ success => success.isTacit) fun _ => id
  refine ((Attempt.ensures_announce (Conditions.undisturbed_solo driver) furnished plan
    later).tacitly tacit).mono ?_
  rintro result after ⟨⟨verdict, same, -⟩, mute⟩
  exact ⟨verdict, .of_same same mute⟩

/-- A live group that is stored gets a state. -/
theorem Group.ensures_states {status : GroupStatus} (live : own.isTerminating = false)
    (found : scene.store.find? (Resource.key own) = some own) :
    (own.syncStatus status).Ensures (.fickle driver)
      (Attempt.EndsEither
        (fun later after => after.store.find? (Resource.key own) = some later ∧ own.Continues later ∧
          later.spec = own.spec ∧ later.status = some status ∧
          after.store.contents = scene.store.contents ∧
          Extends Call.IsTacit scene.exchanges after.exchanges)
        fun _ _ => False) scene := by
  unfold Group.syncStatus
  -- A state that the group has already is not written again.
  split
  · rename_i same
    exact .pure ⟨found, .refl own, rfl, same, rfl, .refl _⟩
  · have writes := Attempt.Ensures.surely
      (Attempt.ensures_replaceGroupStatus (Conditions.undisturbed_solo driver) (some status) found)
      (fun _ _ failed => failed.1) (.only ⟨trivial, fun _ => trivial⟩)
    refine writes.widely.mono ?_
    rintro (error | later) after ended
    · exact ended
    · obtain ⟨⟨rfl, wrote, -⟩, tacit⟩ := ended
      -- The group is written, and contents are left alone.
      refine ⟨?_, ⟨rfl, rfl, rfl⟩, rfl, rfl, ?_, tacit⟩
      · rw [wrote]
        exact Store.find?_overwrite_self (held_of_live live)
      · rw [wrote]
        exact Store.contents_of_groups.overwrite scene.store _

/-- Once content and driver are in line with a plan, so is the state of the group, and the pass ends as
the plan says unless a claim cannot be released. -/
theorem Group.ensures_settles {furnished : Group.Furnished} {plan : MembershipPlan}
    (groups : List Group) (live : group.isTerminating = false)
    (settles : group.Settles furnished plan.notices.reverse start scene)
    (devised : ∃ held, group.Continues held ∧ Devised held plan scene.exchanges)
    (recorded : ∀ event ∈ plan.notices, ⟨.record event, .ok ()⟩ ∈ scene.exchanges) :
    Attempt.Ensures (.fickle driver) (fun result after => group.Account start result after)
      (do
        let later ← furnished.group.syncStatus (furnished.status plan)
        releaseClaims plan.departed (later.others groups)
        furnished.announce plan later) scene := by
  have place : Resource.key furnished.group = Resource.key group :=
    settles.continues.metadata.key
  have alive : furnished.group.isTerminating = false :=
    settles.continues.isTerminating.trans live
  -- The state is written first.
  refine .bind (ensures_states alive (place.symm ▸ settles.found)) (fun _ _ => False.elim) ?_
  rintro later middle ⟨found, continues, spec, stated, contents, tacit⟩
  -- From here on the group keeps its state.
  have settled {result : Except PassError Action} {last : Scene}
      (keptBoth : KeepsGroupsAndContents middle last)
      (verdict : result = plan.verdict ∨ ∃ cause, result = .error (.cluster cause)) :
      group.Account start result last := by
    have onward := tacit.trans keptBoth.tacit
    obtain ⟨held, same, made⟩ := devised
    refine .settled settles ?_ continues spec stated rfl rfl (keptBoth.contents.trans contents)
      (.of_tacit onward) ⟨held, same, made.later onward⟩
      (fun event known => onward.mem (recorded event known)) verdict
    rw [Store.find?_of_groups keptBoth.groups, ← place]
    exact found
  -- Then the claims that left the group are released.
  unfold releaseClaims
  simp only [← Marking.mark_releasing]
  refine .bind (Claim.ensures_marksAll (.releasing (later.others groups)) plan.departed) ?_ ?_
  · rintro _ last ⟨⟨cause, rfl⟩, keptBoth⟩
    exact settled keptBoth (.inr ⟨cause, rfl⟩)
  rintro _ third keptBoth
  -- At last it is announced what is new, and that ends the pass.
  refine (furnished.ensures_announces plan later).mono ?_
  rintro result last ⟨rfl, quiet⟩
  exact settled (keptBoth.trans quiet) (.inl rfl)

/-- A pass over a live group where only the driver fails gives an account of itself. -/
theorem Group.ensures_accounts (live : group.isTerminating = false)
    (found : start.store.find? (Resource.key group) = some group) :
    (group.advance driver).Ensures (.fickle driver)
      (fun result after => group.Account start result after) start := by
  -- The pass opens with reads, each of whose failures is told.
  refine group.ensures_opens found (held_of_live live) ?_ ?_ ?_
  · exact fun reason error after spoken tellsForGood => .told (.refl found) spoken tellsForGood
  · exact fun after same tacit => .silent ((Midway.refl found).quietly (.of_same same tacit)) nofun
  intro groupClass parameters secrets middle same tacit
  simp only [live, Bool.false_eq_true, if_false]
  refine .bind (ensures_marks live ((Midway.refl found).quietly (.of_same same tacit)))
    (fun _ _ => False.elim) ?_
  rintro own first ⟨marked, spec⟩
  -- From here on the stages are taken one by one.
  rw [Group.sync_eq]
  refine .bind (ensures_prepares live marked) (fun _ _ => id) ?_
  rintro ⟨groups, plan⟩ second ⟨spaced, prepared, devised, recorded⟩
  obtain ⟨space, inSpace⟩ := Option.isSome_iff_exists.mp spaced
  -- The plan and what was told of it stay in the log while content and driver are brought in line.
  refine .bind (Attempt.Honours.both
    (ensures_furnishes groupClass parameters secrets plan inSpace live spec prepared)
    (Attempt.honours_yields _ second)) (fun _ _ => And.left) ?_
  rintro furnished third ⟨settles, trace, log, -⟩
  have onward : Extends (fun _ => True) second.exchanges third.exchanges :=
    ⟨trace.reverse, log, fun _ _ => trivial⟩
  exact ensures_settles groups live settles ⟨own, prepared.continues, devised.later onward⟩
    fun event known => onward.mem (recorded event known)

end Telling

end VolumeGroups
