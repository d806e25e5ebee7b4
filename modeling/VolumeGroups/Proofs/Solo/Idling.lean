import VolumeGroups.Proofs.Solo.Resuming

/-! A pass over a group that is in line with its plan: each of its writes finds that nothing is to be
written, so it only looks, tells of refusals and hands the members to the driver again. -/

namespace VolumeGroups

/-- Marked claims are not marked again. -/
theorem protectMembers_eq_pure {members : List Member}
    (marked : ∀ member ∈ members, member.claim.isMarked = true) :
    (members.forM fun member => Attempt.within PassError.cluster member.claim.protect) =
      (pure () : Attempt PassError Unit) := by
  -- The induction goes along the members.
  induction members with
  | nil => rfl
  | cons member rest ih =>
    -- A marked claim is left as it is.
    have kept : member.claim.metadata.addFinalizer? claimFinalizer = none :=
      if_pos (marked member (List.mem_cons_self ..))
    have still : Attempt.within PassError.cluster member.claim.protect = pure () := by
      rw [Claim.protect, kept]
      rfl
    rw [List.forM_eq_forM] at ih ⊢
    rw [List.forM_cons, still, pure_bind]
    exact ih fun other known => marked other (List.mem_cons_of_mem _ known)

/-- Where nothing is new, nothing is told. -/
theorem Group.Furnished.announce_eq_known (furnished : Group.Furnished) {plan : MembershipPlan}
    (old : furnished.created = false) (same : furnished.group.members = plan.claimNames)
    (later : Group) : furnished.announce plan later = .known plan.verdict := by
  -- The content is not new and the members are the same, so both events fall away.
  simp only [announce, old, same, ne_eq, not_true_eq_false, Bool.false_eq_true, if_false,
    MembershipPlan.verdict]
  cases plan.rejectionMessage with
  | none => rfl
  | some message => rfl

namespace Attempt

variable {conditions : Conditions} (solo : conditions.Solo) {scene : Scene}
include solo

/-- A call of the driver is carried out if no call fails. -/
theorem ensures_driveSurely {α : Type} (never : ¬ conditions.LetsCallsFail) (request : Call)
    (view : request.Answer → Except DriverError α)
    (firm : ∀ answer, (Exchange.mk request answer).drops? = none) (more : ¬ request.IsLook)
    (serves : ∀ (store after : Store) answer, store.Serves request answer after →
      after = store ∧ ∃ value, view answer = .ok value)
    {group : Group} {reason : Reason} (other : reason ≠ .membershipRejected) :
    Ensures conditions
      (EndsEither
        (fun _ after => after.store = scene.store ∧
          GrowsByDoings [request] scene.exchanges after.exchanges) fun _ _ => False)
      (Attempt.tellingOn group reason (some false) <| .within PassError.driver <|
        of ((Program.ask request).bind fun answer => .done (view answer))) scene := by
  -- A failure would be a failing call, of which there is none.
  have asked : Ensures conditions
      (EndsEither
        (fun _ after => after.store = scene.store ∧
          GrowsByDoings [request] scene.exchanges after.exchanges) fun _ _ => False)
      (.within PassError.driver (of ((Program.ask request).bind fun answer => .done (view answer))))
      scene := by
    refine (ensures_ask solo request view firm serves).mono ?_
    rintro result after ⟨same, answer, log, told, letsFail⟩
    -- The driver answers with an error only where a call fails.
    cases given : view answer with
    | ok value =>
      rw [told, given]
      exact ⟨same, log ▸ .single more _⟩
    | error cause => exact absurd (letsFail cause given) never
  exact .telling solo asked other (fun _ _ => id) (fun _ _ wrong => wrong.elim)
    fun _ _ _ wrong => wrong.elim

end Attempt

namespace Venture.InLine

variable {driver : String} {venture : Venture driver} {now : Store} {log : List Exchange}
  {own : Group} {content : Content} {handle : String} {time : Time}
  (inLine : venture.InLine now log own content handle time)
include inLine

/-- The group is marked. -/
theorem isMarked : own.isMarked = true := venture.isMarked_of_finalizers inLine.marks

/-- The group lists the members of the plan. -/
theorem members_eq : own.members = venture.plan.claimNames := by
  rw [Group.members, inLine.state]
  rfl

/-- The content belongs to the group. -/
theorem ownsContent : now.OwnsContent own := by
  -- The content under the key is the one that was brought in line.
  intro other found
  rw [inLine.contentKey, inLine.there] at found
  obtain rfl := Option.some.inj found
  obtain ⟨uid, known, owner⟩ := inLine.owned
  refine ⟨uid, ?_, owner⟩
  rw [inLine.continues.metadata]
  exact known

/-- The group is not marked again. -/
theorem protect_eq : own.protect = pure own := by
  have kept : own.metadata.addFinalizer? groupFinalizer = none := if_pos inLine.isMarked
  rw [Group.protect, kept]

/-- The content is not named again. -/
theorem rememberContent_eq : own.rememberContent venture.group.contentName = pure own := by
  have named : own.spec.source.contentName = some venture.group.contentName := by
    rw [inLine.source]
    rfl
  rw [Group.rememberContent, if_pos named]

/-- The members of a plan that agrees are marked. -/
theorem marked_of_mem {plan : MembershipPlan} (intends : now.Intends own venture.space plan)
    (agrees : venture.plan.Agrees plan) {member : Member} (known : member ∈ plan.members) :
    member.claim.isMarked = true := by
  -- The member is stored, under the name that the group lists.
  have stands := intends.mem_members.mp known
  have found := intends.found_of_stands stands
  refine inLine.marked _ _ found (Group.lists_iff.mpr ⟨?_, Resource.displayName member.claim, ?_, ?_⟩)
  · exact stands.1.2.trans intends.inSpace.symm
  · rw [inLine.members_eq, ← agrees.claimNames]
    exact List.mem_map_of_mem known
  · exact (intends.tidy.claim_name found rfl).symm

/-- The state that the content is to have is the one that it has. -/
theorem readyStatus_eq {plan : MembershipPlan} (agrees : venture.plan.Agrees plan) :
    content.readyStatus plan.volumeNames =
      pure ⟨some time, some true, venture.plan.volumeNames⟩ := by
  rw [Content.readyStatus, Content.creationTime, inLine.record, agrees.volumeNames]
  rfl

/-- The state of the content is not written again. -/
theorem syncContent_eq :
    content.syncStatus ⟨some time, some true, venture.plan.volumeNames⟩ = pure content := by
  rw [Content.syncStatus, if_pos inLine.record]

end Venture.InLine

namespace Attempt

variable {driver : String} {venture : Venture driver} {conditions : Conditions}
  (solo : conditions.Solo) {scene : Scene} {own : Group} {content : Content} {handle : String}
  {time : Time} (inLine : venture.InLine scene.store scene.exchanges own content handle time)
  (never : ¬ conditions.LetsCallsFail)
include solo inLine never

/-- The content of a group in line with its plan is found, and only the driver is called. -/
theorem ensures_furnishAgain {plan : MembershipPlan} (agrees : venture.plan.Agrees plan) :
    Ensures conditions
      (EndsEither
        (fun furnished after => furnished = ⟨own, content, venture.group.contentName, handle, false⟩ ∧
          after.store = scene.store ∧
          GrowsByDoings [.modifyMembership handle venture.plan.volumeIds venture.secrets]
            scene.exchanges after.exchanges)
        fun _ _ => False)
      (own.furnish venture.groupClass venture.parameters venture.secrets plan) scene := by
  -- The lookup finds the content that is there.
  have looked : Ensures conditions
      (EndsEither
        (fun found after => found = some content ∧ after.store = scene.store ∧
          GrowsByDoings [] scene.exchanges after.exchanges)
        fun _ _ => False)
      (.within PassError.content own.lookupContent) scene := by
    refine .within (((reads_lookupContent solo own).endsEither scene).mono ?_)
    have owned := (Store.learns_lookupContent inLine.inSpace).mpr ⟨rfl, inLine.ownsContent⟩
    rw [inLine.contentKey, inLine.there] at owned
    rintro (cause | found) after ⟨told, same, log⟩
    · -- No call fails, and the content is the group's own.
      rcases told with wrong | letsFail
      · rw [owned] at wrong
        cases wrong
      · exact never letsFail
    · exact ⟨(Except.ok.inj (owned.symm.trans told)).symm, same, .of_looks log⟩
  have contentName : Resource.displayName content = venture.group.contentName :=
    Metadata.displayName_of_name (inLine.isShelved inLine.there).named
  -- The content is there, so the driver is not asked to make a group.
  unfold Group.furnish Group.obtainContent
  rw [bind_assoc]
  refine .bind looked (fun _ _ wrong => wrong.elim) ?_
  rintro _ first ⟨rfl, same, does⟩
  simp only [pure_bind, contentName, inLine.handled, inLine.rememberContent_eq, Bool.not_false,
    Bool.true_or, if_true]
  -- The state of the content is the one that it is to have.
  have unwritten : (do
      let contentStatus ← (liftM (content.readyStatus plan.volumeNames) :
        Attempt PassError ContentStatus)
      let content ← Attempt.within PassError.content (content.syncStatus contentStatus)
      return (⟨own, content, venture.group.contentName, handle, false⟩ : Group.Furnished)) =
        (pure ⟨own, content, venture.group.contentName, handle, false⟩ :
          Attempt PassError Group.Furnished) := by
    rw [inLine.readyStatus_eq agrees]
    change (Attempt.within PassError.content (content.syncStatus _) >>= _) = _
    rw [inLine.syncContent_eq]
    rfl
  rw [unwritten]
  -- The driver is told of the members again.
  refine .bind (ensures_driveSurely solo never
    (.modifyMembership handle plan.volumeIds venture.secrets) id (fun _ => rfl) id
    (fun _ _ _ served => ⟨served.2, (), served.1⟩) (by decide)) (fun _ _ wrong => wrong.elim) ?_
  rintro _ second ⟨kept, doing⟩
  rw [agrees.volumeIds] at doing
  exact .pure ⟨rfl, kept.trans same, does.trans doing⟩

/-- A group in line with its plan that plans for the same again tells of the same refusals, and only the
driver is called besides. -/
theorem ensures_enactAgain {plan : MembershipPlan} (groups : List Group)
    (intends : scene.store.Intends own venture.space plan) (agrees : venture.plan.Agrees plan)
    (nothing : plan.departed = []) :
    Ensures conditions
      (fun result after => result = venture.plan.verdict ∧ after.store = scene.store ∧
        GrowsByDoings (.modifyMembership handle venture.plan.volumeIds venture.secrets ::
          venture.plan.notices.reverse.map .record) scene.exchanges after.exchanges)
      (own.enact groups plan venture.groupClass venture.parameters venture.secrets) scene := by
  -- The members are marked already, so that step falls away.
  unfold Group.enact
  rw [protectMembers_eq_pure fun member known => inLine.marked_of_mem intends agrees known]
  refine .bind (ensures_notices solo plan.rejected) (fun _ _ wrong => wrong.elim) ?_
  rintro _ first ⟨same, goes, does⟩
  have notices : MembershipPlan.notices { rejected := plan.rejected } = venture.plan.notices :=
    agrees.notices
  rw [notices] at does
  -- Telling of refusals leaves everything in line.
  have there : venture.InLine first.store first.exchanges own content handle time := by
    rw [same]
    exact { inLine with toUnderway := inLine.later goes.longer }
  rw [pure_bind]
  refine .bind (ensures_furnishAgain solo there never agrees) (fun _ _ wrong => wrong.elim) ?_
  rintro _ second ⟨rfl, kept, doing⟩
  -- The state that would be written is the one that is there.
  have stated : own.status = some (Group.Furnished.status
      ⟨own, content, venture.group.contentName, handle, false⟩ plan) := by
    rw [inLine.state, Group.Furnished.status, Venture.status, inLine.record, agrees.claimNames,
      agrees.rejectionMessage]
    rfl
  have recorded : own.members = plan.claimNames := inLine.members_eq.trans agrees.claimNames.symm
  -- The state is the one that is written already, and no claim departs.
  have released : releaseClaims plan.departed (own.others groups) = pure () := by
    rw [nothing]
    rfl
  simp only [Group.syncStatus, if_pos stated, pure_bind, released,
    Group.Furnished.announce_eq_known ⟨own, content, venture.group.contentName, handle, false⟩ rfl
      recorded]
  exact .known ⟨agrees.verdict, kept.trans same, does.trans doing⟩

/-- A pass over a group in line with its plan writes nothing and makes one call of the driver, which
hands it the same members. -/
theorem ensures_reconcileAgain {seen : Group} (recorded : venture.group.Sights seen)
    (bound : ∀ {key : String} {claim : Claim}, venture.start.find? key = some claim →
      venture.group.lists claim = true → venture.group.Wants claim →
        claim.volumeName?.isSome = true) :
    (seen.reconcile driver).Ensures conditions
      (fun result after => result = venture.plan.verdict ∧ after.store = scene.store ∧
        GrowsByDoings (.modifyMembership handle venture.plan.volumeIds venture.secrets ::
          venture.plan.notices.reverse.map .record) scene.exchanges after.exchanges) scene := by
  -- The group and what it needs of its class are as they were.
  have place : seen.place = Resource.key venture.group :=
    recorded.place (venture.intends.tidy.groupNamed venture.intends.found)
  have provides : scene.store.Provides driver own venture.groupClass venture.parameters
      venture.secrets :=
    venture.provides.later inLine.beside.grounds inLine.continues.className?
  -- The group can plan as it did before.
  obtain ⟨again, planned⟩ := inLine.exists_intends venture.intends bound
  refine Group.ensures_reconcile solo (recorded.namespace.trans venture.intends.inSpace) ?_ ?_ ?_
  · -- The group is there.
    intro after none
    rw [place, inLine.found] at none
    cases none
  · exact fun _ _ letsFail => absurd letsFail never
  -- Every step up to the plan only looks.
  intro found first there same looked
  rw [place, inLine.found] at there
  obtain rfl := Option.some.inj there
  refine Group.ensures_advance solo (same ▸ inLine.found_own) (same ▸ provides).manages ?_ ?_
  · exact fun _ _ _ letsFail => absurd (letsFail ⟨_, _, _, same ▸ provides⟩) never
  intro groupClass parameters secrets second given kept looks
  obtain ⟨rfl, rfl, rfl⟩ := given.unique (same ▸ provides)
  have looked := looked.trans looks
  have unchanged := kept.trans same
  -- The group is live and has its mark, so it is not written.
  rw [if_neg (by simp [inLine.live]), inLine.protect_eq]
  change (Group.sync _ _ _ _).Ensures _ _ _
  refine Group.ensures_sync solo (unchanged ▸ inLine.beside.tidy) (unchanged ▸ inLine.found_own)
    inLine.inSpace ?_ ?_
  · exact fun _ _ _ letsFail => absurd (letsFail ⟨again, unchanged ▸ planned⟩) never
  intro plan third intends keptThird looks
  have looked := looked.trans looks
  rw [unchanged] at intends
  have unchanged := keptThird.trans unchanged
  -- The new plan agrees with the old one, and lets nobody go.
  have agrees := inLine.agrees venture.intends bound intends
  have nothing := inLine.departed_eq_nil venture.intends intends inLine.members_eq
  have there : venture.InLine third.store third.exchanges own content handle time := by
    rw [unchanged]
    exact { inLine with toUnderway := inLine.later (GrowsByCalls.of_quiet looked.quiet).longer }
  refine (ensures_enactAgain solo there never _ (unchanged ▸ intends) agrees nothing).mono ?_
  rintro result last ⟨rfl, same, does⟩
  refine ⟨rfl, same.trans unchanged, ?_⟩
  simpa using (GrowsByDoings.of_looks looked).trans does

end Attempt

end VolumeGroups
