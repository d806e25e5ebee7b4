import VolumeGroups.Proofs.Refusals.Alongside

/-! How a pass begins alongside the same pass without the claims that its group refuses: both make the
same plan, except that the second refuses nothing. -/

namespace VolumeGroups

/-- A plan that refuses nothing. -/
def MembershipPlan.unrefused (plan : MembershipPlan) : MembershipPlan := { plan with rejected := [] }

namespace Store

variable {start one other : Store} {gone : List String} {clock later : Time}
  {make : String → KeyMap String → KeyMap String → CreatedGroup}

/-- A group that is only marked plans the same. -/
theorem Intends.overwrite {store : Store} {group : Group} {space : String} {plan : MembershipPlan}
    (intends : store.Intends group space plan) (live : group.isTerminating = false)
    {metadata : Metadata} (added : group.metadata.addFinalizer? groupFinalizer = some metadata) :
    (store.overwrite { group with metadata }).2.Intends (store.stamped { group with metadata }) space
      plan := by
  obtain ⟨continues, -, -⟩ := Metadata.addFinalizer?_eq_some added
  have place : Resource.key ({ group with metadata } : Group) = Resource.key group := continues.key
  -- The marked group is held, as a live group always is.
  have held : metadata.isForsaken = false := continues.held live
  have claims := (Prod.mk.inj (apart_of_groups.overwrite store { group with metadata })).1
  have reflects : store.Reflects group plan (store.overwrite { group with metadata }).2
      (store.stamped { group with metadata }) := by
    -- The plan goes by the groups, among which only the marks of one changed.
    refine ⟨.of_group intends.tidy intends.found continues, place ▸ find?_overwrite_self held,
      ⟨continues.trans rfl, rfl, rfl⟩, .inl rfl, groups_overwrite held intends.found place, ?_⟩
    intro entry refused
    exact (find?_of_claims claims _).trans (intends.found_of_stands (intends.mem_rejected.mp refused))
  exact reflects.intends_of_members intends rfl claims

end Store

namespace Attempt

variable {start one other : Store} {gone : List String} {clock later : Time}
  {make : String → KeyMap String → KeyMap String → CreatedGroup}

/-- A group in hand is written over in both stores, which hold what was written. -/
theorem alongside_replaceGroup {own written : Group} (bothHold : start.BothHold gone own one other)
    (continues : own.metadata.Continues written.metadata)
    (version : written.metadata.resourceVersion = own.metadata.resourceVersion)
    (status : written.status = own.status) :
    Alongside make clock later gone
      (Agree (fun value after result there => result = value ∧ value = one.stamped written ∧
        after = (one.overwrite written).2 ∧ start.BothHold gone value after there) fun _ _ => False)
      (.of (.ask (.replaceGroup written))) one (.of (.ask (.replaceGroup written))) other := by
  have place : Resource.key written = Resource.key own := continues.key
  -- The stored state stays, and it is the one in hand.
  have same : Stored.withStatusOf written own = written := by
    simp only [Stored.withStatusOf, ← status]
  have live : written.isTerminating = false := by
    rw [Group.isTerminating, continues]
    exact bothHold.live
  have held : written.metadata.isForsaken = false := continues.held bothHold.live
  have done : Store.serving make clock one (.replaceGroup written) =
      (.ok (one.stamped written), (one.overwrite written).2) := by
    have there : one.find? (Resource.key written) = some own := place ▸ bothHold.held
    have replaced := Store.replace_eq there version.symm
    rw [same] at replaced
    exact replaced.trans (Prod.ext (Store.overwrite_fst _ _) rfl)
  -- The other store does as the one does.
  obtain ⟨answer, sameRest⟩ := bothHold.toSameButForClaims.serving (.replaceGroup written) trivial
  rw [done] at answer sameRest
  refine Program.Pairs.ask (.replaceGroup written) (fun labour => absurd labour Bool.false_ne_true) ?_
  rw [done, ← answer]
  refine .ok ⟨rfl, rfl, rfl, sameRest, ?_, live⟩
  -- The group in hand is the one that the answer holds.
  rw [Store.key_stamped]
  exact Store.find?_overwrite_self held

/-- A live group is marked in both stores, and plans as before. -/
theorem alongside_protect {group : Group} {space : String} {plan : MembershipPlan}
    (intends : one.Intends group space plan) (bothHold : start.BothHold gone group one other) :
    Alongside make clock later gone
      (Agree (fun own after result there => result = own ∧ after.Intends own space plan ∧
        start.BothHold gone own after there ∧ Resource.key own = Resource.key group)
        fun _ _ => False)
      (Attempt.within PassError.cluster group.protect) one
      (Attempt.within PassError.cluster group.protect) other := by
  refine .within ?_
  unfold Group.protect
  split
  · -- The group has the mark.
    exact Program.Pairs.done (.ok ⟨rfl, intends, bothHold, rfl⟩)
  · rename_i metadata added
    obtain ⟨continues, version, -⟩ := Metadata.addFinalizer?_eq_some added
    -- The group is written in both stores.
    have marked : Alongside make clock later gone _ (.of (.ask (.replaceGroup { group with metadata })))
        one _ other := alongside_replaceGroup bothHold continues version rfl
    refine Pairs.imp marked ?_ fun _ _ never => never
    rintro own after _ there ⟨rfl, rfl, rfl, grasped⟩
    exact ⟨rfl, intends.overwrite bothHold.live added, grasped,
      (Store.key_stamped ..).trans continues.key⟩

/-- A live group makes its plan from both stores, where the second plan refuses nothing. -/
theorem alongside_sync {space : String} {group : Group} {plan : MembershipPlan}
    {groupClass : GroupClass} {parameters : ClassParameters} {secrets : KeyMap String}
    {final : Except PassError Action → Store → Except PassError Action → Store → Prop}
    (intends : one.Intends group space plan)
    (bothHold : start.BothHold plan.refusedKeys group one other)
    (goes : Alongside make clock later plan.refusedKeys final
      (group.enact (one.list space) plan groupClass parameters secrets) one
      (group.enact (one.list space) plan.unrefused groupClass parameters secrets) other) :
    Alongside make clock later plan.refusedKeys final (group.sync groupClass parameters secrets) one
      (group.sync groupClass parameters secrets) other := by
  -- Looks and plans are learnt from the stores as they are.
  have solo := Conditions.undisturbed_solo ""
  have rest := bothHold.rest
  have listing : Reads (.undisturbed "") ClusterError.IsPlain
      (.of (.ask (.listGroups space)) : Attempt ClusterError (List Group)) :=
    reads_look solo (.listGroups space) trivial id fun _ => rfl
  have told : one.learns (.of (.ask (.listGroups space)) : Attempt ClusterError (List Group)) =
      .ok (one.list space) := rfl
  have toldOther : other.learns (.of (.ask (.listGroups space)) : Attempt ClusterError (List Group)) =
      .ok (one.list space) := rest ▸ rfl
  have planning : Reads (.undisturbed "") (fun _ => True) (group.plan (one.list space)) :=
    reads_plan solo group (one.list space)
  have planned : other.learns (group.plan (one.list space)) = .ok plan.unrefused := by
    rw [rest]
    exact intends.withoutRefused
  -- Both list the same groups, and only the first plan has something to refuse.
  rw [Group.sync_eq_enact, space_bind intends.inSpace]
  refine Pairs.then (.within (listing.learnt told toldOther)) ?_
  rintro _ _ _ _ ⟨rfl, rfl, rfl, rfl⟩
  refine Pairs.then (.untold (.within (planning.learnt intends.planned planned))) ?_
  rintro _ _ _ _ ⟨rfl, rfl, rfl, rfl⟩
  exact goes

/-- A pass over a group of the driver goes the same way in both stores up to what it does with its plan,
and if it fails before that it fails in both. -/
theorem alongside_advance {driver space : String} {group : Group} {plan : MembershipPlan}
    {final : Except PassError Action → Store → Except PassError Action → Store → Prop}
    (intends : one.Intends group space plan) (managed : one.Manages driver group)
    (bothHold : start.BothHold plan.refusedKeys group one other)
    (failed : ∀ error after there, ¬ error.IsRefusal →
      start.SameButForClaims plan.refusedKeys after there →
      final (.error error) after (.error error) there)
    (goes : ∀ own groupClass parameters secrets after there, after.Intends own space plan →
      start.BothHold plan.refusedKeys own after there → Resource.key own = Resource.key group →
      Alongside make clock later plan.refusedKeys final
        (own.enact (after.list space) plan groupClass parameters secrets) after
        (own.enact (after.list space) plan.unrefused groupClass parameters secrets) there) :
    Alongside make clock later plan.refusedKeys final (group.advance driver) one
      (group.advance driver) other := by
  have solo := Conditions.undisturbed_solo driver
  have rest := bothHold.rest
  -- The class is there on both sides, as no claim is a class.
  obtain ⟨name, groupClass, named, found, served⟩ := managed
  have looking : Reads (.undisturbed driver) ClusterError.IsPlain
      (.of (.ask (.getClass name)) : Attempt ClusterError GroupClass) :=
    reads_look solo (.getClass name) trivial id fun _ => rfl
  have told : one.learns (.of (.ask (.getClass name)) : Attempt ClusterError GroupClass) =
      .ok groupClass := Store.get_eq_ok.mpr found
  have toldOther : other.learns (.of (.ask (.getClass name)) : Attempt ClusterError GroupClass) =
      .ok groupClass := rest ▸ told
  unfold Group.advance Group.resolveClass
  simp only [named]
  refine Pairs.then (.untold (.within (looking.learnt told toldOther))) ?_
  rintro _ _ _ _ ⟨rfl, rfl, rfl, rfl⟩
  -- The class is the driver's, so the pass goes on.
  rw [if_neg (by simpa using served)]
  -- Parameters and credentials are the same, and so is the failure if they make no sense.
  have known : Alongside make clock later plan.refusedKeys
      (Agree (fun parameters after result there => parameters = result ∧ one = after ∧ other = there)
        (start.SameButForClaims plan.refusedKeys))
      (.known (ClassParameters.resolve groupClass.spec.parameters)) one
      (.known (ClassParameters.resolve groupClass.spec.parameters)) other :=
    Pairs.known _ (fun _ _ => ⟨rfl, rfl, rfl⟩) bothHold.toSameButForClaims
  refine Alongside.bindBlaming (Alongside.tellingOn (.within known) fun _ _ => id)
    (.tellingOn (.within (.any _) fun _ _ => id)) failed ?_
  rintro parameters _ _ _ ⟨rfl, rfl, rfl⟩
  -- Credentials are no claims, so they are read in the same way.
  have reading := reads_credentials solo parameters.secret
  have credentials : Alongside make clock later plan.refusedKeys
      (Agree (fun secrets after result there => secrets = result ∧ one = after ∧ other = there)
        (start.SameButForClaims plan.refusedKeys))
      parameters.secret.credentials one parameters.secret.credentials other := by
    refine reading.alongside reading ?_
    have same : other.learns parameters.secret.credentials =
        one.learns parameters.secret.credentials := by
      rw [rest]
      exact Store.learns_of_asks (asks_credentials parameters.secret) rfl
    rw [same]
    cases one.learns parameters.secret.credentials with
    | error error => exact .error bothHold.toSameButForClaims
    | ok secrets => exact .ok ⟨rfl, rfl, rfl⟩
  refine Alongside.bindBlaming (Alongside.tellingOn (.within credentials) fun _ _ => id)
    (.tellingOn (.within (.any _) fun _ _ => id)) failed ?_
  rintro secrets _ _ _ ⟨rfl, rfl, rfl⟩
  -- The group is live, so the pass marks it.
  rw [if_neg (by simp [bothHold.live])]
  refine Pairs.then (alongside_protect intends bothHold) ?_
  rintro _ after own there ⟨rfl, intended, grasped, place⟩
  exact alongside_sync intended grasped (goes own _ _ _ after there intended grasped place)

/-- A pass that saw a stored group goes the same way in both stores. -/
theorem alongside_reconcile {driver space : String} {store : Store} {group seen : Group}
    {plan : MembershipPlan}
    {final : Except PassError Action → Store → Except PassError Action → Store → Prop}
    (intends : store.Intends group space plan) (live : group.isTerminating = false)
    (managed : store.Manages driver group) (sights : group.Sights seen)
    (failed : ∀ error after there, ¬ error.IsRefusal →
      store.SameButForClaims plan.refusedKeys after there →
      final (.error error) after (.error error) there)
    (goes : ∀ own groupClass parameters secrets after there, after.Intends own space plan →
      store.BothHold plan.refusedKeys own after there → Resource.key own = Resource.key group →
      Alongside make clock later plan.refusedKeys final
        (own.enact (after.list space) plan groupClass parameters secrets) after
        (own.enact (after.list space) plan.unrefused groupClass parameters secrets) there) :
    Alongside make clock later plan.refusedKeys final (seen.reconcile driver) store
      (seen.reconcile driver) (store.withoutClaims plan.refusedKeys) := by
  have bothHold : store.BothHold plan.refusedKeys group store
      (store.withoutClaims plan.refusedKeys) :=
    ⟨⟨rfl, fun _ _ => rfl⟩, intends.found, live⟩
  have inSpace := sights.namespace.trans intends.inSpace
  -- The group that was seen lies under the key of the stored one.
  have place : space ++ "/" ++ seen.name = Resource.key group := by
    rw [← sights.place (intends.tidy.groupNamed intends.found), Group.place, inSpace]
    rfl
  have told : store.learns (.of (.ask (.getGroup seen.name space)) : Attempt ClusterError Group) =
      .ok group := by
    refine Store.get_eq_ok.mpr ?_
    rw [place]
    exact intends.found
  have toldOther : (store.withoutClaims plan.refusedKeys).learns
      (.of (.ask (.getGroup seen.name space)) : Attempt ClusterError Group) = .ok group := told
  have looking : Reads (.undisturbed driver) ClusterError.IsPlain
      (.of (.ask (.getGroup seen.name space)) : Attempt ClusterError Group) :=
    reads_look (Conditions.undisturbed_solo driver) (.getGroup seen.name space) trivial id
      fun _ => rfl
  -- The pass starts with a look at the group.
  unfold Group.reconcile
  rw [space_bind inSpace]
  refine Pairs.then (Pairs.outcome (looking.learnt told toldOther)) ?_
  rintro _ _ _ _ ⟨_, _, rfl, rfl, rfl, rfl, rfl, rfl⟩
  exact alongside_advance intends managed bothHold failed goes

end Attempt

end VolumeGroups
