import VolumeGroups.Proofs.Operator.Acted
import VolumeGroups.Proofs.Operator.Conducted

/-! Whose claims a pass tells the driver to take while other writers change groups between its calls. -/

namespace VolumeGroups

/-- A claim that some group lists is free to join exactly if no group would take it anew. -/
theorem checkExclusive_of_listed {claim : Claim} {groups : List Group} {other : Group}
    (known : other ∈ groups) (lists : other.lists claim = true) :
    checkExclusive claim groups = .ok () ↔
      ∀ candidate ∈ groups, candidate.seeks claim = false := by
  constructor
  · -- No group that lists the claim would let another one take it.
    intro free candidate present
    cases seeks : candidate.seeks claim with
    | false => rfl
    | true => simp [not_lists_of_checkExclusive free present seeks known] at lists
  · intro unsought
    -- Without a candidate nothing stands against the claim.
    have none : groupsSeeking claim groups = [] := by
      simp only [groupsSeeking, List.map_eq_nil_iff, List.filter_eq_nil_iff]
      intro candidate present
      simp [unsought candidate present]
    simp [checkExclusive, none]

/-- A claim that a group does not list but another one does is planned as a member exactly if the
group wants it, it is bound and no group would take it anew, unless its class of volumes is against
it. -/
theorem Group.Sorts.member_iff_unsought {group other : Group} {groups : List Group}
    {claims : List Claim} {plan : MembershipPlan} (sorts : group.Sorts groups claims plan)
    {claim : Claim} (counted : claim ∈ claims) (unlisted : group.lists claim = false)
    (known : other ∈ groups) (lists : other.lists claim = true)
    (accepted : ∀ cause, (claim, cause) ∈ plan.rejected → ¬ claim.IsRefusedForClass cause) :
    (∃ member ∈ plan.members, member.claim = claim) ↔
      group.Wants claim ∧ claim.volumeName?.isSome = true ∧
        ∀ candidate ∈ groups, candidate.seeks claim = false := by
  constructor
  · rintro ⟨member, planned, rfl⟩
    -- The group does not list it, so it was free to join.
    obtain ⟨_, wants, bound, listed | free⟩ := sorts.member member planned
    · simp [unlisted] at listed
    · exact ⟨wants, by simp [bound], (checkExclusive_of_listed known lists).mp free⟩
  · rintro ⟨wants, bound, unsought⟩
    rcases sorts.wanted claim counted wants bound with planned | ⟨cause, refused⟩
    · exact planned
    · -- A refusal would need a candidate or a class of volumes against the claim.
      obtain ⟨_, _, _, taken | classed⟩ := sorts.refused claim cause refused
      · simp [(checkExclusive_of_listed known lists).mpr unsought] at taken
      · exact absurd classed (accepted cause refused)

/-- Whatever other writers do between the calls of a pass, the driver is told to take the volumes of
the members that the pass planned, and a claim that a group in the pass's list has while the pass's
own group has not is among them exactly if the group wants it, it is bound and no group in that list
would take it anew. -/
theorem takes_iff_unsought (driver : String) {seen : Group} {start : Store} {now : Scene}
    {handle : String} {ids : List String} {secrets : KeyMap String}
    {next : (Call.modifyMembership handle ids secrets).Answer → Program (Except PassError Action)}
    (run : (Conditions.unruly driver).Reaches ⟨⟨start, []⟩, some (seen.reconcile driver).run⟩
      ⟨now, some (.call (.modifyMembership handle ids secrets) next)⟩) :
    ∃ group space groups claims plan, Surveyed group space groups claims plan now.exchanges ∧
      ids = plan.volumeIds ∧
      ∀ claim ∈ claims, group.lists claim = false →
        ∀ other ∈ groups, other.lists claim = true →
          (∀ cause, (claim, cause) ∈ plan.rejected → ¬ claim.IsRefusedForClass cause) →
            ((∃ member ∈ plan.members, member.claim = claim) ↔
              group.Wants claim ∧ claim.volumeName?.isSome = true ∧
                ∀ candidate ∈ groups, candidate.seeks claim = false) := by
  have honours : (seen.reconcile driver).run.Honours (.unruly driver) (Conduct seen.place).promise
      (fun _ _ => True) ⟨start, []⟩ :=
    (Attempt.honours_conducting seen start).mono fun _ _ _ => trivial
  -- The call that comes next is conducted as the pass has promised.
  have going := (Conditions.kept_of_reaches honours trivial run).2 _ rfl
  obtain ⟨group, space, groups, claims, plan, surveyed, same⟩ := Conditions.allows_next going
  refine ⟨group, space, groups, claims, plan, surveyed, same, ?_⟩
  intro claim counted unlisted other known lists accepted
  exact surveyed.sorts.member_iff_unsought (mem_sortedByName.mpr counted) unlisted known lists
    accepted

namespace Exchange

/-- The groups that a call listed. -/
def groups? : Exchange → Option (List Group)
  | ⟨.listGroups _, .ok groups⟩ => some groups
  | _ => none

/-- The claims that a call listed. -/
def claims? : Exchange → Option (List Claim)
  | ⟨.listClaims _, .ok claims⟩ => some claims
  | _ => none

/-- The volume that a call read. -/
def volume? : Exchange → Option Volume
  | ⟨.getVolume _, .ok volume⟩ => some volume
  | _ => none

end Exchange

namespace Sample

/-- The pass over the other group until it tells the driver of its members, where a user deletes that
group before the pass lists all groups. -/
def raided : Moment :=
  [.call, .call, .act (.deleteGroup "rival" "space"), .call, .call, .call, .call].foldl
    Moment.follow ⟨⟨contested, []⟩, some (rival.reconcile "driver").run⟩

/-- The pass is about to tell the driver to take the volume of the claim. -/
theorem reaches_raided : ∃ next, (Conditions.unruly "driver").Reaches
    ⟨⟨contested, []⟩, some (rival.reconcile "driver").run⟩
    ⟨raided.toScene,
      some (.call (.modifyMembership "handle-volumegroup-rival-uid" ["disk"] ∅) next)⟩ := by
  -- The next call is computed from the moment.
  have waiting : raided.request? =
      some (.modifyMembership "handle-volumegroup-rival-uid" ["disk"] ∅) := by decide +kernel
  obtain ⟨next, same⟩ := Moment.eq_of_request? waiting
  exact ⟨next, same ▸ Moment.reaches_follow _ _ fun _ _ _ => trivial⟩

end Sample

/-- When the other group is deleted before its pass lists all groups, that pass has planned the members
whose volumes it tells the driver to take. -/
theorem takes_when_raided : ∃ next, (Conditions.unruly "driver").Reaches
    ⟨⟨Sample.contested, []⟩, some (Sample.rival.reconcile "driver").run⟩
    ⟨Sample.raided.toScene,
      some (.call (.modifyMembership "handle-volumegroup-rival-uid" ["disk"] ∅) next)⟩ ∧
    ∃ group space groups claims plan,
      Surveyed group space groups claims plan Sample.raided.exchanges ∧
        plan.volumeIds = ["disk"] ∧
        ∀ claim ∈ claims, group.lists claim = false →
          ∀ other ∈ groups, other.lists claim = true → plan.rejected = [] →
            ((∃ member ∈ plan.members, member.claim = claim) ↔
              group.Wants claim ∧ claim.volumeName?.isSome = true ∧
                ∀ candidate ∈ groups, candidate.seeks claim = false) := by
  obtain ⟨next, run⟩ := Sample.reaches_raided
  -- What is taken follows from the general statement.
  obtain ⟨group, space, groups, claims, plan, surveyed, ids, taken⟩ := takes_iff_unsought "driver" run
  refine ⟨next, run, group, space, groups, claims, plan, surveyed, ids.symm, ?_⟩
  intro claim counted unlisted other known lists accepted
  exact taken claim counted unlisted other known lists (by simp [accepted])

/-- When the other group is deleted before its pass lists all groups, the driver is told to take the
volume of a claim that the first group lists in the pass's own list of groups and that the other group
does not list in the copy that the pass works on. -/
theorem takes_listed_claim : ∃ next, (Conditions.unruly "driver").Reaches
    ⟨⟨Sample.contested, []⟩, some (Sample.rival.reconcile "driver").run⟩
    ⟨Sample.raided.toScene,
      some (.call (.modifyMembership "handle-volumegroup-rival-uid" ["disk"] ∅) next)⟩ ∧
    ∃ copy ∈ latest? Sample.raided.exchanges,
      ∃ groups ∈ Sample.raided.exchanges.findSome? Exchange.groups?,
        ∃ claims ∈ Sample.raided.exchanges.findSome? Exchange.claims?,
          ∃ volume ∈ Sample.raided.exchanges.findSome? Exchange.volume?,
            copy.isTerminating = false ∧ volume.handle? = some "disk" ∧
              ∃ other ∈ groups, other.name ≠ copy.name ∧
                ∃ claim ∈ claims, claim.volumeName? = volume.metadata.name ∧
                  copy.lists claim = false ∧ other.lists claim = true := by
  -- What the pass has read by then is in its log, where the rest can be looked up.
  obtain ⟨next, run⟩ := Sample.reaches_raided
  exact ⟨next, run, by decide +kernel⟩

end VolumeGroups
