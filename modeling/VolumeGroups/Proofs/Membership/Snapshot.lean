import Mathlib.Data.List.Forall2
import VolumeGroups.Proofs.Membership.Classification
import VolumeGroups.Proofs.Operator.Live

/-! Plans that several groups make from one snapshot of the groups exclude each other, and hardly
depend on the order of the snapshot. -/

namespace VolumeGroups

/-- A cluster answers a look at what is stored in one way in whatever state it is. -/
def IsFixed {σ : Type} (respond : σ → (request : Call) → request.Answer × σ) : Prop :=
  ∀ request : Call, request.IsLook →
    ∀ state state', (respond state request).1 = (respond state' request).1

/-- What a cluster answers to lookups in some state. -/
def Lookups.at {σ : Type} (respond : σ → (request : Call) → request.Answer × σ) (state : σ) :
    Lookups where
  volume name := (respond state (.getVolume name)).1
  storageClass name := (respond state (.getStorageClass name)).1

/-- A cluster whose answers are fixed answers lookups in one way. -/
theorem IsFixed.answers {σ : Type} {respond : σ → (request : Call) → request.Answer × σ}
    (fixed : IsFixed respond) (state : σ) : (Lookups.at respond state).Answers respond :=
  ⟨fun _ name => fixed (.getVolume name) trivial _ _,
    fun _ name => fixed (.getStorageClass name) trivial _ _⟩

/-- Two refusals differ at most in the order in which they name groups. -/
inductive Rejection.Resembles : Rejection → Rejection → Prop where
  | alreadyInGroup (claim : String) {candidates candidates' existing existing' : List String}
    (seeking : candidates'.Perm candidates) (listing : existing'.Perm existing) :
    Resembles (.alreadyInGroup claim candidates existing)
      (.alreadyInGroup claim candidates' existing')
  | multipleNewGroups (claim : String) {candidates candidates' : List String}
    (seeking : candidates'.Perm candidates) :
    Resembles (.multipleNewGroups claim candidates) (.multipleNewGroups claim candidates')
  | groupedByStorageClass (claim storageClass : String) :
    Resembles (.groupedByStorageClass claim storageClass)
      (.groupedByStorageClass claim storageClass)

/-- Two places are the same, but for the order in which refusals name groups. -/
inductive Standing.Resembles : Standing → Standing → Prop where
  | same (standing : Standing) (unrefused : ∀ cause, standing ≠ .rejected cause) :
    Resembles standing standing
  | rejected {cause cause' : Rejection} (resembles : cause.Resembles cause') :
    Resembles (.rejected cause) (.rejected cause')

/-- Two plans have the same members, let go of the same claims and refuse the same claims in the
same way, but for the order in which refusals name groups. -/
structure MembershipPlan.Resembles (plan other : MembershipPlan) : Prop where
  members : other.members = plan.members
  departed : other.departed = plan.departed
  rejected : List.Forall₂ (fun entry entry' : Claim × Rejection =>
    entry'.1 = entry.1 ∧ entry.2.Resembles entry'.2) plan.rejected other.rejected

/-- Two plans resemble each other, or neither can be made for the same reason. -/
def ResembleAsPlans : (one other : Except MembershipError MembershipPlan) → Prop
  | .ok plan, .ok other => plan.Resembles other
  | .error error, .error other => other = error
  | _, _ => False

/-- A plan with one claim more resembles one that takes the claim alike. -/
theorem MembershipPlan.Resembles.cons {plan other : MembershipPlan}
    (resembles : plan.Resembles other) {standing place : Standing}
    (alike : standing.Resembles place) (claim : Claim) :
    (plan.cons claim standing).Resembles (other.cons claim place) := by
  obtain ⟨members, departed, rejected⟩ := resembles
  -- Only refusals may differ, and they come in front of lists that resemble each other.
  cases alike with
  | rejected alike => exact ⟨members, departed, .cons ⟨rfl, alike⟩ rejected⟩
  | same _ unrefused =>
    cases standing with
    | irrelevant | waiting => exact ⟨members, departed, rejected⟩
    | departed => exact ⟨members, congrArg (claim :: ·) departed, rejected⟩
    | member => exact ⟨congrArg (_ :: ·) members, departed, rejected⟩
    | rejected cause => exact absurd rfl (unrefused cause)

/-- Whether a claim may join does not depend on the order of the groups, nor does the kind of its
refusal. -/
theorem checkExclusive_of_perm {groups others : List Group} (same : others.Perm groups)
    (claim : Claim) :
    (checkExclusive claim groups = .ok () ∧ checkExclusive claim others = .ok ()) ∨
      ∃ cause cause', checkExclusive claim groups = .error cause ∧
        checkExclusive claim others = .error cause' ∧ cause.Resembles cause' := by
  -- The guards ask only whether anybody has the claim and how many seek it.
  have listing : (groupsListing claim others).Perm (groupsListing claim groups) :=
    (same.filter _).map _
  have seeking : (groupsSeeking claim others).Perm (groupsSeeking claim groups) :=
    (same.filter _).map _
  -- Only the order of the names may differ.
  unfold checkExclusive
  simp only [listing.isEmpty_eq, seeking.isEmpty_eq, seeking.length_eq]
  split
  · exact .inr ⟨_, _, rfl, rfl, .alreadyInGroup _ seeking listing⟩
  · split
    · exact .inr ⟨_, _, rfl, rfl, .multipleNewGroups _ seeking⟩
    · exact .inl ⟨rfl, rfl⟩

/-- A claim that no group lists may not join while two groups would take it. -/
theorem checkExclusive_of_unlisted {groups : List Group} {claim : Claim}
    (unlisted : ∀ group ∈ groups, group.lists claim = false) {one other : Group}
    (known : one ∈ groups) (present : other ∈ groups) (differ : one ≠ other)
    (seeks : one.seeks claim = true) (sought : other.seeks claim = true) :
    checkExclusive claim groups =
      .error (.multipleNewGroups (Resource.key claim) (groupsSeeking claim groups)) := by
  have nobody : groupsListing claim groups = [] := by
    rw [groupsListing, List.map_eq_nil_iff, List.filter_eq_nil_iff]
    simpa using unlisted
  -- The first guard lets it through, and the second counts at least these two groups.
  have several := one_lt_length_groupsSeeking known seeks present sought differ
  simp [checkExclusive, nobody, several]

namespace Lookups

variable {lookups : Lookups} {group : Group} {groups others : List Group} {claim : Claim}
  (same : others.Perm groups)
include same

/-- A claim that may join may join whatever the order of the groups is. -/
theorem exclusive_of_perm (exclusive : checkExclusive claim groups = .ok ()) :
    checkExclusive claim others = .ok () := by
  rcases checkExclusive_of_perm same claim with free | ⟨_, _, taken, _⟩
  · exact free.2
  · cases exclusive.symm.trans taken

/-- A claim that a group keeps is kept whatever the order of the groups is. -/
theorem Keeps.of_perm (kept : lookups.Keeps group groups claim) :
    lookups.Keeps group others claim := by
  refine ⟨kept.wants, kept.free.imp_right fun admits => ?_⟩
  exact ⟨exclusive_of_perm same admits.exclusive, admits.classed⟩

/-- A claim is refused alike whatever the order of the groups is. -/
theorem Refuses.of_perm {cause : Rejection} (refused : lookups.Refuses groups claim cause) :
    ∃ cause', lookups.Refuses others claim cause' ∧ cause.Resembles cause' := by
  -- The groups decide on a refusal of the first kind only, and only they are in another order.
  cases refused with
  | contested taken =>
    rcases checkExclusive_of_perm same claim with free | ⟨cause, cause', first, second, alike⟩
    · cases taken.symm.trans free.1
    · obtain rfl := Except.error.inj (taken.symm.trans first)
      exact ⟨cause', .contested second, alike⟩
  | grouped exclusive classed grouped =>
    exact ⟨_, .grouped (exclusive_of_perm same exclusive) classed grouped,
      .groupedByStorageClass _ _⟩

/-- A claim stands at the same place whatever the order of the groups is. -/
theorem Places.of_perm {standing : Standing} (places : lookups.Places group groups claim standing) :
    ∃ place, lookups.Places group others claim place ∧ standing.Resembles place := by
  -- The guards are the only part that looks at the other groups.
  cases places with
  | departed listed spurned => exact ⟨_, .departed listed spurned, .same _ nofun⟩
  | irrelevant unlisted spurned => exact ⟨_, .irrelevant unlisted spurned, .same _ nofun⟩
  | rejected wants unlisted refused =>
    obtain ⟨cause', refused, alike⟩ := refused.of_perm same
    exact ⟨_, .rejected wants unlisted refused, .rejected alike⟩
  | waiting kept unbound => exact ⟨_, .waiting (kept.of_perm same) unbound, .same _ nofun⟩
  | member kept bound found served =>
    exact ⟨_, .member (kept.of_perm same) bound found served, .same _ nofun⟩

/-- It cannot be told where a claim stands for the same reason whatever the order of the groups
is. -/
theorem Fails.of_perm {error : MembershipError} (fails : lookups.Fails group groups claim error) :
    lookups.Fails group others claim error := by
  -- The errors do not depend on the order of the groups either.
  cases fails with
  | selector live selects => exact .selector live selects
  | storageClass wants unlisted exclusive classed answer present =>
    exact .storageClass wants unlisted (exclusive_of_perm same exclusive) classed answer present
  | noVolume kept bound answer absent => exact .noVolume (kept.of_perm same) bound answer absent
  | volume kept bound answer present => exact .volume (kept.of_perm same) bound answer present
  | notDriver kept bound found unserved =>
    exact .notDriver (kept.of_perm same) bound found unserved

/-- Plans for the same claims resemble each other whatever the order of the groups is. -/
theorem Plans.of_perm {claims : List Claim} {result : Except MembershipError MembershipPlan}
    (plans : lookups.Plans group groups claims result) :
    ∃ result', lookups.Plans group others claims result' ∧ ResembleAsPlans result result' := by
  -- The induction goes along the claims, each of which is placed alike or fails alike.
  induction plans with
  | nil => exact ⟨_, .nil, rfl, rfl, .nil⟩
  | placed places _ ih =>
    obtain ⟨place, places, alike⟩ := places.of_perm same
    obtain ⟨result, plans, resemble⟩ := ih
    cases result with
    | error => exact resemble.elim
    | ok other => exact ⟨_, .placed places plans, resemble.cons alike _⟩
  | later places _ ih =>
    obtain ⟨place, places, _⟩ := places.of_perm same
    obtain ⟨result, plans, resemble⟩ := ih
    cases result with
    | error => exact ⟨_, .later places plans, resemble⟩
    | ok => exact resemble.elim
  | failed fails => exact ⟨_, .failed (fails.of_perm same), rfl⟩

end Lookups

/-- A group makes a plan at some time. -/
def Group.Makes {σ : Type} (group : Group) (groups : List Group)
    (respond : σ → (request : Call) → request.Answer × σ) (plan : MembershipPlan) : Prop :=
  ∃ state, ((group.plan groups).run.run respond state).1 = .ok plan

section Fixed

variable {σ : Type} {respond : σ → (request : Call) → request.Answer × σ}
  (fixed : IsFixed respond) {group : Group} {groups : List Group}
include fixed

/-- A plan that a group makes is one for the claims of its namespace. -/
theorem Group.Makes.exists_plans {plan : MembershipPlan} (makes : group.Makes groups respond plan) :
    ∃ state space claims, group.metadata.namespace = some space ∧
      (respond state (.listClaims space)).1 = .ok claims ∧
      (Lookups.at respond state).Plans group groups (sortedByName claims) (.ok plan) := by
  obtain ⟨state, made⟩ := makes
  -- Without a namespace or a list of its claims there would be no plan.
  cases inSpace : group.metadata.namespace with
  | none => cases (Lookups.run_plan_of_lost inSpace state).symm.trans made
  | some space =>
    cases listed : (respond state (.listClaims space)).1 with
    | error cause => cases (Lookups.run_plan_of_unlisted inSpace listed).symm.trans made
    | ok claims =>
      refine ⟨state, space, claims, rfl, listed, ?_⟩
      -- What is read of claims and volumes is what the cluster answers at that moment.
      obtain ⟨result, plans⟩ :=
        (Lookups.at respond state).exists_plans group groups (sortedByName claims)
      obtain rfl : result = .ok plan :=
        (plans.comesTo (fixed.answers state) _).symm.trans
          ((Lookups.run_plan_of_listed inSpace listed).symm.trans made)
      exact plans

/-- A group keeps the members that it plans. -/
theorem Group.Makes.keeps {plan : MembershipPlan} (makes : group.Makes groups respond plan)
    {claim : Claim} (known : claim ∈ plan.members.map Member.claim) :
    group.Wants claim ∧ (group.lists claim = true ∨ checkExclusive claim groups = .ok ()) := by
  obtain ⟨state, _, _, _, _, plans⟩ := makes.exists_plans fixed
  obtain ⟨member, planned, rfl⟩ := List.mem_map.mp known
  -- A plan has a member only where the claim stands as one, and such a claim is kept.
  have places := ((plans.tells_iff (fixed.answers state) state
    (.member member.volumeName member.volumeId) trivial).mp planned).2
  cases places with
  | member kept => exact ⟨kept.wants, kept.free.imp_right fun admits => admits.exclusive⟩

/-- A claim that at most one group lists is a member in the plan of at most one live group. -/
theorem Group.Makes.eq_of_member {other : Group} {claim : Claim}
    (single : ∀ one ∈ groups, ∀ other ∈ groups, one.lists claim = true →
      other.lists claim = true → one = other)
    (known : group ∈ groups) (present : other ∈ groups) (live : group.isTerminating = false)
    (alive : other.isTerminating = false) {plan plan' : MembershipPlan}
    (makes : group.Makes groups respond plan) (makes' : other.Makes groups respond plan')
    (member : claim ∈ plan.members.map Member.claim)
    (member' : claim ∈ plan'.members.map Member.claim) : group = other := by
  obtain ⟨wants, free⟩ := makes.keeps fixed member
  obtain ⟨wants', free'⟩ := makes'.keeps fixed member'
  -- A group that takes the claim anew may do so only if no group lists it and no other seeks it.
  cases lists : group.lists claim with
  | true =>
    cases lists' : other.lists claim with
    | true => exact single group known other present lists lists'
    | false =>
      have unlisted := not_lists_of_checkExclusive (free'.resolve_left (by simp [lists'])) present
        (Group.seeks_iff.mpr ⟨lists', alive, wants'.2⟩) known
      simp [lists] at unlisted
  | false =>
    have exclusive := free.resolve_left (by simp [lists])
    have seeks : group.seeks claim = true := Group.seeks_iff.mpr ⟨lists, live, wants.2⟩
    have lists' := not_lists_of_checkExclusive exclusive known seeks present
    exact eq_of_checkExclusive exclusive known seeks present
      (Group.seeks_iff.mpr ⟨lists', alive, wants'.2⟩)

/-- A live group refuses a claim that no group lists and that another live group selects as well,
unless the claim is being deleted. -/
theorem Group.Makes.rejects {other : Group} {claim : Claim} {claims : List Claim}
    (unlisted : ∀ one ∈ groups, one.lists claim = false)
    (kept : claim.metadata.isTerminating = false)
    (listed : ∀ state, group.Hears claims respond state) (there : claim ∈ claims)
    (known : group ∈ groups) (present : other ∈ groups) (differ : group ≠ other)
    (live : group.isTerminating = false) (alive : other.isTerminating = false)
    (selects : group.selects claim = .ok true) (selects' : other.selects claim = .ok true)
    {plan : MembershipPlan} (makes : group.Makes groups respond plan) :
    (claim, .multipleNewGroups (Resource.key claim) (groupsSeeking claim groups)) ∈
      plan.rejected := by
  -- The plan is one for the listed claims.
  obtain ⟨state, space, claims', inSpace, listed', plans⟩ := makes.exists_plans fixed
  obtain rfl : claims = claims' := Except.ok.inj ((listed state space inSpace).symm.trans listed')
  -- Both groups seek the claim, so the guard of exclusivity speaks before the one of classes.
  have seeks : group.seeks claim = true :=
    Group.seeks_iff.mpr ⟨unlisted group known, live, selects⟩
  have seeks' : other.seeks claim = true :=
    Group.seeks_iff.mpr ⟨unlisted other present, alive, selects'⟩
  have contested := checkExclusive_of_unlisted unlisted known present differ seeks seeks'
  exact (plans.tells_iff (fixed.answers state) state (.rejected _) trivial).mpr
    ⟨mem_sortedByName.mpr there,
      .rejected ⟨kept, selects⟩ (unlisted group known) (.contested contested)⟩

/-- Plans of a group resemble each other whatever the order of the groups is. -/
theorem run_plan_of_perm {others : List Group} (same : others.Perm groups) (group : Group)
    (state state' : σ) : ResembleAsPlans ((group.plan groups).run.run respond state).1
      ((group.plan others).run.run respond state').1 := by
  -- Without a namespace neither group has a plan.
  cases inSpace : group.metadata.namespace with
  | none => rw [Lookups.run_plan_of_lost inSpace, Lookups.run_plan_of_lost inSpace]; rfl
  | some space =>
    -- The claims are listed alike both times, so it is enough to compare plans for one list.
    have still := fixed (.listClaims space) trivial state' state
    cases listed : (respond state (.listClaims space)).1 with
    | error cause =>
      rw [Lookups.run_plan_of_unlisted inSpace listed,
        Lookups.run_plan_of_unlisted inSpace (still.trans listed)]
      rfl
    | ok claims =>
      have answers := fixed.answers state
      obtain ⟨result, plans⟩ :=
        (Lookups.at respond state).exists_plans group groups (sortedByName claims)
      obtain ⟨result', plans', resemble⟩ := plans.of_perm same
      rw [Lookups.run_plan_of_listed inSpace listed,
        Lookups.run_plan_of_listed inSpace (still.trans listed), plans.comesTo answers,
        plans'.comesTo answers]
      exact resemble

end Fixed

/-- Plans that groups make from one snapshot while the cluster answers alike exclude each other. A
claim that at most one group lists is a member for one live group at most. A claim that no group
lists and that is not being deleted is refused by each of two live groups that select it. And the
order of the snapshot changes nothing but the order in which refusals name groups. -/
theorem plans_exclude {σ : Type} {respond : σ → (request : Call) → request.Answer × σ}
    (fixed : IsFixed respond) (groups : List Group) :
    (∀ claim : Claim,
      (∀ one ∈ groups, ∀ other ∈ groups, one.lists claim = true → other.lists claim = true →
        one = other) →
      ∀ one ∈ groups, ∀ other ∈ groups, one.isTerminating = false → other.isTerminating = false →
        ∀ plan plan', one.Makes groups respond plan → other.Makes groups respond plan' →
          claim ∈ plan.members.map Member.claim → claim ∈ plan'.members.map Member.claim →
            one = other) ∧
    (∀ (claim : Claim) (claims : List Claim), claim ∈ claims →
      claim.metadata.isTerminating = false → (∀ one ∈ groups, one.lists claim = false) →
      ∀ one ∈ groups, ∀ other ∈ groups, one ≠ other →
        one.isTerminating = false → other.isTerminating = false →
        one.selects claim = .ok true → other.selects claim = .ok true →
        (∀ state, one.Hears claims respond state) → ∀ plan, one.Makes groups respond plan →
          (claim, .multipleNewGroups (Resource.key claim) (groupsSeeking claim groups)) ∈
            plan.rejected) ∧
    ∀ others : List Group, others.Perm groups → ∀ group ∈ groups, ∀ state state',
      ResembleAsPlans ((group.plan groups).run.run respond state).1
        ((group.plan others).run.run respond state').1 := by
  refine ⟨?_, ?_, ?_⟩
  -- The three parts are about two plans, about one plan, and about one group and two snapshots.
  · intro claim single one known other present live alive plan plan' makes makes' member member'
    exact makes.eq_of_member fixed single known present live alive makes' member member'
  · intro claim claims there kept unlisted one known other present differ live alive selects
      selects' hears plan makes
    exact makes.rejects fixed unlisted kept hears there known present differ live alive selects
      selects'
  · intro others same group _ state state'
    exact run_plan_of_perm fixed same group state state'

namespace Sample

/-- Another group that selects the claims of the group. -/
def twin : Group where
  metadata := { name := some "twin", «namespace» := some "space", uid := some "twin-uid" }
  spec :=
    { className := some "class"
      source :=
        { selector :=
            some { matchLabels := some (KeyMap.singleton defaultSelectorLabel "group") } } }

/-- A claim that both groups select. -/
def held : Claim where
  metadata := { claim.metadata with name := some "held" }
  spec := some { volumeName := some "volume" }

/-- The group once it lists that claim. -/
def holder : Group := { group with status := some { claimNames := ["held"] } }

/-- A claim that both groups select while it is being deleted. -/
def ending : Claim where
  metadata :=
    { claim.metadata with name := some "ending", deletionTimestamp := some ⟨⟨2024, 1, 1⟩, 0, 0⟩ }

/-- What the group that lists a claim plans: it keeps that claim, and refuses the one that both
select. -/
def kept : MembershipPlan where
  members := [⟨held, "volume", "disk"⟩]
  rejected := [(claim, .multipleNewGroups "space/claim" ["group", "twin"])]

/-- What the other group plans: it refuses both claims. -/
def spared : MembershipPlan where
  rejected :=
    [(claim, .multipleNewGroups "space/claim" ["group", "twin"]),
      (held, .alreadyInGroup "space/held" ["twin"] ["group"])]

/-- A cluster that lists claims in one order answers alike at all times. -/
theorem isFixed_listing (claims : List Claim) : IsFixed (listing claims) :=
  fun _ _ _ _ => rfl

/-- The two claims are in the order of their names. -/
theorem sortedByName_two : sortedByName [claim, held] = [claim, held] := by
  refine eq_of_named (Resource.displayName (α := Claim)) ?_ (by decide +kernel) ?_
  · exact pairwise_sortedByName (by decide +kernel)
  · exact fun _ => mem_sortedByName

/-- A plan for the two claims is made by the group that has it. -/
theorem makes_two {planner : Group} (inSpace : planner.metadata.namespace = some "space")
    {plan : MembershipPlan}
    (plans : classed.lookups.Plans planner [holder, twin] [claim, held] (.ok plan)) :
    planner.Makes [holder, twin] (listing [claim, held]) plan :=
  ⟨(), Lookups.run_plan ⟨fun _ _ => rfl, fun _ _ => rfl⟩ inSpace (fun _ _ => rfl)
    (sortedByName_two ▸ plans)⟩

/-- The group that lists the claim keeps it. -/
theorem makes_kept : holder.Makes [holder, twin] (listing [claim, held]) kept :=
  makes_two rfl (.placed (.rejected ⟨rfl, rfl⟩ rfl (.contested rfl))
    (.placed (.member ⟨⟨rfl, rfl⟩, .inl rfl⟩ rfl rfl rfl) .nil))

/-- The other group takes neither claim. -/
theorem makes_spared : twin.Makes [holder, twin] (listing [claim, held]) spared :=
  makes_two rfl (.placed (.rejected ⟨rfl, rfl⟩ rfl (.contested rfl))
    (.placed (.rejected ⟨rfl, rfl⟩ rfl (.contested rfl)) .nil))

end Sample

/-- The claim that one of two groups lists is a member for no other one, both refuse the claim that
both select, and another order of the groups changes nothing else. -/
theorem plans_exclude_two :
    (∀ plan, Sample.twin.Makes [Sample.holder, Sample.twin]
        (Sample.listing [Sample.claim, Sample.held]) plan →
          Sample.held ∉ plan.members.map Member.claim) ∧
      (∃ cause, (Sample.claim, cause) ∈ Sample.kept.rejected) ∧
      (∃ cause, (Sample.claim, cause) ∈ Sample.spared.rejected) ∧
      ∃ plan, ((Sample.holder.plan [Sample.twin, Sample.holder]).run.run
        (Sample.listing [Sample.claim, Sample.held]) ()).1 = .ok plan ∧
          Sample.kept.Resembles plan := by
  -- The general statement gives all but the runs.
  obtain ⟨single, refused, alike⟩ := plans_exclude
    (Sample.isFixed_listing [Sample.claim, Sample.held]) [Sample.holder, Sample.twin]
  have holder : Sample.holder ∈ [Sample.holder, Sample.twin] := by simp
  have twin : Sample.twin ∈ [Sample.holder, Sample.twin] := by simp
  have differ : Sample.holder ≠ Sample.twin := by decide
  refine ⟨?_, ?_, ?_, ?_⟩
  -- The holder keeps the claim, so the twin does not have it in any plan.
  · intro plan makes member
    refine differ (single Sample.held (by decide +kernel) _ holder _ twin rfl rfl _ _
      Sample.makes_kept makes ?_ member)
    exact List.mem_singleton.mpr rfl
  · exact ⟨_, refused Sample.claim [Sample.claim, Sample.held] (by simp) rfl (by decide +kernel)
      _ holder _ twin differ rfl rfl rfl rfl (fun _ _ _ => rfl) _ Sample.makes_kept⟩
  · exact ⟨_, refused Sample.claim [Sample.claim, Sample.held] (by simp) rfl (by decide +kernel)
      _ twin _ holder differ.symm rfl rfl rfl rfl (fun _ _ _ => rfl) _ Sample.makes_spared⟩
  · -- The other order is a swap of the two.
    have resemble := alike [Sample.twin, Sample.holder] (.swap _ _ _) _ holder () ()
    obtain ⟨_, made⟩ := Sample.makes_kept
    rw [made] at resemble
    cases other : ((Sample.holder.plan [Sample.twin, Sample.holder]).run.run
        (Sample.listing [Sample.claim, Sample.held]) ()).1 with
    | ok plan =>
      rw [other] at resemble
      exact ⟨plan, rfl, resemble⟩
    | error error =>
      rw [other] at resemble
      exact resemble.elim

/-- A claim that two live groups select and that no group lists is not refused by one of them while
it is being deleted, although that group has a plan. -/
theorem not_rejected_while_deleted :
    Sample.group.isTerminating = false ∧ Sample.twin.isTerminating = false ∧
      Sample.group.name ≠ Sample.twin.name ∧
      (∀ one ∈ [Sample.group, Sample.twin], one.lists Sample.ending = false) ∧
      (∀ one ∈ [Sample.group, Sample.twin], one.selects Sample.ending = .ok true) ∧
      IsFixed (Sample.listing [Sample.ending]) ∧
      ∃ plan, Sample.group.Makes [Sample.group, Sample.twin] (Sample.listing [Sample.ending]) plan ∧
        ∀ cause, (Sample.ending, cause) ∉ plan.rejected := by
  -- The plan of the group is empty, as its only claim is being deleted.
  refine ⟨rfl, rfl, by decide, by decide +kernel, ?_, Sample.isFixed_listing _, {}, ⟨(), ?_⟩, ?_⟩
  · intro one known
    rcases List.mem_pair.mp known with rfl | rfl <;> rfl
  · exact ok_of_mem_toOption (by decide +kernel)
  · simp

end VolumeGroups
