import Mathlib.Logic.ExistsUnique
import VolumeGroups.Proofs.Membership.Lookups
import VolumeGroups.Proofs.Operator.Rehearsed
import VolumeGroups.Proofs.Solo.Planning

/-! A plan tells of every claim of its namespace at which one of five places it stands, and tells
the same in whatever order the cluster lists the claims. -/

namespace VolumeGroups

namespace MembershipPlan

/-- A plan tells where a claim stands, which it does only of places that it has a list for. -/
def Tells (plan : MembershipPlan) (claim : Claim) : Standing → Prop
  | .departed => claim ∈ plan.departed
  | .rejected cause => (claim, cause) ∈ plan.rejected
  | .member volumeName volumeId => ⟨claim, volumeName, volumeId⟩ ∈ plan.members
  | .irrelevant | .waiting => False

end MembershipPlan

/-- A plan has a list for the place. -/
def Standing.IsTold : Standing → Prop
  | .irrelevant | .waiting => False
  | _ => True

namespace MembershipPlan

/-- A plan with one claim more tells of that claim what it is told. -/
theorem tells_cons {plan : MembershipPlan} {claim other : Claim} {standing place : Standing}
    (told : place.IsTold) : (plan.cons claim standing).Tells other place ↔
      (other = claim ∧ place = standing) ∨ plan.Tells other place := by
  -- A claim goes into the list of its place and leaves the others as they are.
  cases standing <;> cases place <;> first | exact told.elim | simp [Tells, cons]

/-- The claims that a plan tells of, list by list, are some of those it is for, in their order. -/
structure IsWithin (plan : MembershipPlan) (claims : List Claim) : Prop where
  members : (plan.members.map Member.claim).Sublist claims
  rejected : (plan.rejected.map Prod.fst).Sublist claims
  departed : plan.departed.Sublist claims

/-- A plan with one claim more tells of that claim first. -/
theorem IsWithin.cons {plan : MembershipPlan} {claims : List Claim} (within : plan.IsWithin claims)
    (claim : Claim) (standing : Standing) :
    (plan.cons claim standing).IsWithin (claim :: claims) := by
  obtain ⟨members, rejected, departed⟩ := within
  -- The claim is the first of one list at most, and the other lists pass over it.
  cases standing with
  | irrelevant | waiting => exact ⟨members.cons _, rejected.cons _, departed.cons _⟩
  | departed => exact ⟨members.cons _, rejected.cons _, departed.cons_cons _⟩
  | rejected => exact ⟨members.cons _, rejected.cons_cons _, departed.cons _⟩
  | member => exact ⟨members.cons_cons _, rejected.cons _, departed.cons _⟩

end MembershipPlan

/-- The driver's name for a volume is not empty. -/
theorem Volume.ne_empty_of_handle? {volume : Volume} {handle : String}
    (served : volume.handle? = some handle) : handle ≠ "" := by
  have filled := Option.filter_eq_some_iff.mp served
  simpa using filled.2

/-- A cluster lists these claims for the namespace of a group, where it is asked first. -/
def Group.Hears {σ : Type} (group : Group) (claims : List Claim)
    (respond : σ → (request : Call) → request.Answer × σ) (state : σ) : Prop :=
  ∀ space, group.metadata.namespace = some space →
    (respond state (.listClaims space)).1 = .ok claims

namespace Lookups

/-- What a plan comes to that takes claims one after another, up to the first that stands
nowhere. -/
inductive Plans (lookups : Lookups) (group : Group) (groups : List Group) :
    List Claim → Except MembershipError MembershipPlan → Prop where
  | nil : lookups.Plans group groups [] (.ok {})
  | placed {claim : Claim} {rest : List Claim} {standing : Standing} {plan : MembershipPlan}
    (places : lookups.Places group groups claim standing)
    (plans : lookups.Plans group groups rest (.ok plan)) :
    lookups.Plans group groups (claim :: rest) (.ok (plan.cons claim standing))
  | later {claim : Claim} {rest : List Claim} {standing : Standing} {error : MembershipError}
    (places : lookups.Places group groups claim standing)
    (plans : lookups.Plans group groups rest (.error error)) :
    lookups.Plans group groups (claim :: rest) (.error error)
  | failed {claim : Claim} {rest : List Claim} {error : MembershipError}
    (fails : lookups.Fails group groups claim error) :
    lookups.Plans group groups (claim :: rest) (.error error)

variable (lookups : Lookups) (group : Group) (groups : List Group)

/-- A plan tells of the claims exactly where each stands, in the order of their names. -/
structure Classifies (claims : List Claim) (plan : MembershipPlan) : Prop where
  /-- A claim stands at one place and at no other. -/
  placed : ∀ claim ∈ claims, ∃! standing, lookups.Places group groups claim standing
  departed : ∀ claim, claim ∈ plan.departed ↔
    claim ∈ claims ∧ lookups.Places group groups claim .departed
  rejected : ∀ claim cause, (claim, cause) ∈ plan.rejected ↔
    claim ∈ claims ∧ lookups.Places group groups claim (.rejected cause)
  members : ∀ claim volumeName volumeId, ⟨claim, volumeName, volumeId⟩ ∈ plan.members ↔
    claim ∈ claims ∧ lookups.Places group groups claim (.member volumeName volumeId)
  /-- The driver has a name for the volume of every member. -/
  served : ∀ volumeId ∈ plan.volumeIds, volumeId ≠ ""
  departedOrdered : (plan.departed.map (Resource.displayName (α := Claim))).Pairwise (· < ·)
  rejectedOrdered : (plan.rejected.map fun entry => Resource.displayName entry.1).Pairwise (· < ·)
  membersOrdered : plan.claimNames.Pairwise (· < ·)

/-- It cannot be told where a claim stands, and that claim is the first by name of its kind. -/
def FailsFirst (claims : List Claim) (error : MembershipError) : Prop :=
  ∃ claim ∈ claims, lookups.Fails group groups claim error ∧
    ∀ earlier ∈ claims, Resource.displayName earlier < Resource.displayName claim →
      ∀ other, ¬ lookups.Fails group groups earlier other

/-- What the result of a plan says of the claims that are listed. -/
def Decides (claims : List Claim) : Except MembershipError MembershipPlan → Prop
  | .ok plan => lookups.Classifies group groups claims plan
  -- No claims are listed for a group that belongs to no namespace.
  | .error error => (group.metadata.namespace = none ∧ error = .object .noNamespace) ∨
    lookups.FailsFirst group groups claims error

variable {lookups group groups}

/-- A plan for some claims comes to something. -/
theorem exists_plans (lookups : Lookups) (group : Group) (groups : List Group)
    (claims : List Claim) : ∃ result, lookups.Plans group groups claims result := by
  -- The induction goes along the claims, as the plan does.
  induction claims with
  | nil => exact ⟨_, .nil⟩
  | cons claim rest ih =>
    rcases lookups.places_or_fails group groups claim with ⟨standing, places⟩ | ⟨error, fails⟩
    · obtain ⟨result, plans⟩ := ih
      cases result with
      | ok plan => exact ⟨_, .placed places plans⟩
      | error error => exact ⟨_, .later places plans⟩
    · exact ⟨_, .failed fails⟩

/-- A plan that is made has found a place for every claim. -/
theorem Plans.places {claims : List Claim} {plan : MembershipPlan}
    (plans : lookups.Plans group groups claims (.ok plan)) :
    ∀ claim ∈ claims, ∃ standing, lookups.Places group groups claim standing := by
  -- The induction goes along the claims.
  induction claims generalizing plan with
  | nil => simp
  | cons first rest ih =>
    cases plans with
    | placed places plans =>
      intro claim known
      rcases List.mem_cons.mp known with rfl | known
      · exact ⟨_, places⟩
      · exact ih plans claim known

/-- A plan that is made tells of the claims in their own order. -/
theorem Plans.isWithin {claims : List Claim} {plan : MembershipPlan}
    (plans : lookups.Plans group groups claims (.ok plan)) : plan.IsWithin claims := by
  -- The induction goes along the claims, each of which joins one list at most.
  induction claims generalizing plan with
  | nil =>
    cases plans
    exact ⟨.slnil, .slnil, .slnil⟩
  | cons first rest ih =>
    cases plans with
    | placed _ plans => exact (ih plans).cons first _

/-- A plan that is not made has found a claim that stands nowhere, after claims that all stand
somewhere. -/
theorem Plans.exists_fails {claims : List Claim} {error : MembershipError}
    (plans : lookups.Plans group groups claims (.error error)) :
    ∃ before claim after, claims = before ++ claim :: after ∧
      lookups.Fails group groups claim error ∧
        ∀ earlier ∈ before, ∃ standing, lookups.Places group groups earlier standing := by
  -- The plan stops at the claim that fails, so each one in front of it has been placed.
  induction claims with
  | nil => cases plans
  | cons first rest ih =>
    cases plans with
    | failed fails => exact ⟨[], first, rest, rfl, fails, by simp⟩
    | later places plans =>
      obtain ⟨before, claim, after, rfl, fails, placed⟩ := ih plans
      refine ⟨first :: before, claim, after, rfl, fails, ?_⟩
      intro earlier known
      rcases List.mem_cons.mp known with rfl | known
      · exact ⟨_, places⟩
      · exact placed earlier known

section Runs

variable {σ : Type} {respond : σ → (request : Call) → request.Answer × σ}

/-- A group that belongs to no namespace has no plan. -/
theorem run_plan_of_lost (lost : group.metadata.namespace = none) (state : σ) :
    ((group.plan groups).run.run respond state).1 = .error (.object .noNamespace) := by
  rw [Group.plan, Group.namespace, lost]
  rfl

/-- What a group plans is what it plans for the claims that are listed, in the order of their
names. -/
theorem run_plan_of_listed {space : String} (inSpace : group.metadata.namespace = some space)
    {state : σ} {claims : List Claim}
    (listed : (respond state (.listClaims space)).1 = .ok claims) :
    ((group.plan groups).run.run respond state).1 =
      ((group.planFor groups (sortedByName claims)).run.run respond
        (respond state (.listClaims space)).2).1 := by
  -- The claims are listed by one call.
  have known : ((Attempt.within MembershipError.cluster
      (.of (.ask (.listClaims space)))).run.run respond state).1 = .ok claims :=
    congrArg (Except.mapError MembershipError.cluster) listed
  rw [Group.plan, Attempt.space_bind inSpace, Attempt.run_bind_ok known]
  rfl

/-- A group has no plan if the claims of its namespace cannot be listed. -/
theorem run_plan_of_unlisted {space : String} (inSpace : group.metadata.namespace = some space)
    {state : σ} {cause : ClusterError}
    (unlisted : (respond state (.listClaims space)).1 = .error cause) :
    ((group.plan groups).run.run respond state).1 = .error (.cluster cause) := by
  -- The listing fails, and so does the plan.
  have unknown : ((Attempt.within MembershipError.cluster
      (.of (.ask (.listClaims space)))).run.run respond state).1 = .error (.cluster cause) :=
    congrArg (Except.mapError MembershipError.cluster) unlisted
  rw [Group.plan, Attempt.space_bind inSpace, Attempt.run_bind_error unknown]

variable (answers : lookups.Answers respond)
include answers

/-- A run of a plan has the result that the plan comes to. -/
theorem Plans.comesTo {claims : List Claim} {result : Except MembershipError MembershipPlan}
    (plans : lookups.Plans group groups claims result) :
    Attempt.ComesTo respond (group.planFor groups claims) result := by
  -- One turn of the plan is one case, and what follows the turn is what the rest comes to.
  induction plans with
  | nil => exact .pure _
  | placed places _ ih => exact (places.comesTo answers).bind (ih.bind (.pure _))
  | later places _ ih => exact (places.comesTo answers).bind (ih.stop _)
  | failed fails => exact (fails.comesTo answers).stop _

/-- A claim stands at one place only. -/
theorem Places.unique (state : σ) {claim : Claim} {one other : Standing}
    (places : lookups.Places group groups claim one)
    (again : lookups.Places group groups claim other) : one = other :=
  Except.ok.inj ((places.comesTo answers state).symm.trans (again.comesTo answers state))

/-- A claim that stands somewhere can be told to. -/
theorem Places.not_fails (state : σ) {claim : Claim} {standing : Standing}
    (places : lookups.Places group groups claim standing) (error : MembershipError) :
    ¬ lookups.Fails group groups claim error := by
  intro fails
  -- Both describe the one result of the same run, which cannot be a value and an error.
  have same := (places.comesTo answers state).symm.trans (fails.comesTo answers state)
  cases same

/-- A plan that is made tells of the claims exactly where each stands. -/
theorem Plans.tells_iff (state : σ) {claims : List Claim} {plan : MembershipPlan}
    (plans : lookups.Plans group groups claims (.ok plan)) {claim : Claim} (standing : Standing)
    (told : standing.IsTold) : plan.Tells claim standing ↔
      claim ∈ claims ∧ lookups.Places group groups claim standing := by
  -- The induction goes along the claims, where the place of each is the only one it has.
  induction claims generalizing plan with
  | nil =>
    cases plans
    cases standing <;> simp [MembershipPlan.Tells]
  | cons first rest ih =>
    cases plans with
    | placed places plans =>
      rw [MembershipPlan.tells_cons told, ih plans, List.mem_cons]
      constructor
      · rintro (⟨rfl, rfl⟩ | ⟨known, stands⟩)
        · exact ⟨.inl rfl, places⟩
        · exact ⟨.inr known, stands⟩
      · rintro ⟨rfl | known, stands⟩
        · exact .inl ⟨rfl, stands.unique answers state places⟩
        · exact .inr ⟨known, stands⟩

/-- A plan that is made for claims in the order of their names tells exactly where each stands. -/
theorem Plans.classifies (state : σ) {claims : List Claim} {plan : MembershipPlan}
    (ordered : claims.Pairwise fun left right =>
      Resource.displayName left < Resource.displayName right)
    (plans : lookups.Plans group groups claims (.ok plan)) :
    lookups.Classifies group groups claims plan := by
  -- Each list is a part of the ordered claims, and so it is ordered as well.
  have within := plans.isWithin
  have members {claim : Claim} {volumeName volumeId : String} :
      ⟨claim, volumeName, volumeId⟩ ∈ plan.members ↔
        claim ∈ claims ∧ lookups.Places group groups claim (.member volumeName volumeId) :=
    plans.tells_iff answers state (.member volumeName volumeId) trivial
  refine ⟨?_, ?_, ?_, fun _ _ _ => members, ?_, ?_, ?_, ?_⟩
  · intro claim known
    obtain ⟨standing, places⟩ := plans.places claim known
    exact ⟨standing, places, fun other again => again.unique answers state places⟩
  · intro claim
    exact plans.tells_iff answers state .departed trivial
  · intro claim cause
    exact plans.tells_iff answers state (.rejected cause) trivial
  · intro volumeId known
    obtain ⟨member, planned, rfl⟩ := List.mem_map.mp known
    cases (members.mp planned).2 with
    | member _ _ _ served => exact Volume.ne_empty_of_handle? served
  · exact List.pairwise_map.mpr (ordered.sublist within.departed)
  · simpa [List.pairwise_map] using ordered.sublist within.rejected
  · simpa [MembershipPlan.claimNames, List.pairwise_map] using ordered.sublist within.members

/-- A plan that is not made for claims in the order of their names stops at the first that stands
nowhere. -/
theorem Plans.failsFirst (state : σ) {claims : List Claim} {error : MembershipError}
    (ordered : claims.Pairwise fun left right =>
      Resource.displayName left < Resource.displayName right)
    (plans : lookups.Plans group groups claims (.error error)) :
    lookups.FailsFirst group groups claims error := by
  obtain ⟨before, claim, after, rfl, fails, placed⟩ := plans.exists_fails
  refine ⟨claim, by simp, fails, ?_⟩
  intro earlier known less
  -- A claim of a smaller name comes before the one that stands nowhere.
  have follows := (List.pairwise_cons.mp (List.pairwise_append.mp ordered).2.1).1
  have first : earlier ∈ before := by
    rcases List.mem_append.mp known with first | rest
    · exact first
    · rcases List.mem_cons.mp rest with rfl | late
      · exact absurd less (String.lt_irrefl _)
      · exact absurd (String.lt_trans less (follows earlier late)) (String.lt_irrefl _)
  obtain ⟨standing, places⟩ := placed earlier first
  exact places.not_fails answers state

/-- A plan for claims in the order of their names decides on them. -/
theorem Plans.decides (state : σ) {claims : List Claim}
    {result : Except MembershipError MembershipPlan}
    (ordered : claims.Pairwise fun left right =>
      Resource.displayName left < Resource.displayName right)
    (plans : lookups.Plans group groups claims result) :
    lookups.Decides group groups claims result := by
  -- A plan either classifies the claims or it stops at the first that stands nowhere.
  cases result with
  | ok plan => exact plans.classifies answers state ordered
  | error error => exact .inr (plans.failsFirst answers state ordered)

/-- A group that belongs to a namespace plans for its claims in the order of their names. -/
theorem run_plan {space : String} (inSpace : group.metadata.namespace = some space)
    {claims : List Claim} {state : σ} (hears : group.Hears claims respond state)
    {result : Except MembershipError MembershipPlan}
    (plans : lookups.Plans group groups (sortedByName claims) result) :
    ((group.plan groups).run.run respond state).1 = result :=
  (run_plan_of_listed inSpace (hears space inSpace)).trans (plans.comesTo answers _)

end Runs

/-- Claims in the order of their names are the same in whatever order they were. -/
theorem sortedByName_eq_of_perm {claims others : List Claim}
    (distinct : (claims.map (Resource.displayName (α := Claim))).Nodup)
    (same : others.Perm claims) :
    sortedByName others = sortedByName claims := by
  -- Lists that strictly increase by name are equal once they have the same members.
  refine eq_of_named (Resource.displayName (α := Claim)) ?_ (pairwise_sortedByName distinct) ?_
  · exact pairwise_sortedByName ((same.map _).nodup_iff.mpr distinct)
  · intro claim
    rw [mem_sortedByName, mem_sortedByName, same.mem_iff]

/-- The same claims are decided on alike in whatever order they are listed. -/
theorem Decides.of_mem_iff {claims others : List Claim}
    (same : ∀ claim, claim ∈ others ↔ claim ∈ claims)
    {result : Except MembershipError MembershipPlan}
    (decides : lookups.Decides group groups others result) :
    lookups.Decides group groups claims result := by
  -- Neither the classes nor the first failure depend on anything but who is listed.
  cases result with
  -- The lists of the plan speak of the claims as a set.
  | ok plan =>
    obtain ⟨placed, departed, rejected, members, served, first, second, third⟩ := decides
    simp only [same] at placed departed rejected members
    exact ⟨placed, departed, rejected, members, served, first, second, third⟩
  | error error =>
    rcases decides with lost | ⟨claim, known, fails, first⟩
    · exact .inl lost
    · simp only [same] at known first
      exact .inr ⟨claim, known, fails, first⟩

/-- The result of a plan decides on the claims that the cluster lists, and it is the same on every
cluster that answers lookups alike and lists the same claims, in whatever order it lists them. -/
theorem plan_decides (lookups : Lookups) (group : Group) (groups : List Group) {claims : List Claim}
    (distinct : (claims.map (Resource.displayName (α := Claim))).Nodup) {σ : Type}
    {respond : σ → (request : Call) → request.Answer × σ} {state : σ}
    (answers : lookups.Answers respond) (hears : group.Hears claims respond state) :
    lookups.Decides group groups claims ((group.plan groups).run.run respond state).1 ∧
      ∀ {σ' : Type} {respond' : σ' → (request : Call) → request.Answer × σ'} {state' : σ'}
        {others : List Claim}, lookups.Answers respond' → group.Hears others respond' state' →
          others.Perm claims → ((group.plan groups).run.run respond' state').1 =
            ((group.plan groups).run.run respond state).1 := by
  -- Without a namespace there are no claims to plan for.
  cases inSpace : group.metadata.namespace with
  | none =>
    rw [run_plan_of_lost inSpace]
    exact ⟨.inl ⟨inSpace, rfl⟩, fun _ _ _ => run_plan_of_lost inSpace _⟩
  | some space =>
    obtain ⟨result, plans⟩ := lookups.exists_plans group groups (sortedByName claims)
    have ran := run_plan answers inSpace hears plans
    rw [ran]
    constructor
    · refine Decides.of_mem_iff (fun _ => mem_sortedByName) ?_
      exact plans.decides answers state (pairwise_sortedByName distinct)
    · intro σ' respond' state' others answers' hears' same
      -- What the plan comes to is about the sorted claims, which are the same ones.
      rw [← sortedByName_eq_of_perm distinct same] at plans
      exact run_plan answers' inSpace hears' plans

end Lookups

/-- What a store answers to lookups. -/
def Store.lookups (store : Store) : Lookups where
  volume name := store.get name ""
  storageClass name := store.get name ""

namespace Sample

/-- A claim that the group selects and that is bound to nothing yet. -/
def unbound : Claim where
  metadata := { claim.metadata with name := some "unbound" }

/-- A claim that the group selects and whose class of volumes groups them by itself. -/
def grouped : Claim where
  metadata := { claim.metadata with name := some "grouped" }
  spec := some { volumeName := some "volume", storageClassName := some "grouping" }

/-- A class of volumes that groups them by itself. -/
def grouping : StorageClass where
  metadata := { name := some "grouping" }
  provisioner := "driver"
  parameters := some (KeyMap.singleton storageClassGroupParameter "yes")

/-- The cluster with a class of volumes that groups them by itself. -/
def classed : Store := (stocked.save grouping).2

/-- A cluster that lists some claims in some order and answers all else as the store does. -/
def listing (claims : List Claim) (state : Unit) (request : Call) : request.Answer × Unit :=
  match request with
  | .listClaims _ => (.ok claims, state)
  | other => (classed.tells other, state)

/-- The plan of the group with one member, which tells of one claim that it is refused. -/
def planned : MembershipPlan where
  members := [⟨claim, "volume", "disk"⟩]
  rejected := [(grouped, .groupedByStorageClass "space/grouped" "grouping")]

/-- The three claims in the order of their names. -/
theorem sortedByName_three :
    sortedByName [unbound, grouped, claim] = [claim, grouped, unbound] := by
  refine eq_of_named (Resource.displayName (α := Claim)) ?_ (by decide +kernel) ?_
  · exact pairwise_sortedByName (by decide +kernel)
  · exact fun other => mem_sortedByName.trans (List.Perm.mem_iff (by decide +kernel))

/-- One claim is a member, one is refused and one waits. -/
theorem plans_three :
    classed.lookups.Plans group [group] [claim, grouped, unbound] (.ok planned) := by
  -- Each of the three is placed by a rule.
  have member : classed.lookups.Places group [group] claim (.member "volume" "disk") := by
    refine .member ⟨⟨rfl, rfl⟩, .inr ⟨rfl, ?_⟩⟩ rfl rfl rfl
    exact fun _ named => by cases named
  have refused : classed.lookups.Places group [group] grouped
      (.rejected (.groupedByStorageClass "space/grouped" "grouping")) :=
    .rejected ⟨rfl, rfl⟩ rfl (.grouped rfl rfl ⟨_, rfl, rfl⟩)
  have waits : classed.lookups.Places group [group] unbound .waiting := by
    refine .waiting ⟨⟨rfl, rfl⟩, .inr ⟨rfl, ?_⟩⟩ rfl
    exact fun _ named => by cases named
  exact .placed member (.placed refused (.placed waits .nil))

end Sample

/-- Three claims are placed as a member, as refused and as waiting, whichever is listed first. -/
theorem plan_decides_three :
    ((Sample.group.plan [Sample.group]).run.run
        (Sample.listing [Sample.unbound, Sample.grouped, Sample.claim]) ()).1 = .ok Sample.planned ∧
      Sample.classed.lookups.Classifies Sample.group [Sample.group]
        [Sample.unbound, Sample.grouped, Sample.claim] Sample.planned ∧
      ((Sample.group.plan [Sample.group]).run.run
        (Sample.listing [Sample.grouped, Sample.claim, Sample.unbound]) ()).1 =
          .ok Sample.planned := by
  have answers (claims : List Claim) : Sample.classed.lookups.Answers (Sample.listing claims) :=
    ⟨fun _ _ => rfl, fun _ _ => rfl⟩
  have hears (claims : List Claim) : Sample.group.Hears claims (Sample.listing claims) () :=
    fun _ _ => rfl
  -- The plan is derived by its rules, since sorting is not evaluated.
  have made : ((Sample.group.plan [Sample.group]).run.run
      (Sample.listing [Sample.unbound, Sample.grouped, Sample.claim]) ()).1 =
        .ok Sample.planned :=
    Lookups.run_plan (answers _) rfl (hears _) (Sample.sortedByName_three ▸ Sample.plans_three)
  obtain ⟨decides, alike⟩ := Sample.classed.lookups.plan_decides Sample.group [Sample.group]
    (by decide +kernel) (answers _) (hears [Sample.unbound, Sample.grouped, Sample.claim])
  rw [made] at decides alike
  exact ⟨made, decides, alike (answers _) (hears _) (by decide +kernel)⟩

end VolumeGroups
