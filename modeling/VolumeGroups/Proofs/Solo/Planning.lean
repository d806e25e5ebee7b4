import VolumeGroups.Proofs.Membership.Plan
import VolumeGroups.Proofs.Solo.Opening

/-! What a plan is as a function of the store: each claim of the namespace stands towards the group as
the store tells, and the lists of the plan are in the order of names. -/

namespace VolumeGroups

namespace Standing

/-- The member that a claim is. -/
def member? (claim : Claim) : Standing → Option Member
  | .member volumeName volumeId => some ⟨claim, volumeName, volumeId⟩
  | _ => none

/-- The refusal that a claim meets. -/
def refusal? (claim : Claim) : Standing → Option (Claim × Rejection)
  | .rejected cause => some (claim, cause)
  | _ => none

end Standing

namespace Store

variable {store : Store} {group : Group} {groups : List Group}

/-- Where a claim stands that its group takes as soon as it is bound. -/
def settles (store : Store) (claim : Claim) : Except MembershipError Standing :=
  (store.learns (boundVolume claim)).map fun
    | some (volumeName, volumeId) => .member volumeName volumeId
    | none => .waiting

/-- Where a claim stands that its group selects and does not list. -/
def admits (store : Store) (groups : List Group) (claim : Claim) :
    Except MembershipError Standing :=
  match checkExclusive claim groups with
  | .error cause => .ok (.rejected cause)
  | .ok () => (store.learns (storageClassGuard claim)).bind fun
    | some cause => .ok (.rejected cause)
    | none => store.settles claim

/-- Where a claim stands that its group does not want. -/
def spurned (group : Group) (claim : Claim) : Standing :=
  if group.lists claim then .departed else .irrelevant

/-- A member is not spurned. -/
theorem member_ne_spurned (group : Group) (claim : Claim) (volumeName volumeId : String) :
    Standing.member volumeName volumeId ≠ spurned group claim := by
  unfold spurned
  split <;> simp

/-- A claim that is refused is not spurned. -/
theorem rejected_ne_spurned (group : Group) (claim : Claim) (cause : Rejection) :
    Standing.rejected cause ≠ spurned group claim := by
  unfold spurned
  split <;> simp

/-- A claim that is wanted stays if it is listed, and has to be admitted if not. -/
theorem learns_standing_of_wants {claim : Claim} (wants : group.Wants claim) :
    store.learns (group.standing groups claim) =
      if group.lists claim then store.settles claim else store.admits groups claim := by
  -- A wanted claim is live and selected.
  obtain ⟨live, selected⟩ := wants
  -- Both ways end in the question whether the claim is bound.
  have settles : store.learns (do
      match ← boundVolume claim with
      | some (volumeName, volumeId) => return .member volumeName volumeId
      | none => return .waiting) = store.settles claim := by
    rw [learns_bind, Store.settles]
    cases store.learns (boundVolume claim) with
    | error error => rfl
    | ok bound => cases bound <;> rfl
  unfold Group.standing
  rw [live, selected]
  -- A listed claim is not guarded any more; any other has to pass both guards.
  cases listed : group.lists claim with
  | true => exact settles
  | false =>
    cases exclusive : checkExclusive claim groups with
    | error cause => simp [Store.admits, exclusive, Except.bind]
    | ok =>
      change store.learns (storageClassGuard claim >>= _) = store.admits groups claim
      rw [learns_bind, Store.admits, exclusive]
      cases store.learns (storageClassGuard claim) with
      | error error => rfl
      | ok refusal =>
        cases refusal with
        | some cause => rfl
        | none => exact settles

/-- A claim that is not wanted departs if it is listed. -/
theorem learns_standing_of_not_wants {claim : Claim} (unwanted : ¬ group.Wants claim)
    (clear : claim.metadata.isTerminating = true ∨ ∃ selected, group.selects claim = .ok selected) :
    store.learns (group.standing groups claim) = .ok (spurned group claim) := by
  -- The claim ends or is not selected, and in both cases only the list matters.
  unfold Group.standing spurned
  cases ending : claim.metadata.isTerminating with
  | true => cases listed : group.lists claim <;> rfl
  | false =>
    obtain ⟨selected, selects⟩ := clear.resolve_left (by simp [ending])
    cases selected with
    | true => exact absurd ⟨ending, selects⟩ unwanted
    | false =>
      rw [selects]
      cases listed : group.lists claim <;> rfl

/-- Where a claim stands can only be told if its labels can be matched, unless it is being deleted. -/
theorem clear_of_learns_standing {claim : Claim} {standing : Standing}
    (learnt : store.learns (group.standing groups claim) = .ok standing) :
    claim.metadata.isTerminating = true ∨ ∃ selected, group.selects claim = .ok selected := by
  -- Labels are looked at only if the claim does not end.
  cases ending : claim.metadata.isTerminating with
  | true => exact .inl rfl
  | false =>
    cases selects : group.selects claim with
    | ok selected => exact .inr ⟨selected, rfl⟩
    | error error =>
      unfold Group.standing at learnt
      rw [ending, selects] at learnt
      simp [Except.bind] at learnt

/-- Where a claim stands towards a group as the store tells, nowhere if that cannot be told. -/
def stands (store : Store) (group : Group) (groups : List Group) (claim : Claim) : Standing :=
  (store.learns (group.standing groups claim)).toOption.getD .irrelevant

/-- A plan for some claims says of each where it stands, in the order of the claims. -/
structure Plans (store : Store) (group : Group) (groups : List Group) (claims : List Claim)
    (plan : MembershipPlan) : Prop where
  -- Every claim could be placed.
  placed : ∀ claim ∈ claims, ∃ standing, store.learns (group.standing groups claim) = .ok standing
  -- Each list of the plan has the claims that stand so, in their order.
  members : plan.members =
    claims.filterMap fun claim => (store.stands group groups claim).member? claim
  rejected : plan.rejected =
    claims.filterMap fun claim => (store.stands group groups claim).refusal? claim
  departed : plan.departed =
    claims.filter fun claim => store.stands group groups claim = .departed

/-- What is learnt of a claim is where it stands. -/
theorem stands_of_learns {claim : Claim} {standing : Standing}
    (learnt : store.learns (group.standing groups claim) = .ok standing) :
    store.stands group groups claim = standing := by
  simp [stands, learnt, Except.toOption]

/-- A plan with one claim more says where that claim stands. -/
theorem Plans.cons {claim : Claim} {rest : List Claim} {plan : MembershipPlan}
    {standing : Standing} (plans : store.Plans group groups rest plan)
    (learnt : store.learns (group.standing groups claim) = .ok standing) :
    store.Plans group groups (claim :: rest) (plan.cons claim standing) := by
  -- The other claims stand where they stood.
  have here := stands_of_learns learnt
  obtain ⟨placed, members, rejected, departed⟩ := plans
  refine ⟨?_, ?_, ?_, ?_⟩
  · intro other known
    rcases List.mem_cons.mp known with rfl | known
    · exact ⟨standing, learnt⟩
    · exact placed other known
  -- Each list grows by the new claim if that stands so, and otherwise stays.
  all_goals
    cases standing <;>
      simp [here, members, rejected, departed, MembershipPlan.cons, Standing.member?,
        Standing.refusal?]

/-- A plan that is learnt says of each claim where it stands. -/
theorem plans_of_learns {claims : List Claim} {plan : MembershipPlan}
    (learnt : store.learns (group.planFor groups claims) = .ok plan) :
    store.Plans group groups claims plan := by
  -- The induction goes along the claims, as the plan does.
  induction claims generalizing plan with
  | nil =>
    obtain rfl : ({} : MembershipPlan) = plan := Except.ok.inj learnt
    exact ⟨by simp, rfl, rfl, rfl⟩
  | cons claim rest ih =>
    simp only [Group.planFor, learns_bind] at learnt
    -- The claim is placed first, and then the rest.
    cases first : store.learns (group.standing groups claim) with
    | error error => simp [first, Except.bind] at learnt
    | ok standing =>
      cases others : store.learns (group.planFor groups rest) with
      | error error => simp [first, others, Except.bind] at learnt
      | ok sofar =>
        obtain rfl : sofar.cons claim standing = plan := by
          simpa [first, others, Except.bind] using learnt
        exact (ih others).cons first

/-- A plan is learnt if it can be told of each claim where it stands. -/
theorem exists_learns_planFor {claims : List Claim}
    (placed : ∀ claim ∈ claims, ∃ standing,
      store.learns (group.standing groups claim) = .ok standing) :
    ∃ plan, store.learns (group.planFor groups claims) = .ok plan := by
  -- The induction goes along the claims, as the plan does.
  induction claims with
  | nil => exact ⟨{}, rfl⟩
  | cons claim rest ih =>
    obtain ⟨standing, first⟩ := placed claim (List.mem_cons_self ..)
    obtain ⟨plan, others⟩ := ih fun other known => placed other (List.mem_cons_of_mem _ known)
    exact ⟨plan.cons claim standing, by simp [Group.planFor, first, others, Except.bind, Except.map]⟩

/-- A plan for a namespace is one for its claims in the order of their names. -/
theorem learns_plan {space : String} (inSpace : group.metadata.namespace = some space) :
    store.learns (group.plan groups) =
      store.learns (group.planFor groups (sortedByName (store.list space))) := by
  have told : store.learns (.of (.ask (.listClaims space))) =
      (.ok (store.list space) : Except ClusterError (List Claim)) := rfl
  rw [Group.plan, Attempt.space_bind inSpace, learns_bind, learns_within, told]
  rfl

end Store

/-- The selector of a group makes sense. -/
def Group.IsSensible (group : Group) : Prop := ∃ tests, group.selector.tests = .ok tests

/-- Whether a group selects a claim is known if its selector makes sense. -/
theorem Group.IsSensible.selects {group : Group} (sensible : group.IsSensible) (claim : Claim) :
    ∃ selected, group.selects claim = .ok selected := by
  obtain ⟨tests, known⟩ := sensible
  unfold Group.selects
  split
  · exact ⟨false, rfl⟩
  · exact ⟨_, by rw [LabelSelector.matchesLabels, known]; rfl⟩

namespace Store

/-- Every claim of a namespace that is bound is bound to a volume that a driver serves. -/
def Backs (store : Store) (space : String) : Prop :=
  ∀ {key name : String} {claim : Claim}, store.find? key = some claim →
    claim.metadata.namespace = some space → claim.volumeName? = some name →
      ∃ volume : Volume, store.get name "" = .ok volume ∧ volume.handle?.isSome = true

variable {store : Store} {group : Group} {groups : List Group} {claim : Claim}

/-- The volume of a claim can be told if a driver serves it. -/
theorem exists_settles (backed : ∀ name, claim.volumeName? = some name →
    ∃ volume : Volume, store.get name "" = .ok volume ∧ volume.handle?.isSome = true) :
    ∃ standing, store.settles claim = .ok standing := by
  unfold settles boundVolume
  -- A claim that is not bound waits.
  cases bound : claim.volumeName? with
  | none => exact ⟨.waiting, rfl⟩
  | some name =>
    obtain ⟨volume, found, served⟩ := backed name bound
    obtain ⟨handle, handled⟩ := Option.isSome_iff_exists.mp served
    have told : store.learns (.of (.ask (.getVolume name))) =
        (.ok volume : Except ClusterError Volume) := found
    refine ⟨.member name handle, ?_⟩
    simp only [learns_bind, learns_within, told, mapError_ok, Except.bind, handled]
    rfl

/-- Whether its class of volumes speaks against a claim can always be told. -/
theorem exists_learns_storageClassGuard (store : Store) (claim : Claim) :
    ∃ refusal, store.learns (storageClassGuard claim) = .ok refusal := by
  unfold storageClassGuard
  -- A class that is not there says nothing against a claim.
  cases claim.storageClassName? with
  | none => exact ⟨none, rfl⟩
  | some name =>
    have told : store.learns (.of (.ask (.getStorageClass name))) =
        (store.get name "" : Except ClusterError StorageClass) := rfl
    simp only [learns_bind, learns_outcome, told, Except.bind, get]
    cases store.find? (α := StorageClass) ("" ++ "/" ++ name) with
    | some storageClass =>
      simp only
      split
      · exact ⟨_, rfl⟩
      · exact ⟨_, rfl⟩
    | none => exact ⟨none, rfl⟩

/-- A claim can be placed if the selector makes sense and the claim's volume can be told. -/
theorem exists_learns_standing (sensible : group.IsSensible)
    (backed : ∀ name, claim.volumeName? = some name →
      ∃ volume : Volume, store.get name "" = .ok volume ∧ volume.handle?.isSome = true) :
    ∃ standing, store.learns (group.standing groups claim) = .ok standing := by
  -- Whatever is asked on the way has an answer.
  obtain ⟨standing, settled⟩ := exists_settles backed
  by_cases wants : group.Wants claim
  · rw [learns_standing_of_wants wants]
    split
    · exact ⟨standing, settled⟩
    · -- A refusal is an answer as well, so no guard keeps the claim from being placed.
      unfold admits
      cases checkExclusive claim groups with
      | error cause => exact ⟨_, rfl⟩
      | ok =>
        obtain ⟨refusal, learnt⟩ := exists_learns_storageClassGuard store claim
        simp only [learnt, Except.bind]
        cases refusal with
        | some cause => exact ⟨_, rfl⟩
        | none => exact ⟨standing, settled⟩
  · exact ⟨_, learns_standing_of_not_wants wants (.inr (sensible.selects claim))⟩

/-- A group can plan if its selector makes sense and bound claims have volumes that a driver serves. -/
theorem Backs.exists_plan {space : String} (backs : store.Backs space)
    (inSpace : group.metadata.namespace = some space) (sensible : group.IsSensible) :
    ∃ plan, store.learns (group.plan groups) = .ok plan := by
  rw [learns_plan inSpace]
  refine exists_learns_planFor fun claim known => ?_
  obtain ⟨⟨key, found⟩, room⟩ := mem_list.mp (mem_sortedByName.mp known)
  exact exists_learns_standing sensible fun name bound => backs found room bound

end Store

/-- Lists in the order of some names are the same if they have the same members. -/
theorem eq_of_named {α : Type} {first second : List α} (name : α → String)
    (one : first.Pairwise fun left right => name left < name right)
    (other : second.Pairwise fun left right => name left < name right)
    (same : ∀ item, item ∈ first ↔ item ∈ second) : first = second := by
  -- In a strict order nothing occurs twice.
  have distinct {items : List α}
      (ordered : items.Pairwise fun left right => name left < name right) : items.Nodup := by
    refine ordered.imp ?_
    rintro left _ less rfl
    exact String.lt_irrefl _ less
  refine ((List.perm_ext_iff_of_nodup (distinct one) (distinct other)).mpr same).eq_of_pairwise ?_
    one other
  -- Two orders of the same members by name cannot differ.
  intro left right _ _ less more
  exact absurd (String.lt_trans less more) (String.lt_irrefl _)

/-- Claims of distinct names are sorted in the strict order of their names. -/
theorem pairwise_sortedByName {claims : List Claim}
    (distinct : (claims.map (Resource.displayName (α := Claim))).Nodup) :
    (sortedByName claims).Pairwise fun left right =>
      Resource.displayName left < Resource.displayName right := by
  -- Sorting puts the names in order, and distinct names make the order strict.
  have sorted : (sortedByName claims).Pairwise fun left right => !right.precedes left :=
    List.pairwise_mergeSort Claim.not_precedes_trans Claim.not_precedes_total claims
  have differ : (sortedByName claims).Pairwise fun left right =>
      Resource.displayName left ≠ Resource.displayName right := by
    rw [List.Nodup, List.pairwise_map] at distinct
    exact (List.mergeSort_perm _ _).symm.pairwise distinct fun apart => apart.symm
  refine (sorted.and differ).imp ?_
  rintro left right ⟨less, apart⟩
  have less : Resource.displayName left ≤ Resource.displayName right := by
    simpa only [Claim.precedes, Bool.not_eq_true', decide_eq_false_iff_not, String.not_lt] using less
  exact Classical.byContradiction fun wrong =>
    apart (String.le_antisymm less (String.not_lt.mp wrong))

/-- The claims of a namespace are in the strict order of their names. -/
theorem Store.Tidy.ordered {store : Store} (tidy : store.Tidy) (space : String) :
    (sortedByName (store.list space)).Pairwise fun left right =>
      Resource.displayName left < Resource.displayName right := by
  refine pairwise_sortedByName ?_
  have keys := tidy.claims.nodup_list space
  rw [List.Nodup, List.pairwise_map] at keys ⊢
  refine keys.imp_of_mem ?_
  intro left right knownLeft knownRight apart same
  -- Claims of one namespace with one name have one key.
  obtain ⟨⟨one, foundOne⟩, spaceOne⟩ := Store.mem_list.mp knownLeft
  obtain ⟨⟨other, foundOther⟩, spaceOther⟩ := Store.mem_list.mp knownRight
  refine apart (Metadata.key_eq (spaceOne.trans spaceOther.symm) ?_)
  exact (tidy.claim_name foundOne same).trans (tidy.claim_name foundOther rfl).symm

/-- What a plan says of a member: its name, its volume and the driver's name for that. -/
def Member.entry (member : Member) : String × String × String :=
  (Resource.displayName member.claim, member.volumeName, member.volumeId)

namespace MembershipPlan

/-- Another plan has the same members with the same volumes, and the same refusals. -/
structure Agrees (plan other : MembershipPlan) : Prop where
  entries : other.members.map Member.entry = plan.members.map Member.entry
  rejected : other.rejected = plan.rejected

namespace Agrees

variable {plan other : MembershipPlan} (agrees : plan.Agrees other)
include agrees

/-- Plans that agree name the same members. -/
theorem claimNames : other.claimNames = plan.claimNames := by
  simpa [MembershipPlan.claimNames, Member.entry, Function.comp_def] using
    congrArg (List.map Prod.fst) agrees.entries

/-- Plans that agree name the same volumes. -/
theorem volumeNames : other.volumeNames = plan.volumeNames := by
  simpa [MembershipPlan.volumeNames, Member.entry, Function.comp_def] using
    congrArg (List.map (Prod.fst ∘ Prod.snd)) agrees.entries

/-- Plans that agree name the same volumes to the driver. -/
theorem volumeIds : other.volumeIds = plan.volumeIds := by
  simpa [MembershipPlan.volumeIds, Member.entry, Function.comp_def] using
    congrArg (List.map (Prod.snd ∘ Prod.snd)) agrees.entries

/-- Plans that agree refuse with the same words. -/
theorem rejectionMessage : other.rejectionMessage = plan.rejectionMessage := by
  rw [MembershipPlan.rejectionMessage, MembershipPlan.rejectionMessage, agrees.rejected]

end Agrees

/-- A plan agrees with itself. -/
theorem Agrees.refl (plan : MembershipPlan) : plan.Agrees plan := ⟨rfl, rfl⟩

end MembershipPlan

namespace Store

/-- A group of a tidy store plans for the claims of its namespace. -/
structure Intends (store : Store) (group : Group) (space : String) (plan : MembershipPlan) :
    Prop where
  tidy : store.Tidy
  found : store.find? (Resource.key group) = some group
  inSpace : group.metadata.namespace = some space
  planned : store.learns (group.plan (store.list space)) = .ok plan

namespace Intends

variable {store : Store} {group : Group} {space : String} {plan : MembershipPlan}
  (intends : store.Intends group space plan)
include intends

/-- The plan is one for the claims in the order of their names. -/
theorem plans :
    store.Plans group (store.list space) (sortedByName (store.list space)) plan :=
  plans_of_learns ((learns_plan intends.inSpace).symm.trans intends.planned)

/-- A claim that something is planned for stands where the plan says. -/
theorem stands_iff {claim : Claim} {standing : Standing} :
    claim ∈ sortedByName (store.list space) ∧
        store.stands group (store.list space) claim = standing ↔
      ((∃ key, store.find? key = some claim) ∧ claim.metadata.namespace = some space) ∧
        store.learns (group.standing (store.list space) claim) = .ok standing := by
  -- Sorting loses no claim and adds none.
  have stored : claim ∈ sortedByName (store.list space) ↔
      (∃ key, store.find? key = some claim) ∧ claim.metadata.namespace = some space :=
    mem_sortedByName.trans mem_list
  constructor
  · rintro ⟨known, stands⟩
    obtain ⟨own, learnt⟩ := intends.plans.placed claim known
    exact ⟨stored.mp known, (stands_of_learns learnt).symm.trans stands ▸ learnt⟩
  · rintro ⟨known, learnt⟩
    exact ⟨stored.mpr known, stands_of_learns learnt⟩

/-- The members are the claims that the group has. -/
theorem mem_members {member : Member} : member ∈ plan.members ↔
    ((∃ key, store.find? key = some member.claim) ∧ member.claim.metadata.namespace = some space) ∧
      store.learns (group.standing (store.list space) member.claim) =
        .ok (.member member.volumeName member.volumeId) := by
  -- A claim is a member exactly if it stands as one.
  rw [intends.plans.members, List.mem_filterMap, ← intends.stands_iff]
  constructor
  · rintro ⟨claim, known, named⟩
    cases stands : store.stands group (store.list space) claim with
    | member volumeName volumeId =>
      simp only [stands, Standing.member?, Option.some.injEq] at named
      subst named
      exact ⟨known, stands⟩
    | irrelevant | departed | rejected | waiting => simp [stands, Standing.member?] at named
  · rintro ⟨known, stands⟩
    exact ⟨member.claim, known, by rw [stands]; rfl⟩

/-- The refused claims are those that the group may not take. -/
theorem mem_rejected {claim : Claim} {cause : Rejection} : (claim, cause) ∈ plan.rejected ↔
    ((∃ key, store.find? key = some claim) ∧ claim.metadata.namespace = some space) ∧
      store.learns (group.standing (store.list space) claim) = .ok (.rejected cause) := by
  -- A claim is refused exactly if it stands so.
  rw [intends.plans.rejected, List.mem_filterMap, ← intends.stands_iff]
  constructor
  · rintro ⟨other, known, named⟩
    cases stands : store.stands group (store.list space) other with
    | rejected reason =>
      simp only [stands, Standing.refusal?, Option.some.injEq, Prod.mk.injEq] at named
      obtain ⟨rfl, rfl⟩ := named
      exact ⟨known, stands⟩
    | irrelevant | departed | member | waiting => simp [stands, Standing.refusal?] at named
  · rintro ⟨known, stands⟩
    exact ⟨claim, known, by rw [stands]; rfl⟩

/-- The claims that depart are those that the group lists and does not want. -/
theorem mem_departed {claim : Claim} : claim ∈ plan.departed ↔
    ((∃ key, store.find? key = some claim) ∧ claim.metadata.namespace = some space) ∧
      store.learns (group.standing (store.list space) claim) = .ok .departed := by
  rw [intends.plans.departed, List.mem_filter, ← intends.stands_iff]
  simp

/-- The members are in the order of their names. -/
theorem entries_ordered : (plan.members.map Member.entry).Pairwise fun left right =>
    left.1 < right.1 := by
  rw [List.pairwise_map, intends.plans.members, List.pairwise_filterMap]
  refine (intends.tidy.ordered space).imp ?_
  intro left right less one named other otherNamed
  -- A member goes by the name of its claim.
  have own {claim : Claim} {standing : Standing} {member : Member}
      (named : standing.member? claim = some member) : member.claim = claim := by
    cases standing <;> cases named
    rfl
  rw [Member.entry, Member.entry, own named, own otherNamed]
  exact less

/-- The refused claims are in the order of their names. -/
theorem rejected_ordered : plan.rejected.Pairwise fun left right =>
    Resource.displayName left.1 < Resource.displayName right.1 := by
  -- Refused claims come in the order of the sorted claims.
  rw [intends.plans.rejected, List.pairwise_filterMap]
  refine (intends.tidy.ordered space).imp ?_
  intro left right less one named other otherNamed
  have own {claim : Claim} {standing : Standing} {refusal : Claim × Rejection}
      (named : standing.refusal? claim = some refusal) : refusal.1 = claim := by
    cases standing <;> cases named
    rfl
  rw [own named, own otherNamed]
  exact less

/-- A claim that something is planned for lies under its key. -/
theorem found_of_stands {claim : Claim} {standing : Standing}
    (stands : ((∃ key, store.find? key = some claim) ∧ claim.metadata.namespace = some space) ∧
      store.learns (group.standing (store.list space) claim) = .ok standing) :
    store.find? (Resource.key claim) = some claim := by
  obtain ⟨⟨⟨key, found⟩, _⟩, _⟩ := stands
  exact (intends.tidy.claims.placed found).symm ▸ found

/-- Claims that stand in different places lie under different keys. -/
theorem apart_of_stands {one other : Claim} {first second : Standing}
    (stands : ((∃ key, store.find? key = some one) ∧ one.metadata.namespace = some space) ∧
      store.learns (group.standing (store.list space) one) = .ok first)
    (otherStands : ((∃ key, store.find? key = some other) ∧ other.metadata.namespace = some space) ∧
      store.learns (group.standing (store.list space) other) = .ok second)
    (differ : first ≠ second) : Resource.key one ≠ Resource.key other := by
  -- Under one key there is one claim, which stands in one place.
  intro same
  have found := intends.found_of_stands stands
  rw [same, intends.found_of_stands otherStands] at found
  obtain rfl := Option.some.inj found
  exact differ (Except.ok.inj (stands.2.symm.trans otherStands.2))

/-- Members lie under their keys. -/
theorem found_member {claim : Claim} (known : claim ∈ plan.members.map Member.claim) :
    store.find? (Resource.key claim) = some claim := by
  obtain ⟨member, planned, rfl⟩ := List.mem_map.mp known
  exact intends.found_of_stands (intends.mem_members.mp planned)

/-- Claims that depart lie under their keys. -/
theorem found_departed {claim : Claim} (departs : claim ∈ plan.departed) :
    store.find? (Resource.key claim) = some claim :=
  intends.found_of_stands (intends.mem_departed.mp departs)

/-- Members are not refused. -/
theorem member_apart_rejected {claim : Claim} (known : claim ∈ plan.members.map Member.claim)
    {entry : Claim × Rejection} (refused : entry ∈ plan.rejected) :
    Resource.key claim ≠ Resource.key entry.1 := by
  obtain ⟨member, planned, rfl⟩ := List.mem_map.mp known
  exact intends.apart_of_stands (intends.mem_members.mp planned) (intends.mem_rejected.mp refused)
    (by simp)

/-- Claims that depart are not refused. -/
theorem departed_apart_rejected {claim : Claim} (departs : claim ∈ plan.departed)
    {entry : Claim × Rejection} (refused : entry ∈ plan.rejected) :
    Resource.key claim ≠ Resource.key entry.1 :=
  intends.apart_of_stands (intends.mem_departed.mp departs) (intends.mem_rejected.mp refused)
    (by simp)

/-- Members do not depart. -/
theorem member_apart_departed {claim other : Claim} (known : claim ∈ plan.members.map Member.claim)
    (departs : other ∈ plan.departed) : Resource.key claim ≠ Resource.key other := by
  obtain ⟨member, planned, rfl⟩ := List.mem_map.mp known
  exact intends.apart_of_stands (intends.mem_members.mp planned) (intends.mem_departed.mp departs)
    (by simp)

/-- Members lie under distinct keys. -/
theorem members_distinct : ((plan.members.map Member.claim).map Resource.key).Nodup := by
  have ordered := intends.entries_ordered
  rw [List.pairwise_map] at ordered
  rw [List.map_map, List.Nodup, List.pairwise_map]
  -- Members are in strict order of their names, so no two of them are one claim.
  refine ordered.imp_of_mem ?_
  intro left right knownLeft knownRight less same
  have found := intends.found_of_stands (intends.mem_members.mp knownLeft)
  simp only [Function.comp] at same
  rw [same, intends.found_of_stands (intends.mem_members.mp knownRight)] at found
  simp only [Member.entry, Option.some.inj found] at less
  exact String.lt_irrefl _ less

/-- Claims that depart lie under distinct keys. -/
theorem departed_distinct : (plan.departed.map Resource.key).Nodup := by
  have keys : ((sortedByName (store.list space)).map (Resource.key (α := Claim))).Nodup :=
    ((List.mergeSort_perm _ _).map _).symm.nodup (intends.tidy.claims.nodup_list space)
  rw [intends.plans.departed]
  exact keys.sublist (List.filter_sublist.map _)

end Intends

end Store

end VolumeGroups
