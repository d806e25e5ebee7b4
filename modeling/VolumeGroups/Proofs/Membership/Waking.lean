import VolumeGroups.Proofs.Membership.Classification
import VolumeGroups.Proofs.Operator.Acted
import VolumeGroups.Watch

/-! The groups that are woken for a claim are all that may plan otherwise with it than without it. -/

namespace VolumeGroups

section

variable {group : Group} {groups : List Group} {claim : Claim}

/-- A group that a claim does not concern neither lists the claim nor selects it. -/
theorem Group.spurns_of_unconcerned (aside : group.concerns claim = false) :
    group.lists claim = false ∧ group.selects claim = .ok false := by
  by_cases same : claim.metadata.namespace = group.metadata.namespace
  · cases selects : group.selects claim with
    | ok selected => cases selected <;> simp_all [Group.concerns]
    | error cause => simp_all [Group.concerns]
  · -- What is in another namespace is neither listed nor selected.
    exact ⟨by simp [Group.lists, same], by simp [Group.selects, same]⟩

/-- A group that lists a claim, selects it or cannot tell whether it does is concerned by it. -/
theorem Group.concerns_of_regards
    (regards : group.lists claim = true ∨ group.selects claim ≠ .ok false) :
    group.concerns claim = true := by
  -- A group that is not concerned neither lists the claim nor selects it.
  cases concerned : group.concerns claim with
  | true => rfl
  | false =>
    obtain ⟨unlisted, unselected⟩ := Group.spurns_of_unconcerned concerned
    exact regards.elim (by simp [unlisted]) (absurd unselected)

/-- A claim that does not concern a group has no place there, and nothing is read to tell so. -/
theorem Group.standing_of_unconcerned (aside : group.concerns claim = false) :
    group.standing groups claim = pure .irrelevant := by
  obtain ⟨unlisted, unselected⟩ := Group.spurns_of_unconcerned aside
  unfold Group.standing
  rw [unlisted, unselected]
  cases claim.metadata.isTerminating <;> rfl

/-- The claims that do not concern a group may be left out of its plan. -/
theorem Group.planFor_filter (group : Group) (groups : List Group) (claims : List Claim) :
    group.planFor groups (claims.filter group.concerns) = group.planFor groups claims := by
  induction claims with
  | nil => rfl
  | cons claim rest ih =>
    rw [List.filter_cons]
    split
    · simp only [Group.planFor, ih]
    · rename_i aside
      rw [ih, Group.planFor, Group.standing_of_unconcerned (by simpa using aside), pure_bind]
      -- A claim without a place is in none of the plan's lists.
      exact (bind_pure _).symm

/-- A claim that does not concern a group may be left out before the claims are sorted. -/
theorem Group.planFor_without (aside : group.concerns claim = false) (before after : List Claim) :
    group.planFor groups (sortedByName (before ++ claim :: after)) =
      group.planFor groups (sortedByName (before ++ after)) := by
  -- The claim is dropped by the filter.
  have left : (before ++ claim :: after).filter group.concerns =
      (before ++ after).filter group.concerns := by
    simp [List.filter_append, aside]
  rw [← Group.planFor_filter, ← sortedByName_filter, left, sortedByName_filter,
    Group.planFor_filter]

/-- Two answers to a count of claims are the same, except that the second may miss one claim. -/
inductive Claim.MissesFrom (claim : Claim) :
    Except ClusterError (List Claim) → Except ClusterError (List Claim) → Prop where
  | same (answer : Except ClusterError (List Claim)) : claim.MissesFrom answer answer
  | missing (before after : List Claim) :
    claim.MissesFrom (.ok (before ++ claim :: after)) (.ok (before ++ after))

/-- Two clusters are the same for a plan, except that one claim is there in the first only. -/
structure Claim.IsLeftOut {σ : Type} (claim : Claim)
    (full scant : σ → (request : Call) → request.Answer × σ) : Prop where
  lists : ∀ state space,
    claim.MissesFrom (full state (.listClaims space)).1 (scant state (.listClaims space)).1
  listed : ∀ state space, (full state (.listClaims space)).2 = (scant state (.listClaims space)).2
  looks : ∀ state request, request.IsPeek → full state request = scant state request

namespace Claim.IsLeftOut

variable {σ : Type} {full scant : σ → (request : Call) → request.Answer × σ}

/-- What only peeks does the same whether the claim is there or not. -/
theorem run_onlyLooks (leftOut : claim.IsLeftOut full scant) {α : Type} {gives : α → Prop}
    {program : Program α} (peeks : program.Asks Call.IsPeek gives) (state : σ) :
    program.run full state = program.run scant state := by
  -- A peek does not ask for claims.
  have answered {state other : σ} (request : Call) (peek : request.IsPeek) (same : state = other) :
      (full state request).1 = (scant other request).1 ∧
        (full state request).2 = (scant other request).2 := by
    rw [← same, leftOut.looks state request peek]
    exact ⟨rfl, rfl⟩
  obtain ⟨result, -, ended⟩ := peeks.run_match answered rfl
  exact Prod.ext result ended

/-- A group that a claim does not concern plans the same whether the claim is there or not. -/
theorem run_plan (leftOut : claim.IsLeftOut full scant) (aside : group.concerns claim = false)
    (state : σ) :
    ((group.plan groups).run.run full state).1 = ((group.plan groups).run.run scant state).1 := by
  -- Without a namespace there is no plan either way.
  cases inSpace : group.metadata.namespace with
  | none => rw [Lookups.run_plan_of_lost inSpace, Lookups.run_plan_of_lost inSpace]
  | some space =>
    have listed := leftOut.listed state space
    generalize known : (full state (.listClaims space)).1 = answer
    generalize counted : (scant state (.listClaims space)).1 = count
    have lists := leftOut.lists state space
    rw [known, counted] at lists
    cases lists with
    -- The listing is the same.
    | same =>
      cases answer with
      | error cause =>
        rw [Lookups.run_plan_of_unlisted inSpace known, Lookups.run_plan_of_unlisted inSpace counted]
      | ok claims =>
        rw [Lookups.run_plan_of_listed inSpace known, Lookups.run_plan_of_listed inSpace counted,
          leftOut.run_onlyLooks (Attempt.asks_planFor ..), listed]
    | missing before after =>
      -- The plan goes over the same claims once those are dropped that do not concern the group.
      rw [Lookups.run_plan_of_listed inSpace known, Lookups.run_plan_of_listed inSpace counted,
        Group.planFor_without aside, leftOut.run_onlyLooks (Attempt.asks_planFor ..), listed]

end Claim.IsLeftOut

end

/-- Where groups are found that have names, in their own order. -/
theorem mapM_address? {groups : List Group} (named : ∀ group ∈ groups, group.metadata.name.isSome) :
    groups.mapM Group.address? =
      some (groups.map fun group => ⟨group.name, group.metadata.namespace⟩) := by
  -- The induction goes along the groups.
  induction groups with
  | nil => rfl
  | cons group rest ih =>
    obtain ⟨name, known⟩ := Option.isSome_iff_exists.mp (named group (List.mem_cons_self ..))
    have others := ih fun other member => named other (List.mem_cons_of_mem _ member)
    have found : group.address? = some ⟨group.name, group.metadata.namespace⟩ := by
      simp [Group.address?, Group.name, Metadata.displayName, known]
    rw [List.mapM_cons, found, others]
    rfl

/-- For a claim those of some named groups are woken that have to be: each that lists the claim, selects
it or cannot tell whether it does, and each that may plan otherwise with the claim than without it. -/
theorem addressesConcerning_covers (claim : Claim) {groups : List Group}
    (named : ∀ group ∈ groups, group.metadata.name.isSome) :
    ∃ woken : Group → Bool,
      addressesConcerning claim groups = some ((groups.filter woken).map fun group =>
        ⟨group.name, group.metadata.namespace⟩) ∧
      (∀ group ∈ groups, woken group = true →
        group.metadata.namespace = claim.metadata.namespace) ∧
      (∀ group ∈ groups, woken group = false →
        ∀ (σ : Type) (full scant : σ → (request : Call) → request.Answer × σ),
          claim.IsLeftOut full scant → ∀ (snapshot : List Group) (state : σ),
            ((group.plan snapshot).run.run full state).1 =
              ((group.plan snapshot).run.run scant state).1) ∧
      ∀ group ∈ groups, group.lists claim = true ∨ group.selects claim = .ok true ∨
        (∃ cause, group.selects claim = .error cause) → woken group = true := by
  -- Those groups are woken that the claim concerns.
  refine ⟨fun group => group.concerns claim, ?_, ?_, ?_, ?_⟩
  · exact mapM_address? fun group member => named group (List.mem_filter.mp member).1
  · intro group _ concerned
    have both := Bool.and_eq_true_iff.mp concerned
    exact beq_iff_eq.mp both.1
  · intro group _ aside σ full scant leftOut snapshot state
    exact leftOut.run_plan aside state
  · intro group _ regards
    apply Group.concerns_of_regards
    rcases regards with listed | selected | ⟨cause, failed⟩
    · exact .inl listed
    · exact .inr (by simp [selected])
    · exact .inr (by simp [failed])

namespace Sample

/-- Among two groups only the one is woken that selects the claim, and it is found where it is. -/
theorem addressesConcerning_two :
    (∀ other ∈ [group, rival], other.metadata.name.isSome) ∧
      addressesConcerning claim [group, rival] = some [⟨"group", some "space"⟩] ∧
      (listing [claim] () (.listClaims "space")).1 = .ok [claim] ∧
      claim.IsLeftOut (listing [claim]) (listing []) ∧
      ∃ woken : Group → Bool, woken group = true ∧ woken rival = false ∧
        ((rival.plan [group, rival]).run.run (listing [claim]) ()).1 =
          ((rival.plan [group, rival]).run.run (listing []) ()).1 := by
  have named : ∀ other ∈ [group, rival], other.metadata.name.isSome := by decide
  have leftOut : claim.IsLeftOut (listing [claim]) (listing []) :=
    ⟨fun _ _ => .missing [] [], fun _ _ => rfl,
      fun _ request peeks => by cases request <;> first | exact peeks.elim | rfl⟩
  -- The general statement tells which of the two is woken.
  obtain ⟨woken, found, -, aside, regarded⟩ := addressesConcerning_covers claim named
  have known : addressesConcerning claim [group, rival] = some [⟨"group", some "space"⟩] := by
    decide +kernel
  have wakes : woken group = true := regarded group (by simp) (.inr (.inl rfl))
  -- A second group that is woken would be found as well.
  have sleeps : woken rival = false := by
    cases other : woken rival with
    | false => rfl
    | true => simp [found, wakes, other] at known
  exact ⟨named, known, rfl, leftOut, woken, wakes, sleeps,
    aside rival (by simp) sleeps Unit _ _ leftOut [group, rival] ()⟩

end Sample

end VolumeGroups
