import Mathlib.Data.List.Perm.Subperm
import VolumeGroups.Proofs.Operator.Yields
import VolumeGroups.Proofs.Records.Upkeep

/-! What the making of a plan tells of it: each claim is placed once, and the volume of each member was
read. -/

namespace VolumeGroups

namespace MembershipPlan

/-- The claims of which a plan says something. -/
def concerned (plan : MembershipPlan) : List Claim :=
  plan.members.map Member.claim ++ (plan.rejected.map Prod.fst ++ plan.departed)

/-- With one claim more a plan says something of that claim once at most. -/
theorem concerned_cons (claim : Claim) (standing : Standing) (plan : MembershipPlan) :
    (plan.cons claim standing).concerned.Subperm (claim :: plan.concerned) := by
  cases standing with
  | irrelevant | waiting => exact (List.sublist_cons_self ..).subperm
  | member volumeName volumeId => exact List.Subperm.refl _
  | rejected cause => exact List.perm_middle.subperm
  | departed =>
    -- The claim goes past both the members and the refused claims.
    have moved : (plan.members.map Member.claim ++ (plan.rejected.map Prod.fst ++
        claim :: plan.departed)).Perm (claim :: plan.concerned) := by
      rw [concerned, ← List.append_assoc, ← List.append_assoc]
      exact List.perm_middle
    exact moved.subperm

/-- Where the claims that a plan is about lie under distinct keys, a member lies apart from all that the
plan turns away or lets go. -/
theorem apart_of_nodup {plan : MembershipPlan}
    (distinct : (plan.concerned.map Resource.key).Nodup) {member : Member}
    (planned : member ∈ plan.members) {claim : Claim}
    (other : claim ∈ plan.rejected.map Prod.fst ∨ claim ∈ plan.departed) :
    Resource.key claim ≠ Resource.key member.claim := by
  -- Members come first among the claims that a plan is about.
  rw [concerned, List.map_append] at distinct
  have apart := (List.nodup_append.mp distinct).2.2
  refine fun same => apart _ (List.mem_map_of_mem (List.mem_map_of_mem planned)) _
    (List.mem_map_of_mem (List.mem_append.mpr other)) same.symm

end MembershipPlan

/-- A volume that was read was read among more calls. -/
theorem Served.of_subset {volumeName volumeId : String} {log wider : List Exchange}
    (served : Served volumeName volumeId log) (subset : log ⊆ wider) :
    Served volumeName volumeId wider := by
  obtain ⟨volume, read, named⟩ := served
  exact ⟨volume, subset read, named⟩

namespace Attempt

variable {group : Group} {groups : List Group}

/-- A plan says something of each claim once at most. -/
theorem asks_concerned (group : Group) (groups : List Group) (claims : List Claim) :
    Asks Call.IsPeek (fun plan => plan.concerned.Subperm claims)
      (group.planFor groups claims) := by
  -- The induction goes along the claims, each of which is placed before the rest is planned.
  induction claims with
  | nil => exact .pure (List.Subperm.refl [])
  | cons claim rest ih =>
    refine .bind (asks_standing group groups claim) fun standing _ => ?_
    refine .bind ih fun plan others => .pure ?_
    exact (plan.concerned_cons claim standing).trans ((List.subperm_cons claim).mpr others)

/-- The volume that a claim is bound to was read, and the driver's name for it. -/
theorem Yields.served_of_boundVolume {claim : Claim} {trace : List Exchange}
    {volumeName volumeId : String}
    (yields : (boundVolume claim).Yields trace (some (volumeName, volumeId))) :
    Served volumeName volumeId trace := by
  -- Without a name there is no volume, and with one the volume is read.
  unfold boundVolume at yields
  split at yields
  · cases yields.of_pure
  · obtain ⟨first, volume, second, rfl, reads, ends⟩ := yields.of_bind
    obtain ⟨answer, rest, rfl, _, rfl⟩ := reads.of_within
    split at ends
    · rename_i handle named
      cases ends.of_pure
      exact ⟨volume, List.mem_append_left _ (List.mem_cons_self ..), named⟩
    · exact absurd ends Yields.not_throw

/-- A claim stands as a member only if its volume was read. -/
theorem Yields.served_of_standing {claim : Claim} {trace : List Exchange}
    {volumeName volumeId : String}
    (yields : (group.standing groups claim).Yields trace (.member volumeName volumeId)) :
    Served volumeName volumeId trace := by
  unfold Group.standing at yields
  extract_lets listed take decide at yields
  -- The volume is read where the claim is taken.
  have takes {trace : List Exchange}
      (yields : Yields (take ()) trace (.member volumeName volumeId)) :
      Served volumeName volumeId trace := by
    obtain ⟨first, bound, second, rfl, reads, ends⟩ := yields.of_bind
    split at ends
    · cases ends.of_pure
      exact reads.served_of_boundVolume.of_subset (List.subset_append_left ..)
    · cases ends.of_pure
  -- Whatever comes before it, a member's volume is read last.
  have decides {stays : Bool} {trace : List Exchange}
      (yields : Yields (decide stays) trace (.member volumeName volumeId)) :
      Served volumeName volumeId trace := by
    simp only [decide] at yields
    split at yields
    · split at yields <;> cases yields.of_pure
    · split at yields
      · split at yields
        · cases yields.of_pure
        · obtain ⟨first, refusal, second, rfl, _, ends⟩ := yields.of_bind
          split at ends
          · cases ends.of_pure
          · exact (takes ends).of_subset (List.subset_append_right ..)
      · exact takes yields
  split at yields
  · obtain ⟨first, stays, second, rfl, _, ends⟩ := yields.of_bind
    exact (decides ends).of_subset (List.subset_append_right ..)
  · obtain ⟨first, stays, second, rfl, _, ends⟩ := yields.of_bind
    exact (decides ends).of_subset (List.subset_append_right ..)

/-- The volumes of all members of a plan were read. -/
theorem Yields.served_of_planFor {claims : List Claim} {trace : List Exchange}
    {plan : MembershipPlan} (yields : (group.planFor groups claims).Yields trace plan) :
    ∀ member ∈ plan.members, Served member.volumeName member.volumeId trace := by
  -- The induction goes along the claims, and what was read for the others stays read.
  induction claims generalizing trace plan with
  | nil =>
    cases yields.of_pure
    exact fun _ none => absurd none List.not_mem_nil
  | cons claim rest ih =>
    obtain ⟨first, standing, others, rfl, places, yields⟩ := yields.of_bind
    obtain ⟨second, planned, last, rfl, plans, ends⟩ := yields.of_bind
    cases ends.of_pure
    intro member known
    have later (known : member ∈ planned.members) :
        Served member.volumeName member.volumeId (first ++ (second ++ last)) :=
      ((ih plans member known).of_subset (List.subset_append_left ..)).of_subset
        (List.subset_append_right ..)
    cases standing with
    | member volumeName volumeId =>
      rcases List.mem_cons.mp known with rfl | known
      · exact places.served_of_standing.of_subset (List.subset_append_left ..)
      · exact later known
    | irrelevant | departed | rejected | waiting => exact later known

end Attempt

/-- A pass has made a plan for a group, after it had listed all groups. -/
def Devised (group : Group) (plan : MembershipPlan) (log : List Exchange) : Prop :=
  ∃ space groups trace later earlier,
    log = later ++ (trace.reverse ++ ⟨.listGroups space, .ok groups⟩ :: earlier) ∧
      (group.plan groups).Yields trace plan

/-- A plan is still the one that was made as the log goes on. -/
theorem Devised.later {group : Group} {plan : MembershipPlan}
    {calls : Call → Prop} {before after : List Exchange}
    (devised : Devised group plan before) (goes : Extends calls before after) :
    Devised group plan after := by
  obtain ⟨space, groups, trace, later, earlier, rfl, yields⟩ := devised
  obtain ⟨made, rfl, -⟩ := goes
  exact ⟨space, groups, trace, made ++ later, earlier, by simp, yields⟩

end VolumeGroups
