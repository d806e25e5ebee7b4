import VolumeGroups.Proofs.Operator.Passes
import VolumeGroups.Proofs.Operator.Rehearsed

/-! A claim that a group lists is there and marked, so that it cannot go while it is a member. -/

namespace VolumeGroups

/-- Every name that a group records is that of a marked claim of the group's namespace. -/
def Store.Covered (store : Store) : Prop :=
  ∀ (space : Option String) (group claim : String),
    store.Lists space group claim → store.Protects space claim

namespace Store.Covered

/-- Whoever records no member and takes no mark off leaves members marked. -/
theorem spares {earlier later : Store} (covered : earlier.Covered)
    (spares : earlier.Spares later) : later.Covered :=
  fun _ _ _ listed => spares.keepsClaimMarks (covered _ _ _ (spares.since.lists listed))

/-- A call of a pass leaves members marked. -/
theorem move {earlier later : Store} {driver key : String} (covered : earlier.Covered)
    (regular : earlier.Regular) (move : Move driver key earlier later) : later.Covered := by
  obtain ⟨own, lists⟩ := move.lists regular
  intro space group claim listed
  rcases lists listed with before | ⟨_, held, _⟩
  · -- A member of before had a mark, which only goes from claims that no group lists.
    rcases move.keepsClaimMarks regular (covered _ _ _ before) with held | unlisted
    · exact held
    · exact absurd before (unlisted group)
  · exact held

end Store.Covered

/-- Every claim that a group lists is marked at every moment of every run, however calls fail and
whatever users do between any two calls, and a claim only loses its mark while no group lists it. -/
theorem covered_of_reaches (driver : String) {start : Scene} {moment : Moment}
    (regular : start.store.Regular) (covered : start.store.Covered)
    (run : (Conditions.shared driver).Reaches ⟨start, none⟩ moment) :
    moment.store.Covered ∧ ∀ next : Moment, (Conditions.shared driver).Step moment next →
      ∀ (space : Option String) (claim : String), moment.store.Protects space claim →
        ¬ next.store.Protects space claim → ∀ group, ¬ moment.store.Lists space group claim := by
  have harmless := Conditions.shared_harmless driver
  -- Members are recorded with their marks, and marks go only once no group lists them.
  have upholds := harmless.upholds Store.Covered
    (fun ordered held change => by
      obtain ⟨action, proper, rfl⟩ := change
      have spares := proper.spares ordered
      exact ⟨spares.regular, held.spares spares⟩)
    (fun ordered held change => held.spares (harmless.during ordered change))
    (fun ordered held moved => held.move ordered moved)
  obtain ⟨⟨ordered, held⟩, promised⟩ := upholds.reaches ⟨regular, covered⟩ run
  refine ⟨held, ?_⟩
  -- A mark goes by a call of a pass, for users take none off.
  intro next step space claim marked lost
  -- A step outside of a pass spares all marks.
  cases step with
  | idle change => exact absurd (((harmless.during ordered change)).keepsClaimMarks marked) lost
  | wait change => exact absurd ((harmless.during ordered change).keepsClaimMarks marked) lost
  | start => exact absurd marked lost
  -- The pass has promised what its calls do to marks.
  | call answers =>
    obtain ⟨⟨key, moved⟩, _⟩ := promised _ rfl _ (Conditions.waits_refl _ _) _ _ answers
    rcases moved.keepsClaimMarks ordered marked with kept | unlisted
    · exact absurd kept lost
    · exact unlisted
  | stop => exact absurd marked lost

/-- Once users have made a claim and a group, a pass over the group is over and a user has deleted
the claim, the claim is a member of the group and still there. -/
theorem covered_after_deletion : ∃ moment,
    (Conditions.shared "driver").Reaches ⟨⟨Sample.cluster, []⟩, none⟩ moment ∧
      moment.store.Lists (some "space") "group" "claim" ∧
      moment.store.Protects (some "space") "claim" := by
  have allowed {store : Store} {action : UserAction} (proper : action.IsProper) :
      (Conditions.shared "driver").between store (action.on store) :=
    ⟨action, proper, rfl⟩
  -- Users make the claim and the group, and then there is a pass.
  obtain ⟨full, run, _⟩ := Rehearsal.reaches_pass (.shared "driver") { store := Sample.stocked }
    Sample.group (Sample.reaches_stocked allowed) trivial (.nil _) rfl
  -- Deleting the claim leaves it there, as its mark holds it.
  replace run := run.tail
    (.idle (allowed (show (UserAction.deleteClaim "claim" "space").IsProper from trivial)))
  have covered : Sample.cluster.Covered := fun _ _ _ listed =>
    absurd listed (Store.not_lists_of_empty rfl)
  obtain ⟨stored, found, listed⟩ :
      ∃ stored ∈ (((UserAction.deleteClaim "claim" "space").on
        (Rehearsal.pass { store := Sample.stocked } "driver" Sample.group).store).find?
          "space/group" : Option Group), stored.metadata.namespace = some "space" ∧
            stored.name = "group" ∧ "claim" ∈ stored.members := by
    decide +kernel
  exact ⟨_, run, ⟨_, stored, found, listed⟩,
    (covered_of_reaches "driver" (.of_empty rfl rfl) covered run).1 _ _ _
      ⟨_, stored, found, listed⟩⟩

end VolumeGroups
