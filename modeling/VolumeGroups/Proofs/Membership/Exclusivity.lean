import VolumeGroups.Proofs.Operator.Passes
import VolumeGroups.Proofs.Operator.Rehearsed

/-! No claim ever belongs to two groups of its namespace. -/

namespace VolumeGroups

/-- No claim is recorded as a member of two groups of its namespace. -/
def Store.Exclusive (store : Store) : Prop :=
  ∀ (space : Option String) (claim first second : String),
    store.Lists space first claim → store.Lists space second claim → first = second

namespace Store.Exclusive

/-- Whoever records no member leaves membership exclusive. -/
theorem since {earlier later : Store} (exclusive : earlier.Exclusive)
    (since : earlier.Since later) : later.Exclusive :=
  fun _ _ _ _ one other => exclusive _ _ _ _ (since.lists one) (since.lists other)

/-- A call of a pass leaves membership exclusive. -/
theorem move {earlier later : Store} {driver key : String} (exclusive : earlier.Exclusive)
    (regular : earlier.Regular) (move : Move driver key earlier later) : later.Exclusive := by
  obtain ⟨own, lists⟩ := move.lists regular
  intro space claim first second one other
  -- What is recorded anew goes to one group, and belonged to none.
  rcases lists one with before | ⟨rfl, _, free⟩
  · rcases lists other with before' | ⟨_, _, free⟩
    · exact exclusive _ _ _ _ before before'
    · exact absurd before (free first)
  · rcases lists other with before' | ⟨rfl, _, _⟩
    · exact absurd before' (free second)
    · rfl

end Store.Exclusive

/-- Membership stays exclusive at every moment of every run, however calls fail and whatever users
do between any two calls. -/
theorem exclusive_of_reaches (driver : String) {start : Scene} {moment : Moment}
    (regular : start.store.Regular) (exclusive : start.store.Exclusive)
    (run : (Conditions.shared driver).Reaches ⟨start, none⟩ moment) : moment.store.Exclusive := by
  have harmless := Conditions.shared_harmless driver
  -- Neither users nor calls of a pass record a member that some group lists.
  have upholds := harmless.upholds Store.Exclusive
    (fun ordered held change => by
      obtain ⟨action, proper, rfl⟩ := change
      have spares := proper.spares ordered
      exact ⟨spares.regular, held.since spares.since⟩)
    (fun ordered held change => held.since (harmless.during ordered change).since)
    (fun ordered held moved => held.move ordered moved)
  exact (upholds.reaches ⟨regular, exclusive⟩ run).1.2

/-- Once users have made a claim and a group and a pass over the group is over, the group lists the
claim and membership is exclusive. -/
theorem exclusive_after_pass : ∃ moment,
    (Conditions.shared "driver").Reaches ⟨⟨Sample.cluster, []⟩, none⟩ moment ∧
      moment.store.Lists (some "space") "group" "claim" ∧ moment.store.Exclusive := by
  -- The two users and the pass make up a run.
  obtain ⟨full, run, _⟩ := Rehearsal.reaches_pass (.shared "driver") { store := Sample.stocked }
    Sample.group (Sample.reaches_stocked fun proper => ⟨_, proper, rfl⟩) trivial
    (.nil _) rfl
  -- The cluster has no group yet, so the run starts out exclusive.
  have exclusive : Sample.cluster.Exclusive := fun _ _ _ _ listed =>
    absurd listed (Store.not_lists_of_empty rfl)
  obtain ⟨stored, found, listed⟩ :
      ∃ stored ∈ ((Rehearsal.pass { store := Sample.stocked } "driver" Sample.group).store.find?
        "space/group" : Option Group), stored.metadata.namespace = some "space" ∧
          stored.name = "group" ∧ "claim" ∈ stored.members := by
    decide +kernel
  exact ⟨_, run, ⟨_, stored, found, listed⟩,
    exclusive_of_reaches "driver" (.of_empty rfl rfl) exclusive run⟩

end VolumeGroups
