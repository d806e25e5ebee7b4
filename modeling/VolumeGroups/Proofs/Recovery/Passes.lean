import VolumeGroups.Proofs.Operator.Rehearsed
import VolumeGroups.Proofs.Operator.Rounds
import VolumeGroups.Proofs.Solo.Opening

/-! Passes over one group, one after another, some of which are cut short by calls that fail. -/

namespace VolumeGroups

/-- What was seen goes by the name of a group. -/
structure Group.Sights (group seen : Group) : Prop where
  name : seen.name = group.name
  «namespace» : seen.metadata.namespace = group.metadata.namespace

instance (group seen : Group) : Decidable (group.Sights seen) :=
  decidable_of_iff (seen.name = group.name ∧ seen.metadata.namespace = group.metadata.namespace)
    ⟨fun same => ⟨same.1, same.2⟩, fun sights => ⟨sights.name, sights.namespace⟩⟩

/-- A group is looked for under its own key, whatever was seen of it. -/
theorem Group.Sights.place {group seen : Group} (sights : group.Sights seen)
    (named : group.metadata.name.isSome) : seen.place = Resource.key group := by
  obtain ⟨name, named⟩ := Option.isSome_iff_exists.mp named
  -- The name under which the group is seen is the one under which it is stored.
  have goes : group.name = name := Metadata.displayName_of_name named
  simp only [Group.place, Resource.key, Metadata.key, Resource.metadata, sights.namespace,
    sights.name, goes, named, Option.getD_some]

namespace Conditions

/-- An operator that has the cluster to itself, and any of whose calls may fail as long as none takes
an object for absent or existing. -/
def flaky (driver : String) : Conditions where
  driver := driver
  fails := Call.FailsHonestly

/-- An operator that has the cluster to itself, and whose calls do not fail, except that the driver may
not know a group that it is to delete. -/
def steady (driver : String) : Conditions where
  driver := driver
  fails request answer :=
    request.FailsHonestly answer ∧ (Exchange.mk request answer).drops?.isSome

/-- Calls that may fail do so honestly. -/
theorem flaky_solo (driver : String) : (flaky driver).Solo where
  still _ _ := id
  honest := id

/-- A deletion of what the driver does not know is no failure that tells of the cluster. -/
theorem steady_solo (driver : String) : (steady driver).Solo where
  still _ _ := id
  honest := And.left

/-- Nothing fails that a pass does not put up with. -/
theorem steady_not_letsCallsFail (driver : String) : ¬ (steady driver).LetsCallsFail := by
  rintro ⟨request, answer, ⟨_, dropped⟩, kept⟩
  simp [kept] at dropped

/-- Nobody else writes where nobody disturbs the operator. -/
theorem undisturbed_solo (driver : String) : (undisturbed driver).Solo where
  still _ _ := id
  honest := nofun

/-- Nothing fails where nobody disturbs the operator. -/
theorem undisturbed_not_letsCallsFail (driver : String) : ¬ (undisturbed driver).LetsCallsFail := by
  rintro ⟨request, answer, never, _⟩
  exact never

/-- A pass over a group, however it ends. -/
def Passes (conditions : Conditions) (group : Group) (before after : Scene) : Prop :=
  ∃ seen result, group.Sights seen ∧
    (seen.reconcile conditions.driver).run.Plays conditions result after before

end Conditions

/-- How a rehearsed pass over a group ends. -/
def Rehearsal.verdict (rehearsal : Rehearsal) (driver : String) (seen : Group) :
    Except PassError Action :=
  ((seen.reconcile driver).run.run respond rehearsal).1

/-- A pass that is rehearsed without edits is played. -/
theorem Rehearsal.plays_pass (conditions : Conditions) (rehearsal : Rehearsal) (seen : Group)
    (log : List Exchange) (fits : Fits conditions rehearsal.disturbances)
    (kept : effects log = rehearsal.exchanges) :
    ∃ full, (seen.reconcile conditions.driver).run.Plays conditions
        (rehearsal.verdict conditions.driver seen)
        ⟨(rehearsal.pass conditions.driver seen).store, full⟩ ⟨rehearsal.store, log⟩ ∧
      effects full = (rehearsal.pass conditions.driver seen).exchanges := by
  -- A pass without edits is a run of which nothing is left out.
  obtain ⟨full, plays, _, told⟩ := plays_of_run fits (seen.reconcile conditions.driver).run kept
  exact ⟨full, plays, told⟩

/-- Groups of the class of the operator's driver have all that a pass needs of a class. -/
theorem Sample.equips {store : Store} {group : Group} (named : group.className? = some "class")
    (there : ∃ groupClass ∈ (store.find? "/class" : Option GroupClass),
      groupClass.spec.driver = "driver" ∧ groupClass.spec.parameters = ∅) :
    store.Equips "driver" group := by
  -- The class has no parameters, so there is nothing that could be wrong with them.
  obtain ⟨groupClass, found, served, parameters⟩ := there
  refine ⟨groupClass, {}, ∅, ⟨"class", named, Store.get_eq_ok.mpr found⟩, served, ?_, rfl⟩
  rw [parameters]
  rfl

end VolumeGroups
