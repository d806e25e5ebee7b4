import VolumeGroups.Proofs.Operator.Rehearsed

/-! Which marked claims belong to a group once every group of their namespace is settled. -/

namespace VolumeGroups

namespace Store

/-- A group records the claim as a member. -/
def IsListed (store : Store) (claim : Claim) : Prop :=
  ∃ key, ∃ group : Group, store.find? key = some group ∧ group.lists claim = true

/-- A live group of the driver wants the claim. -/
def IsWanted (store : Store) (driver : String) (claim : Claim) : Prop :=
  ∃ key, ∃ group : Group, store.find? key = some group ∧ group.isTerminating = false ∧
    store.Manages driver group ∧ group.Wants claim

/-- A store in order in which no claim is marked and no group has a state. -/
structure Fresh (store : Store) : Prop where
  regular : store.Regular
  unmarked : ∀ {key : String} {claim : Claim}, store.find? key = some claim →
    claim.isMarked = false
  stateless : ∀ {key : String} {group : Group}, store.find? key = some group → group.status = none

/-- Passes over some groups are passes over all groups of a namespace. -/
def CoveredBy (store : Store) (space : Option String) (groups : List Group) : Prop :=
  ∀ {key : String} {group : Group}, store.find? key = some group →
    group.metadata.namespace = space → ∃ seen ∈ groups, seen.place = key

end Store

/-- An operator whose users act between passes only, and none of whose calls fails by taking an object
for absent or existing. -/
def Conditions.alternating (driver : String) : Conditions where
  driver := driver
  between := UserAction.Leads UserAction.KeepsClass
  fails := Call.FailsHonestly

/-- Users who wait for passes to end do no harm. -/
theorem Conditions.alternating_harmless (driver : String) : (alternating driver).Harmless where
  during _ never := never.elim
  fails := And.left

/-- Marks and members are accounted for at every moment of a run from a fresh start. -/
theorem accounted_of_reaches (driver : String) {start : Scene} {moment : Moment}
    (fresh : start.store.Fresh) (run : (Conditions.alternating driver).Reaches ⟨start, none⟩ moment) :
    moment.store.Regular ∧ moment.store.Accounted driver := by
  -- Users keep to the class and passes enlist for the driver, so the account holds throughout.
  have upholds := (Conditions.alternating_harmless driver).upholds (Store.Accounted driver)
    (fun regular held change => by
      obtain ⟨action, keeps, rfl⟩ := change
      exact ⟨(keeps.isProper.spares regular).regular, held.acted regular keeps⟩)
    (fun _ _ never => never.elim)
    (fun regular held moved => held.move regular moved)
  exact (upholds.reaches ⟨fresh.regular, .of_fresh fresh.stateless fresh.unmarked⟩ run).1

/-- After a round of passes over all groups of a namespace, a marked claim of the namespace belongs to
a group if and only if a live group of the driver still wants it. -/
theorem listed_iff_wanted (driver : String) {start scene final : Scene} {space : Option String}
    {groups : List Group} (fresh : start.store.Fresh)
    (run : (Conditions.alternating driver).Reaches ⟨start, none⟩ ⟨scene, none⟩)
    (all : scene.store.CoveredBy space groups) (round : Round driver groups scene final)
    {place : String} {claim : Claim} (found : final.store.find? place = some claim)
    (inSpace : claim.metadata.namespace = space) (marked : claim.isMarked = true) :
    final.store.IsListed claim ↔ final.store.IsWanted driver claim := by
  -- Marks and members were in order when the round began, so the round settles them.
  obtain ⟨regular, accounted⟩ := accounted_of_reaches driver fresh run
  obtain ⟨_, kept, settled, _, origin⟩ := round.settles regular accounted
  have bound := kept.bound found marked
  -- Whatever group is there now was there when the round began, so a pass has settled it.
  have decided {key : String} {group : Group} (there : final.store.find? key = some group)
      (same : claim.metadata.namespace = group.metadata.namespace) :
      final.store.Settled driver key := by
    obtain ⟨before, foundBefore, continues⟩ := origin there
    obtain ⟨seen, passed, here⟩ := all foundBefore
      (continues.namespace.symm.trans (same.symm.trans inSpace))
    exact here ▸ settled seen passed
  constructor
  · -- The group that lists the claim was settled by a pass, so it is live and wants it.
    rintro ⟨key, group, there, lists⟩
    obtain ⟨same, name, member, _⟩ := Group.lists_iff.mp lists
    have some : group.members ≠ [] := List.ne_nil_of_mem member
    have manages := kept.managed there some
    rcases decided there same there manages with ⟨_, nothing⟩ | ⟨live, wants⟩
    · exact absurd nothing some
    · exact ⟨key, group, there, live, manages, (wants found same bound).mpr lists⟩
  · -- A live group that wants the claim was settled by a pass, so it lists it.
    rintro ⟨key, group, there, live, manages, wanted⟩
    have same : claim.metadata.namespace = group.metadata.namespace := wanted.namespace
    rcases decided there same there manages with ⟨terminating, _⟩ | ⟨_, wants⟩
    · simp [live] at terminating
    · exact ⟨key, group, there, (wants found same bound).mp wanted⟩

namespace Sample

/-- Nobody has passed over the group yet. -/
theorem fresh_stocked : stocked.Fresh := by
  have claims : ∀ claim ∈ stocked.claims.values, claim.isMarked = false := by decide +kernel
  have groups : ∀ group ∈ stocked.groups.values, group.status = none := by decide +kernel
  exact ⟨regular_stocked, fun found => claims _ (Table.mem_values.mpr ⟨_, found⟩),
    fun found => groups _ (Table.mem_values.mpr ⟨_, found⟩)⟩

/-- A store whose only group is the one of the cluster is covered by a pass over it. -/
theorem coveredBy_group {store : Store} {space : Option String} (regular : store.Regular)
    (only : ∀ stored ∈ store.groups.values, Resource.key stored = group.place) :
    store.CoveredBy space [group] := by
  intro key stored found _
  refine ⟨group, List.mem_singleton.mpr rfl, ?_⟩
  exact (only stored (Table.mem_values.mpr ⟨key, found⟩)).symm.trans (regular.groups.placed found)

/-- The driver refuses to make a group once. -/
def refusal : Disturbance Edit where
  method := .createDriverGroup
  fault := some (.status 14 "")

/-- A pass over the group has marked the claim, and then the driver has refused. -/
def interrupted : Rehearsal :=
  Rehearsal.pass { store := stocked, disturbances := [refusal] } "driver" group

/-- The claim has lost the label that the group selects. -/
def relabelled : Rehearsal :=
  { interrupted with
    store := (UserAction.relabelClaim "claim" "space" none).on interrupted.store
    disturbances := [] }

/-- A refusal fits an operator whose users wait for passes to end. -/
theorem fits_refusal : Rehearsal.Fits (.alternating "driver") [refusal] := by
  intro disturbance known
  obtain rfl := List.mem_singleton.mp known
  refine ⟨rfl, ?_⟩
  rintro fault ⟨⟩ request answer failed
  -- The fault is one of the driver, so no call of the cluster fails with it.
  exact Call.failsHonestly_of_failWith? failed fun _ _ _ never => by cases never

end Sample

/-- After a round over the group of a fresh cluster, the claim is a member and wanted. -/
theorem wanted_after_round : ∃ final, ∃ claim : Claim,
    Round "driver" [Sample.group] ⟨Sample.stocked, []⟩ final ∧
      final.store.find? "space/claim" = some claim ∧ claim.isMarked = true ∧
      final.store.IsListed claim ∧ final.store.IsWanted "driver" claim := by
  -- The round is one pass.
  obtain ⟨full, round, _⟩ := Rehearsal.round_pass "driver" { store := Sample.stocked } Sample.group
    [] (.nil _) rfl (by decide +kernel)
  obtain ⟨claim, found, inSpace, marked, group, there, lists⟩ :
      ∃ claim ∈ ((Rehearsal.pass { store := Sample.stocked } "driver" Sample.group).store.find?
          "space/claim" : Option Claim),
        claim.metadata.namespace = some "space" ∧ claim.isMarked = true ∧
        ∃ group ∈ ((Rehearsal.pass { store := Sample.stocked } "driver" Sample.group).store.find?
          "space/group" : Option Group), group.lists claim = true := by
    decide +kernel
  have listed : Store.IsListed _ claim := ⟨"space/group", group, there, lists⟩
  have covered : Sample.stocked.CoveredBy (some "space") [Sample.group] :=
    Sample.coveredBy_group Sample.regular_stocked (by decide +kernel)
  exact ⟨_, claim, round, found, marked, listed,
    (listed_iff_wanted "driver" Sample.fresh_stocked .refl covered round found inSpace marked).mp
      listed⟩

/-- A claim that loses its label after an interrupted pass stays marked and belongs to no group, even
after a round that succeeds and another one that changes nothing. -/
theorem unlisted_after_relabelling : ∃ scene final further : Scene, ∃ claim : Claim,
    Sample.stocked.Fresh ∧
      (Conditions.alternating "driver").Reaches ⟨⟨Sample.stocked, []⟩, none⟩ ⟨scene, none⟩ ∧
      scene.store.CoveredBy (some "space") [Sample.group] ∧
      Round "driver" [Sample.group] scene final ∧
      Round "driver" [Sample.group] final further ∧ further.store = final.store ∧
      final.store.find? "space/claim" = some claim ∧ claim.metadata.namespace = some "space" ∧
      claim.isMarked = true ∧ ¬ final.store.IsListed claim := by
  -- The pass is interrupted after it has marked the claim.
  have start : (Conditions.alternating "driver").Reaches ⟨⟨Sample.stocked, []⟩, none⟩
    ⟨⟨Sample.stocked, []⟩, none⟩ := .refl
  obtain ⟨log, run, _, told⟩ := Rehearsal.reaches_pass (.alternating "driver")
    { store := Sample.stocked, disturbances := [Sample.refusal] } Sample.group start trivial
    Sample.fits_refusal rfl
  -- The claim is marked by now and on no list, and its label goes before the next pass.
  replace run := run.tail (.idle ⟨.relabelClaim "claim" "space" none, trivial, rfl⟩)
  obtain ⟨full, round, fits, kept⟩ := Rehearsal.round_pass "driver" Sample.relabelled Sample.group
    log (.nil _) told (by decide +kernel)
  obtain ⟨_, further, _⟩ := Rehearsal.round_pass "driver"
    (Sample.relabelled.pass "driver" Sample.group) Sample.group full fits kept (by decide +kernel)
  -- The round is over all groups that there are.
  have only : ∀ stored ∈ Sample.relabelled.store.groups.values,
      Resource.key stored = Sample.group.place := by
    decide +kernel
  have covered : Sample.relabelled.store.CoveredBy (some "space") [Sample.group] :=
    Sample.coveredBy_group (accounted_of_reaches "driver" Sample.fresh_stocked run).1 only
  have same : ((Sample.relabelled.pass "driver" Sample.group).pass "driver" Sample.group).store =
      (Sample.relabelled.pass "driver" Sample.group).store := by
    decide +kernel
  obtain ⟨claim, found, inSpace, marked⟩ :
      ∃ claim ∈ ((Sample.relabelled.pass "driver" Sample.group).store.find? "space/claim" :
        Option Claim), claim.metadata.namespace = some "space" ∧ claim.isMarked = true := by
    decide +kernel
  have none : ∀ group ∈ (Sample.relabelled.pass "driver" Sample.group).store.groups.values,
      group.members = [] := by
    decide +kernel
  refine ⟨_, _, _, claim, Sample.fresh_stocked, run, covered, round, further, same,
    found, inSpace, marked, ?_⟩
  rintro ⟨key, group, there, lists⟩
  have nothing : group.members = [] := none group (Table.mem_values.mpr ⟨key, there⟩)
  simp [Group.lists, nothing] at lists

end VolumeGroups
