import VolumeGroups.Proofs.Operator.Move
import VolumeGroups.Proofs.Operator.Users

/-! What marks and members tell of a group and a claim as long as users leave each group to its
driver. -/

namespace VolumeGroups

/-- What users do to claims and groups that are there, leaving each group to its class. -/
def UserAction.KeepsClass : UserAction → Prop
  | .relabelClaim .. | .deleteClaim .. | .deleteGroup .. => True
  | .editGroup _ _ change => ∀ spec, (change spec).className = spec.className
  | .createClaim _ | .createGroup _ => False

/-- Whoever keeps to the class is a proper user. -/
theorem UserAction.KeepsClass.isProper {action : UserAction} (keeps : action.KeepsClass) :
    action.IsProper := by
  cases action with
  | createClaim | createGroup => exact keeps.elim
  | _ => trivial

namespace Store

/-- A group with members is marked and the driver's, and a marked claim is bound. -/
structure Accounted (driver : String) (store : Store) : Prop where
  managed : ∀ {key : String} {group : Group}, store.find? key = some group →
    group.members ≠ [] → store.Manages driver group
  marked : ∀ {key : String} {group : Group}, store.find? key = some group →
    group.members ≠ [] → group.isMarked = true
  bound : ∀ {key : String} {claim : Claim}, store.find? key = some claim →
    claim.isMarked = true → claim.volumeName?.isSome = true

namespace Accounted

variable {driver key : String} {earlier later store : Store}

/-- Nothing is to be accounted for while no group has a state and no claim is marked. -/
theorem of_fresh (groups : ∀ {key : String} {group : Group}, store.find? key = some group →
      group.status = none)
    (claims : ∀ {key : String} {claim : Claim}, store.find? key = some claim →
      claim.isMarked = false) : store.Accounted driver := by
  -- Without a state a group lists nobody.
  have nothing {key : String} {group : Group} (found : store.find? key = some group) :
      group.members = [] := by
    simp [Group.members, groups found]
  exact ⟨fun found some => absurd (nothing found) some, fun found some => absurd (nothing found) some,
    fun found marked => by simp [claims found] at marked⟩

/-- Groups with members that were there before with the same class and a mark no less, and marked
claims that were there before and marked or bound, are accounted for. -/
theorem trace (accounted : earlier.Accounted driver) (classes : later.classes = earlier.classes)
    (groups : ∀ {key : String} {now : Group}, later.find? key = some now → now.members ≠ [] →
      ∃ before : Group, earlier.find? key = some before ∧ now.className? = before.className? ∧
        before.members ≠ [] ∧ (before.isMarked = true → now.isMarked = true))
    (claims : ∀ {key : String} {now : Claim}, later.find? key = some now → now.isMarked = true →
      ∃ before : Claim, earlier.find? key = some before ∧ now.spec = before.spec ∧
        (before.isMarked = true ∨ before.volumeName?.isSome = true)) : later.Accounted driver where
  -- A group with members was managed and marked before.
  managed found some := by
    obtain ⟨before, foundBefore, className, recorded, _⟩ := groups found some
    exact (accounted.managed foundBefore recorded).of_className classes className
  marked found some := by
    obtain ⟨before, foundBefore, _, recorded, marks⟩ := groups found some
    exact marks (accounted.marked foundBefore recorded)
  -- A claim that is marked was marked before, or it was bound all along.
  bound {key now} found marked := by
    obtain ⟨before, foundBefore, same, held⟩ := claims found marked
    have bound : before.volumeName?.isSome = true := held.elim (accounted.bound foundBefore) id
    simpa only [Claim.volumeName?, same] using bound

/-- What a group records over itself is accounted for if it is nothing, or if the group is marked and
the driver's. -/
theorem overwrite_group (accounted : store.Accounted driver) (group : Group) {next : Group}
    (continues : group.Continues next)
    (some : next.members ≠ [] → next.isMarked = true ∧ store.Manages driver group) :
    (store.overwrite next).2.Accounted driver := by
  obtain ⟨claims, classes⟩ := Prod.mk.inj (untouched_by_groups.overwrite store next)
  -- What is found is the group that was written, or was accounted for before.
  refine ⟨?_, ?_, ?_⟩
  · intro other now reading recorded
    rcases find?_overwrite_eq_some reading with ⟨_, rfl⟩ | ⟨_, kept⟩
    · exact (some recorded).2.of_className classes continues.className?
    · exact (accounted.managed kept recorded).of_className classes rfl
  · intro other now reading recorded
    rcases find?_overwrite_eq_some reading with ⟨_, rfl⟩ | ⟨_, kept⟩
    · exact (some recorded).1
    · exact accounted.marked kept recorded
  · intro other now reading
    exact accounted.bound (find?_of_claims claims other ▸ reading)

/-- A call of a pass leaves marks and members accounted for. -/
theorem move (accounted : earlier.Accounted driver) (regular : earlier.Regular)
    (move : Move driver key earlier later) : later.Accounted driver := by
  -- Members are recorded on marked groups of the driver only, and marks set on bound claims only.
  cases move with
  | keep keeps =>
    refine accounted.trace keeps.classes ?_ ?_
    · intro place now found recorded
      obtain ⟨before, foundBefore, continues, members, marks⟩ := keeps.group found
      exact ⟨before, foundBefore, continues.className?, members ▸ recorded, marks⟩
    · intro place now found marked
      obtain ⟨before, foundBefore, continues, held⟩ := keeps.claim found
      exact ⟨before, foundBefore, continues.spec, held marked⟩
  | free frees =>
    obtain ⟨groups, classes⟩ := frees.tables
    refine accounted.trace classes ?_ ?_
    · intro place now found recorded
      exact ⟨now, find?_of_groups groups place ▸ found, rfl, recorded, id⟩
    · intro place now found marked
      -- A claim that is let go was marked, and others stay as they were.
      cases frees with
      | @free key claim metadata there freed unlisted =>
        obtain ⟨continues, _, held⟩ := Metadata.removeFinalizer?_eq_some freed
        rcases find?_overwrite_eq_some found with ⟨here, rfl⟩ | ⟨_, kept⟩
        · refine ⟨claim, ?_, rfl, Or.inl held⟩
          rw [here, ← there]
          exact congrArg _ (continues.key.trans (regular.claims.placed there))
        · exact ⟨now, kept, rfl, Or.inl marked⟩
  -- The pass has marked the group before it lists anything.
  | @enlist group _ _ _ marked managed =>
    refine accounted.overwrite_group group ⟨rfl, rfl, rfl⟩ ?_
    exact fun _ => ⟨marked, managed⟩
  -- A group that lists nobody is nobody's concern.
  | @forget group _ _ _ nothing =>
    exact accounted.overwrite_group group ⟨rfl, rfl, rfl⟩ fun some => absurd nothing some
  | @close group _ _ _ nothing freed =>
    exact accounted.overwrite_group group
      ⟨(Metadata.removeFinalizer?_eq_some freed).1, rfl, rfl⟩ fun some => absurd nothing some

/-- Users who keep to the class leave marks and members accounted for. -/
theorem acted (accounted : store.Accounted driver) (regular : store.Regular) {action : UserAction}
    (keeps : action.KeepsClass) : (action.on store).Accounted driver := by
  -- Whatever a user does to one kind of object leaves the other kind as it was.
  have groupsKept {later : Store} (groups : later.groups = store.groups) {place : String}
      {now : Group} (found : later.find? place = some now) (recorded : now.members ≠ []) :
      ∃ before : Group, store.find? place = some before ∧ now.className? = before.className? ∧
        before.members ≠ [] ∧ (before.isMarked = true → now.isMarked = true) :=
    ⟨now, find?_of_groups groups place ▸ found, rfl, recorded, id⟩
  have claimsKept {later : Store} (claims : later.claims = store.claims) {place : String}
      {now : Claim} (found : later.find? place = some now) (marked : now.isMarked = true) :
      ∃ before : Claim, store.find? place = some before ∧ now.spec = before.spec ∧
        (before.isMarked = true ∨ before.volumeName?.isSome = true) :=
    ⟨now, find?_of_claims claims place ▸ found, rfl, Or.inl marked⟩
  -- Users make claims and groups, which are excluded here, and change one table otherwise.
  cases action with
  | createClaim | createGroup => exact keeps.elim
  | relabelClaim name space labels =>
    obtain ⟨groups, classes⟩ := Prod.mk.inj (untouched_by_claims.modify store name space
      fun claim : Claim => { claim with metadata := { claim.metadata with labels } })
    refine accounted.trace classes (groupsKept groups) ?_
    intro place now found marked
    rcases find?_modify regular.claims found fun _ => rfl with kept | ⟨before, kept, rfl⟩
    · exact ⟨now, kept, rfl, Or.inl marked⟩
    · exact ⟨before, kept, rfl, Or.inl marked⟩
  | deleteClaim name space =>
    obtain ⟨groups, classes⟩ := Prod.mk.inj (untouched_by_claims.delete store name space)
    refine accounted.trace classes (groupsKept groups) ?_
    intro place now found marked
    rcases find?_delete regular.claims found with kept | ⟨before, kept, rfl⟩
    · exact ⟨now, kept, rfl, Or.inl marked⟩
    · exact ⟨before, kept, rfl, Or.inl marked⟩
  -- The change leaves the class as it was, which is what the users keep to.
  | editGroup name space change =>
    obtain ⟨claims, classes⟩ := Prod.mk.inj (untouched_by_groups.modify store name space
      fun group : Group => { group with spec := change group.spec })
    refine accounted.trace classes ?_ (claimsKept claims)
    intro place now found recorded
    rcases find?_modify regular.groups found fun _ => rfl with kept | ⟨before, kept, rfl⟩
    · exact ⟨now, kept, rfl, recorded, id⟩
    · exact ⟨before, kept, congrArg (Option.filter _) (keeps before.spec), recorded, id⟩
  | deleteGroup name space =>
    obtain ⟨claims, classes⟩ := Prod.mk.inj (untouched_by_groups.delete store name space)
    refine accounted.trace classes ?_ (claimsKept claims)
    intro place now found recorded
    rcases find?_delete regular.groups found with kept | ⟨before, kept, rfl⟩
    · exact ⟨now, kept, rfl, recorded, id⟩
    · exact ⟨before, kept, rfl, recorded, id⟩

end Accounted

end Store

end VolumeGroups
