import VolumeGroups.Proofs.Store.Progress

/-! What a single call of a pass may do to the members that groups record and to the marks of claims
and groups. -/

namespace VolumeGroups

namespace Store

/-- A claim that no group records as a member loses its mark. -/
inductive Frees : Store → Store → Prop where
  | free {store : Store} {key : String} {claim : Claim} {metadata : Metadata}
    (found : store.find? key = some claim)
    (freed : claim.metadata.removeFinalizer? claimFinalizer = some metadata)
    (unlisted : ∀ {group name : String}, claim.metadata.name = some name →
      ¬ store.Lists claim.metadata.namespace group name) :
    Frees store (store.overwrite { claim with metadata }).2

/-- What a call of a pass over the group under a key may do on behalf of a driver. -/
inductive Move (driver key : String) : Store → Store → Prop where
  /-- No member is recorded and no mark of a claim is taken off. -/
  | keep {store after : Store} (keeps : store.Keeps after) : Move driver key store after
  /-- A claim that is no member is let go. -/
  | free {store after : Store} (frees : store.Frees after) : Move driver key store after
  /-- Marked claims are recorded as members, the new ones of which belonged to no group. -/
  | enlist {store : Store} {group : Group} {status : GroupStatus}
    (found : store.find? key = some group) (live : group.isTerminating = false)
    (marked : group.isMarked = true) (managed : store.Manages driver group)
    (covered : ∀ claim ∈ status.claimNames, store.Protects group.metadata.namespace claim)
    (joins : ∀ claim ∈ status.claimNames, claim ∈ group.members ∨
      ∀ other, ¬ store.Lists group.metadata.namespace other claim) :
    Move driver key store (store.overwrite { group with status := some status }).2
  /-- A terminating group forgets its members. -/
  | forget {store : Store} {group : Group} {status : GroupStatus}
    (found : store.find? key = some group) (terminating : group.isTerminating = true)
    (nothing : status.claimNames = []) :
    Move driver key store (store.overwrite { group with status := some status }).2
  /-- A terminating group without members loses its mark. -/
  | close {store : Store} {group : Group} {metadata : Metadata}
    (found : store.find? key = some group) (terminating : group.isTerminating = true)
    (nothing : group.members = [])
    (freed : group.metadata.removeFinalizer? groupFinalizer = some metadata) :
    Move driver key store (store.overwrite { group with metadata }).2

section Overwriting

variable {store : Store} {key : String}

/-- A store stays in order when a group is overwritten by a later form of itself. -/
theorem Regular.overwrite_group (regular : store.Regular) {group next : Group}
    (found : store.find? key = some group) (continues : group.metadata.Continues next.metadata) :
    (store.overwrite next).2.Regular := by
  -- Only groups are written, so claims are in order as they were.
  obtain ⟨claims, _⟩ := Prod.mk.inj (untouched_by_groups.overwrite store next)
  refine ⟨regular.groups.overwrite next, regular.claims.of_table (by simp) claims, ?_, ?_⟩
  · intro other now reading
    rcases find?_overwrite_eq_some reading with ⟨_, rfl⟩ | ⟨_, kept⟩
    · -- The name is that of the group that was there.
      have name : next.metadata.name = group.metadata.name := by rw [continues]
      exact name ▸ regular.groupNamed found
    · exact regular.groupNamed kept
  · intro other now reading
    exact regular.claimNamed (find?_of_claims claims other ▸ reading)

/-- After a group is overwritten, it lists what was written, and other groups list what they did. -/
theorem lists_overwrite (regular : store.Regular) {group : Group} (next : Group)
    (found : store.find? key = some group) (continues : group.metadata.Continues next.metadata)
    {space : Option String} {name claim : String}
    (listed : (store.overwrite next).2.Lists space name claim) :
    (space = group.metadata.namespace ∧ name = group.name ∧ claim ∈ next.members) ∨
      (¬ (space = group.metadata.namespace ∧ name = group.name) ∧
        store.Lists space name claim) := by
  obtain ⟨other, now, reading, inSpace, goes, member⟩ := listed
  have place : Resource.key next = key := continues.key.trans (regular.groups.placed found)
  -- The group that lists the claim is the one that was written, or was there before.
  rcases find?_overwrite_eq_some reading with ⟨_, rfl⟩ | ⟨apart, kept⟩
  · have written : group.metadata.Continues (store.stamped next).metadata := continues.trans rfl
    refine Or.inl ⟨?_, ?_, member⟩
    · rw [← inSpace, written]
    · rw [← goes, Group.name, Group.name, written]
      rfl
  · -- A group of that namespace and that name would lie under the same key.
    refine Or.inr ⟨?_, other, now, kept, inSpace, goes, member⟩
    rintro ⟨sameSpace, sameName⟩
    exact apart ((regular.group_key kept found (inSpace.trans sameSpace)
      (goes.trans sameName)).trans place.symm)

/-- Overwriting a group leaves every mark of a claim alone. -/
theorem keepsClaimMarks_overwrite_group (next : Group) :
    store.KeepsClaimMarks (store.overwrite next).2 := by
  obtain ⟨claims, _⟩ := Prod.mk.inj (untouched_by_groups.overwrite store next)
  rintro space claim ⟨other, stored, reading, rest⟩
  exact ⟨other, stored, (find?_of_claims claims other).trans reading, rest⟩

/-- A group overwritten by a later form of itself with no more members records nothing anew. -/
theorem Since.overwrite_group (regular : store.Regular) {group : Group} (next : Group)
    (found : store.find? key = some group) (continues : group.metadata.Continues next.metadata)
    (members : ∀ claim ∈ next.members, claim ∈ group.members) :
    store.Since (store.overwrite next).2 := by
  -- Only groups are written, and the one that is written lists no more than before.
  obtain ⟨claims, _⟩ := Prod.mk.inj (untouched_by_groups.overwrite store next)
  refine ⟨precedes_overwrite store next, .of_table (by simp) claims, ?_⟩
  intro space name claim listed
  rcases lists_overwrite regular next found continues listed with ⟨rfl, rfl, member⟩ | ⟨_, before⟩
  · exact (regular.lists_iff found).mpr (members claim member)
  · exact before

end Overwriting

namespace Frees

variable {earlier later : Store}

/-- Letting a claim go touches neither groups nor classes. -/
theorem tables (frees : earlier.Frees later) :
    later.groups = earlier.groups ∧ later.classes = earlier.classes := by
  cases frees with
  | free found freed unlisted => exact Prod.mk.inj (untouched_by_claims.overwrite _ _)

/-- Letting a claim go counts as a write of a claim. -/
theorem precedes (frees : earlier.Frees later) : earlier.Precedes Claim later := by
  cases frees with
  | free found freed unlisted => exact precedes_overwrite _ _

/-- Letting a claim go records nothing anew. -/
theorem since (frees : earlier.Frees later) : earlier.Since later := by
  refine ⟨.of_table frees.precedes.revision frees.tables.1, frees.precedes, ?_⟩
  rintro space group claim ⟨key, now, found, rest⟩
  exact ⟨key, now, find?_of_groups frees.tables.1 key ▸ found, rest⟩

/-- Letting a claim go changes no claim but for its mark, and no group at all. -/
theorem sameUpToMarks (regular : earlier.Regular) (frees : earlier.Frees later) :
    earlier.SameUpToMarks later := by
  refine ⟨fun {key now} found => ?_, ?_⟩
  · exact ⟨now, find?_of_groups frees.tables.1 key ▸ found, .refl _, rfl⟩
  · cases frees with
    | @free key claim metadata found freed unlisted =>
      have continues := (Metadata.removeFinalizer?_eq_some freed).1
      -- The claim that is let go continues the one that was there, and other claims stay.
      intro other now reading
      rcases find?_overwrite_eq_some reading with ⟨place, rfl⟩ | ⟨_, kept⟩
      · refine ⟨claim, ?_, ⟨continues.trans rfl, rfl⟩⟩
        rw [place, ← found]
        exact congrArg _ (continues.key.trans (regular.claims.placed found))
      · exact ⟨now, kept, .refl _⟩

/-- Letting a claim go leaves a store in order. -/
theorem regular (ordered : earlier.Regular) (frees : earlier.Frees later) : later.Regular := by
  -- Only one claim is written, under the key that it had.
  refine ⟨ordered.groups.of_table frees.precedes.revision frees.tables.1,
    ordered.claims.of_precedes frees.precedes ?_, ?_, ?_⟩
  · intro key now found
    obtain ⟨before, foundBefore, continues⟩ := (frees.sameUpToMarks ordered).claim found
    exact continues.metadata.key.trans (ordered.claims.placed foundBefore)
  · intro key now found
    exact ordered.groupNamed (find?_of_groups frees.tables.1 key ▸ found)
  · intro key now found
    obtain ⟨before, foundBefore, continues⟩ := (frees.sameUpToMarks ordered).claim found
    rw [continues.metadata]
    exact ordered.claimNamed foundBefore

/-- Letting a claim go leaves the marks of members alone. -/
theorem keepsClaimMarks (regular : earlier.Regular) (frees : earlier.Frees later)
    {space : Option String}
    {claim : String} (held : earlier.Protects space claim) :
    later.Protects space claim ∨ ∀ group, ¬ earlier.Lists space group claim := by
  cases frees with
  | @free key freedClaim metadata found freed unlisted =>
    have continues := (Metadata.removeFinalizer?_eq_some freed).1
    have place : Resource.key (α := Claim) { freedClaim with metadata } = key :=
      continues.key.trans (regular.claims.placed found)
    -- A member whose mark may go would have to be the claim that is let go.
    obtain ⟨other, stored, reading, inSpace, named, marked⟩ := held
    by_cases here : other = key
    · -- The claim that is let go is on no list.
      subst here
      obtain rfl : freedClaim = stored := by simpa [found] using reading
      exact Or.inr fun group => inSpace ▸ unlisted named
    · refine Or.inl ⟨other, stored, ?_, inSpace, named, marked⟩
      rw [find?_overwrite, if_neg (place ▸ here)]
      exact reading

end Frees

namespace Move

variable {driver key : String} {earlier later : Store}

/-- A call of a pass leaves a store in order. -/
theorem regular (ordered : earlier.Regular) (move : Move driver key earlier later) :
    later.Regular := by
  -- Three of the moves overwrite the group under the key by a later form of itself.
  cases move with
  | keep keeps => exact keeps.regular ordered
  | free frees => exact frees.regular ordered
  | enlist found => exact ordered.overwrite_group found rfl
  | forget found => exact ordered.overwrite_group found rfl
  | close found _ _ freed =>
    exact ordered.overwrite_group found (Metadata.removeFinalizer?_eq_some freed).1

/-- What a call of a pass records anew is marked and belonged to no group, and all of it goes to
one group. -/
theorem lists (ordered : earlier.Regular) (move : Move driver key earlier later) :
    ∃ own, ∀ {space : Option String} {group claim : String}, later.Lists space group claim →
      earlier.Lists space group claim ∨ group = own ∧ later.Protects space claim ∧
        ∀ other, ¬ earlier.Lists space other claim := by
  -- Only an enlisting records anything anew, so any other call may name whatever group.
  cases move with
  | keep keeps => exact ⟨"", fun listed => Or.inl (keeps.since.lists listed)⟩
  | free frees => exact ⟨"", fun listed => Or.inl (frees.since.lists listed)⟩
  -- What is enlisted is listed by the group under the key, which is the only one written.
  | @enlist own status found live marked managed covered joins =>
    refine ⟨own.name, ?_⟩
    intro space group claim listed
    have written := lists_overwrite ordered { own with status := some status } found rfl listed
    rcases written with ⟨rfl, rfl, member⟩ | ⟨_, before⟩
    · rcases joins claim member with listedBefore | free
      · exact Or.inl ((ordered.lists_iff found).mpr listedBefore)
      · exact Or.inr ⟨rfl, keepsClaimMarks_overwrite_group _ (covered claim member), free⟩
    · exact Or.inl before
  -- The other two writes of a group shorten its list or leave it.
  | @forget own status found terminating nothing =>
    have shrinks := Since.overwrite_group ordered { own with status := some status } found rfl
      (by simp [Group.members, nothing])
    exact ⟨"", fun listed => Or.inl (shrinks.lists listed)⟩
  | @close own metadata found terminating nothing freed =>
    have shrinks := Since.overwrite_group ordered { own with metadata } found
      (Metadata.removeFinalizer?_eq_some freed).1 (fun _ => id)
    exact ⟨"", fun listed => Or.inl (shrinks.lists listed)⟩

/-- A call of a pass takes marks only off claims that no group records. -/
theorem keepsClaimMarks (ordered : earlier.Regular) (move : Move driver key earlier later)
    {space : Option String} {claim : String} (held : earlier.Protects space claim) :
    later.Protects space claim ∨ ∀ group, ¬ earlier.Lists space group claim := by
  -- Only letting a claim go takes a mark off; a write of a group leaves all claims alone.
  cases move with
  | keep keeps => exact Or.inl (keeps.keepsClaimMarks held)
  | free frees => exact frees.keepsClaimMarks ordered held
  | enlist => exact Or.inl (keepsClaimMarks_overwrite_group _ held)
  | forget => exact Or.inl (keepsClaimMarks_overwrite_group _ held)
  | close => exact Or.inl (keepsClaimMarks_overwrite_group _ held)

end Move

end Store

end VolumeGroups
