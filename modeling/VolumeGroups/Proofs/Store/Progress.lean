import VolumeGroups.Proofs.Store.Regular

/-! Ways in which a store comes after another: by writes that record no new member, by writes that
take no mark off, and by writes that leave groups and claims what they are. -/

namespace VolumeGroups

namespace Store

/-- Nothing was recorded as a member in between. -/
structure Since (earlier later : Store) : Prop where
  groups : earlier.Precedes Group later
  claims : earlier.Precedes Claim later
  lists : ∀ {space : Option String} {group claim : String},
    later.Lists space group claim → earlier.Lists space group claim

/-- No claim lost its mark in between. -/
def KeepsClaimMarks (earlier later : Store) : Prop :=
  ∀ {space : Option String} {claim : String},
    earlier.Protects space claim → later.Protects space claim

/-- Groups and claims are what they were, up to marks that were added. -/
structure Keeps (earlier later : Store) : Prop where
  -- Nothing older comes back, and classes stay as they are.
  groups : earlier.Precedes Group later
  claims : earlier.Precedes Claim later
  classes : later.classes = earlier.classes
  /-- A group is the same group as before, with the same members and no mark less. -/
  group : ∀ {key : String} {now : Group}, later.find? key = some now →
    ∃ before : Group, earlier.find? key = some before ∧ before.Continues now ∧
      now.members = before.members ∧ (before.isMarked = true → now.isMarked = true)
  /-- A claim is the same claim as before, and was marked only if it is bound. -/
  claim : ∀ {key : String} {now : Claim}, later.find? key = some now →
    ∃ before : Claim, earlier.find? key = some before ∧ before.Continues now ∧
      (now.isMarked = true → before.isMarked = true ∨ before.volumeName?.isSome = true)
  /-- A marked claim is still there and marked. -/
  marked : ∀ {key : String} {before : Claim}, earlier.find? key = some before →
    before.isMarked = true → ∃ now : Claim, later.find? key = some now ∧ now.isMarked = true

/-- Groups and claims are what they were, up to marks. -/
structure SameUpToMarks (earlier later : Store) : Prop where
  group : ∀ {key : String} {now : Group}, later.find? key = some now →
    ∃ before : Group, earlier.find? key = some before ∧ before.Continues now ∧
      now.members = before.members
  claim : ∀ {key : String} {now : Claim}, later.find? key = some now →
    ∃ before : Claim, earlier.find? key = some before ∧ before.Continues now

/-- Order stays, nothing is recorded as a member anew and no claim loses its mark. -/
structure Spares (earlier later : Store) : Prop where
  regular : later.Regular
  since : earlier.Since later
  keepsClaimMarks : earlier.KeepsClaimMarks later
  classes : later.classes = earlier.classes

/-- A store comes after itself. -/
theorem Since.refl (store : Store) : store.Since store := ⟨.refl _, .refl _, id⟩

/-- What comes after a store comes after all that was before it. -/
theorem Since.trans {first second third : Store} (before : first.Since second)
    (after : second.Since third) : first.Since third :=
  ⟨before.groups.trans after.groups, before.claims.trans after.claims,
    fun listed => before.lists (after.lists listed)⟩

/-- A store keeps what it is. -/
theorem Keeps.refl (store : Store) : store.Keeps store where
  groups := .refl _
  claims := .refl _
  classes := rfl
  group found := ⟨_, found, .refl _, rfl, id⟩
  claim found := ⟨_, found, .refl _, Or.inl⟩
  marked found marked := ⟨_, found, marked⟩

/-- What is kept is not recorded anew. -/
theorem Keeps.since {earlier later : Store} (keeps : earlier.Keeps later) : earlier.Since later := by
  -- A group that lists a claim now is the same group as before, with the same members.
  refine ⟨keeps.groups, keeps.claims, ?_⟩
  rintro space group claim ⟨key, now, found, rfl, rfl, member⟩
  obtain ⟨before, foundBefore, continues, members, _⟩ := keeps.group found
  have shared := continues.metadata
  refine ⟨key, before, foundBefore, ?_, ?_, members ▸ member⟩
  · rw [shared]
  · rw [Group.name, Group.name, shared]
    rfl

/-- What is kept loses no mark. -/
theorem Keeps.keepsClaimMarks {earlier later : Store} (keeps : earlier.Keeps later) :
    earlier.KeepsClaimMarks later := by
  rintro space claim ⟨key, before, found, rfl, named, marked⟩
  obtain ⟨now, foundNow, markedNow⟩ := keeps.marked found marked
  -- The claim that is there now is the one that was there before.
  obtain ⟨same, foundSame, continues, _⟩ := keeps.claim foundNow
  obtain rfl : before = same := by simpa [found] using foundSame
  have shared := continues.metadata
  exact ⟨key, now, foundNow, by rw [shared], by rw [shared]; exact named, markedNow⟩

/-- What is kept stays in order. -/
theorem Keeps.regular {earlier later : Store} (keeps : earlier.Keeps later)
    (regular : earlier.Regular) : later.Regular where
  -- Keys and names are parts that a later form has in common with the earlier one.
  groups := by
    refine regular.groups.of_precedes keeps.groups ?_
    intro key now found
    obtain ⟨before, foundBefore, continues, _⟩ := keeps.group found
    exact continues.metadata.key.trans (regular.groups.placed foundBefore)
  claims := by
    refine regular.claims.of_precedes keeps.claims ?_
    intro key now found
    obtain ⟨before, foundBefore, continues, _⟩ := keeps.claim found
    exact continues.metadata.key.trans (regular.claims.placed foundBefore)
  groupNamed found := by
    obtain ⟨before, foundBefore, continues, _⟩ := keeps.group found
    rw [continues.metadata]
    exact regular.groupNamed foundBefore
  claimNamed found := by
    obtain ⟨before, foundBefore, continues, _⟩ := keeps.claim found
    rw [continues.metadata]
    exact regular.claimNamed foundBefore

/-- What is kept is what it was. -/
theorem Keeps.sameUpToMarks {earlier later : Store} (keeps : earlier.Keeps later) :
    -- What was added to a claim is forgotten here.
    earlier.SameUpToMarks later where
  group found := by
    obtain ⟨before, foundBefore, continues, members, _⟩ := keeps.group found
    exact ⟨before, foundBefore, continues, members⟩
  claim found := by
    obtain ⟨before, foundBefore, continues, _⟩ := keeps.claim found
    exact ⟨before, foundBefore, continues⟩

/-- Groups and claims are what they are. -/
theorem SameUpToMarks.refl (store : Store) : store.SameUpToMarks store where
  group found := ⟨_, found, .refl _, rfl⟩
  claim found := ⟨_, found, .refl _⟩

/-- What is the same at two steps is the same over both. -/
theorem SameUpToMarks.trans {first second third : Store} (before : first.SameUpToMarks second)
    -- Each object is traced back over the middle store.
    (after : second.SameUpToMarks third) : first.SameUpToMarks third where
  group found := by
    obtain ⟨middle, foundMiddle, continues, members⟩ := after.group found
    obtain ⟨start, foundStart, continued, recorded⟩ := before.group foundMiddle
    exact ⟨start, foundStart, continued.trans continues, members.trans recorded⟩
  claim found := by
    obtain ⟨middle, foundMiddle, continues⟩ := after.claim found
    obtain ⟨start, foundStart, continued⟩ := before.claim foundMiddle
    exact ⟨start, foundStart, continued.trans continues⟩

/-- A store whose table of groups stays has the same groups. -/
theorem find?_of_groups {earlier later : Store} (groups : later.groups = earlier.groups)
    (key : String) : later.find? key = (earlier.find? key : Option Group) := by
  simp only [find?, Stored.table, groups]

/-- A store whose table of claims stays has the same claims. -/
theorem find?_of_claims {earlier later : Store} (claims : later.claims = earlier.claims)
    (key : String) : later.find? key = (earlier.find? key : Option Claim) := by
  simp only [find?, Stored.table, claims]

/-- A store whose table of contents stays has the same contents. -/
theorem find?_of_contents {earlier later : Store} (contents : later.contents = earlier.contents)
    (key : String) : later.find? key = (earlier.find? key : Option Content) := by
  simp only [find?, Stored.table, contents]

/-- Writes that leave the tables of groups, claims and classes alone keep them. -/
theorem Keeps.of_tables {earlier later : Store} (revision : earlier.revision ≤ later.revision)
    (groups : later.groups = earlier.groups) (claims : later.claims = earlier.claims)
    -- What is found in a table that is the same is found there before.
    (classes : later.classes = earlier.classes) : earlier.Keeps later where
  groups := .of_table revision groups
  claims := .of_table revision claims
  classes := classes
  group {key now} found := ⟨now, find?_of_groups groups key ▸ found, .refl _, rfl, id⟩
  claim {key now} found := ⟨now, find?_of_claims claims key ▸ found, .refl _, Or.inl⟩
  marked {key before} found marked :=
    ⟨before, (find?_of_claims claims key).trans found, marked⟩

/-- Writes of claims leave groups and classes alone. -/
theorem untouched_by_claims : Untouched Claim fun store => (store.groups, store.classes) :=
  fun _ _ _ => rfl

/-- Writes of groups leave claims and classes alone. -/
theorem untouched_by_groups : Untouched Group fun store => (store.claims, store.classes) :=
  fun _ _ _ => rfl

/-- Overwriting a bound claim by the same claim with its mark keeps what it was. -/
theorem Keeps.overwrite_claim {store : Store} (regular : store.Regular) {key : String}
    {claim later : Claim} (found : store.find? key = some claim) (continues : claim.Continues later)
    (marked : later.isMarked = true) (bound : claim.volumeName?.isSome = true) :
    store.Keeps (store.overwrite later).2 := by
  obtain ⟨groups, classes⟩ := Prod.mk.inj (untouched_by_claims.overwrite store later)
  have place : key = Resource.key later := by
    calc
      key = claim.metadata.key := (regular.claims.placed found).symm
      _ = later.metadata.key := continues.metadata.key.symm
  -- The mark holds the claim, so the write does not remove it.
  have after : (store.overwrite later).2.find? key = some (store.stamped later) :=
    place ▸ find?_overwrite_self (Metadata.isForsaken_of_hasFinalizer marked)
  refine ⟨.of_table (by simp) groups, precedes_overwrite store later, classes, ?_, ?_, ?_⟩
  · intro other now reading
    exact ⟨now, find?_of_groups groups other ▸ reading, .refl _, rfl, id⟩
  · -- The claim that was overwritten is bound, so its mark may be new.
    intro other now reading
    rcases find?_overwrite_eq_some reading with ⟨same, rfl⟩ | ⟨_, kept⟩
    · obtain rfl : other = key := same.trans place.symm
      exact ⟨claim, found, ⟨continues.metadata.trans rfl, continues.spec⟩, fun _ => Or.inr bound⟩
    · exact ⟨now, kept, .refl _, Or.inl⟩
  · intro other before reading held
    by_cases same : other = key
    · subst same
      exact ⟨store.stamped later, after, marked⟩
    · refine ⟨before, ?_, held⟩
      rw [find?_overwrite, if_neg (place ▸ same)]
      exact reading

/-- Overwriting a group by the same group with its members and its mark keeps what it was. -/
theorem Keeps.overwrite_group {store : Store} (regular : store.Regular) {key : String}
    {group later : Group} (found : store.find? key = some group) (continues : group.Continues later)
    (members : later.members = group.members)
    (marked : group.isMarked = true → later.isMarked = true) :
    store.Keeps (store.overwrite later).2 := by
  -- Claims are another table, so only the group that is written has to be looked at.
  obtain ⟨claims, classes⟩ := Prod.mk.inj (untouched_by_groups.overwrite store later)
  have place : key = Resource.key later := by
    calc
      key = group.metadata.key := (regular.groups.placed found).symm
      _ = later.metadata.key := continues.metadata.key.symm
  refine ⟨precedes_overwrite store later, .of_table (by simp) claims, classes, ?_, ?_, ?_⟩
  · intro other now reading
    rcases find?_overwrite_eq_some reading with ⟨same, rfl⟩ | ⟨_, kept⟩
    · obtain rfl : other = key := same.trans place.symm
      exact ⟨group, found, ⟨continues.metadata.trans rfl, continues.className, continues.selector⟩,
        members, marked⟩
    · exact ⟨now, kept, .refl _, rfl, id⟩
  · intro other now reading
    exact ⟨now, find?_of_claims claims other ▸ reading, .refl _, Or.inl⟩
  · intro other before reading held
    exact ⟨before, (find?_of_claims claims other).trans reading, held⟩

end Store

end VolumeGroups
