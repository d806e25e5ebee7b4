import VolumeGroups.Proofs.Solo.Claims

/-! What a pass leaves alone: everything but its group, its content and the marks of claims. -/

namespace VolumeGroups

namespace Store

/-- Nothing differs but the group under one key, the content under another and the marks of claims,
of which none goes unless it is being deleted. -/
structure Beside (place room : String) (before after : Store) : Prop where
  -- Tables that are only read are as they were.
  tidy : after.Tidy
  grounds : after.grounds = before.grounds
  -- One group and one content may differ, and claims in their marks.
  groups : ∀ key : String, key ≠ place → after.find? key = (before.find? key : Option Group)
  contents : ∀ key : String, key ≠ room → after.find? key = (before.find? key : Option Content)
  origin : ∀ {key : String} {now : Claim}, after.find? key = some now →
    ∃ claim : Claim, before.find? key = some claim ∧ claim.Continues now
  stays : ∀ {key : String} {claim : Claim}, before.find? key = some claim →
    claim.metadata.isTerminating = false → ∃ now : Claim, after.find? key = some now

/-- No claim has a mark that it did not have. -/
structure MarksNoClaim (before after : Store) : Prop where
  origin : ∀ {key : String} {now : Claim}, after.find? key = some now →
    ∃ claim : Claim, before.find? key = some claim ∧
      (now.isMarked = true → claim.isMarked = true)

namespace Beside

variable {place room : String}

/-- A store does not differ from itself. -/
theorem refl {store : Store} (tidy : store.Tidy) : store.Beside place room store where
  tidy := tidy
  grounds := rfl
  groups _ _ := rfl
  contents _ _ := rfl
  origin found := ⟨_, found, .refl _⟩
  stays found _ := ⟨_, found⟩

/-- What differs in no more twice differs in no more over both. -/
theorem trans {first second third : Store} (before : first.Beside place room second)
    (after : second.Beside place room third) : first.Beside place room third where
  -- Tables and keys are compared over the store in between.
  tidy := after.tidy
  grounds := after.grounds.trans before.grounds
  groups key apart := (after.groups key apart).trans (before.groups key apart)
  contents key apart := (after.contents key apart).trans (before.contents key apart)
  origin found := by
    obtain ⟨middle, foundMiddle, continues⟩ := after.origin found
    obtain ⟨claim, foundClaim, continued⟩ := before.origin foundMiddle
    exact ⟨claim, foundClaim, continued.trans continues⟩
  stays found live := by
    -- The claim in between is a form of the first one, so it is not being deleted either.
    obtain ⟨middle, foundMiddle⟩ := before.stays found live
    obtain ⟨claim, foundClaim, continues⟩ := before.origin foundMiddle
    obtain rfl : _ = claim := Option.some.inj (found.symm.trans foundClaim)
    refine after.stays foundMiddle ?_
    rw [continues.metadata]
    exact live

/-- A group that is overwritten by a later form of itself is all that differs. -/
theorem of_group {store : Store} (tidy : store.Tidy) {group later : Group}
    (found : store.find? place = some group)
    (continues : group.metadata.Continues later.metadata) :
    store.Beside place room (store.overwrite later).2 := by
  -- A write of a group touches the table of groups only.
  obtain ⟨claims, apart⟩ := Prod.mk.inj (apart_of_groups.overwrite store later)
  obtain ⟨contents, grounds⟩ := Prod.mk.inj apart
  have here : Resource.key later = place := continues.key.trans (tidy.groups.placed found)
  have same (key : String) : (store.overwrite later).2.find? key =
      (store.find? key : Option Claim) := find?_of_claims claims key
  refine ⟨tidy.overwrite_group found continues, grounds, ?_, ?_, ?_, ?_⟩
  · -- Another key is not written.
    intro key elsewhere
    rw [find?_overwrite, if_neg (here ▸ elsewhere)]
  · intro key _
    simp only [find?, Stored.table, contents]
  · intro key now there
    exact ⟨now, same key ▸ there, .refl _⟩
  · intro key claim there _
    exact ⟨claim, (same key).trans there⟩

/-- Contents that differ under one key only are all that differs. -/
theorem of_content {before after : Store} (tidy : before.Tidy)
    (revision : before.revision ≤ after.revision)
    (apart : (after.groups, after.claims, after.grounds) =
      (before.groups, before.claims, before.grounds))
    (orderly : after.Orderly Content)
    (contents : ∀ key, key ≠ room → after.find? key = (before.find? key : Option Content)) :
    before.Beside place room after := by
  -- Groups and claims are as they were.
  obtain ⟨groups, rest⟩ := Prod.mk.inj apart
  obtain ⟨claims, grounds⟩ := Prod.mk.inj rest
  refine ⟨tidy.of_contents revision groups claims orderly, grounds, ?_, contents, ?_, ?_⟩
  · intro key _
    exact find?_of_groups groups key
  · intro key now there
    exact ⟨now, find?_of_claims claims key ▸ there, .refl _⟩
  · intro key claim there _
    exact ⟨claim, (find?_of_claims claims key).trans there⟩

/-- A content that is overwritten is all that differs. -/
theorem of_overwrite_content {store : Store} (tidy : store.Tidy) {later : Content}
    (here : Resource.key later = room) :
    store.Beside place room (store.overwrite later).2 := by
  refine of_content tidy (by simp) (apart_of_contents.overwrite store later)
    (tidy.contents.overwrite later) ?_
  intro key elsewhere
  rw [find?_overwrite, if_neg (here ▸ elsewhere)]

end Beside

variable {marking : Marking} {claims : List Claim} {before after : Store}

/-- Where marks of claims were changed, a claim is what it was up to marks. -/
theorem Marked.beside {place room : String} (lawful : marking.Lawful)
    (marked : before.Marked marking claims after) : before.Beside place room after := by
  -- A change of marks touches the table of claims only.
  obtain ⟨groups, rest⟩ := Prod.mk.inj marked.apart
  obtain ⟨contents, grounds⟩ := Prod.mk.inj rest
  refine ⟨marked.tidy, grounds, fun key _ => find?_of_groups groups key, ?_, ?_, ?_⟩
  · intro key _
    simp only [find?, Stored.table, contents]
  · -- Every claim goes back to one that was there.
    intro key now found
    rcases marked.claims key with same | ⟨claim, _, _, there, result⟩
    · exact ⟨now, same ▸ found, .refl _⟩
    · rcases result.cases lawful with ⟨gone, _⟩ | ⟨later, there', continues⟩
      · simp [gone] at found
      · obtain rfl := Option.some.inj (there'.symm.trans found)
        exact ⟨claim, there, continues⟩
  · -- Every claim that does not end is still there.
    intro key claim found live
    rcases marked.claims key with same | ⟨own, _, _, there, result⟩
    · exact ⟨claim, same.trans found⟩
    · obtain rfl := Option.some.inj (there.symm.trans found)
      -- A claim goes with its mark only if it is being deleted.
      rcases result.cases lawful with ⟨_, terminating⟩ | ⟨later, there', _⟩
      · simp [live] at terminating
      · exact ⟨later, there'⟩

/-- Where marks of claims were changed, the group, the contents and all they rest on are as before. -/
theorem Marked.group (marked : before.Marked marking claims after) (key : String) :
    after.find? key = (before.find? key : Option Group) :=
  find?_of_groups (Prod.mk.inj marked.apart).1 key

/-- Where marks of claims were changed, contents are as before. -/
theorem Marked.content (marked : before.Marked marking claims after) (key : String) :
    after.find? key = (before.find? key : Option Content) := by
  have contents := (Prod.mk.inj (Prod.mk.inj marked.apart).2).1
  simp only [find?, Stored.table, contents]

end Store

end VolumeGroups
