import VolumeGroups.Proofs.Solo.Writing

/-! What becomes of claims whose marks a pass puts on or takes off one after another. -/

namespace VolumeGroups

/-- A change of the marks of claims, where nothing means that a claim is not written. -/
abbrev Marking := Claim → Option Metadata

/-- A claim written with the marks that it gets, if it gets others. -/
def Claim.mark (marking : Marking) (claim : Claim) : Attempt ClusterError Unit :=
  match marking claim with
  | none => return ()
  | some metadata => do
    let _ ← Attempt.of (.ask (.replaceClaim { claim with metadata }))
    return ()

namespace Marking

/-- The mark of a member is put on. -/
def protecting : Marking := fun claim => claim.metadata.addFinalizer? claimFinalizer

/-- The mark of a member is taken off, unless one of some groups lists the claim. -/
def releasing (others : List Group) : Marking := fun claim =>
  if others.any fun group => group.lists claim then none
  else claim.metadata.removeFinalizer? claimFinalizer

/-- Release is a change of marks. -/
theorem mark_releasing (others : List Group) (claim : Claim) :
    claim.mark (releasing others) = claim.release others := by
  -- Both ways ask first whether another group lists the claim, and then whether the mark is there.
  unfold Claim.mark Claim.release releasing
  split
  · rename_i kept
    split at kept
    · rename_i listed
      rw [if_pos listed]
    · rename_i free
      rw [if_neg free, kept]
  · rename_i metadata freed
    split at freed
    · cases freed
    · rename_i free
      rw [if_neg free, freed]

/-- Nothing but marks is changed. -/
structure Lawful (marking : Marking) : Prop where
  continues : ∀ {claim : Claim} {metadata : Metadata}, marking claim = some metadata →
    claim.metadata.Continues metadata
  version : ∀ {claim : Claim} {metadata : Metadata}, marking claim = some metadata →
    metadata.resourceVersion = claim.metadata.resourceVersion

/-- Protection changes nothing but marks. -/
theorem protecting_lawful : protecting.Lawful where
  continues marked := (Metadata.addFinalizer?_eq_some marked).1
  version marked := (Metadata.addFinalizer?_eq_some marked).2.1

/-- Release changes nothing but marks. -/
theorem releasing_lawful (others : List Group) : (releasing others).Lawful where
  -- Only the second way writes, and it takes the mark off.
  continues {claim metadata} freed := by
    simp only [releasing] at freed
    split at freed
    · cases freed
    · exact (Metadata.removeFinalizer?_eq_some freed).1
  version {claim metadata} freed := by
    simp only [releasing] at freed
    split at freed
    · cases freed
    · exact (Metadata.removeFinalizer?_eq_some freed).2.1

/-- What is found of a claim after its marks were changed. -/
def Result (marking : Marking) (claim : Claim) (now : Option Claim) : Prop :=
  match marking claim with
  | none => now = some claim
  | some metadata =>
    if metadata.isForsaken then now = none
    else ∃ version, now = some { claim with metadata := { metadata with resourceVersion := version } }

/-- What is found after its marks were changed is a later form of the claim, and it is found unless
the claim is being deleted. -/
theorem Result.cases {marking : Marking} (lawful : marking.Lawful) {claim : Claim}
    {now : Option Claim} (result : marking.Result claim now) :
    (now = none ∧ claim.metadata.isTerminating = true) ∨
      ∃ later, now = some later ∧ claim.Continues later := by
  -- A claim whose marks are as they should be is not written.
  unfold Result at result
  split at result
  · exact .inr ⟨claim, result, .refl _⟩
  · rename_i metadata changed
    have continues := lawful.continues changed
    split at result
    · -- Only a claim that is being deleted goes with its last mark.
      rename_i forsaken
      refine .inl ⟨result, ?_⟩
      have terminating : metadata.isTerminating = true := by
        simp only [Metadata.isForsaken, Bool.and_eq_true] at forsaken
        exact forsaken.1
      rw [continues] at terminating
      exact terminating
    · obtain ⟨version, there⟩ := result
      exact .inr ⟨_, there, continues.trans rfl, rfl⟩

/-- A claim that was protected is there and marked. -/
theorem Result.protected {claim : Claim} {now : Option Claim}
    (result : protecting.Result claim now) :
    ∃ later, now = some later ∧ claim.Continues later ∧ later.isMarked = true := by
  unfold Result protecting at result
  split at result
  · -- The claim had its mark already.
    rename_i kept
    exact ⟨claim, result, .refl _, Metadata.addFinalizer?_eq_none kept⟩
  · -- The claim got its mark, which holds it from then on.
    rename_i metadata marked
    obtain ⟨continues, _, held⟩ := Metadata.addFinalizer?_eq_some marked
    rw [Metadata.isForsaken_of_hasFinalizer held] at result
    obtain ⟨version, there⟩ := result
    exact ⟨_, there, ⟨continues.trans rfl, rfl⟩, held⟩

/-- A claim that was released is gone or unmarked, unless another group lists it. -/
theorem Result.released {others : List Group} {claim : Claim} {now : Option Claim}
    (result : (releasing others).Result claim now)
    (free : ∀ other ∈ others, other.lists claim = false) :
    ∀ later, now = some later → later.isMarked = false := by
  have unlisted : (others.any fun group => group.lists claim) = false := by
    simpa using free
  -- No other group lists the claim, so its mark has to go.
  unfold Result releasing at result
  rw [unlisted] at result
  simp only [Bool.false_eq_true, if_false] at result
  intro later there
  subst there
  split at result
  · -- There was no mark.
    rename_i kept
    obtain rfl := Option.some.inj result
    exact Metadata.removeFinalizer?_eq_none kept
  · -- The mark was taken off, and the claim may have gone with it.
    rename_i metadata freed
    have gone := Metadata.hasFinalizer_removeFinalizer? freed
    split at result
    · cases result
    · obtain ⟨version, there⟩ := result
      obtain rfl := Option.some.inj there
      exact gone

end Marking

/-- A store in which the marks of some claims were changed, and nothing else. -/
structure Store.Marked (marking : Marking) (claims : List Claim) (before after : Store) : Prop where
  tidy : after.Tidy
  apart : (after.groups, after.contents, after.grounds) =
    (before.groups, before.contents, before.grounds)
  claims : ∀ key : String, after.find? key = (before.find? key : Option Claim) ∨
    ∃ claim ∈ claims, Resource.key claim = key ∧ before.find? key = some claim ∧
      marking.Result claim (after.find? key)

namespace Store.Marked

variable {marking : Marking} {before after : Store}

/-- No claim is written, and nothing is changed. -/
theorem refl (tidy : before.Tidy) (claims : List Claim) : before.Marked marking claims before :=
  ⟨tidy, rfl, fun _ => .inl rfl⟩

/-- The marks of one claim are changed, and then those of claims under other keys. -/
theorem cons {claim : Claim} {rest : List Claim} {last : Store}
    (first : before.Marked marking [claim] after) (later : after.Marked marking rest last)
    (apart : ∀ other ∈ rest, Resource.key other ≠ Resource.key claim) :
    before.Marked marking (claim :: rest) last where
  tidy := later.tidy
  apart := later.apart.trans first.apart
  claims key := by
    -- A key is written by one of the two steps at most.
    rcases later.claims key with kept | ⟨other, known, here, found, result⟩
    · rw [kept]
      rcases first.claims key with same | ⟨own, one, here, found, result⟩
      · exact .inl same
      · obtain rfl := List.mem_singleton.mp one
        exact .inr ⟨own, List.mem_cons_self .., here, found, result⟩
    · -- What is written later lies under another key, and was as it is now.
      refine .inr ⟨other, List.mem_cons_of_mem _ known, here, ?_, result⟩
      rcases first.claims key with same | ⟨own, one, place, _⟩
      · exact same ▸ found
      · obtain rfl := List.mem_singleton.mp one
        exact absurd (here.trans place.symm) (apart other known)

end Store.Marked

namespace Attempt

variable {conditions : Conditions} {scene : Scene} {marking : Marking}

/-- The marks of a claim that was just read are changed, unless the call fails. -/
theorem ensures_mark (solo : conditions.Solo) (lawful : marking.Lawful) {claim : Claim}
    (tidy : scene.store.Tidy) (found : scene.store.find? (Resource.key claim) = some claim) :
    Ensures conditions
      (EndsEither
        (fun _ after => scene.store.Marked marking [claim] after.store ∧
          marking.Result claim (after.store.find? (Resource.key claim)) ∧
          Extends Call.IsSilent scene.exchanges after.exchanges)
        (fun _ after => conditions.LetsCallsFail ∧ after.store = scene.store ∧
          Extends Call.IsSilent scene.exchanges after.exchanges))
      (claim.mark marking) scene := by
  unfold Claim.mark
  split
  · -- Nothing has to be changed.
    rename_i kept
    have result : marking.Result claim (scene.store.find? (Resource.key claim)) := by
      unfold Marking.Result
      rw [kept]
      exact found
    exact .pure ⟨.refl tidy _, result, .refl _⟩
  · rename_i metadata changed
    have continues := lawful.continues changed
    have place : Resource.key ({ claim with metadata } : Claim) = Resource.key claim :=
      continues.key
    -- The claim is written in the version that was read.
    refine Honours.bind (ensures_replaceClaim solo (place ▸ found) (lawful.version changed).symm)
      ?_ ?_
    · rintro cause after ⟨letsFail, _, kept, log⟩
      exact ⟨letsFail, kept, log⟩
    · rintro stored after ⟨_, wrote, log⟩
      -- A write that takes the last mark off a claim that is being deleted removes the claim.
      have reading (key : String) : after.store.find? key =
          if key = Resource.key claim then
            if metadata.isForsaken then none
            else some (scene.store.stamped { claim with metadata })
          else scene.store.find? key := by
        rw [wrote, Store.find?_overwrite, place]
        rfl
      have result : marking.Result claim (after.store.find? (Resource.key claim)) := by
        unfold Marking.Result
        rw [changed, reading, if_pos rfl]
        simp only
        split
        · rfl
        · exact ⟨_, rfl⟩
      refine .pure ⟨⟨?_, ?_, ?_⟩, result, log⟩
      · -- The claim is a form of itself, so the store stays tidy.
        rw [wrote]
        exact tidy.overwrite_claim found continues
      · rw [wrote]
        exact Store.apart_of_claims.overwrite scene.store _
      · -- No other key is written.
        intro key
        by_cases here : Resource.key claim = key
        · exact .inr ⟨claim, List.mem_singleton.mpr rfl, here, here ▸ found, here ▸ result⟩
        · exact .inl (by rw [reading, if_neg (Ne.symm here)])

/-- The marks of claims that were just read are changed one after another, until a call fails. -/
theorem ensures_marks (solo : conditions.Solo) (lawful : marking.Lawful) {claims : List Claim}
    (tidy : scene.store.Tidy) (distinct : (claims.map Resource.key).Nodup)
    (found : ∀ claim ∈ claims, scene.store.find? (Resource.key claim) = some claim) :
    Ensures conditions
      (EndsEither
        (fun _ after => scene.store.Marked marking claims after.store ∧
          (∀ claim ∈ claims, marking.Result claim (after.store.find? (Resource.key claim))) ∧
          Extends Call.IsSilent scene.exchanges after.exchanges)
        (fun error after => conditions.LetsCallsFail ∧ (∃ cause, error = PassError.cluster cause) ∧
          scene.store.Marked marking claims after.store ∧
          Extends Call.IsSilent scene.exchanges after.exchanges))
      (claims.forM fun claim => within PassError.cluster (claim.mark marking)) scene := by
  -- The induction goes along the claims, whose keys are distinct, so none is written twice.
  induction claims generalizing scene with
  | nil => exact .pure ⟨.refl tidy _, by simp, .refl _⟩
  | cons claim rest ih =>
    -- Only the first claim lies under its key.
    obtain ⟨apart, distinct⟩ := List.nodup_cons.mp distinct
    have elsewhere : ∀ other ∈ rest, Resource.key other ≠ Resource.key claim := by
      intro other known same
      exact apart (same ▸ List.mem_map_of_mem known)
    -- First this claim is written, in the wider terms of the pass.
    have writing : Ensures conditions
        (EndsEither
          (fun _ after => scene.store.Marked marking [claim] after.store ∧
            marking.Result claim (after.store.find? (Resource.key claim)) ∧
            Extends Call.IsSilent scene.exchanges after.exchanges)
          (fun error after => conditions.LetsCallsFail ∧
            (∃ cause, error = PassError.cluster cause) ∧
            after.store = scene.store ∧ Extends Call.IsSilent scene.exchanges after.exchanges))
        (within PassError.cluster (claim.mark marking)) scene := by
      refine .within ((ensures_mark solo lawful tidy
        (found claim (List.mem_cons_self ..))).mono ?_)
      rintro (cause | value) after ended
      · exact ⟨ended.1, ⟨cause, rfl⟩, ended.2⟩
      · exact ended
    refine Honours.bind writing ?_ ?_
    · -- A failure ends the whole, with the marks that were changed so far.
      rintro error after ⟨letsFail, cause, kept, log⟩
      exact ⟨letsFail, cause, kept.symm ▸ .refl tidy _, log⟩
    · rintro _ after ⟨first, result, log⟩
      -- The other claims are as they were, since they lie under other keys.
      have untouched : ∀ other ∈ rest,
          after.store.find? (Resource.key other) = some other := by
        intro other known
        rcases first.claims (Resource.key other) with same | ⟨own, one, here, _⟩
        · exact same ▸ found other (List.mem_cons_of_mem _ known)
        · obtain rfl := List.mem_singleton.mp one
          exact absurd here.symm (elsewhere other known)
      refine (ih first.tidy distinct untouched).mono ?_
      -- Whether the rest is written or a call fails, the first claim stays written.
      rintro (error | value) last ended
      · obtain ⟨letsFail, cause, later, more⟩ := ended
        exact ⟨letsFail, cause, first.cons later elsewhere, log.trans more⟩
      · obtain ⟨later, results, more⟩ := ended
        refine ⟨first.cons later elsewhere, ?_, log.trans more⟩
        intro other known
        rcases List.mem_cons.mp known with rfl | known
        · -- The first claim is not written again.
          rcases later.claims (Resource.key other) with same | ⟨last, known, here, _⟩
          · exact same ▸ result
          · exact absurd here (elsewhere last known)
        · exact results other known

/-- Claims are released one after another, until a call fails. -/
theorem ensures_releases (solo : conditions.Solo) {claims : List Claim} (others : List Group)
    (tidy : scene.store.Tidy) (distinct : (claims.map Resource.key).Nodup)
    (found : ∀ claim ∈ claims, scene.store.find? (Resource.key claim) = some claim) :
    Ensures conditions
      (EndsEither
        (fun _ after => scene.store.Marked (.releasing others) claims after.store ∧
          (∀ claim ∈ claims,
            Marking.Result (.releasing others) claim (after.store.find? (Resource.key claim))) ∧
          Extends Call.IsSilent scene.exchanges after.exchanges)
        (fun error after => conditions.LetsCallsFail ∧ (∃ cause, error = PassError.cluster cause) ∧
          scene.store.Marked (.releasing others) claims after.store ∧
          Extends Call.IsSilent scene.exchanges after.exchanges))
      (releaseClaims claims others) scene := by
  -- Release is one way of changing marks.
  simp only [releaseClaims, ← Marking.mark_releasing]
  exact ensures_marks solo (Marking.releasing_lawful others) tidy distinct found

end Attempt

end VolumeGroups
