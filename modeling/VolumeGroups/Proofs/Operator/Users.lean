import VolumeGroups.Proofs.Store.Progress

/-! What users do to claims and groups, and that it records no member and takes off no mark. -/

namespace VolumeGroups

/-- An object of a namespace and a name changed by a user, if it is there. -/
def Store.modify {α : Type} [Stored α] (store : Store) (name «namespace» : String)
    (change : α → α) : Store :=
  match store.get name «namespace» with
  | .ok object => (store.replace (change object)).2
  | .error _ => store

/-- A change has no effect, or replaces the object that is there. -/
theorem Store.modify_cases {α : Type} [Stored α] (store : Store) (name «namespace» : String)
    (change : α → α) :
    store.modify name «namespace» change = store ∨
      ∃ object, store.find? («namespace» ++ "/" ++ name) = some object ∧
        store.modify name «namespace» change = (store.replace (change object)).2 := by
  -- Only an object that is there is changed.
  simp only [modify]
  cases reading : store.get (α := α) name «namespace» with
  | error error => exact Or.inl rfl
  | ok object => exact Or.inr ⟨object, get_eq_ok.mp reading, rfl⟩

/-- A change that leaves an object under its key has no effect, or overwrites that very object. -/
theorem Store.modify_overwrites {α : Type} [Stored α] {store : Store} {change : α → α}
    (orderly : store.Orderly α) (name space : String)
    (place : ∀ object, Resource.key (change object) = Resource.key object) :
    store.modify name space change = store ∨
      ∃ object, store.find? (space ++ "/" ++ name) = some object ∧
        store.modify name space change =
          (store.overwrite (Stored.withStatusOf (change object) object)).2 := by
  -- The object that is changed is replaced under the version that it has, which is never out of
  -- date.
  rcases modify_cases store name space change with none | ⟨object, found, wrote⟩
  · exact Or.inl none
  · rcases replace_cases store (change object) with ⟨error, failed⟩ | ⟨stored, there, _, done⟩
    · exact Or.inl (by rw [wrote, failed])
    · -- The replaced object is the one that was read, since both lie under its key.
      obtain rfl : stored = object := by
        simpa [place, orderly.placed found, found] using there.symm
      exact Or.inr ⟨stored, found, by rw [wrote, done]⟩

/-- What is found after a change of an object was there before, or is that object changed. -/
theorem Store.find?_modify {α : Type} [Stored α] [LawfulStored α] {store : Store}
    {name space : String} {change : α → α} (orderly : store.Orderly α) {key : String} {now : α}
    (reading : (store.modify name space change).find? key = some now)
    (place : ∀ object, Resource.key (change object) = Resource.key object) :
    store.find? key = some now ∨ ∃ before, store.find? key = some before ∧
      now = store.stamped (Stored.withStatusOf (change before) before) := by
  -- A change without effect leaves everything as it was.
  rcases modify_overwrites orderly name space place with none | ⟨object, found, wrote⟩
  · exact Or.inl (none ▸ reading)
  · rw [wrote] at reading
    -- Only what lies under the key of the changed object is new.
    rcases find?_overwrite_eq_some reading with ⟨here, rfl⟩ | ⟨_, kept⟩
    · have same : Resource.key (Stored.withStatusOf (change object) object) =
          Resource.key (change object) := by
        simp only [Resource.key, LawfulStored.metadata_withStatusOf]
      refine Or.inr ⟨object, ?_, rfl⟩
      rw [here, same, place, orderly.placed found]
      exact found
    · exact Or.inl kept

/-- What is found after a deletion was there before, or is an object that was set to terminate. -/
theorem Store.find?_delete {α : Type} [Stored α] [LawfulStored α] {store : Store}
    {name space : String} (orderly : store.Orderly α) {key : String} {now : α}
    (reading : (store.delete α name space).2.find? key = some now) :
    store.find? key = some now ∨
      ∃ before, store.find? key = some before ∧ now = store.stamped (ending before) := by
  -- An object goes if no mark holds it, stays if it terminates, and is set to terminate otherwise.
  rcases delete_cases (α := α) store name space with
    ⟨error, failed⟩ | ⟨stored, found, ⟨_, done⟩ | done | ⟨_, done⟩⟩
  · rw [failed] at reading
    exact Or.inl reading
  · rw [done, find?_remove] at reading
    split at reading
    · cases reading
    · exact Or.inl reading
  · rw [done] at reading
    exact Or.inl reading
  · rw [done] at reading
    rcases find?_save_eq_some reading with ⟨here, rfl⟩ | ⟨_, kept⟩
    · refine Or.inr ⟨stored, ?_, rfl⟩
      have same : Resource.key (ending stored) = Resource.key stored := by
        simp only [Resource.key, ending, LawfulStored.metadata_withMetadata]
        rfl
      rw [here, same, orderly.placed found]
      exact found
    · exact Or.inl kept

/-- A change of an object touches nothing that writes of its type leave alone. -/
theorem Store.Untouched.modify {α β : Type} [Stored α] {view : Store → β}
    (untouched : Untouched α view) (store : Store) (name space : String) (change : α → α) :
    view (store.modify name space change) = view store := by
  rcases modify_cases store name space change with none | ⟨object, _, wrote⟩
  · rw [none]
  · rw [wrote, untouched.replace]

/-- What a user does to claims and groups. -/
inductive UserAction where
  | createClaim (claim : Claim)
  | relabelClaim (name «namespace» : String) (labels : Option (KeyMap String))
  | deleteClaim (name «namespace» : String)
  | createGroup (group : Group)
  | editGroup (name «namespace» : String) (change : GroupSpec → GroupSpec)
  | deleteGroup (name «namespace» : String)

namespace UserAction

/-- The store after a user's action. -/
def on (store : Store) : UserAction → Store
  -- What users create goes through the same door as what passes create.
  | .createClaim claim => (store.create claim).2
  | .relabelClaim name space labels =>
    store.modify name space fun claim : Claim =>
      { claim with metadata := { claim.metadata with labels } }
  | .deleteClaim name space => (store.delete Claim name space).2
  | .createGroup group => (store.create group).2
  -- Users edit what a group asks for, never its state.
  | .editGroup name space change =>
    store.modify name space fun group : Group => { group with spec := change group.spec }
  | .deleteGroup name space => (store.delete Group name space).2

/-- What users create has a name, and a group that they create has no observed state yet. -/
def IsProper : UserAction → Prop
  | .createClaim claim => claim.metadata.name.isSome
  | .createGroup group => group.metadata.name.isSome ∧ group.status = none
  | .relabelClaim .. | .deleteClaim .. | .editGroup .. | .deleteGroup .. => True

/-- Users act on a store in one of the ways they are allowed to. -/
def Leads (allowed : UserAction → Prop) (store after : Store) : Prop :=
  ∃ action, allowed action ∧ after = action.on store

end UserAction

namespace Store

/-- A write of one group that records no member leaves order, members and marks alone. -/
theorem Spares.of_group {store later : Store} (next : Group) (regular : store.Regular)
    (precedes : store.Precedes Group later)
    (rest : (later.claims, later.classes) = (store.claims, store.classes))
    (read : ∀ {key : String} {now : Group}, later.find? key = some now →
      store.find? key = some now ∨ key = next.metadata.key ∧ now = store.stamped next)
    (named : next.metadata.name.isSome)
    (recorded : next.members = [] ∨ ∃ before : Group, store.find? next.metadata.key = some before ∧
      next.metadata.namespace = before.metadata.namespace ∧
      next.metadata.name = before.metadata.name ∧ next.members = before.members) :
    store.Spares later := by
  obtain ⟨claims, classes⟩ := Prod.mk.inj rest
  have claimsPrecede : store.Precedes Claim later := .of_table precedes.revision claims
  -- Order among groups and claims comes first, then lists, then marks, which no group bears.
  refine ⟨⟨?_, ?_, ?_, ?_⟩, ⟨precedes, claimsPrecede, ?_⟩, ?_, classes⟩
  · refine regular.groups.of_precedes precedes ?_
    intro key now found
    -- What is found is what was there before, or the written group, which is known by name.
    rcases read found with kept | ⟨place, rfl⟩
    · exact regular.groups.placed kept
    · exact place.symm
  · exact regular.claims.of_table precedes.revision claims
  · intro key now found
    rcases read found with kept | ⟨_, rfl⟩
    · exact regular.groupNamed kept
    · exact named
  · intro key now found
    exact regular.claimNamed (find?_of_claims claims key ▸ found)
  · rintro space group claim ⟨key, now, found, inSpace, goes, member⟩
    rcases read found with kept | ⟨rfl, rfl⟩
    · exact ⟨key, now, kept, inSpace, goes, member⟩
    · -- What is written lists what the group listed before, which is nothing for a new one.
      rcases recorded with nothing | ⟨before, kept, sameSpace, sameName, members⟩
      · have listed : claim ∈ next.members := member
        simp [nothing] at listed
      · refine ⟨_, before, kept, sameSpace.symm.trans inSpace, ?_, members ▸ member⟩
        obtain ⟨name, has⟩ := Option.isSome_iff_exists.mp named
        calc
          before.name = name := Metadata.displayName_of_name (sameName.symm.trans has)
          _ = (store.stamped next).name := (Metadata.displayName_of_name has).symm
          _ = group := goes
  -- No claim is written, so marks are where they were.
  · rintro space claim ⟨key, stored, found, inSpace, goes, marked⟩
    exact ⟨key, stored, (find?_of_claims claims key).trans found, inSpace, goes, marked⟩

/-- A write of one claim that takes no mark off leaves order, members and marks alone. -/
theorem Spares.of_claim {store later : Store} (next : Claim) (regular : store.Regular)
    (precedes : store.Precedes Claim later)
    (rest : (later.groups, later.classes) = (store.groups, store.classes))
    (read : ∀ {key : String} {now : Claim}, later.find? key = some now →
      store.find? key = some now ∨ key = next.metadata.key ∧ now = store.stamped next)
    (named : next.metadata.name.isSome)
    (marked : ∀ {key : String} {before : Claim}, store.find? key = some before →
      before.isMarked = true → ∃ now : Claim, later.find? key = some now ∧
        now.metadata.namespace = before.metadata.namespace ∧
        now.metadata.name = before.metadata.name ∧ now.isMarked = true) :
    store.Spares later := by
  obtain ⟨groups, classes⟩ := Prod.mk.inj rest
  have groupsPrecede : store.Precedes Group later := .of_table precedes.revision groups
  -- Order among groups and claims comes first, then lists, which no claim bears, then marks.
  refine ⟨⟨?_, ?_, ?_, ?_⟩, ⟨groupsPrecede, precedes, ?_⟩, ?_, classes⟩
  · exact regular.groups.of_table precedes.revision groups
  · refine regular.claims.of_precedes precedes ?_
    intro key now found
    -- The claim that is written lies under its own key.
    rcases read found with kept | ⟨place, rfl⟩
    · exact regular.claims.placed kept
    · exact place.symm
  · intro key now found
    exact regular.groupNamed (find?_of_groups groups key ▸ found)
  · intro key now found
    rcases read found with kept | ⟨_, rfl⟩
    · exact regular.claimNamed kept
    · exact named
  -- No group is written, so lists are what they were.
  · rintro space group claim ⟨key, now, found, inSpace, goes, member⟩
    exact ⟨key, now, find?_of_groups groups key ▸ found, inSpace, goes, member⟩
  · rintro space claim ⟨key, before, found, inSpace, goes, held⟩
    obtain ⟨now, foundNow, sameSpace, sameName, markedNow⟩ := marked found held
    exact ⟨key, now, foundNow, sameSpace.trans inSpace, sameName.trans goes, markedNow⟩

/-- A store that nobody writes to is left alone. -/
theorem Spares.refl {store : Store} (regular : store.Regular) : store.Spares store :=
  ⟨regular, .refl _, id, rfl⟩

/-- A changed specification leaves order, members and marks alone. -/
theorem Spares.modify_group {store : Store} (regular : store.Regular) (name space : String)
    {change : Group → Group} (same : ∀ group, (change group).metadata = group.metadata) :
    store.Spares (store.modify name space change) := by
  have place (group : Group) : Resource.key (change group) = Resource.key group :=
    congrArg Metadata.key (same group)
  -- A change without effect leaves all as it is.
  rcases modify_overwrites regular.groups name space place with none | ⟨group, found, wrote⟩
  · rw [none]
    exact .refl regular
  · have there : store.find? (Resource.key (change group)) = some group := by
      rw [place, regular.groups.placed found]
      exact found
    rw [wrote]
    refine .of_group (Stored.withStatusOf (change group) group) regular
      (precedes_overwrite _ _) (untouched_by_groups.overwrite _ _) ?_ ?_ (.inr ⟨group, there, ?_⟩)
    · intro key now reading
      exact (find?_overwrite_eq_some reading).symm.imp And.right id
    · exact same group ▸ regular.groupNamed found
    · -- Users write no state, so the members are the same.
      exact ⟨congrArg _ (same group), congrArg _ (same group), rfl⟩

/-- Changed labels leave order, members and marks alone. -/
theorem Spares.modify_claim {store : Store} (regular : store.Regular) (name space : String)
    {change : Claim → Claim}
    (same : ∀ claim, (change claim).metadata.namespace = claim.metadata.namespace ∧
      (change claim).metadata.name = claim.metadata.name ∧
      (change claim).metadata.finalizers = claim.metadata.finalizers) :
    store.Spares (store.modify name space change) := by
  -- Labels are no part of the key.
  have sameKey (claim : Claim) : Resource.key (change claim) = Resource.key claim := by
    simp only [Resource.key, Metadata.key, Resource.metadata, same claim]
  rcases modify_overwrites regular.claims name space sameKey with none | ⟨claim, found, wrote⟩
  · rw [none]
    exact .refl regular
  · obtain ⟨sameSpace, sameName, sameMarks⟩ := same claim
    have place : Resource.key (change claim) = space ++ "/" ++ name :=
      (sameKey claim).trans (regular.claims.placed found)
    rw [wrote]
    refine .of_claim (change claim) regular (precedes_overwrite _ _)
      (untouched_by_claims.overwrite _ _) ?_ ?_ ?_
    · intro key now reading
      exact (find?_overwrite_eq_some reading).symm.imp And.right id
    · exact sameName ▸ regular.claimNamed found
    · -- The claim keeps its marks under new labels, and other claims are not written.
      intro key before kept held
      by_cases here : key = space ++ "/" ++ name
      · subst here
        obtain rfl : claim = before := by simpa [found] using kept
        have marked : (change claim).isMarked = true := by
          simpa only [Claim.isMarked, Metadata.hasFinalizer, sameMarks] using held
        refine ⟨store.stamped (change claim), ?_, sameSpace, sameName, marked⟩
        -- The mark holds the claim, so the write does not remove it.
        exact place ▸ find?_overwrite_self (Metadata.isForsaken_of_hasFinalizer marked)
      · refine ⟨before, ?_, rfl, rfl, held⟩
        have written := find?_overwrite store (change claim) key
        rw [if_neg (place ▸ here)] at written
        exact written.trans kept

/-- The deletion of a group leaves order, members and marks alone. -/
theorem Spares.delete_group {store : Store} (regular : store.Regular) (name space : String) :
    store.Spares (store.delete Group name space).2 := by
  -- There is one case for each way in which a deletion ends.
  rcases delete_cases (α := Group) store name space with
    ⟨error, failed⟩ | ⟨stored, found, ⟨_, done⟩ | done | ⟨_, done⟩⟩
  · rw [failed]
    exact .refl regular
  · -- A group that is gone lists nothing, and what is left was there before.
    have place : stored.metadata.key = space ++ "/" ++ name := regular.groups.placed found
    rw [done]
    refine .of_group stored regular (precedes_remove _ _)
      (untouched_by_groups.remove _ _) ?_ (regular.groupNamed found) (.inr ⟨stored, ?_⟩)
    · intro key now reading
      rw [find?_remove] at reading
      split at reading
      · cases reading
      · exact Or.inl reading
    · exact ⟨place.symm ▸ found, rfl, rfl, rfl⟩
  -- A group that is being deleted already is not written again.
  · rw [done]
    exact .refl regular
  -- A group that something holds stays, set to terminate, with the same members.
  · have place : stored.metadata.key = space ++ "/" ++ name := regular.groups.placed found
    have named := regular.groupNamed found
    rw [done]
    refine .of_group (ending stored) regular (precedes_save _ _)
      (untouched_by_groups.save _ _) ?_ named (.inr ⟨stored, ?_⟩)
    · intro key now reading
      exact (find?_save_eq_some reading).symm.imp And.right id
    · exact ⟨place.symm ▸ found, rfl, rfl, rfl⟩

/-- The deletion of a claim leaves order, members and marks alone. -/
theorem Spares.delete_claim {store : Store} (regular : store.Regular) (name space : String) :
    store.Spares (store.delete Claim name space).2 := by
  -- There is one case for each way in which a deletion ends.
  rcases delete_cases (α := Claim) store name space with
    ⟨error, failed⟩ | ⟨stored, found, ⟨free, done⟩ | done | ⟨_, done⟩⟩
  · rw [failed]
    exact .refl regular
  · rw [done]
    refine .of_claim stored regular (precedes_remove _ _)
      (untouched_by_claims.remove _ _) ?_ (regular.claimNamed found) ?_
    · intro key now reading
      rw [find?_remove] at reading
      split at reading
      · cases reading
      · exact Or.inl reading
    · -- The claim that is removed carries no mark at all.
      intro key before kept held
      have apart : key ≠ space ++ "/" ++ name := by
        rintro rfl
        obtain rfl : stored = before := by simpa [found] using kept
        have none : stored.metadata.finalizers.getD [] = [] := free
        simp [Claim.isMarked, Metadata.hasFinalizer, none] at held
      refine ⟨before, ?_, rfl, rfl, held⟩
      rw [find?_remove, if_neg apart]
      exact kept
  -- A claim that is being deleted already is not written again.
  · rw [done]
    exact .refl regular
  · have named := regular.claimNamed found
    have place : Resource.key stored = space ++ "/" ++ name := regular.claims.placed found
    rw [done]
    refine .of_claim (ending stored) regular (precedes_save _ _)
      (untouched_by_claims.save _ _) ?_ named ?_
    · intro key now reading
      exact (find?_save_eq_some reading).symm.imp And.right id
    · -- A claim that is set to terminate keeps its marks.
      intro key before kept held
      by_cases here : key = space ++ "/" ++ name
      · subst here
        obtain rfl : stored = before := by simpa [found] using kept
        refine ⟨store.stamped (ending stored), ?_, rfl, rfl, held⟩
        rw [find?_save]
        exact if_pos place.symm
      · refine ⟨before, ?_, rfl, rfl, held⟩
        have apart : key ≠ Resource.key (ending stored) := fun same => here (same.trans place)
        rw [find?_save, if_neg apart]
        exact kept

/-- A new group without an observed state leaves order, members and marks alone. -/
theorem Spares.create_group {store : Store} (regular : store.Regular) {group : Group}
    (named : group.metadata.name.isSome) (fresh : group.status = none) :
    store.Spares (store.create group).2 := by
  rcases create_cases store group with ⟨error, failed⟩ | ⟨_, done⟩
  · rw [failed]
    exact .refl regular
  · rw [done]
    refine .of_group (identified group) regular (precedes_save _ _)
      (untouched_by_groups.save _ _) ?_ named (.inl ?_)
    · intro key now reading
      exact (find?_save_eq_some reading).symm.imp And.right id
    · -- Without a state there is nothing that the new group could list.
      have none : (identified group).status = none := fresh
      simp [Group.members, none]

/-- A new claim leaves order, members and marks alone. -/
theorem Spares.create_claim {store : Store} (regular : store.Regular) {claim : Claim}
    (named : claim.metadata.name.isSome) : store.Spares (store.create claim).2 := by
  -- A name that is taken lets nobody create anything.
  rcases create_cases store claim with ⟨error, failed⟩ | ⟨free, done⟩
  · rw [failed]
    exact .refl regular
  · rw [done]
    refine .of_claim (identified claim) regular (precedes_save _ _)
      (untouched_by_claims.save _ _) ?_ named ?_
    · intro key now reading
      exact (find?_save_eq_some reading).symm.imp And.right id
    · -- The key was free, so the marked claims lie under other keys.
      intro key before kept held
      refine ⟨before, ?_, rfl, rfl, held⟩
      have apart : key ≠ Resource.key (identified claim) := by
        rintro rfl
        have taken : store.find? (α := Claim) (Resource.key claim) = some before := kept
        rw [free] at taken
        cases taken
      rw [find?_save, if_neg apart]
      exact kept

end Store

/-- What users may do leaves order, members and marks alone. -/
theorem UserAction.IsProper.spares {action : UserAction} (proper : action.IsProper)
    {store : Store} (regular : store.Regular) : store.Spares (action.on store) := by
  -- Each kind of action has its own lemma.
  cases action with
  | createClaim claim => exact .create_claim regular proper
  | relabelClaim name space labels => exact .modify_claim regular _ _ fun _ => ⟨rfl, rfl, rfl⟩
  | deleteClaim name space => exact .delete_claim regular _ _
  | createGroup group => exact .create_group regular proper.1 proper.2
  | editGroup name space change => exact .modify_group regular _ _ fun _ => rfl
  | deleteGroup name space => exact .delete_group regular _ _

end VolumeGroups
