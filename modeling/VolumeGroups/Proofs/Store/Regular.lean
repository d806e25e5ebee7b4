import VolumeGroups.Finalizer
import VolumeGroups.Proofs.Store.Versions

/-! Stores in which claims and groups have names, and what they say of members and marks. -/

namespace VolumeGroups

namespace Metadata

/-- Nothing but marks and version differs. -/
def Continues (earlier later : Metadata) : Prop :=
  later = { earlier with
    finalizers := later.finalizers, resourceVersion := later.resourceVersion }

/-- What differs in nothing else twice differs in nothing else at all. -/
theorem Continues.trans {first second third : Metadata} (before : first.Continues second)
    (after : second.Continues third) : first.Continues third := by
  -- Every other field is handed on from the first to the second and on to the third.
  unfold Continues at before after ⊢
  rw [after, before]

/-- Marks and version do not matter to the key. -/
theorem Continues.key {earlier later : Metadata} (continues : earlier.Continues later) :
    later.key = earlier.key := by
  rw [continues]
  rfl

/-- What is not being deleted stays where it is, whatever marks it has. -/
theorem Continues.held {earlier later : Metadata} (continues : earlier.Continues later)
    (live : earlier.isTerminating = false) : later.isForsaken = false := by
  rw [continues]
  exact Bool.and_eq_false_iff.mpr (.inl live)

/-- Adding a mark changes nothing else, and the mark is there afterwards. -/
theorem addFinalizer?_eq_some {metadata marked : Metadata} {finalizer : String}
    (added : metadata.addFinalizer? finalizer = some marked) :
    metadata.Continues marked ∧ marked.resourceVersion = metadata.resourceVersion ∧
      marked.hasFinalizer finalizer = true := by
  -- The mark is put behind the others, and only if it is not among them.
  simp only [addFinalizer?] at added
  split at added
  · cases added
  · cases added
    exact ⟨rfl, rfl, by simp [hasFinalizer]⟩

/-- Nothing is added only where the mark is there already. -/
theorem addFinalizer?_eq_none {metadata : Metadata} {finalizer : String}
    (kept : metadata.addFinalizer? finalizer = none) : metadata.hasFinalizer finalizer = true := by
  simp only [addFinalizer?] at kept
  split at kept
  · rename_i present
    exact present
  · cases kept

/-- Removing a mark changes nothing else, and it was there before. -/
theorem removeFinalizer?_eq_some {metadata freed : Metadata} {finalizer : String}
    (removed : metadata.removeFinalizer? finalizer = some freed) :
    metadata.Continues freed ∧ freed.resourceVersion = metadata.resourceVersion ∧
      metadata.hasFinalizer finalizer = true := by
  -- The list of marks is the only thing that is filtered.
  simp only [removeFinalizer?] at removed
  split at removed
  · rename_i present
    cases removed
    exact ⟨rfl, rfl, present⟩
  · cases removed

/-- A mark that was removed is not there any more. -/
theorem hasFinalizer_removeFinalizer? {metadata freed : Metadata} {finalizer : String}
    (removed : metadata.removeFinalizer? finalizer = some freed) :
    freed.hasFinalizer finalizer = false := by
  -- Only a mark that is there is removed, and then it is filtered out.
  simp only [removeFinalizer?] at removed
  split at removed
  · cases removed
    cases metadata.finalizers <;> simp [hasFinalizer]
  · cases removed

/-- Removing a mark leaves the other marks. -/
theorem finalizers_removeFinalizer? {metadata freed : Metadata} {finalizer : String}
    (removed : metadata.removeFinalizer? finalizer = some freed) :
    freed.finalizers = metadata.finalizers.map (·.filter (· != finalizer)) := by
  -- The filter drops the one mark and keeps the order of the rest.
  simp only [removeFinalizer?] at removed
  split at removed
  · cases removed
    rfl
  · cases removed

/-- Only a mark that is not there is not removed. -/
theorem removeFinalizer?_eq_none {metadata : Metadata} {finalizer : String}
    (kept : metadata.removeFinalizer? finalizer = none) :
    metadata.hasFinalizer finalizer = false := by
  -- Nothing is given only if there was nothing to filter.
  simp only [removeFinalizer?] at kept
  split at kept
  · cases kept
  · rename_i absent
    simpa using absent

/-- A mark holds an object. -/
theorem isForsaken_of_hasFinalizer {metadata : Metadata} {finalizer : String}
    (marked : metadata.hasFinalizer finalizer = true) : metadata.isForsaken = false := by
  -- A list that contains the mark is not empty.
  simp only [hasFinalizer] at marked
  cases marks : metadata.finalizers.getD [] with
  | nil => simp [marks] at marked
  | cons mark rest => simp [isForsaken, marks]

/-- Objects of one namespace and one name have one key. -/
theorem key_eq {one other : Metadata} (space : one.namespace = other.namespace)
    (name : one.name = other.name) : one.key = other.key := by
  simp [key, space, name]

/-- An object with a name of its own goes by it. -/
theorem displayName_of_name {metadata : Metadata} {name : String}
    (named : metadata.name = some name) : metadata.displayName = name := by
  simp [displayName, named]

end Metadata

/-- The claim carries the mark of a member. -/
def Claim.isMarked (claim : Claim) : Bool := claim.metadata.hasFinalizer claimFinalizer

/-- The group carries the mark of a group that something is still owed to. -/
def Group.isMarked (group : Group) : Bool := group.metadata.hasFinalizer groupFinalizer

/-- The same claim at a later time, which may have other marks. -/
structure Claim.Continues (earlier later : Claim) : Prop where
  metadata : earlier.metadata.Continues later.metadata
  spec : later.spec = earlier.spec

/-- The same group at a later time, which may have other marks, another content and another
state. -/
structure Group.Continues (earlier later : Group) : Prop where
  metadata : earlier.metadata.Continues later.metadata
  className : later.spec.className = earlier.spec.className
  selector : later.spec.source.selector = earlier.spec.source.selector

/-- A claim is the same as itself. -/
theorem Claim.Continues.refl (claim : Claim) : claim.Continues claim := ⟨rfl, rfl⟩

/-- What is the same at two steps is the same over both. -/
theorem Claim.Continues.trans {first second third : Claim} (before : first.Continues second)
    (after : second.Continues third) : first.Continues third :=
  ⟨before.metadata.trans after.metadata, after.spec.trans before.spec⟩

/-- A group is the same as itself. -/
theorem Group.Continues.refl (group : Group) : group.Continues group := ⟨rfl, rfl, rfl⟩

/-- What is the same at two steps is the same over both. -/
theorem Group.Continues.trans {first second third : Group} (before : first.Continues second)
    (after : second.Continues third) : first.Continues third :=
  ⟨before.metadata.trans after.metadata, after.className.trans before.className,
    after.selector.trans before.selector⟩

namespace Group.Continues

variable {earlier later : Group} (continues : earlier.Continues later)
include continues

/-- A later form of a group goes by the same name. -/
theorem name : later.name = earlier.name := by
  rw [Group.name, Group.name, continues.metadata]
  rfl

/-- A later form of a group is in the same namespace. -/
theorem «namespace» : later.metadata.namespace = earlier.metadata.namespace := by
  rw [continues.metadata]

/-- A later form of a group is being deleted if the group is. -/
theorem isTerminating : later.isTerminating = earlier.isTerminating := by
  rw [Group.isTerminating, Group.isTerminating, continues.metadata]
  rfl

/-- A later form of a group has the same class. -/
theorem className? : later.className? = earlier.className? := by
  rw [Group.className?, Group.className?, continues.className]

/-- A later form of a group has its selector. -/
theorem selector_eq : later.selector = earlier.selector := by
  rw [Group.selector, Group.selector, continues.selector, continues.name]

end Group.Continues

namespace Store

/-- Claims and groups lie under their own keys, have names, and carry versions that are given out
only once. -/
structure Regular (store : Store) : Prop where
  groups : store.Orderly Group
  claims : store.Orderly Claim
  groupNamed : ∀ {key : String} {group : Group}, store.find? key = some group →
    group.metadata.name.isSome
  claimNamed : ∀ {key : String} {claim : Claim}, store.find? key = some claim →
    claim.metadata.name.isSome

/-- A group of a namespace and a name records a claim's name among its members. -/
def Lists (store : Store) (space : Option String) (group claim : String) : Prop :=
  ∃ key, ∃ stored : Group, store.find? key = some stored ∧
    stored.metadata.namespace = space ∧ stored.name = group ∧ claim ∈ stored.members

/-- A claim of a namespace and a name is there and carries the mark of a member. -/
def Protects (store : Store) (space : Option String) (claim : String) : Prop :=
  ∃ key, ∃ stored : Claim, store.find? key = some stored ∧
    stored.metadata.namespace = space ∧ stored.metadata.name = some claim ∧ stored.isMarked = true

/-- The class of a group is that of a driver. -/
def Manages (store : Store) (driver : String) (group : Group) : Prop :=
  ∃ name, ∃ stored : GroupClass, group.className? = some name ∧
    store.find? ("" ++ "/" ++ name) = some stored ∧ stored.spec.driver = driver

/-- A group of the same class is one of the same driver as long as the classes stay. -/
theorem Manages.of_className {earlier later : Store} {driver : String} {group own : Group}
    (manages : earlier.Manages driver group) (classes : later.classes = earlier.classes)
    (className : own.className? = group.className?) : later.Manages driver own := by
  -- Both groups name the same class, which is still stored.
  obtain ⟨name, stored, named, found, same⟩ := manages
  refine ⟨name, stored, className.trans named, ?_, same⟩
  simpa only [find?, Stored.table, classes] using found

/-- A later form of a group is one of the same driver as long as the classes stay. -/
theorem Manages.later {earlier later : Store} {driver : String} {group own : Group}
    (manages : earlier.Manages driver group) (classes : later.classes = earlier.classes)
    (continues : group.Continues own) : later.Manages driver own :=
  manages.of_className classes continues.className?

/-- Nothing is out of order where there are neither claims nor groups. -/
theorem Regular.of_empty {store : Store} (groups : store.groups = ∅) (claims : store.claims = ∅) :
    store.Regular := by
  -- Nothing is found in a table without entries.
  have noGroup (key : String) : store.find? (α := Group) key = none := by
    simp only [find?, Stored.table, groups]
    rfl
  have noClaim (key : String) : store.find? (α := Claim) key = none := by
    simp only [find?, Stored.table, claims]
    rfl
  exact ⟨⟨by simp [noGroup], by simp [noGroup]⟩, ⟨by simp [noClaim], by simp [noClaim]⟩,
    by simp [noGroup], by simp [noClaim]⟩

/-- A store without groups lists nothing. -/
theorem not_lists_of_empty {store : Store} {space : Option String} {group claim : String}
    (groups : store.groups = ∅) : ¬ store.Lists space group claim := by
  rintro ⟨key, stored, found, _⟩
  simp only [find?, Stored.table, groups] at found
  cases found

/-- Groups of one namespace and one name lie under one key. -/
theorem Regular.group_key {store : Store} (regular : store.Regular) {first second : String}
    {one other : Group} (foundOne : store.find? first = some one)
    (foundOther : store.find? second = some other)
    (space : one.metadata.namespace = other.metadata.namespace) (name : one.name = other.name) :
    first = second := by
  -- The names that groups go by are the names in their keys, since every group has one.
  obtain ⟨oneName, oneNamed⟩ := Option.isSome_iff_exists.mp (regular.groupNamed foundOne)
  obtain ⟨otherName, otherNamed⟩ := Option.isSome_iff_exists.mp (regular.groupNamed foundOther)
  have same : oneName = otherName := by
    simpa only [Group.name, Metadata.displayName_of_name oneNamed,
      Metadata.displayName_of_name otherNamed] using name
  calc
    first = one.metadata.key := (regular.groups.placed foundOne).symm
    _ = other.metadata.key := by simp [Metadata.key, space, oneNamed, otherNamed, same]
    _ = second := regular.groups.placed foundOther

/-- A stored claim has the name that it goes by. -/
theorem Regular.claim_name {store : Store} (regular : store.Regular) {key name : String}
    {claim : Claim} (found : store.find? key = some claim) (goes : Resource.displayName claim = name) :
    claim.metadata.name = some name := by
  obtain ⟨own, named⟩ := Option.isSome_iff_exists.mp (regular.claimNamed found)
  rw [← goes, named]
  exact congrArg some (Metadata.displayName_of_name named).symm

/-- Claims of one namespace and one name are the same claim. -/
theorem Regular.claim_eq {store : Store} (regular : store.Regular) {first second : String}
    {one other : Claim} (foundOne : store.find? first = some one)
    (foundOther : store.find? second = some other)
    (space : one.metadata.namespace = other.metadata.namespace)
    (name : one.metadata.name = other.metadata.name) : one = other := by
  -- Their keys agree, and a key has one claim.
  have place : first = second := by
    calc
      first = one.metadata.key := (regular.claims.placed foundOne).symm
      _ = other.metadata.key := Metadata.key_eq space name
      _ = second := regular.claims.placed foundOther
  rw [place, foundOther] at foundOne
  exact (Option.some.inj foundOne).symm

/-- A group found under a key lists what it lists for its namespace and its name, and no other group
answers to them. -/
theorem Regular.lists_iff {store : Store} (regular : store.Regular) {key : String} {group : Group}
    (found : store.find? key = some group) {claim : String} :
    store.Lists group.metadata.namespace group.name claim ↔ claim ∈ group.members := by
  constructor
  · -- Whichever group answers to the namespace and the name lies under the same key.
    rintro ⟨other, stored, foundOther, space, name, member⟩
    have place := regular.group_key foundOther found space name
    rw [place, found] at foundOther
    exact Option.some.inj foundOther ▸ member
  · intro member
    exact ⟨key, group, found, rfl, rfl, member⟩

end Store

end VolumeGroups
