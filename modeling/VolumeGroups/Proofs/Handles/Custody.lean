import VolumeGroups.ContentRecord
import VolumeGroups.Proofs.Handles.Ledger
import VolumeGroups.Proofs.Operator.Run
import VolumeGroups.Proofs.Operator.Users

/-! How the handles that a log leaves open and the content of a group tell of each other, and which
calls leave that alone. -/

namespace VolumeGroups

/-- The key under which the content of a group lies. -/
def Group.contentKey (group : Group) : String :=
  group.metadata.namespace.getD "" ++ "/" ++ group.contentName

/-- Two groups lie under one key and go by one content. -/
structure Group.Matches (one other : Group) : Prop where
  name : other.metadata.name = one.metadata.name
  «namespace» : other.metadata.namespace = one.metadata.namespace
  contentName : other.contentName = one.contentName

/-- Two contents lie under one key and record the same. -/
structure Content.Matches (one other : Content) : Prop where
  name : other.metadata.name = one.metadata.name
  «namespace» : other.metadata.namespace = one.metadata.namespace
  spec : other.spec = one.spec

namespace Group.Matches

variable {first second third : Group}

/-- A group matches itself. -/
theorem refl (group : Group) : group.Matches group := ⟨rfl, rfl, rfl⟩

/-- Groups that match a third one in a row match. -/
theorem trans (before : first.Matches second) (after : second.Matches third) :
    first.Matches third :=
  ⟨after.name.trans before.name, after.namespace.trans before.namespace,
    after.contentName.trans before.contentName⟩

/-- Matching works both ways. -/
theorem symm (same : first.Matches second) : second.Matches first :=
  ⟨same.name.symm, same.namespace.symm, same.contentName.symm⟩

/-- Matching groups lie under one key. -/
theorem key (same : first.Matches second) : Resource.key second = Resource.key first := by
  simp only [Resource.key, Metadata.key, Resource.metadata, same.name, same.namespace]

/-- Matching groups have their contents under one key. -/
theorem contentKey (same : first.Matches second) : second.contentKey = first.contentKey := by
  simp only [Group.contentKey, same.namespace, same.contentName]

/-- Other marks do not matter. -/
theorem metadata {group : Group} {metadata : Metadata}
    (continues : group.metadata.Continues metadata) : group.Matches { group with metadata } := by
  refine ⟨?_, ?_, ?_⟩
  · exact continues ▸ rfl
  · exact continues ▸ rfl
  · rw [Group.contentName, Group.contentName, Group.name, Group.name, continues]
    rfl

/-- Another state does not matter. -/
theorem status (group : Group) (status : Option GroupStatus) :
    group.Matches { group with status } := ⟨rfl, rfl, rfl⟩

/-- Neither does a stamp. -/
theorem stamped (store : Store) (group : Group) : group.Matches (store.stamped group) :=
  ⟨rfl, rfl, rfl⟩

end Group.Matches

namespace Content.Matches

variable {first second third : Content}

/-- A content matches itself. -/
theorem refl (content : Content) : content.Matches content := ⟨rfl, rfl, rfl⟩

/-- Contents that match a third one in a row match. -/
theorem trans (before : first.Matches second) (after : second.Matches third) :
    first.Matches third :=
  ⟨after.name.trans before.name, after.namespace.trans before.namespace,
    after.spec.trans before.spec⟩

/-- Matching contents lie under one key. -/
theorem key (same : first.Matches second) : Resource.key second = Resource.key first := by
  simp only [Resource.key, Metadata.key, Resource.metadata, same.name, same.namespace]

/-- Matching contents record one handle. -/
theorem handle? (same : first.Matches second) : second.handle? = first.handle? := by
  simp only [Content.handle?, same.spec]

end Content.Matches

namespace Store

/-- Writes of groups leave contents alone. -/
theorem contents_of_groups : Untouched Group Store.contents := fun _ _ _ => rfl

/-- Writes of contents leave groups alone. -/
theorem groups_of_contents : Untouched Content Store.groups := fun _ _ _ => rfl

/-- Overwriting a group leaves every content where it is. -/
theorem content_overwrite (store : Store) (group : Group) (key : String) :
    (store.overwrite group).2.find? key = (store.find? key : Option Content) := by
  simp only [find?, Stored.table, contents_of_groups.overwrite store group]

/-- A content that is there to stay records a handle. -/
def Holds (store : Store) (key handle : String) : Prop :=
  ∃ content : Content, store.find? key = some content ∧ content.handle? = some handle ∧
    content.metadata.isTerminating = false

/-- The group under a key keeps its mark and its content, and contents keep what they record. -/
structure Rests (place : String) (earlier later : Store) : Prop where
  -- The group is the one that it was, as far as its content and its mark go.
  group : ∀ {own : Group}, later.find? place = some own →
    ∃ before : Group, earlier.find? place = some before ∧ before.Matches own
  marked : ∀ {own : Group}, earlier.find? place = some own → own.isMarked = true →
    ∃ now : Group, later.find? place = some now ∧ now.isMarked = true
  -- No content is new.
  origin : ∀ {key : String} {content : Content}, later.find? key = some content →
    ∃ before : Content, earlier.find? key = some before ∧ before.Matches content
  /-- A content only goes if it is being deleted. -/
  stays : ∀ {key : String} {content : Content}, earlier.find? key = some content →
    content.metadata.isTerminating = false → ∃ now : Content, later.find? key = some now ∧
      content.Matches now ∧ now.metadata.isTerminating = false

namespace Rests

variable {place : String} {store : Store}

/-- A store that nobody writes to is at rest. -/
theorem refl (store : Store) : store.Rests place store where
  group found := ⟨_, found, .refl _⟩
  marked found marked := ⟨_, found, marked⟩
  origin found := ⟨_, found, .refl _⟩
  stays found live := ⟨_, found, .refl _, live⟩

/-- What rests twice rests over both. -/
theorem trans {first second third : Store} (before : first.Rests place second)
    (after : second.Rests place third) : first.Rests place third where
  -- Each part goes back over the store in between.
  group found := by
    obtain ⟨middle, foundMiddle, same⟩ := after.group found
    obtain ⟨start, foundStart, sameBefore⟩ := before.group foundMiddle
    exact ⟨start, foundStart, sameBefore.trans same⟩
  marked found held := by
    obtain ⟨middle, foundMiddle, heldMiddle⟩ := before.marked found held
    exact after.marked foundMiddle heldMiddle
  origin found := by
    obtain ⟨middle, foundMiddle, same⟩ := after.origin found
    obtain ⟨start, foundStart, sameBefore⟩ := before.origin foundMiddle
    exact ⟨start, foundStart, sameBefore.trans same⟩
  stays found live := by
    obtain ⟨middle, foundMiddle, same, liveMiddle⟩ := before.stays found live
    obtain ⟨last, foundLast, sameAfter, liveLast⟩ := after.stays foundMiddle liveMiddle
    exact ⟨last, foundLast, same.trans sameAfter, liveLast⟩

/-- No content comes up during a rest. -/
theorem absent {later : Store} (rests : store.Rests place later) {key : String}
    (absent : store.find? (α := Content) key = none) : later.find? (α := Content) key = none := by
  -- A content that is there after a rest was there before.
  refine Option.eq_none_iff_forall_ne_some.mpr fun content found => ?_
  obtain ⟨before, there, _⟩ := rests.origin found
  cases absent.symm.trans there

/-- Writes that leave contents alone only have to look after the group. -/
theorem of_contents {later : Store} (contents : later.contents = store.contents)
    (group : ∀ {own : Group}, later.find? place = some own →
      ∃ before : Group, store.find? place = some before ∧ before.Matches own)
    (marked : ∀ {own : Group}, store.find? place = some own → own.isMarked = true →
      ∃ now : Group, later.find? place = some now ∧ now.isMarked = true) :
    store.Rests place later := by
  -- The same table gives the same contents.
  have same (key : String) : later.find? key = (store.find? key : Option Content) := by
    simp only [find?, Stored.table, contents]
  exact ⟨group, marked, fun found => ⟨_, same _ ▸ found, .refl _⟩,
    fun found live => ⟨_, (same _).trans found, .refl _, live⟩⟩

/-- A write over the group under the key that keeps content and mark leaves the store at rest. -/
theorem overwrite_group {group next : Group} (found : store.find? place = some group)
    (key : Resource.key group = place) (same : group.Matches next)
    (marked : group.isMarked = true → next.isMarked = true) :
    store.Rests place (store.overwrite next).2 := by
  -- What is written lies under the same key, so it is what is found there.
  have here : Resource.key next = place := same.key.trans key
  refine .of_contents (contents_of_groups.overwrite store next) ?_ ?_
  · intro own reading
    rcases find?_overwrite_eq_some reading with ⟨_, rfl⟩ | ⟨apart, _⟩
    · exact ⟨group, found, same.trans (.stamped store next)⟩
    · exact absurd here.symm apart
  · intro own reading held
    obtain rfl : group = own := by simpa [found] using reading
    -- The mark holds the group, so the write does not remove it.
    exact ⟨store.stamped next, here ▸ find?_overwrite_self
      (Metadata.isForsaken_of_hasFinalizer (marked held)), marked held⟩

/-- Writes of claims leave the store at rest. -/
theorem replace_claim (store : Store) (claim : Claim) :
    store.Rests place (store.replace claim).2 := by
  -- Claims are another table than groups and contents.
  have apart : Untouched Claim fun store => (store.groups, store.contents) := fun _ _ _ => rfl
  obtain ⟨groups, contents⟩ := Prod.mk.inj (apart.replace store claim)
  refine .of_contents contents ?_ ?_
  · intro own found
    exact ⟨own, find?_of_groups groups place ▸ found, .refl _⟩
  · intro own found marked
    exact ⟨own, (find?_of_groups groups place).trans found, marked⟩

/-- The deletion of the group under the key by a user leaves the store at rest. -/
theorem delete_group {name space : String}
    (placed : ∀ {own : Group}, store.find? (space ++ "/" ++ name) = some own →
      Resource.key own = space ++ "/" ++ name) :
    store.Rests (space ++ "/" ++ name) (store.delete Group name space).2 := by
  -- The group is not there, is removed, refuses, or gets the time of its end.
  rcases delete_cases (α := Group) store name space with
    ⟨error, failed⟩ | ⟨stored, found, ⟨free, done⟩ | done | ⟨_, done⟩⟩
  · rw [failed]
    exact .refl store
  · rw [done]
    refine .of_contents (contents_of_groups.remove store _) ?_ ?_
    · intro own reading
      rw [find?_remove, if_pos rfl] at reading
      cases reading
    · -- The group that is removed carries no mark at all.
      intro own reading held
      obtain rfl : stored = own := by simpa [found] using reading
      have none : stored.metadata.finalizers.getD [] = [] := free
      simp [Group.isMarked, Metadata.hasFinalizer, none] at held
  · rw [done]
    exact .refl store
  · -- The group only gets the time of its deletion.
    rw [done]
    have key : Resource.key (ending stored) = Resource.key stored := rfl
    have saved : (store.save (ending stored)).2.find? (space ++ "/" ++ name) =
        some (store.stamped (ending stored)) := by
      rw [find?_save, if_pos (key.trans (placed found)).symm]
    refine .of_contents (contents_of_groups.save store _) ?_ ?_
    · intro own reading
      obtain rfl := Option.some.inj (saved.symm.trans reading)
      exact ⟨stored, found, ⟨rfl, rfl, rfl⟩⟩
    · intro own reading held
      obtain rfl : stored = own := by simpa [found] using reading
      exact ⟨_, saved, held⟩

/-- A new state of a content leaves the store at rest. -/
theorem replaceStatus_content
    (placed : ∀ {key : String} {content : Content}, store.find? key = some content →
      Resource.key content = key) (content : Content) :
    store.Rests place (store.replaceStatus content).2 := by
  -- Groups are another table, so only what contents record has to be looked at.
  have same : (store.replaceStatus content).2.find? place = (store.find? place : Option Group) :=
    find?_of_groups (groups_of_contents.replaceStatus store content) place
  -- A state goes over a stored content, or the store refuses it.
  rcases replaceStatus_cases store content with ⟨error, failed⟩ | ⟨stored, found, _, done⟩
  · rw [failed]
    exact .refl store
  · rw [done] at same ⊢
    have here : Resource.key stored = Resource.key content := placed found
    have written : Resource.key (Stored.withStatusOf stored content) = Resource.key content := here
    have kept : stored.Matches (store.stamped (Stored.withStatusOf stored content)) :=
      ⟨rfl, rfl, rfl⟩
    refine ⟨fun reading => ⟨_, same ▸ reading, .refl _⟩,
      fun reading held => ⟨_, same.trans reading, held⟩, ?_, ?_⟩
    · intro key now reading
      rcases find?_overwrite_eq_some reading with ⟨place, rfl⟩ | ⟨_, before⟩
      · exact ⟨stored, (place.trans written) ▸ found, kept⟩
      · exact ⟨now, before, .refl _⟩
    · intro key before reading live
      by_cases own : key = Resource.key content
      · subst own
        obtain rfl : stored = before := by simpa [found] using reading
        -- A content that is not being deleted survives any write.
        have held : (Stored.withStatusOf stored content).metadata.isForsaken = false := by
          have live' : (Stored.withStatusOf stored content).metadata.isTerminating = false := live
          simp [Metadata.isForsaken, live']
        exact ⟨_, written ▸ find?_overwrite_self held, kept, live⟩
      · refine ⟨before, ?_, .refl _, live⟩
        rw [find?_overwrite, if_neg (written ▸ own)]
        exact reading

end Rests

end Store

end VolumeGroups
