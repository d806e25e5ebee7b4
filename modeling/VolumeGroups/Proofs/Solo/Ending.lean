import VolumeGroups.Proofs.Operator.Stages
import VolumeGroups.Proofs.Solo.Frame
import VolumeGroups.Proofs.Solo.Opening

/-! The pass over a terminating group when nobody else writes: how far it gets if a call fails, and
what is left if none does. -/

namespace VolumeGroups

/-- A terminating group at a later moment, of which only the state and the version may differ, and
which may have forgotten its members. -/
structure Group.ContinuesInTeardown (group own : Group) : Prop where
  metadata : own.metadata =
    { group.metadata with resourceVersion := own.metadata.resourceVersion }
  spec : own.spec = group.spec
  members : own.members = group.members ∨ own.members = []

namespace Group.ContinuesInTeardown

variable {first second third : Group}

/-- A group is what it is. -/
theorem refl (group : Group) : group.ContinuesInTeardown group := ⟨rfl, rfl, .inl rfl⟩

/-- What continues a group twice in its teardown continues it. -/
theorem trans (before : first.ContinuesInTeardown second) (after : second.ContinuesInTeardown third) :
    first.ContinuesInTeardown third where
  metadata := by rw [after.metadata, before.metadata]
  spec := after.spec.trans before.spec
  members := by
    rcases after.members with same | forgot
    · exact same ▸ before.members
    · exact .inr forgot

variable {group own : Group} (inTeardown : group.ContinuesInTeardown own)
include inTeardown

/-- It is still the same group. -/
theorem continues : group.Continues own := by
  refine ⟨?_, by rw [inTeardown.spec], by rw [inTeardown.spec]⟩
  rw [Metadata.Continues, inTeardown.metadata]

/-- It has the marks that it had. -/
theorem finalizers : own.metadata.finalizers = group.metadata.finalizers := by
  rw [inTeardown.metadata]

/-- It is marked if it was. -/
theorem isMarked : own.isMarked = group.isMarked := by
  rw [Group.isMarked, Group.isMarked, Metadata.hasFinalizer, inTeardown.finalizers]
  rfl

/-- It goes by the same content. -/
theorem contentKey : own.contentKey = group.contentKey := by
  have name := inTeardown.continues.name
  rw [Group.contentKey, Group.contentKey, Group.contentName, Group.contentName, name, inTeardown.spec,
    inTeardown.continues.namespace]

end Group.ContinuesInTeardown

/-- A content at a later moment, which still records the same and has the same marks but its own. -/
structure Content.ContinuesInTeardown (content later : Content) : Prop where
  spec : later.spec = content.spec
  status : later.status = content.status
  others : (later.metadata.finalizers.getD []).filter (· != contentFinalizer) =
    (content.metadata.finalizers.getD []).filter (· != contentFinalizer)

/-- A content is what it is. -/
theorem Content.ContinuesInTeardown.refl (content : Content) : content.ContinuesInTeardown content :=
  ⟨rfl, rfl, rfl⟩

/-- What continues a content twice in its teardown continues it. -/
theorem Content.ContinuesInTeardown.trans {first second third : Content}
    (before : first.ContinuesInTeardown second)
    (after : second.ContinuesInTeardown third) : first.ContinuesInTeardown third :=
  ⟨after.spec.trans before.spec, after.status.trans before.status,
    after.others.trans before.others⟩

namespace Store

/-- How far a pass over a terminating group may get before it takes off the group's mark. -/
structure Finalizing (group : Group) (start now : Store) (own : Group) : Prop where
  beside : start.Beside (Resource.key group) group.contentKey now
  marksNoClaim : start.MarksNoClaim now
  found : now.find? (Resource.key group) = some own
  inTeardown : group.ContinuesInTeardown own

/-- No claim of a group's namespace that is owed is marked, unless another group lists it. -/
def Releases (group : Group) (owed : Claim → Prop) (start now : Store) : Prop :=
  ∀ {key : String} {claim later : Claim}, start.find? key = some claim →
    claim.metadata.namespace = group.metadata.namespace → owed claim →
    now.find? key = some later → later.isMarked = true →
    ∃ place, ∃ other : Group, place ≠ Resource.key group ∧ start.find? place = some other ∧
      other.lists claim = true

/-- Claims lose no mark for being left alone. -/
theorem MarksNoClaim.refl (store : Store) : store.MarksNoClaim store :=
    ⟨fun found => ⟨_, found, id⟩⟩

/-- Marks that are lost are lost for good. -/
theorem MarksNoClaim.trans {first second third : Store} (before : first.MarksNoClaim second)
    (after : second.MarksNoClaim third) : first.MarksNoClaim third where
  origin found := by
    obtain ⟨middle, foundMiddle, kept⟩ := after.origin found
    obtain ⟨claim, foundClaim, had⟩ := before.origin foundMiddle
    exact ⟨claim, foundClaim, had ∘ kept⟩

/-- Claims that are released stay so while no mark is put on. -/
theorem Releases.lighter {group : Group} {owed : Claim → Prop} {start now after : Store}
    (releases : start.Releases group owed now) (marksNoClaim : now.MarksNoClaim after) :
    start.Releases group owed after := by
  intro key claim later there inSpace due found held
  obtain ⟨middle, foundMiddle, had⟩ := marksNoClaim.origin found
  exact releases there inSpace due foundMiddle (had held)

/-- Claims that are left alone have no mark more. -/
theorem MarksNoClaim.of_claims {before after : Store} (claims : after.claims = before.claims) :
    before.MarksNoClaim after :=
  ⟨fun found => ⟨_, find?_of_claims claims _ ▸ found, id⟩⟩

/-- Taking marks off puts none on. -/
theorem Marked.marksNoClaim {others : List Group} {claims : List Claim} {before after : Store}
    (marked : before.Marked (.releasing others) claims after) : before.MarksNoClaim after := by
  refine ⟨?_⟩
  intro key now found
  -- A claim was written or not.
  rcases marked.claims key with same | ⟨claim, _, _, there, result⟩
  · exact ⟨now, same ▸ found, id⟩
  · refine ⟨claim, there, fun held => ?_⟩
    -- The mark goes only if no other group lists the claim.
    by_cases free : ∀ other ∈ others, other.lists claim = false
    · have none := result.released free now found
      simp [none] at held
    · -- A claim that another group lists is not written.
      have listed : (others.any fun group => group.lists claim) = true := by
        simpa using free
      unfold Marking.Result Marking.releasing at result
      rw [listed] at result
      obtain rfl := Option.some.inj (found.symm.trans result)
      exact held

namespace Finalizing

variable {group own : Group} {start now after : Store}

/-- Nothing has happened yet. -/
theorem refl (tidy : start.Tidy) (found : start.find? (Resource.key group) = some group) :
    start.Finalizing group start group := ⟨.refl tidy, .refl _, found, .refl _⟩

/-- The state of the group is written. -/
theorem status (finalizing : start.Finalizing group now own) (held : own.isMarked = true)
    (status : Option GroupStatus)
    (members : Group.members { own with status } = own.members ∨
      Group.members { own with status } = []) :
    start.Finalizing group (now.overwrite { own with status }).2
      (now.stamped { own with status }) := by
  have place := finalizing.beside.tidy.groups.placed finalizing.found
  refine ⟨finalizing.beside.trans (.of_group finalizing.beside.tidy finalizing.found rfl), ?_, ?_,
    ?_⟩
  · -- No claim is written.
    obtain ⟨claims, _⟩ := Prod.mk.inj (apart_of_groups.overwrite now { own with status })
    exact finalizing.marksNoClaim.trans (.of_claims claims)
  · -- The mark holds the group, so it is there after the write.
    have here : Resource.key ({ own with status } : Group) = Resource.key group := place
    rw [← here]
    exact find?_overwrite_self (Metadata.isForsaken_of_hasFinalizer held)
  · exact finalizing.inTeardown.trans ⟨rfl, rfl, members⟩

/-- A failure is told on the group. -/
theorem tells (finalizing : start.Finalizing group now own) (held : own.isMarked = true)
    (tells : own.Tells now after) : ∃ later, start.Finalizing group after later := by
  cases tells with
  | nothing => exact ⟨own, finalizing⟩
  | state message ready =>
    exact ⟨_, finalizing.status held _ (.inl (own.members_failed message ready))⟩

/-- Claims are released. -/
theorem marked (finalizing : start.Finalizing group now own) {others : List Group}
    {claims : List Claim}
    (marked : now.Marked (.releasing others) claims after) : start.Finalizing group after own where
  beside := finalizing.beside.trans (marked.beside (Marking.releasing_lawful others))
  marksNoClaim := finalizing.marksNoClaim.trans marked.marksNoClaim
  found := (marked.group _).trans finalizing.found
  inTeardown := finalizing.inTeardown

end Finalizing

/-- What a pass over a terminating group may do to its content: the content still records the same,
and nothing else is touched. -/
structure ChangesOnlyContent (content : Content) (before after : Store) : Prop where
  -- The store moves on, and so do versions.
  revision : before.revision ≤ after.revision
  -- Groups, claims and what is only read stay.
  apart : (after.groups, after.claims, after.grounds) =
    (before.groups, before.claims, before.grounds)
  orderly : after.Orderly Content
  -- So do all other contents.
  elsewhere : ∀ key : String, key ≠ Resource.key content →
    after.find? key = (before.find? key : Option Content)
  -- Whatever is left of the content records the same.
  here : ∀ {later : Content}, after.find? (Resource.key content) = some later →
    content.ContinuesInTeardown later

namespace ChangesOnlyContent

variable {content : Content} {before after : Store}

/-- Nothing has happened to the content yet. -/
theorem refl (orderly : before.Orderly Content)
    (found : before.find? (Resource.key content) = some content) :
    before.ChangesOnlyContent content before where
  revision := Nat.le_refl _
  apart := rfl
  orderly := orderly
  elsewhere _ _ := rfl
  -- A content is a form of itself.
  here there := by
    obtain rfl := Option.some.inj (found.symm.trans there)
    exact .refl content

/-- The content is overwritten by a form of it that records the same. -/
theorem overwrite {store : Store} (onlyContent : before.ChangesOnlyContent content store)
    {later : Content}
    (place : Resource.key later = Resource.key content)
    (inTeardown : content.ContinuesInTeardown later) :
    before.ChangesOnlyContent content (store.overwrite later).2 where
  revision := Nat.le_trans onlyContent.revision (by simp)
  apart := (apart_of_contents.overwrite store later).trans onlyContent.apart
  orderly := onlyContent.orderly.overwrite later
  elsewhere key apart := by
    rw [find?_overwrite, if_neg (place ▸ apart)]
    exact onlyContent.elsewhere key apart
  here {now} there := by
    -- The write is what is found under the key now.
    rcases find?_overwrite_eq_some there with ⟨_, rfl⟩ | ⟨apart, _⟩
    · exact inTeardown.trans ⟨rfl, rfl, rfl⟩
    · exact absurd place.symm apart

/-- Without its own mark a content has the marks that it had beside it. -/
theorem others_eq {store : Store} (onlyContent : before.ChangesOnlyContent content store)
    {later : Content} (found : store.find? (Resource.key content) = some later)
    (free : later.metadata.hasFinalizer contentFinalizer = false) :
    later.metadata.finalizers.getD [] =
      (content.metadata.finalizers.getD []).filter (· != contentFinalizer) := by
  -- The marks beside its own are all that it has.
  rw [← (onlyContent.here found).others]
  refine (List.filter_eq_self.mpr fun mark known => ?_).symm
  simp only [Metadata.hasFinalizer, List.contains_eq_mem, decide_eq_false_iff_not] at free
  simpa using fun same : mark = contentFinalizer => free (same ▸ known)

/-- The deletion of a content that carries no mark of the operator removes it unless something else
holds it. -/
theorem delete {store : Store} (onlyContent : before.ChangesOnlyContent content store)
    (free : ∀ later : Content, store.find? (Resource.key content) = some later →
      later.metadata.hasFinalizer contentFinalizer = false) {name space : String}
    (key : space ++ "/" ++ name = Resource.key content) :
    before.ChangesOnlyContent content (store.delete Content name space).2 ∧
      (∀ later : Content,
        (store.delete Content name space).2.find? (Resource.key content) = some later →
          later.metadata.hasFinalizer contentFinalizer = false) ∧
      ((content.metadata.finalizers.getD []).filter (· != contentFinalizer) = [] →
        (store.delete Content name space).2.find? (Resource.key content) =
          (none : Option Content)) := by
  -- Whether there is a content, and what holds it, decides what a deletion does.
  simp only [Store.delete, Store.get, key]
  cases found : store.find? (α := Content) (Resource.key content) with
  | none => exact ⟨onlyContent, free, fun _ => found⟩
  | some stored =>
    have others := onlyContent.others_eq found (free stored found)
    simp only
    split
    · -- Nothing holds the content, so it is removed.
      have gone (key : String) := find?_remove (α := Content) store (Resource.key content) key
      refine ⟨⟨?_, ?_, onlyContent.orderly.remove _, ?_, ?_⟩, ?_, ?_⟩
      · exact Nat.le_trans onlyContent.revision (by simp)
      · exact (apart_of_contents.remove store _).trans onlyContent.apart
      · intro other apart
        rw [gone, if_neg apart]
        exact onlyContent.elsewhere other apart
      · intro later there
        simp [gone] at there
      · intro later there
        simp [gone] at there
      · intro _
        simp [gone]
    · rename_i held
      -- If something holds the content now, something else held it before.
      have some : (content.metadata.finalizers.getD []).filter (· != contentFinalizer) ≠ [] := by
        rw [← others]
        change ¬ (stored.metadata.finalizers.getD []).isEmpty = true at held
        simpa [List.isEmpty_iff] using held
      split
      · -- The content is being deleted already.
        exact ⟨onlyContent, free, fun none => absurd none some⟩
      · -- Something else holds the content, so it stays as one that is being deleted.
        have place : Resource.key (ending stored) = Resource.key content := by
          have same : Resource.key (ending stored) = Resource.key stored := rfl
          exact same.trans (onlyContent.orderly.placed found)
        have reading (key : String) := find?_save store (ending stored) key
        rw [place] at reading
        refine ⟨⟨?_, ?_, onlyContent.orderly.save _, ?_, ?_⟩, ?_, fun none => absurd none some⟩
        · exact Nat.le_trans onlyContent.revision (by simp)
        · exact (apart_of_contents.save store _).trans onlyContent.apart
        · intro other apart
          exact (reading other).trans ((if_neg apart).trans (onlyContent.elsewhere other apart))
        · intro later there
          have same := (reading _).symm.trans there
          rw [if_pos rfl] at same
          obtain rfl := Option.some.inj same
          exact (onlyContent.here found).trans ⟨rfl, rfl, rfl⟩
        · intro later there
          have same := (reading _).symm.trans there
          rw [if_pos rfl] at same
          obtain rfl := Option.some.inj same
          exact free stored found

end ChangesOnlyContent

/-- The content of a group is touched by a pass. -/
theorem Finalizing.onlyContent {group own : Group} {start now after : Store} {content : Content}
    (finalizing : start.Finalizing group now own) (room : Resource.key content = group.contentKey)
    (onlyContent : now.ChangesOnlyContent content after) : start.Finalizing group after own := by
  -- Only one content differs, so all else is beside it.
  obtain ⟨groups, rest⟩ := Prod.mk.inj onlyContent.apart
  have beside : now.Beside (Resource.key group) group.contentKey after :=
    .of_content finalizing.beside.tidy onlyContent.revision onlyContent.apart
      onlyContent.orderly fun key apart =>
      onlyContent.elsewhere key (room ▸ apart)
  exact ⟨finalizing.beside.trans beside,
    finalizing.marksNoClaim.trans (.of_claims (Prod.mk.inj rest).1),
    (find?_of_groups groups _).trans finalizing.found, finalizing.inTeardown⟩

/-- What is left under the key of a content that was deleted: nothing if only its own mark held it,
else what still records the same, without the mark. -/
structure ContentDeleted (content : Content) (room : String) (after : Store) : Prop where
  left : ∀ {later : Content}, after.find? room = some later →
    content.ContinuesInTeardown later ∧ later.metadata.hasFinalizer contentFinalizer = false
  gone : (content.metadata.finalizers.getD []).filter (· != contentFinalizer) = [] →
    after.find? room = (none : Option Content)

/-- What a pass over a marked terminating group leaves if no call fails. -/
structure Finalized (group : Group) (start after : Store) : Prop where
  beside : start.Beside (Resource.key group) group.contentKey after
  marksNoClaim : start.MarksNoClaim after
  -- If something is left, it is the group without its mark and its members.
  left : ∀ {own : Group}, after.find? (Resource.key group) = some own →
    group.Continues own ∧ own.isMarked = false ∧ own.members = [] ∧
      own.metadata.finalizers = group.metadata.finalizers.map (·.filter (· != groupFinalizer))
  -- What becomes of the group depends on who else holds it.
  gone : (group.metadata.finalizers.getD []).filter (· != groupFinalizer) = [] →
    after.find? (Resource.key group) = (none : Option Group)
  held : (group.metadata.finalizers.getD []).filter (· != groupFinalizer) ≠ [] →
    ∃ own : Group, after.find? (Resource.key group) = some own
  -- The content is gone or unmarked, and stays absent if it was.
  content : ∀ {content : Content}, start.find? group.contentKey = some content →
    ContentDeleted content group.contentKey after
  absent : start.find? group.contentKey = (none : Option Content) →
    after.find? group.contentKey = (none : Option Content)

/-- The names of the volumes that the content of a group records. -/
def volumeNamesOf (store : Store) (group : Group) : List String :=
  (((store.find? group.contentKey).bind Content.status).map ContentStatus.volumeNames).getD []

/-- A content that is still there after a pass was there before, and records the same. -/
def Retains (room : String) (start after : Store) : Prop :=
  ∀ {later : Content}, after.find? room = some later →
    ∃ content : Content, start.find? room = some content ∧ content.ContinuesInTeardown later

/-- The mark of a group is taken off at the end of its pass. -/
theorem Finalizing.close {group own : Group} {start now : Store} {metadata : Metadata}
    (finalizing : start.Finalizing group now own) (terminating : group.isTerminating = true)
    (forgot : own.members = [])
    (freed : own.metadata.removeFinalizer? groupFinalizer = some metadata)
    (content : ∀ content : Content, start.find? group.contentKey = some content →
      ContentDeleted content group.contentKey now)
    (absent : start.find? group.contentKey = (none : Option Content) →
      now.find? group.contentKey = (none : Option Content)) :
    start.Finalized group (now.overwrite { own with metadata }).2 := by
  -- The write takes one mark off, so all other marks are known.
  obtain ⟨continues, _, _⟩ := Metadata.removeFinalizer?_eq_some freed
  have place : Resource.key ({ own with metadata } : Group) = Resource.key group :=
    continues.key.trans (finalizing.beside.tidy.groups.placed finalizing.found)
  have marks : metadata.finalizers =
      group.metadata.finalizers.map (·.filter (· != groupFinalizer)) := by
    rw [Metadata.finalizers_removeFinalizer? freed, finalizing.inTeardown.finalizers]
  have others : metadata.finalizers.getD [] =
      (group.metadata.finalizers.getD []).filter (· != groupFinalizer) := by
    rw [marks]
    cases group.metadata.finalizers <;> rfl
  have ends : metadata.isTerminating = true := by
    have own := finalizing.inTeardown.continues.isTerminating.trans terminating
    rw [continues]
    exact own
  have reading (key : String) := find?_overwrite now ({ own with metadata } : Group) key
  have rooms (key : String) := content_overwrite now ({ own with metadata } : Group) key
  rw [place] at reading
  -- The write removes the group exactly if no other mark holds it.
  refine ⟨finalizing.beside.trans (.of_group finalizing.beside.tidy finalizing.found continues), ?_,
    ?_, ?_, ?_, ?_, ?_⟩
  · -- No claim is written.
    exact finalizing.marksNoClaim.trans
      (.of_claims (Prod.mk.inj (apart_of_groups.overwrite now { own with metadata })).1)
  · -- If the group is left, it is the one that was written.
    intro later there
    rcases find?_overwrite_eq_some there with ⟨_, rfl⟩ | ⟨apart, _⟩
    · have unmarked : metadata.hasFinalizer groupFinalizer = false :=
        Metadata.hasFinalizer_removeFinalizer? freed
      exact ⟨finalizing.inTeardown.continues.trans ⟨continues.trans rfl, rfl, rfl⟩, unmarked, forgot,
        marks⟩
    · exact absurd place.symm apart
  · -- Without other marks the group goes.
    intro none
    have forsaken : metadata.isForsaken = true := by
      simp [Metadata.isForsaken, ends, others, none]
    rw [reading, if_pos rfl]
    exact if_pos forsaken
  · -- With other marks it stays.
    intro some
    have held : metadata.isForsaken = false := by
      simp [Metadata.isForsaken, others, some]
    exact ⟨_, (reading _).trans ((if_pos rfl).trans (if_neg (ne_true_of_eq_false held)))⟩
  · -- The content is in another table, where it was dealt with before.
    intro recorded there
    obtain ⟨left, gone⟩ := content recorded there
    exact ⟨fun found => left ((rooms _).symm.trans found), fun none => (rooms _).trans (gone none)⟩
  · exact fun none => (rooms _).trans (absent none)

/-- Claims of a group's namespace that are owed are released once each of them was written, or left alone
for another group. -/
theorem Finalizing.releases_of_results {group own : Group} {start now after : Store}
    {space : String} (finalizing : start.Finalizing group now own) (tidy : start.Tidy)
    (inSpace : group.metadata.namespace = some space) {owed : Claim → Bool}
    (results : ∀ claim ∈ (start.list space).filter owed,
      Marking.Result (.releasing (own.others (now.list space))) claim
        (after.find? (Resource.key claim))) :
    start.Releases group (fun claim => owed claim = true) after := by
  -- The claim is among those that were owed and were therefore written.
  intro key claim later there room due found held
  have place := tidy.claims.placed there
  have known : claim ∈ (start.list space).filter owed :=
    List.mem_filter.mpr ⟨mem_list.mpr ⟨⟨key, there⟩, room.trans inSpace⟩, due⟩
  -- A claim that is still marked is listed by a group that goes by another name.
  refine Classical.byContradiction fun alone => ?_
  -- Suppose that no other group lists it.
  have free : ∀ other ∈ own.others (now.list space), other.lists claim = false := by
    intro other known
    obtain ⟨stored, apart⟩ := List.mem_filter.mp known
    obtain ⟨⟨site, foundOther⟩, _⟩ := mem_list.mp stored
    -- A group that lists it would be the other group that there is not.
    refine Bool.eq_false_iff.mpr fun lists => alone ?_
    have elsewhere : site ≠ Resource.key group := by
      rintro rfl
      obtain rfl := Option.some.inj (finalizing.found.symm.trans foundOther)
      simp at apart
    exact ⟨site, other, elsewhere, (finalizing.beside.groups site elsewhere) ▸ foundOther, lists⟩
  have unmarked := (results claim known).released free later (place ▸ found)
  simp [unmarked] at held

end Store

namespace Attempt

variable {conditions : Conditions} {scene : Scene}

/-- The driver forgets its group, or the call fails and is told. -/
theorem ensures_deleteAtDriver (solo : conditions.Solo) {group : Group}
    (found : scene.store.find? (Resource.key group) = some group) (handle : String)
    (secrets : KeyMap String) :
    Ensures conditions
      (EndsEither (fun _ after => after.store = scene.store)
        (fun _ after => conditions.LetsCallsFail ∧ group.Tells scene.store after.store))
      (group.deleteAtDriver handle secrets) scene := by
  -- The answer is kept whatever it is, as one of the failures counts as success.
  -- A failure that the pass does not put up with is one that does not say the group is absent.
  have asked : Ensures conditions (fun result after => after.store = scene.store ∧
      ∃ answer, result = .ok answer ∧ ∀ cause, answer = .error cause →
        cause.isNotFound = false → conditions.LetsCallsFail)
      (Attempt.outcome (.of (.ask (.deleteDriverGroup handle secrets))) :
        Attempt PassError (Except DriverError Unit)) scene := by
    refine .outcome (.of ((Program.honours_ask solo _ scene).mono ?_))
    rintro answer after ⟨_, ⟨told, same⟩ | ⟨failing, same⟩⟩
    · exact ⟨same, answer, rfl, fun cause wrong => by simp [told] at wrong⟩
    · refine ⟨same, answer, rfl, ?_⟩
      rintro cause rfl known
      exact ⟨_, _, failing, by simp [Exchange.drops?, known]⟩
  refine .telling solo (?_ : Ensures conditions
    (EndsEither (fun _ after => after.store = scene.store)
      (fun _ after => conditions.LetsCallsFail ∧ after.store = scene.store)) _ scene) (by decide)
    (fun _ _ same => same) ?_ ?_
  · -- The driver forgets the group, or does not know it, or the call failed.
    refine .bind asked ?_ ?_
    · rintro error after ⟨_, _, wrong, _⟩
      cases wrong
    rintro answer after ⟨same, _, ⟨⟩, letsFail⟩
    cases answer with
    | ok => exact .pure same
    | error cause =>
      simp only
      split
      · exact .pure same
      · rename_i known
        exact .throw ⟨letsFail cause rfl (by simpa using known), same⟩
  · -- A failure is told on the group as it is stored.
    rintro error after ⟨_, same⟩
    exact same ▸ found
  · rintro error after last ⟨letsFail, same⟩ tells _
    exact ⟨letsFail, same ▸ tells⟩

/-- The driver forgets the group's volumes, and the content is known, or a failure is told. -/
theorem ensures_dissolve (solo : conditions.Solo) {group : Group}
    (found : scene.store.find? (Resource.key group) = some group) {space : String}
    (inSpace : group.metadata.namespace = some space) (secrets : KeyMap String) :
    Ensures conditions
      (EndsEither
        (fun content after => content = scene.store.find? group.contentKey ∧
          after.store = scene.store)
        (fun _ after => (scene.store.OwnsContent group → conditions.LetsCallsFail) ∧
          group.Tells scene.store after.store))
      (group.dissolve secrets) scene := by
  -- First the content is looked up, then the driver is told.
  unfold Group.dissolve
  refine .bind (Reads.told solo (reads_lookupContent solo group) found (by decide) none) ?_ ?_
  · -- A content that belongs to another group is refused without any failing call.
    rintro error after ⟨⟨_, _, letsFail⟩, tells, _⟩
    exact ⟨fun owns => letsFail ⟨_, (Store.learns_lookupContent inSpace).mpr ⟨rfl, owns⟩⟩, tells⟩
  rintro content middle ⟨learnt, same, _⟩
  obtain ⟨rfl, owns⟩ := (Store.learns_lookupContent inSpace).mp learnt
  extract_lets finish
  split
  · -- The content records a handle.
    rename_i handle _
    refine .bind (ensures_deleteAtDriver solo (same ▸ found) handle secrets) ?_ ?_
    · rintro error after ⟨letsFail, tells⟩
      exact ⟨fun _ => letsFail, same ▸ tells⟩
    · rintro _ after kept
      exact .pure ⟨rfl, kept.trans same⟩
  · -- There is nothing that the driver could forget.
    exact .pure ⟨rfl, same⟩

/-- A terminating group forgets its members, unless the call fails. -/
theorem ensures_forgetMembers (solo : conditions.Solo) {group : Group}
    (tidy : scene.store.Tidy) (found : scene.store.find? (Resource.key group) = some group)
    (held : group.isMarked = true) :
    Ensures conditions
      (EndsEither
        (fun later after => scene.store.Finalizing group after.store later ∧ later.members = [] ∧
          (after.store.claims, after.store.contents) =
            (scene.store.claims, scene.store.contents))
        (fun _ after => conditions.LetsCallsFail ∧ after.store = scene.store))
      group.forgetMembers scene := by
  -- Until the group is written nothing differs.
  have start : scene.store.Finalizing group scene.store group := .refl tidy found
  unfold Group.forgetMembers
  split
  · -- There is no state, hence no list.
    rename_i none
    exact .pure ⟨start, by simp [Group.members, none], rfl⟩
  · rename_i status recorded
    split
    · -- The list is empty.
      rename_i empty
      exact .pure ⟨start, by simpa [Group.members, recorded] using empty, rfl⟩
    · refine .within ((ensures_replaceGroupStatus solo _ found).mono ?_)
      -- Otherwise the list is emptied by a write.
      rintro (cause | stored) after ended
      · exact ⟨ended.1, ended.2.2.1⟩
      · obtain ⟨rfl, wrote, _⟩ := ended
        obtain ⟨claims, rest⟩ := Prod.mk.inj (Store.apart_of_groups.overwrite scene.store
          { group with status := some { status with claimNames := [] } })
        refine ⟨wrote ▸ start.status held _ (.inr rfl), rfl, ?_⟩
        rw [wrote, claims, (Prod.mk.inj rest).1]

/-- The claims or the groups of a namespace are listed, unless the call fails. -/
theorem ensures_list {α : Type} {attempt : Attempt ClusterError (List α)} [Stored α] {space : String}
    (reads : Reads conditions ClusterError.IsPlain attempt)
    (learns : scene.store.learns attempt = .ok (scene.store.list space)) :
    Ensures conditions
      (EndsEither (fun listed after => listed = scene.store.list space ∧ after.store = scene.store)
        (fun _ after => conditions.LetsCallsFail ∧ after.store = scene.store))
      (Attempt.within PassError.cluster attempt) scene := by
  -- The look tells what is stored, or the call fails.
  refine .within ((reads.endsEither scene).mono ?_)
  rintro (cause | listed) after ⟨told, same, _⟩
  · refine ⟨told.resolve_left fun wrong => ?_, same⟩
    simp [learns] at wrong
  · exact ⟨Except.ok.inj (told.symm.trans learns), same⟩

/-- A terminating group forgets its members, and then the claims that it owes are released, unless a
call fails. -/
theorem ensures_disband (solo : conditions.Solo) {group : Group} (tidy : scene.store.Tidy)
    (found : scene.store.find? (Resource.key group) = some group) (held : group.isMarked = true)
    {space : String} (inSpace : group.metadata.namespace = some space) (content : Option Content) :
    Ensures conditions
      (EndsEither
        (fun later after => scene.store.Finalizing group after.store later ∧ later.members = [] ∧
          after.store.contents = scene.store.contents ∧
          scene.store.Releases group (fun claim => group.owes
            (((content.bind Content.status).map ContentStatus.volumeNames).getD []) claim = true)
            after.store)
        (fun _ after => conditions.LetsCallsFail ∧ after.store.contents = scene.store.contents ∧
          ∃ own, scene.store.Finalizing group after.store own))
      (group.disband space content) scene := by
  -- Until the group is written nothing differs.
  have start : scene.store.Finalizing group scene.store group := .refl tidy found
  unfold Group.disband
  extract_lets volumeNames
  refine .bind (ensures_list (reads_look solo (.listClaims space) trivial id fun _ => rfl) rfl) ?_ ?_
  · -- Nothing was done yet.
    rintro error after ⟨letsFail, same⟩
    exact ⟨letsFail, by rw [same], group, same ▸ start⟩
  rintro claims first ⟨rfl, same⟩
  -- The list of members goes first; from then on the volumes of the content tell what is owed.
  refine .bind (ensures_forgetMembers solo (same ▸ tidy) (same ▸ found) held) ?_ ?_
  · -- The group was not written, so nothing was done either.
    rintro error after ⟨letsFail, kept⟩
    have same := kept.trans same
    exact ⟨letsFail, by rw [same], group, same ▸ start⟩
  rintro later second ⟨finalizing, forgot, tables⟩
  rw [same] at finalizing tables
  obtain ⟨sameClaims, sameContents⟩ := Prod.mk.inj tables
  refine .bind (ensures_list (reads_look solo (.listGroups space) trivial id fun _ => rfl) rfl) ?_ ?_
  · -- The group was written, and nothing else.
    rintro error after ⟨letsFail, kept⟩
    exact ⟨letsFail, by rw [kept, sameContents], later, kept ▸ finalizing⟩
  rintro groups third ⟨rfl, kept⟩
  -- The claims are still as they were listed, since only the group was written.
  have distinct : (((scene.store.list space).filter (group.owes volumeNames)).map
      (Resource.key (α := Claim))).Nodup :=
    (tidy.claims.nodup_list space).sublist (List.filter_sublist.map _)
  have listed : ∀ claim ∈ (scene.store.list space).filter (group.owes volumeNames),
      third.store.find? (Resource.key claim) = some claim := by
    intro claim known
    rw [kept, Store.find?_of_claims sameClaims]
    exact tidy.claims.found_of_mem_list (List.mem_filter.mp known).1
  -- Every claim that is owed is written, or one of the writes fails.
  refine .bind (ensures_releases solo _ (kept ▸ finalizing.beside.tidy) distinct listed) ?_ ?_
  · rintro error after ⟨letsFail, _, marked, _⟩
    rw [kept] at marked
    exact ⟨letsFail, (Prod.mk.inj (Prod.mk.inj marked.apart).2).1.trans sameContents, later,
      finalizing.marked marked⟩
  -- All that was owed is released, as each write had its result.
  rintro _ after ⟨marked, results, _⟩
  rw [kept] at marked
  refine .pure ⟨finalizing.marked marked, forgot,
    (Prod.mk.inj (Prod.mk.inj marked.apart).2).1.trans sameContents, ?_⟩
  refine finalizing.releases_of_results tidy inSpace fun claim known => ?_
  exact results claim known

/-- The mark of a content is taken off, unless the call fails. -/
theorem ensures_releaseContent (solo : conditions.Solo) {content : Content}
    (orderly : scene.store.Orderly Content)
    (found : scene.store.find? (Resource.key content) = some content) :
    Ensures conditions
      (EndsEither
        (fun _ after => scene.store.ChangesOnlyContent content after.store ∧
          ∀ later : Content, after.store.find? (Resource.key content) = some later →
            later.metadata.hasFinalizer contentFinalizer = false)
        (fun _ after => conditions.LetsCallsFail ∧
          scene.store.ChangesOnlyContent content after.store))
      content.release scene := by
  -- Until the content is written nothing differs.
  have start : scene.store.ChangesOnlyContent content scene.store := .refl orderly found
  unfold Content.release
  split
  · -- There is no mark.
    rename_i kept
    refine .pure ⟨start, fun later there => ?_⟩
    obtain rfl := Option.some.inj (found.symm.trans there)
    exact Metadata.removeFinalizer?_eq_none kept
  · -- The mark is taken off, and the content may go with it.
    rename_i metadata freed
    obtain ⟨continues, version, _⟩ := Metadata.removeFinalizer?_eq_some freed
    have place : Resource.key ({ content with metadata } : Content) = Resource.key content :=
      continues.key
    have inTeardown : content.ContinuesInTeardown { content with metadata } := by
      refine ⟨rfl, rfl, ?_⟩
      rw [Metadata.finalizers_removeFinalizer? freed]
      cases content.metadata.finalizers <;> simp
    refine .bind (ensures_replaceContent solo (place ▸ found) version.symm rfl) ?_ ?_
    · rintro cause after ⟨letsFail, _, same, _⟩
      exact ⟨letsFail, same ▸ start⟩
    · rintro stored after ⟨_, wrote, _⟩
      refine .pure ⟨wrote ▸ start.overwrite place inTeardown, fun later there => ?_⟩
      have free : metadata.hasFinalizer contentFinalizer = false :=
        Metadata.hasFinalizer_removeFinalizer? freed
      rw [wrote] at there
      -- What is left under the key is what was written.
      rcases Store.find?_overwrite_eq_some there with ⟨_, rfl⟩ | ⟨apart, _⟩
      · exact free
      · exact absurd place.symm apart

/-- The mark of a content is taken off, and the content is deleted unless something else holds it. A
call that fails leaves it with what it records. -/
theorem ensures_deleteContent (solo : conditions.Solo) {content : Content}
    (orderly : scene.store.Orderly Content)
    (found : scene.store.find? (Resource.key content) = some content) :
    Ensures conditions
      (EndsEither
        (fun _ after => scene.store.ChangesOnlyContent content after.store ∧
          (∀ later : Content, after.store.find? (Resource.key content) = some later →
            later.metadata.hasFinalizer contentFinalizer = false) ∧
          ((content.metadata.finalizers.getD []).filter (· != contentFinalizer) = [] →
            after.store.find? (Resource.key content) = (none : Option Content)))
        (fun _ after => conditions.LetsCallsFail ∧
          scene.store.ChangesOnlyContent content after.store))
      content.delete scene := by
  -- First the mark goes, then the content.
  unfold Content.delete
  refine .bind (ensures_releaseContent solo orderly found).widened
    (fun error after failed => failed.2) ?_
  rintro _ middle ⟨onlyContent, free⟩
  -- Whether the content is still there or went with its mark, its deletion leaves it deleted.
  have deleting : Ensures conditions (fun result after => ∃ answer, result = .ok answer ∧
      ((∀ cause, answer = .error cause → cause.isNotFound = true) ∧
        after.store = (middle.store.delete Content (content.metadata.name.getD "")
          (content.metadata.namespace.getD "")).2 ∨
      conditions.LetsCallsFail ∧ after.store = middle.store ∧
        ∃ cause, answer = .error cause ∧ cause.IsPlain))
      (Attempt.outcome (.of (.ask (.deleteContent (content.metadata.name.getD "")
        (content.metadata.namespace.getD "")))) : Attempt ContentError (Except ClusterError Unit))
      middle := by
    -- That the content is missing is as good as its deletion.
    refine .outcome (ensures_call solo (.deleteContent _ _) trivial id (fun _ => rfl) ?_ ?_)
    · intro answer after serves _
      obtain ⟨told, wrote⟩ := Prod.mk.inj serves
      exact ⟨answer, rfl, .inl ⟨fun cause wrong =>
        Store.isNotFound_of_delete (told.symm.trans wrong), wrote⟩⟩
    · intro cause after letsFail plain _ same _
      exact ⟨_, rfl, .inr ⟨letsFail, same, cause, rfl, plain⟩⟩
  refine .bind deleting ?_ ?_
  · rintro error after ⟨_, wrong, _⟩
    cases wrong
  have gone := onlyContent.delete free (show content.metadata.namespace.getD "" ++ "/" ++
    content.metadata.name.getD "" = Resource.key content from rfl)
  rintro answer after ⟨_, ⟨⟩, ⟨missing, wrote⟩ | ⟨letsFail, same, cause, rfl, plain⟩⟩
  · -- The store deleted the content, or did not know it.
    rw [← wrote] at gone
    cases answer with
    | ok => exact .pure gone
    | error cause =>
      simp only [missing cause rfl, if_true]
      exact .pure gone
  · -- The call failed, and the content is as the release left it.
    simp only [throws_of_isPlain plain]
    exact .throw ⟨letsFail, same ▸ onlyContent⟩

/-- The mark of a stored group is taken off, unless the call fails. -/
theorem ensures_releaseGroup (solo : conditions.Solo) {group : Group}
    (found : scene.store.find? (Resource.key group) = some group) (held : group.isMarked = true) :
    Ensures conditions
      (EndsEither
        (fun _ after => ∃ metadata, group.metadata.removeFinalizer? groupFinalizer = some metadata ∧
          after.store = (scene.store.overwrite { group with metadata }).2)
        (fun _ after => conditions.LetsCallsFail ∧ after.store = scene.store))
      group.release scene := by
  unfold Group.release
  -- The group is marked, so it is written.
  split
  · rename_i kept
    have unmarked : group.isMarked = false := Metadata.removeFinalizer?_eq_none kept
    simp [unmarked] at held
  · rename_i metadata freed
    obtain ⟨continues, version, _⟩ := Metadata.removeFinalizer?_eq_some freed
    have place : Resource.key ({ group with metadata } : Group) = Resource.key group :=
      continues.key
    refine .bind (ensures_replaceGroup solo (place ▸ found) version.symm rfl) ?_ ?_
    · rintro cause after ⟨letsFail, _, same, _⟩
      exact ⟨letsFail, same⟩
    · rintro stored after ⟨_, wrote, _⟩
      exact .pure ⟨metadata, freed, wrote⟩

/-- The content goes, and then the group's own mark, unless a call fails. -/
theorem ensures_depart (solo : conditions.Solo) {group own : Group} {start : Store}
    (finalizing : start.Finalizing group scene.store own) (terminating : group.isTerminating = true)
    (held : group.isMarked = true) (forgot : own.members = [])
    (contents : scene.store.contents = start.contents) (tidy : start.Tidy) :
    Ensures conditions
      (EndsEither
        (fun action after => action = .awaitChange ∧ start.Finalized group after.store ∧
          scene.store.MarksNoClaim after.store)
        (fun _ after => conditions.LetsCallsFail ∧ (∃ own, start.Finalizing group after.store own) ∧
          start.Retains group.contentKey after.store ∧ scene.store.MarksNoClaim after.store))
      (own.depart (start.find? group.contentKey)) scene := by
  -- Contents are as they were at the start of the pass.
  have same (key : String) : scene.store.find? key = (start.find? key : Option Content) := by
    simp only [Store.find?, Stored.table, contents]
  have retains : start.Retains group.contentKey scene.store :=
    fun there => ⟨_, (same _).symm.trans there, .refl _⟩
  -- Once the content is dealt with, only the mark of the group is left to be taken off.
  have closing (middle : Scene) (finalizing : start.Finalizing group middle.store own)
      (retains : start.Retains group.contentKey middle.store)
      (marksNoClaim : scene.store.MarksNoClaim middle.store)
      (content : ∀ content : Content, start.find? group.contentKey = some content →
        Store.ContentDeleted content group.contentKey middle.store)
      (absent : start.find? group.contentKey = (none : Option Content) →
        middle.store.find? group.contentKey = (none : Option Content)) :
      Ensures conditions
        (EndsEither
          (fun action after => action = .awaitChange ∧ start.Finalized group after.store ∧
            scene.store.MarksNoClaim after.store)
          (fun _ after => conditions.LetsCallsFail ∧
            (∃ own, start.Finalizing group after.store own) ∧
            start.Retains group.contentKey after.store ∧ scene.store.MarksNoClaim after.store))
        (do
          Attempt.within .cluster own.release
          return .awaitChange : Attempt PassError Action) middle := by
    have place := finalizing.beside.tidy.groups.placed finalizing.found
    -- The mark is taken off, or the call fails and everything else is done.
    refine .bind (ensures_releaseGroup solo (place.symm ▸ finalizing.found)
      (finalizing.inTeardown.isMarked.trans held)).widened ?_ ?_
    · rintro error after ⟨_, letsFail, kept⟩
      exact ⟨letsFail, ⟨own, kept ▸ finalizing⟩, kept ▸ retains, kept ▸ marksNoClaim⟩
    · rintro _ after ⟨metadata, freed, wrote⟩
      have claims := (Prod.mk.inj
        (Store.apart_of_groups.overwrite middle.store { own with metadata })).1
      exact .pure ⟨rfl, wrote ▸ finalizing.close terminating forgot freed content absent,
        wrote ▸ marksNoClaim.trans (.of_claims claims)⟩
  -- The content goes first, if there is one.
  unfold Group.depart
  cases found : start.find? (α := Content) group.contentKey with
  | none =>
    exact closing scene finalizing retains (.refl _) (by simp [found]) fun _ => (same _).trans found
  | some content =>
    have room : Resource.key content = group.contentKey := tidy.contents.placed found
    -- Whatever becomes of the content, no claim is touched.
    have keeps {after : Store} (onlyContent : scene.store.ChangesOnlyContent content after) :
        start.Retains group.contentKey after ∧ scene.store.MarksNoClaim after :=
      ⟨fun there => ⟨content, found, onlyContent.here (room.symm ▸ there)⟩,
        .of_claims (Prod.mk.inj (Prod.mk.inj onlyContent.apart).2).1⟩
    refine .bind (ensures_deleteContent solo finalizing.beside.tidy.contents
      (room.symm ▸ (same _).trans found)).widened ?_ ?_
    · rintro error after ⟨_, letsFail, onlyContent⟩
      exact ⟨letsFail, ⟨own, finalizing.onlyContent room onlyContent⟩, keeps onlyContent⟩
    · rintro _ after ⟨onlyContent, free, gone⟩
      rw [room] at gone
      obtain ⟨retains, marksNoClaim⟩ := keeps onlyContent
      refine closing after (finalizing.onlyContent room onlyContent) retains marksNoClaim ?_
        (by simp [found])
      -- What the content is now is what the deletion left of it.
      intro recorded there
      obtain rfl := Option.some.inj (found.symm.trans there)
      exact ⟨fun left => ⟨onlyContent.here (room.symm ▸ left), free _ (room.symm ▸ left)⟩, gone⟩

/-- A pass over a marked terminating group ends it, unless a call fails; then the group is still there
with its mark, and its content with what it records, or the members are released. -/
theorem ensures_finalize (solo : conditions.Solo) {group : Group} (tidy : scene.store.Tidy)
    (found : scene.store.find? (Resource.key group) = some group)
    (terminating : group.isTerminating = true) (held : group.isMarked = true) {space : String}
    (inSpace : group.metadata.namespace = some space) (secrets : KeyMap String) :
    Ensures conditions
      (EndsEither
        (fun action after => action = .awaitChange ∧ scene.store.Finalized group after.store ∧
          scene.store.Releases group (fun claim => group.owes (scene.store.volumeNamesOf group)
            claim = true) after.store)
        (fun _ after => (scene.store.OwnsContent group → conditions.LetsCallsFail) ∧
          (∃ own, scene.store.Finalizing group after.store own) ∧
          scene.store.Retains group.contentKey after.store ∧
          (after.store.find? group.contentKey =
              (scene.store.find? group.contentKey : Option Content) ∨
            scene.store.Releases group (fun claim => group.owes (scene.store.volumeNamesOf group)
              claim = true) after.store)))
      (group.finalize secrets) scene := by
  -- Until something is written nothing differs.
  have start : scene.store.Finalizing group scene.store group := .refl tidy found
  have alike {after : Store} (contents : after.contents = scene.store.contents) (key : String) :
      after.find? key = (scene.store.find? key : Option Content) := by
    simp only [Store.find?, Stored.table, contents]
  rw [Group.finalize_eq, if_pos held, space_bind inSpace]
  -- Until the members are released the content stays as it was, so it still tells what is owed.
  refine .bind (ensures_dissolve solo found inSpace secrets) ?_ ?_
  · -- The first stage failed.
    rintro error after ⟨letsFail, tells⟩
    have contents := tells.contents
    exact ⟨letsFail, start.tells held tells, fun there => ⟨_, (alike contents _).symm.trans there,
      .refl _⟩, .inl (alike contents _)⟩
  rintro content first ⟨rfl, same⟩
  refine .bind (ensures_disband solo (same ▸ tidy) (same ▸ found) held inSpace _) ?_ ?_
  · -- The second stage failed, before the content was touched.
    rintro error after ⟨letsFail, contents, own, finalizing⟩
    rw [same] at contents finalizing
    exact ⟨fun _ => letsFail, ⟨own, finalizing⟩, fun there =>
      ⟨_, (alike contents _).symm.trans there, .refl _⟩, .inl (alike contents _)⟩
  rintro later second ⟨finalizing, forgot, contents, releases⟩
  rw [same] at finalizing contents releases
  refine (ensures_depart solo finalizing terminating held forgot contents tidy).mono ?_
  rintro (error | action) after ended
  · -- The last stage failed, after the claims were released.
    obtain ⟨letsFail, own, retains, marksNoClaim⟩ := ended
    exact ⟨fun _ => letsFail, own, retains, .inr (releases.lighter marksNoClaim)⟩
  · -- The pass came to its end.
    obtain ⟨ends, finalized, marksNoClaim⟩ := ended
    exact ⟨ends, finalized, releases.lighter marksNoClaim⟩

end Attempt

end VolumeGroups
