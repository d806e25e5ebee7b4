import VolumeGroups.Proofs.Solo.Replanning

/-! How far passes over a live group may have got when one of them is cut short: the group is marked or
not, names its content or not, and has a content or none, but nothing is there that a pass over the
first store would not bring about as well. -/

namespace VolumeGroups

/-- A content lies where its name says, and something holds it if it is being deleted. -/
structure Content.IsShelved (content : Content) (name : String) : Prop where
  named : content.metadata.name = some name
  held : content.metadata.isForsaken = false

/-- A content at a later moment, of which only the state and the version differ, and which still
records when its group came to be. -/
structure Content.Keeps (content later : Content) : Prop where
  metadata : later.metadata =
    { content.metadata with resourceVersion := later.metadata.resourceVersion }
  spec : later.spec = content.spec
  time : ∀ time, content.status.bind ContentStatus.creationTime = some time →
    later.status.bind ContentStatus.creationTime = some time

namespace Content.Keeps

/-- A content keeps what it has. -/
theorem refl (content : Content) : content.Keeps content := ⟨rfl, rfl, fun _ => id⟩

/-- What is kept twice is kept. -/
theorem trans {first second third : Content} (before : first.Keeps second)
    (after : second.Keeps third) : first.Keeps third where
  metadata := by rw [after.metadata, before.metadata]
  spec := after.spec.trans before.spec
  time time recorded := after.time time (before.time time recorded)

/-- A content that keeps what it has stays on its shelf. -/
theorem shelved {content later : Content} {name : String} (keeps : content.Keeps later)
    (shelved : content.IsShelved name) : later.IsShelved name := by
  constructor
  · rw [keeps.metadata]
    exact shelved.named
  · rw [keeps.metadata]
    exact shelved.held

end Content.Keeps

/-- A live group in a store, with the class, the parameters and the credentials that a pass over it
finds, and with what it plans. -/
structure Venture (driver : String) where
  -- At the start the group is stored, with all that a pass over it finds.
  start : Store
  group : Group
  space : String
  groupClass : GroupClass
  parameters : ClassParameters
  secrets : KeyMap String
  plan : MembershipPlan
  -- The plan is what the store tells.
  intends : start.Intends group space plan
  provides : start.Provides driver group groupClass parameters secrets
  live : group.isTerminating = false
  -- The content lies under the name by which the group goes.
  shelved : ∀ content : Content, start.find? group.contentKey = some content →
    content.IsShelved group.contentName

namespace Venture

variable {driver : String} (venture : Venture driver)

/-- The marks of the group once it is protected. -/
def finalizers : Option (List String) :=
  ((venture.group.metadata.addFinalizer? groupFinalizer).getD venture.group.metadata).finalizers

/-- What the group asks for once it names its content. -/
def spec : GroupSpec :=
  { venture.group.spec with
    source := { venture.group.spec.source with contentName := some venture.group.contentName } }

/-- What a content records that is made for the group, whichever version the group then has. -/
def contentSpec (created : CreatedGroup) (version : Option String) : ContentSpec where
  -- The class, the group and the driver's answer are recorded.
  className := some (Resource.displayName venture.groupClass)
  groupReference := some { Resource.reference venture.group with resourceVersion := version }
  source := some
    { driver := venture.groupClass.spec.driver
      handle := created.handle
      attributes := created.attributes }
  secretReference := venture.parameters.secret.both.map fun (name, space) =>
    { name := some name, «namespace» := some space }

/-- A pass asked the driver for the group, and this is what it got. -/
def Obtains (log : List Exchange) (created : CreatedGroup) : Prop :=
  ∃ name secrets parameters,
    (Exchange.mk (.createDriverGroup name secrets parameters) (.ok created)) ∈ log

/-- A content that a pass made for the group. -/
structure Makes (log : List Exchange) (content : Content) : Prop where
  shelved : content.IsShelved venture.group.contentName
  owned : venture.group.metadata.uid.isSome
  spec : ∃ created version, Obtains log created ∧ content.spec = venture.contentSpec created version

/-- How far passes over the group may have got after some calls. -/
structure Underway (now : Store) (log : List Exchange) (own : Group) : Prop
    extends venture.start.Reflects venture.group venture.plan now own where
  -- The group may have its mark and the name of its content by now.
  finalizers : own.metadata.finalizers = venture.group.metadata.finalizers ∨
    own.metadata.finalizers = venture.finalizers
  spec : own.spec = venture.group.spec ∨ own.spec = venture.spec
  -- A content that was there at the start is kept.
  kept : ∀ content : Content, venture.start.find? venture.group.contentKey = some content →
    ∃ later : Content, now.find? venture.group.contentKey = some later ∧ content.Keeps later
  -- Any other was made for the group, after the driver had been asked.
  made : venture.start.find? venture.group.contentKey = (none : Option Content) →
    ∀ content : Content, now.find? venture.group.contentKey = some content →
      venture.Makes log content

variable {venture}

/-- What was asked of the driver stays asked. -/
theorem Makes.later {log more : List Exchange} {content : Content}
    (makes : venture.Makes log content) (longer : ∀ exchange ∈ log, exchange ∈ more) :
    venture.Makes more content := by
  obtain ⟨created, version, ⟨name, secrets, parameters, known⟩, spec⟩ := makes.spec
  exact ⟨makes.shelved, makes.owned, created, version, ⟨name, secrets, parameters, longer _ known⟩,
    spec⟩

/-- Nothing has happened yet. -/
theorem underway_start (venture : Venture driver) (log : List Exchange) :
    venture.Underway venture.start log venture.group where
  toReflects := .refl venture.intends
  finalizers := .inl rfl
  spec := .inl rfl
  kept content found := ⟨content, found, .refl content⟩
  made none content found := by simp [none] at found

namespace Underway

variable {now : Store} {log : List Exchange} {own : Group}
  (underway : venture.Underway now log own)
include underway

/-- The group lies under its key. -/
theorem key : Resource.key own = Resource.key venture.group := underway.continues.metadata.key

/-- The group is found where it lies. -/
theorem found_own : now.find? (Resource.key own) = some own :=
  underway.key ▸ underway.found

/-- The group is in its namespace. -/
theorem inSpace : own.metadata.namespace = some venture.space :=
  underway.continues.namespace.trans venture.intends.inSpace

/-- The group is not being deleted. -/
theorem live : own.isTerminating = false := underway.continues.isTerminating.trans venture.live

/-- The group goes by the same content. -/
theorem contentName : own.contentName = venture.group.contentName := by
  rcases underway.spec with same | named
  · rw [Group.contentName, Group.contentName, same, underway.continues.name]
  · rw [Group.contentName, named]
    rfl

/-- The content of the group lies under the same key. -/
theorem contentKey : own.contentKey = venture.group.contentKey := by
  rw [Group.contentKey, Group.contentKey, underway.contentName, underway.continues.namespace]

/-- More calls do not matter. -/
theorem later {more : List Exchange} (longer : ∀ exchange ∈ log, exchange ∈ more) :
    venture.Underway now more own :=
  { underway with
    made := fun none content found => (underway.made none content found).later longer }

/-- The content of the group lies on its shelf. -/
theorem isShelved {content : Content} (found : now.find? venture.group.contentKey = some content) :
    content.IsShelved venture.group.contentName := by
  -- The content was there at the start, or it was made for the group.
  cases before : venture.start.find? (α := Content) venture.group.contentKey with
  | none => exact (underway.made before content found).shelved
  | some first =>
    obtain ⟨later, there, keeps⟩ := underway.kept first before
    obtain rfl := Option.some.inj (found.symm.trans there)
    exact keeps.shelved (venture.shelved first before)

/-- The group is overwritten by a form of itself that is no further than a pass gets. -/
theorem write {later : Group} (metadata : own.metadata.Continues later.metadata)
    (finalizers : later.metadata.finalizers = venture.group.metadata.finalizers ∨
      later.metadata.finalizers = venture.finalizers)
    (spec : later.spec = venture.group.spec ∨ later.spec = venture.spec)
    (members : later.members = venture.group.members ∨ later.members = venture.plan.claimNames) :
    venture.Underway (now.overwrite later).2 log (now.stamped later) := by
  have place : Resource.key later = Resource.key venture.group := metadata.key.trans underway.key
  -- A live group is not removed by a write, whatever marks it has.
  have held : later.metadata.isForsaken = false := metadata.held underway.live
  have continues : venture.group.Continues later := by
    refine ⟨underway.continues.metadata.trans metadata, ?_, ?_⟩
    all_goals
      rcases spec with same | same <;> simp [same, Venture.spec]
  -- Contents are in another table.
  have contents (key : String) : (now.overwrite later).2.find? key =
      (now.find? key : Option Content) := Store.content_overwrite now later key
  obtain ⟨claims, _⟩ := Prod.mk.inj (Store.apart_of_groups.overwrite now later)
  refine ⟨⟨?_, ?_, continues.trans ⟨rfl, rfl, rfl⟩, members, ?_, ?_⟩, finalizers, spec, ?_, ?_⟩
  · exact underway.beside.trans (.of_group underway.beside.tidy underway.found metadata)
  · exact place ▸ Store.find?_overwrite_self held
  · -- The new form takes the place of the old one in the order of groups.
    rw [Store.groups_overwrite held underway.found place, underway.turned, List.map_map]
    refine List.map_congr_left fun entry _ => ?_
    simp only [Function.comp]
    split
    · rename_i here
      simp [here]
    · rfl
  · intro entry known
    exact (Store.find?_of_claims claims _).trans (underway.refused entry known)
  · -- The content was kept before, and is not touched.
    intro content found
    obtain ⟨kept, there, keeps⟩ := underway.kept content found
    exact ⟨kept, (contents _).trans there, keeps⟩
  · intro none content found
    exact underway.made none content ((contents _).symm.trans found)

/-- The state of the group is written. -/
theorem status (status : Option GroupStatus)
    (members : Group.members { own with status } = own.members ∨
      Group.members { own with status } = venture.plan.claimNames) :
    venture.Underway (now.overwrite { own with status }).2 log (now.stamped { own with status }) := by
  refine underway.write rfl underway.finalizers underway.spec ?_
  -- The list of the group stays, or becomes that of the plan.
  rcases members with same | same
  · exact same ▸ underway.members
  · exact .inr same

/-- A failure is told on the group. -/
theorem tells {after : Store} (tells : own.Tells now after) :
    ∃ later, venture.Underway after log later := by
  cases tells with
  | nothing => exact ⟨own, underway⟩
  | state message ready =>
    exact ⟨_, underway.status _ (.inl (own.members_failed message ready))⟩

/-- Nothing of what a pass knows is lost while the groups stay as they are, and with them the claims that
were refused and what the content keeps. -/
theorem of_groups {after : Store}
    (beside : now.Beside (Resource.key venture.group) venture.group.contentKey after)
    (groups : after.groups = now.groups)
    (refused : ∀ entry ∈ venture.plan.rejected,
      after.find? (Resource.key entry.1) = (now.find? (Resource.key entry.1) : Option Claim))
    (kept : ∀ content : Content, now.find? venture.group.contentKey = some content →
      ∃ later : Content, after.find? venture.group.contentKey = some later ∧ content.Keeps later)
    (made : venture.start.find? venture.group.contentKey = (none : Option Content) →
      ∀ content : Content, after.find? venture.group.contentKey = some content →
        venture.Makes log content) : venture.Underway after log own where
  beside := underway.beside.trans beside
  found := (Store.find?_of_groups groups _).trans underway.found
  continues := underway.continues
  members := underway.members
  turned := by
    rw [groups]
    exact underway.turned
  refused entry known := (refused entry known).trans (underway.refused entry known)
  finalizers := underway.finalizers
  spec := underway.spec
  -- A content that was kept before is kept now.
  kept content found := by
    obtain ⟨middle, there, keeps⟩ := underway.kept content found
    obtain ⟨last, thereLast, keepsOn⟩ := kept middle there
    exact ⟨last, thereLast, keeps.trans keepsOn⟩
  made := made

/-- The marks of claims that were not refused are changed. -/
theorem marked {after : Store} {marking : Marking} {claims : List Claim}
    (marked : now.Marked marking claims after) (lawful : marking.Lawful)
    (apart : ∀ claim ∈ claims, ∀ entry ∈ venture.plan.rejected,
      Resource.key claim ≠ Resource.key entry.1) : venture.Underway after log own := by
  refine underway.of_groups (marked.beside lawful) (Prod.mk.inj marked.apart).1 ?_ ?_ ?_
  · -- Refused claims are not among those that are written.
    intro entry known
    rcases marked.claims (Resource.key entry.1) with same | ⟨claim, written, here, _⟩
    · exact same
    · exact absurd here (apart claim written entry known)
  · exact fun content found => ⟨content, (marked.content _).trans found, .refl content⟩
  · exact fun none content found => underway.made none content ((marked.content _).symm.trans found)

/-- The state of the content is written, with the time that was recorded. -/
theorem content {content : Content} (found : now.find? venture.group.contentKey = some content)
    (status : ContentStatus) (time : ∀ time, content.status.bind ContentStatus.creationTime =
      some time → status.creationTime = some time) :
    (now.overwrite { content with status := some status }).2.find? venture.group.contentKey =
        some (now.stamped { content with status := some status }) ∧
      venture.Underway (now.overwrite { content with status := some status }).2 log own := by
  -- The content lies where the group looks for it.
  have here : Resource.key content = venture.group.contentKey :=
    underway.beside.tidy.contents.placed found
  have place : Resource.key ({ content with status := some status } : Content) =
      venture.group.contentKey := here
  have keeps : content.Keeps (now.stamped { content with status := some status }) :=
    ⟨rfl, rfl, time⟩
  have shelved := underway.isShelved found
  obtain ⟨groups, rest⟩ := Prod.mk.inj
    (Store.apart_of_contents.overwrite now { content with status := some status })
  obtain ⟨claims, _⟩ := Prod.mk.inj rest
  -- The shelf holds the content, so it is there after the write.
  have there : (now.overwrite { content with status := some status }).2.find?
      venture.group.contentKey = some (now.stamped { content with status := some status }) :=
    place ▸ Store.find?_overwrite_self shelved.held
  refine ⟨there, underway.of_groups (.of_overwrite_content underway.beside.tidy place) groups
    (fun _ _ => Store.find?_of_claims claims _) ?_ ?_⟩
  · -- The content of the start is kept, with its time.
    intro first before
    obtain rfl := Option.some.inj (found.symm.trans before)
    exact ⟨_, there, keeps⟩
  · -- A content that was made records what it was made to record.
    intro none last foundLast
    obtain rfl := Option.some.inj (there.symm.trans foundLast)
    have makes := underway.made none content found
    exact ⟨keeps.shelved makes.shelved, makes.owned, makes.spec⟩

/-- A content is stored that records what the driver gave for the group. -/
theorem creates {content : Content} {created : CreatedGroup}
    (absent : now.find? venture.group.contentKey = (none : Option Content))
    (obtains : Obtains log created) (owned : venture.group.metadata.uid.isSome)
    (fresh : own.newContent (Resource.displayName venture.groupClass)
      venture.groupClass.spec.driver created venture.parameters.secret = .ok content) :
    Resource.key content = venture.group.contentKey ∧
      content.spec = venture.contentSpec created own.metadata.resourceVersion ∧
      venture.Underway (now.save (Store.identified content)).2 log own := by
  -- The group has a namespace, so the record is complete.
  have space : own.namespace = .ok venture.space := by rw [Group.namespace, underway.inSpace]
  rw [Group.newContent, space] at fresh
  obtain rfl := Except.ok.inj fresh
  have room : venture.space ++ "/" ++ venture.group.contentName = venture.group.contentKey := by
    rw [Group.contentKey, venture.intends.inSpace]
    rfl
  have reference : Resource.reference own =
      { Resource.reference venture.group with resourceVersion := own.metadata.resourceVersion } := by
    simp only [Resource.reference, Resource.metadata]
    rw [underway.continues.metadata]
  -- Only the name and the record of the new content matter from here on.
  generalize fields : Content.mk _ _ _ = content
  have place : Resource.key content = venture.group.contentKey := by
    subst fields
    simp only [Resource.key, Resource.metadata, Metadata.key, Option.getD_some,
      underway.contentName]
    exact room
  have spec : content.spec = venture.contentSpec created own.metadata.resourceVersion := by
    subst fields
    rw [Venture.contentSpec, ← reference]
  have shelved : (now.stamped (Store.identified content)).IsShelved venture.group.contentName := by
    subst fields
    exact ⟨congrArg some underway.contentName, rfl⟩
  refine ⟨place, spec, ?_⟩
  have site : Resource.key (Store.identified content) = venture.group.contentKey := place
  have reading (key : String) := Store.find?_save now (Store.identified content) key
  rw [site] at reading
  obtain ⟨groups, rest⟩ := Prod.mk.inj
    (Store.apart_of_contents.save now (Store.identified content))
  obtain ⟨claims, _⟩ := Prod.mk.inj rest
  refine underway.of_groups ?_ groups (fun _ _ => Store.find?_of_claims claims _) ?_ ?_
  · -- One content is new, and nothing else is.
    refine .of_content underway.beside.tidy (by simp) (Store.apart_of_contents.save now _)
      (underway.beside.tidy.contents.save _) ?_
    intro key apart
    rw [reading, if_neg apart]
  · intro first before
    simp [absent] at before
  · -- The new content is the one that the driver was asked for.
    intro none last found
    rw [reading, if_pos rfl] at found
    obtain rfl := Option.some.inj found
    exact ⟨shelved, owned, created, _, obtains, spec⟩

end Underway

end Venture

end VolumeGroups
