import VolumeGroups.Proofs.Handles.Tending
import VolumeGroups.Proofs.Records.Frame

/-! Where the contents of a group lie while users edit groups between and during passes, and what is left
of them when a group loses its mark. -/

namespace VolumeGroups

namespace Exchange

/-- The group that a call read. -/
def read? : Exchange → Option Group
  | ⟨.getGroup .., .ok group⟩ => some group
  | _ => none

/-- A call that shows or makes sure that no marked content lies under a key. -/
def IsClearing (key : String) : Exchange → Prop
  | ⟨.getContent name space, .error cause⟩ => cause.isNotFound = true ∧ space ++ "/" ++ name = key
  | ⟨.getContent name space, .ok content⟩ =>
    content.isMarked = false ∧ space ++ "/" ++ name = key
  | ⟨.replaceContent later, .ok _⟩ => later.isMarked = false ∧ Resource.key later = key
  | _ => False

end Exchange

/-- All groups of an identity that passes have read go by contents under one key. -/
def OneName (uid : String) (log : List Exchange) : Prop :=
  ∀ one ∈ log.filterMap Exchange.read?, ∀ other ∈ log.filterMap Exchange.read?,
    one.metadata.uid = some uid → other.metadata.uid = some uid → one.contentKey = other.contentKey

/-- A content lies where a group that it was made for looks for it, in the form in which some pass read
that group. -/
def Content.IsRooted (content : Content) (key : String) (log : List Exchange) : Prop :=
  ∃ copy ∈ log.filterMap Exchange.read?, content.BelongsTo copy ∧ key = copy.contentKey

namespace Store

/-- No marked content lies under a key. -/
def Unheld (store : Store) (key : String) : Prop :=
  ∀ content : Content, store.find? key = some content → content.isMarked = false

/-- At most one content of an identity is stored. -/
def HasOneContent (store : Store) (uid : String) : Prop :=
  ∀ (one other : String) (content further : Content),
    store.find? one = some content → content.ownerUid? = some uid →
      store.find? other = some further → further.ownerUid? = some uid → one = other

/-- No content of an identity is marked. -/
def HasNoMarkedContent (store : Store) (uid : String) : Prop :=
  ∀ (key : String) (content : Content), store.find? key = some content →
    content.ownerUid? = some uid → content.isMarked = false

/-- Contents are what they were, up to marks that were taken off. -/
def Conserves (earlier later : Store) : Prop :=
  ∀ (key : String) (content : Content), later.find? key = some content →
    ∃ before : Content, earlier.find? key = some before ∧ content.spec = before.spec ∧
      (content.isMarked = true → before.isMarked = true)

variable {store after : Store}

/-- Contents that nobody writes are what they were. -/
theorem Conserves.of_contents (contents : after.contents = store.contents) : store.Conserves after := by
  intro key content found
  refine ⟨content, ?_, rfl, id⟩
  simpa only [find?, Stored.table, contents] using found

/-- A content that is overwritten by one with the same record and no further mark is what it was. -/
theorem Overwrites.conserves {stored written answer : Content}
    (wrote : store.Overwrites stored written answer after) (spec : written.spec = stored.spec)
    (marks : written.isMarked = true → stored.isMarked = true) : store.Conserves after := by
  intro key content found
  rw [wrote.wrote] at found
  -- Under the key that was written lies the new form, under any other what was there.
  rcases find?_overwrite_eq_some found with ⟨here, rfl⟩ | ⟨_, kept⟩
  · exact ⟨stored, here.trans wrote.key ▸ wrote.found, spec, marks⟩
  · exact ⟨content, kept, rfl, id⟩

/-- The deletion of a content leaves contents what they were. -/
theorem conserves_delete (orderly : store.Orderly Content) (name space : String) :
    store.Conserves (store.delete Content name space).2 := by
  intro key content found
  rcases find?_delete orderly found with kept | ⟨before, there, rfl⟩
  · exact ⟨content, kept, rfl, id⟩
  · exact ⟨before, there, rfl, id⟩

/-- A new content lies under its own key, and the others are what they were. -/
theorem find?_create_eq_some {record content : Content} {key : String}
    (found : (store.create record).2.find? key = some content) :
    store.find? key = some content ∨
      key = Resource.key record ∧ content.spec = record.spec := by
  -- A name that is taken leaves contents alone.
  rcases create_cases store record with ⟨error, refused⟩ | ⟨_, made⟩
  · exact .inl (by rwa [refused] at found)
  · rw [made] at found
    rcases find?_save_eq_some found with ⟨here, rfl⟩ | ⟨_, kept⟩
    · exact .inr ⟨here, rfl⟩
    · exact .inl kept

/-- No content gets a mark where all are what they were. -/
theorem Conserves.unheld (conserves : store.Conserves after) {key : String} (unheld : store.Unheld key) :
    after.Unheld key := by
  intro content found
  obtain ⟨before, there, _, marks⟩ := conserves _ _ found
  have unmarked := unheld before there
  simpa [unmarked] using marks

end Store

/-- Users leave contents alone. -/
theorem UserAction.contents_on (action : UserAction) (store : Store) :
    (action.on store).contents = store.contents := by
  -- Claims and groups lie in tables of their own.
  cases action with
  | createClaim | deleteClaim | relabelClaim =>
    first
      | exact congrArg Prod.snd (Store.beside_claims.create store _)
      | exact congrArg Prod.snd (Store.beside_claims.delete store _ _)
      | exact congrArg Prod.snd (Store.beside_claims.modify store _ _ _)
  | createGroup | deleteGroup | editGroup =>
    first
      | exact congrArg Prod.snd (Store.beside_groups.create store _)
      | exact congrArg Prod.snd (Store.beside_groups.delete store _ _)
      | exact congrArg Prod.snd (Store.beside_groups.modify store _ _ _)

/-- An operator that shares its cluster with users, who act on groups and claims at any time, and whose
calls may fail in some ways. -/
def Conditions.busy (driver : String) (fails : (request : Call) → request.Answer → Prop) :
    Conditions where
  driver := driver
  between := UserAction.Leads fun _ => True
  during := UserAction.Leads fun _ => True
  fails := fails

section Busy

variable {driver place : String} {fails : (request : Call) → request.Answer → Prop}

/-- Users of a busy cluster keep to versions. -/
theorem Conditions.busy_isVersioned
    (failing : ∀ {request : Call} {answer : request.Answer}, fails request answer →
      request.FailsWith answer) : (busy driver fails).IsVersioned where
  -- Users act on versions that they have just read.
  between ordered := by
    rintro ⟨action, _, rfl⟩
    exact action.advances ordered
  during ordered := by
    rintro ⟨action, _, rfl⟩
    exact action.advances ordered
  fails := failing

/-- Users of a busy cluster leave contents alone. -/
theorem UserAction.Leads.conserves {allowed : UserAction → Prop} {store after : Store}
    (leads : Leads allowed store after) : store.Conserves after := by
  obtain ⟨action, _, rfl⟩ := leads
  exact Store.Conserves.of_contents (action.contents_on store)

/-- The group that a pass began with was read. -/
theorem Upkeep.read_origin {log : List Exchange} (kept : (Upkeep place).Kept log) {origin : Group}
    (began : origin? log = some origin) : origin ∈ log.filterMap Exchange.read? := by
  obtain ⟨first, last, brings⟩ := Option.bind_eq_some_iff.mp began
  obtain ⟨later, rfl⟩ := List.getLast?_eq_some_iff.mp last
  refine List.mem_filterMap.mpr ⟨first, by simp, ?_⟩
  -- Nothing but a look at the group comes first.
  rcases kept.allows with ⟨_, name, space, read, _⟩ | ⟨_, none, _⟩
  · obtain ⟨request, answer⟩ := first
    obtain rfl : request = .getGroup name space := read
    cases answer with
    | error cause => cases brings
    | ok group => exact brings
  · cases none

/-- Contents stay what they are while a pass makes any call but to create one. -/
theorem Scene.InCourse.conserves {met : Scene} (course : met.InCourse place) {origin : Group}
    {after : Store} {request : Call} {answer : request.Answer}
    (permits : origin.Permits met.exchanges request)
    (serves : met.store.Serves request answer after)
    (other : ∀ record, request ≠ .createContent record) : met.store.Conserves after := by
  -- Groups and claims are in other tables.
  cases request with
  | replaceGroup later =>
    rw [(Prod.mk.inj serves).2]
    exact Store.Conserves.of_contents (Store.contents_of_groups.replace _ _)
  | replaceGroupStatus later =>
    rw [(Prod.mk.inj serves).2]
    exact Store.Conserves.of_contents (Store.contents_of_groups.replaceStatus _ _)
  | replaceClaim later =>
    rw [(Prod.mk.inj serves).2]
    exact Store.Conserves.of_contents (congrArg Prod.snd (Store.beside_claims.replace _ _))
  | createContent record => exact absurd rfl (other record)
  -- A content is overwritten by itself with its mark off.
  | replaceContent later =>
    cases answer with
    | error cause => exact Store.Conserves.of_contents (congrArg Store.contents (serves.of_failure rfl))
    | ok content =>
      obtain ⟨_, _, _, removed, wrote⟩ := course.overwrites_replaceContent permits serves
      refine wrote.conserves rfl ?_
      simp [Content.isMarked, Metadata.hasFinalizer_removeFinalizer? removed]
  -- A content's state is no part of what it was made for.
  | replaceContentStatus later =>
    cases answer with
    | error cause => exact Store.Conserves.of_contents (congrArg Store.contents (serves.of_failure rfl))
    | ok content =>
      obtain ⟨_, _, _, _, _, wrote⟩ := course.overwrites_replaceContentStatus permits serves
      exact wrote.conserves rfl id
  -- A deletion takes a content away or sets it to terminate.
  | deleteContent name space =>
    rw [(Prod.mk.inj serves).2]
    exact Store.conserves_delete course.ordered.contents name space
  | readClock => exact Store.Conserves.of_contents (congrArg Store.contents serves)
  | _ => exact Store.Conserves.of_contents (congrArg Store.contents serves.2)

/-- All contents lie where some pass that read their group looks for them. -/
def Scene.IsRooted (scene : Scene) : Prop :=
  ∀ (key : String) (content : Content), scene.store.find? key = some content →
    content.IsRooted key scene.exchanges

/-- What a longer log has read includes what a shorter one has. -/
theorem Content.IsRooted.later {content : Content} {key : String} {log : List Exchange}
    (rooted : content.IsRooted key log) (made : List Exchange) :
    content.IsRooted key (made ++ log) := by
  obtain ⟨copy, read, rest⟩ := rooted
  refine ⟨copy, ?_, rest⟩
  rw [List.filterMap_append]
  exact List.mem_append_right _ read

/-- Contents that are what they were lie where they lay. -/
theorem Scene.IsRooted.conserves {scene after : Scene} (rooted : scene.IsRooted)
    (conserves : scene.store.Conserves after.store)
    (log : ∃ made, after.exchanges = made ++ scene.exchanges) : after.IsRooted := by
  -- A content that is there now was there before, under the same key and for the same group.
  intro key content found
  obtain ⟨before, there, spec, _⟩ := conserves _ _ found
  obtain ⟨made, log⟩ := log
  obtain ⟨copy, read, belongs, same⟩ := (rooted _ _ there).later made
  exact ⟨copy, log ▸ read, belongs.of_spec spec, same⟩

/-- A call of a pass leaves all contents where a pass looks for them: only one that creates a content
adds any, and the pass that makes it has read the group. -/
theorem Conditions.IsVersioned.isRooted {conditions : Conditions}
    (versioned : conditions.IsVersioned) {scene after : Scene} (rooted : scene.IsRooted)
    {earlier made : List Exchange} (log : scene.exchanges = made ++ earlier)
    (course : Scene.InCourse place ⟨scene.store, made⟩) {request : Call} {answer : request.Answer}
    (allowed : Upkeep place made request)
    (answers : conditions.Answers scene request answer after) : after.IsRooted := by
  -- The log grows by the call.
  have grown : ∃ made, after.exchanges = made ++ scene.exchanges := ⟨[_], answers.1⟩
  have unchanged (same : after.store = scene.store) : after.IsRooted :=
    rooted.conserves (Store.Conserves.of_contents (congrArg Store.contents same)) grown
  have answered : conditions.Answers ⟨scene.store, made⟩ request answer
      ⟨after.store, ⟨request, answer⟩ :: made⟩ := ⟨rfl, answers.2⟩
  rcases versioned.turn allowed answered with
    ⟨_, _, same⟩ | ⟨origin, began, permits, ⟨_, same⟩ | ⟨_, serves⟩⟩
  -- The first call of the pass writes nothing.
  · exact unchanged same
  · exact unchanged same
  by_cases creates : ∃ record, request = .createContent record
  · -- The new content lies where the pass that makes it looks, and that pass has read its group.
    obtain ⟨record, rfl⟩ := creates
    obtain ⟨_, belongs, key, _⟩ := permits
    intro place content found
    rw [(Prod.mk.inj serves).2] at found
    rcases Store.find?_create_eq_some found with kept | ⟨here, spec⟩
    · exact answers.1 ▸ (rooted _ _ kept).later [_]
    · refine ⟨origin, ?_, belongs.of_spec spec, here.trans key⟩
      rw [answers.1, List.filterMap_cons, log, List.filterMap_append]
      exact List.mem_append_left _ (Upkeep.read_origin course.kept began)
  -- Any other call keeps the contents that there are.
  · exact rooted.conserves
      (course.conserves permits serves fun record same => creates ⟨record, same⟩) grown

/-- At every moment of every run from a store without contents, all contents lie where some pass that
read their group looks for them. -/
theorem Conditions.isRooted
    (failing : ∀ {request : Call} {answer : request.Answer}, fails request answer →
      request.FailsWith answer) {start : Store} (ordered : start.Ordered)
    (empty : start.contents = ∅) {moment : Moment}
    (run : (busy driver fails).Reaches ⟨⟨start, []⟩, none⟩ moment) :
    moment.IsRooted := by
  have versioned : (busy driver fails).IsVersioned := busy_isVersioned failing
  -- The induction goes along the run, each call of which belongs to a single pass.
  induction run with
  | refl =>
    intro key content found
    have none : start.find? (α := Content) key = none := by
      simp only [Store.find?, Stored.table, empty]
      rfl
    cases none.symm.trans found
  | tail before step ih =>
    -- What others do between calls adds no content.
    cases step with
    | idle change => exact ih.conserves change.conserves ⟨[], rfl⟩
    | wait change => exact ih.conserves change.conserves ⟨[], rfl⟩
    | start _ _ => exact ih
    -- A call of any pass is a call of the only pass that began where that one did.
    | @call _ _ request next _ answers =>
      obtain ⟨middle, seen, made, sorted, log, alone⟩ := versioned.inPass ordered before
      obtain ⟨course, allows⟩ := versioned.inCourse sorted alone
      exact versioned.isRooted ih log course (allows request next rfl) answers
    | stop => exact ih

/-- The content of a terminating group is gone or without its mark only after a call that cleared its
key. -/
theorem Scene.InCourse.cleared {met : Scene} (course : met.InCourse place) {origin : Group}
    (began : origin? met.exchanges = some origin) (terminating : origin.isTerminating = true)
    (relinquished : AbsentOrReleased origin met.exchanges) :
    ∃ exchange ∈ met.exchanges, exchange.IsClearing origin.contentKey := by
  -- No content was found, or the one in use had no mark, or it has lost it.
  rcases relinquished with ⟨space, cause, inSpace, missing, looked⟩ |
    ⟨content, inUse, unmarked | freed⟩
  · exact ⟨_, looked, missing, by rw [Group.contentKey, inSpace]; rfl⟩
  · obtain ⟨⟨request, answer⟩, known, brings⟩ := inUse.brought
    cases request with
    | getContent name space =>
      cases answer with
      | error cause => cases brings
      | ok found =>
        obtain ⟨there, rfl⟩ := Prod.mk.inj (Option.some.inj brings)
        exact ⟨_, known, unmarked, there⟩
    | createContent record =>
      -- Only live groups are given contents.
      obtain ⟨first, _, same, ⟨live, _⟩, _⟩ := Upkeep.permitted course.kept known (by simp)
      obtain rfl := Option.some.inj (same.symm.trans began)
      simp [live] at terminating
    | _ => cases brings
  · obtain ⟨metadata, stored, removed, known⟩ := freed
    have key : metadata.key = content.metadata.key :=
      (Metadata.removeFinalizer?_eq_some removed).1.key
    exact ⟨_, known, Metadata.hasFinalizer_removeFinalizer? removed,
      key.trans (course.inUse inUse).2⟩

/-- A call that clears a key and is carried out leaves no marked content under it. -/
theorem Store.Serves.unheld {store after : Store} {request : Call} {answer : request.Answer}
    {key : String} (serves : store.Serves request answer after)
    (clearing : (Exchange.mk request answer).IsClearing key) : after.Unheld key := by
  -- A key is cleared by a look that finds nothing marked, or by a write that takes the mark off.
  cases request with
  | getContent name space =>
    obtain ⟨read, rfl⟩ := serves
    intro content found
    cases answer with
    | error cause =>
      obtain ⟨_, rfl⟩ := clearing
      cases (Store.find?_of_get_eq_error read.symm).symm.trans found
    | ok known =>
      obtain ⟨unmarked, rfl⟩ := clearing
      obtain rfl := Option.some.inj ((Store.get_eq_ok.mp read.symm).symm.trans found)
      exact unmarked
  -- After the write the mark is off whatever lies under the key.
  | replaceContent later =>
    cases answer with
    | error cause => exact clearing.elim
    | ok stored =>
      obtain ⟨unmarked, rfl⟩ := clearing
      rcases Store.replace_answers serves with ⟨_, wrong, _⟩ | ⟨before, _, _, _, wrote⟩
      · cases wrong
      · intro content found
        rw [wrote] at found
        rcases Store.find?_overwrite_eq_some found with ⟨_, rfl⟩ | ⟨apart, _⟩
        · exact unmarked
        · exact absurd rfl apart
  | _ => exact clearing.elim

/-- A call that clears a key does not fail if failures are honest. -/
theorem Call.FailsHonestly.not_isClearing {request : Call} {answer : request.Answer} {key : String}
    (failed : request.FailsHonestly answer) :
    ¬ (Exchange.mk request answer).IsClearing key := by
  obtain ⟨fails, honest⟩ := failed
  -- A look that finds nothing and tells so dishonestly is what is excluded here.
  intro clearing
  cases request with
  | getContent name space =>
    cases answer with
    | error cause =>
      obtain ⟨missing, _⟩ := clearing
      simp [(honest cause rfl).1] at missing
    | ok content => cases fails
  | replaceContent later =>
    cases answer with
    | error cause => exact clearing
    | ok content => cases fails
  | _ => exact clearing

/-- In a pass over a terminating group whose calls fail honestly, a key that was cleared holds no marked
content any more. -/
theorem Conditions.unheld (honest : ∀ {request : Call} {answer : request.Answer},
      fails request answer → request.FailsHonestly answer) {start : Store} (ordered : start.Ordered)
    {seen : Group} {moment : Moment}
    (run : (busy driver fails).alone.Reaches ⟨⟨start, []⟩, some (seen.reconcile driver).run⟩ moment)
    {origin : Group} (began : origin? moment.exchanges = some origin)
    (terminating : origin.isTerminating = true)
    (cleared : ∃ exchange ∈ moment.exchanges, exchange.IsClearing origin.contentKey) :
    moment.store.Unheld origin.contentKey := by
  have versioned : (busy driver fails).IsVersioned := busy_isVersioned fun failed => (honest failed).1
  -- The induction goes along the run: what is clear stays so, since only live groups get contents.
  induction run with
  | refl => cases began
  | tail before step ih =>
    cases step with
    -- No group is visited by others.
    | idle change => exact change.elim
    | wait change => exact change.conserves.unheld (ih began cleared)
    | start _ visited => exact visited.elim
    | @call scene after request next answer answers =>
      obtain ⟨course, allows⟩ := versioned.inCourse ordered before
      obtain ⟨exchange, known, clearing⟩ := cleared
      rw [answers.1] at began known
      -- The key is cleared by this very call, or was clear before it.
      rcases List.mem_cons.mp known with rfl | known
      · rcases answers.2 with serves | ⟨failing, _⟩
        · exact serves.unheld clearing
        · exact absurd clearing (honest failing).not_isClearing
      · rcases allows request next rfl with ⟨none, _⟩ | ⟨first, same, permits⟩
        · replace none : scene.exchanges = [] := none
          simp [none] at known
        · obtain rfl := Option.some.inj (((Extends.cons _ _).origin? same).symm.trans began)
          have unheld := ih same ⟨exchange, known, clearing⟩
          -- Contents made in this pass would be for a live group.
          rcases answers.2 with serves | ⟨_, unchanged⟩
          · refine (course.conserves permits serves ?_).unheld unheld
            rintro record rfl
            simp [permits.1] at terminating
          · exact unchanged ▸ unheld
    | stop => exact ih began cleared

/-- A terminating group goes by one content all along its pass. -/
theorem Group.Carries.contentKey {origin held : Group} (carries : origin.Carries held)
    (terminating : origin.isTerminating = true) : held.contentKey = origin.contentKey := by
  simp only [Group.contentKey, Group.contentName, carries.spec terminating, carries.toContinues.name,
    carries.toContinues.namespace]

/-- Only the writes of groups change groups. -/
theorem Store.Serves.groups {store after : Store} {request : Call} {answer : request.Answer}
    (serves : store.Serves request answer after) (other : ∀ group, request ≠ .replaceGroup group)
    (further : ∀ group, request ≠ .replaceGroupStatus group) : after.groups = store.groups := by
  -- There are two writes of groups; the other writes go to other tables.
  cases request with
  | replaceGroup group => exact absurd rfl (other group)
  | replaceGroupStatus group => exact absurd rfl (further group)
  | replaceClaim claim =>
    rw [(Prod.mk.inj serves).2]
    exact congrArg Prod.fst (Store.beside_claims.replace store claim)
  | createContent content =>
    rw [(Prod.mk.inj serves).2]
    exact Store.groups_of_contents.create store content
  | replaceContent content =>
    rw [(Prod.mk.inj serves).2]
    exact Store.groups_of_contents.replace store content
  | replaceContentStatus content =>
    rw [(Prod.mk.inj serves).2]
    exact Store.groups_of_contents.replaceStatus store content
  | deleteContent name space =>
    rw [(Prod.mk.inj serves).2]
    exact Store.groups_of_contents.delete store name space
  | readClock => exact congrArg Store.groups serves
  | _ => exact congrArg Store.groups serves.2

/-- A group that is overwritten by one with its mark, or is not overwritten, has its mark still. -/
theorem Store.Overwrites.marked {store after : Store} {stored written answer own : Group} {key : String}
    (wrote : store.Overwrites stored written answer after)
    (found : store.find? key = some own) (marked : own.isMarked = true)
    (kept : stored = own → written.isMarked = true) :
    ∃ now : Group, after.find? key = some now ∧ now.isMarked = true := by
  rw [wrote.wrote]
  by_cases here : key = Resource.key written
  · subst here
    have same : stored = own := Option.some.inj (wrote.found.symm.trans (wrote.key ▸ found))
    -- The mark holds the group, so the write does not remove it.
    exact ⟨store.stamped written,
      Store.find?_overwrite_self (Metadata.isForsaken_of_hasFinalizer (kept same)), kept same⟩
  · exact ⟨own, by rw [Store.find?_overwrite, if_neg here, found], marked⟩

/-- A call that takes the mark off a group ends a pass over that group, which is terminating, after its
content has been given up. -/
theorem Scene.InCourse.relinquished_of_unmarks {met : Scene} (course : met.InCourse place)
    {origin : Group}
    (began : origin? met.exchanges = some origin) {after : Store} {request : Call}
    {answer : request.Answer} (permits : origin.Permits met.exchanges request)
    (serves : met.store.Serves request answer after) {key : String} {own : Group}
    (found : met.store.find? key = some own)
    (unmarks : met.store.Unmarks key after) :
    origin.isTerminating = true ∧ AbsentOrReleased origin met.exchanges ∧ origin.Carries own ∧
      after.contents = met.store.contents := by
  obtain ⟨own, same, marked, gone⟩ := unmarks
  obtain rfl := Option.some.inj (same.symm.trans found)
  -- A write after which the group still has its mark is not the one that is looked for.
  have stays {goal : Prop}
      (still : ∃ now : Group, after.find? key = some now ∧ now.isMarked = true) : goal := by
    obtain ⟨now, there, held⟩ := still
    simp [gone now there] at held
  cases request with
  | replaceGroup later =>
    cases answer with
    | error cause => exact stays ⟨own, (serves.of_failure rfl).symm ▸ found, marked⟩
    | ok group =>
      obtain ⟨held, hand, edited⟩ := permits
      obtain ⟨recalls, _, _, carries⟩ := course.own began hand
      rcases edited with
        ⟨metadata, _, added, rfl⟩ | ⟨content, _, _, rfl⟩ |
          ⟨metadata, terminating, relinquished, removed, rfl⟩
      · obtain ⟨continues, version, present⟩ := Metadata.addFinalizer?_eq_some added
        have wrote := recalls.overwrites serves continues.key version
        exact stays (wrote.marked found marked fun _ => present)
      · have wrote := recalls.overwrites serves rfl rfl
        exact stays (wrote.marked found marked fun same => same ▸ marked)
      · obtain ⟨continues, version, _⟩ := Metadata.removeFinalizer?_eq_some removed
        have wrote := recalls.overwrites serves continues.key version
        -- Of all writes of a group only this one takes the mark off, and the mark of no other group.
        by_cases same : held = own
        · refine ⟨terminating, relinquished, same ▸ carries, ?_⟩
          rw [wrote.wrote]
          exact Store.contents_of_groups.overwrite _ _
        · exact stays (wrote.marked found marked fun other => absurd other same)
  -- A state that is written leaves the mark on.
  | replaceGroupStatus later =>
    cases answer with
    | error cause => exact stays ⟨own, (serves.of_failure rfl).symm ▸ found, marked⟩
    | ok group =>
      obtain ⟨held, status, hand, rfl, _⟩ := permits
      obtain ⟨recalls, _⟩ := course.own began hand
      have wrote := recalls.overwritesStatus serves rfl rfl
      exact stays (wrote.marked found marked fun same => same ▸ marked)
  -- No other call writes a group.
  | _ =>
    have groups := serves.groups (by simp) (by simp)
    exact stays ⟨own, (Store.find?_of_groups groups key).trans found, marked⟩

/-- When a group loses its mark, no marked content lies where the group looks for it, which is where the
pass that read the group looked for it. -/
theorem Conditions.unheld_of_unmarks (honest : (busy driver fails).Honest) {start : Store}
    (ordered : start.Ordered) {now after : Scene} {request : Call} {answer : request.Answer}
    {next : request.Answer → Program (Except PassError Action)}
    (run : (busy driver fails).Reaches ⟨⟨start, []⟩, none⟩ ⟨now, some (.call request next)⟩)
    (answers : (busy driver fails).Answers now request answer after) {key : String} {own : Group}
    (found : now.store.find? key = some own) (unmarks : now.store.Unmarks key after.store) :
    after.store.contents = now.store.contents ∧ after.store.Unheld own.contentKey ∧
      ∃ origin ∈ now.exchanges.filterMap Exchange.read?,
        origin.metadata.uid = own.metadata.uid ∧ origin.contentKey = own.contentKey := by
  -- The call belongs to some pass over the group, which is in its course.
  have versioned : (busy driver fails).IsVersioned :=
    busy_isVersioned fun failed => (honest failed).1
  obtain ⟨middle, seen, made, sorted, log, alone⟩ := versioned.inPass ordered run
  obtain ⟨course, allows⟩ := versioned.inCourse sorted alone
  have answered : (busy driver fails).Answers ⟨now.store, made⟩ request answer
      ⟨after.store, ⟨request, answer⟩ :: made⟩ := ⟨rfl, answers.2⟩
  -- A call without effect takes no mark off, so this one was carried out.
  have changes : after.store ≠ now.store := by
    intro same
    obtain ⟨held, there, marked, gone⟩ := unmarks
    simp [gone held (same ▸ there)] at marked
  rcases versioned.turn (allows request next rfl) answered with
    ⟨_, _, same⟩ | ⟨origin, began, permits, ⟨_, same⟩ | ⟨_, serves⟩⟩
  · exact absurd same changes
  · exact absurd same changes
  -- Of that pass the last call is the one that unmarks, after the content was given up.
  obtain ⟨terminating, relinquished, carries, contents⟩ :=
    course.relinquished_of_unmarks began permits serves found unmarks
  have name : own.contentKey = origin.contentKey := carries.contentKey terminating
  have unheld : now.store.Unheld origin.contentKey :=
    -- What was given up has been clear since then.
    unheld honest sorted alone began terminating (course.cleared began terminating relinquished)
  refine ⟨contents, ?_, origin, ?_, by rw [carries.metadata], name.symm⟩
  · rw [name]
    exact (Store.Conserves.of_contents contents).unheld unheld
  · rw [log, List.filterMap_append]
    exact List.mem_append_left _ (Upkeep.read_origin course.kept began)

end Busy

/-- Of an identity that passes read with one content name, at most one content is stored. -/
theorem Scene.IsRooted.hasOneContent {scene : Scene} (rooted : scene.IsRooted) {uid : String}
    (named : OneName uid scene.exchanges) : scene.store.HasOneContent uid := by
  intro one other content further found owner foundOther ownerOther
  -- Each content has a read of its group behind it, and both reads give one key.
  obtain ⟨copy, read, ⟨_, identity, belongs⟩, rfl⟩ := rooted _ _ found
  obtain ⟨second, readOther, ⟨_, identityOther, belongsOther⟩, rfl⟩ := rooted _ _ foundOther
  exact named copy read second readOther (identity.trans (belongs.symm.trans owner))
    (identityOther.trans (belongsOther.symm.trans ownerOther))

/-- Users create, edit and delete groups at any time, and calls may fail. At every moment of every run
from a store without contents, each content lies where some pass that read its group looked for it. When
a group loses its mark, no marked content lies where the group looks for it then, provided that failing
calls do not take objects for absent. So there is at most one content of a group, and none that is marked
once the group has lost its mark, as long as passes read the group with one content name. -/
theorem one_content_under_one_name (driver : String)
    {fails : (request : Call) → request.Answer → Prop}
    (failing : ∀ {request : Call} {answer : request.Answer}, fails request answer →
      request.FailsWith answer) {start : Store} (ordered : start.Ordered)
    (empty : start.contents = ∅) {moment : Moment}
    (run : (Conditions.busy driver fails).Reaches ⟨⟨start, []⟩, none⟩ moment) :
    moment.IsRooted ∧
      (∀ uid, OneName uid moment.exchanges → moment.store.HasOneContent uid) ∧
      ((Conditions.busy driver fails).Honest → ∀ (request : Call)
        (next : request.Answer → Program (Except PassError Action)) (answer : request.Answer)
        (after : Scene) (key : String) (own : Group), moment.pass = some (.call request next) →
          (Conditions.busy driver fails).Answers moment.toScene request answer after →
            moment.store.find? key = some own → moment.store.Unmarks key after.store →
              after.store.Unheld own.contentKey ∧ ∀ uid, own.metadata.uid = some uid →
                OneName uid moment.exchanges → after.store.HasNoMarkedContent uid) := by
  -- All contents lie where some pass that read their group looked for them.
  have rooted := Conditions.isRooted failing ordered empty run
  refine ⟨rooted, fun uid named => rooted.hasOneContent named, ?_⟩
  intro honest request next answer after key own running answers found unmarks
  obtain ⟨scene, pass⟩ := moment
  obtain rfl : pass = some (.call request next) := running
  -- The group that loses its mark was read by the pass under the name that it has now.
  obtain ⟨contents, unheld, origin, read, identity, name⟩ :=
    Conditions.unheld_of_unmarks honest ordered run answers found unmarks
  refine ⟨unheld, fun uid known named place content there owner => ?_⟩
  -- The content lies where a pass looked for it that read the group with the same content name.
  have stored : scene.store.find? place = some content := by
    simpa only [Store.find?, Stored.table, contents] using there
  obtain ⟨copy, readCopy, ⟨_, own, belongs⟩, rfl⟩ := rooted _ _ stored
  have same := named copy readCopy origin read (own.trans (belongs.symm.trans owner))
    (identity.trans known)
  exact unheld content (name ▸ same ▸ there)

namespace Sample

/-- The scene after a user's action. -/
def acted (action : UserAction) (scene : Scene) : Scene :=
  { scene with store := action.on scene.store }

/-- The scene after a pass over the group, which takes seventeen calls at most. -/
def passed (scene : Scene) : Scene := (underway 17 scene).toScene

variable {fails : (request : Call) → request.Answer → Prop} {start : Moment} {scene : Scene}

/-- Users act in a run. -/
theorem reaches_acted (action : UserAction)
    (run : (Conditions.busy "driver" fails).Reaches start ⟨scene, none⟩) :
    (Conditions.busy "driver" fails).Reaches start ⟨acted action scene, none⟩ :=
  run.tail (.idle ⟨action, trivial, rfl⟩)

/-- A pass is underway in a run. -/
theorem reaches_underway (calls : Nat)
    (run : (Conditions.busy "driver" fails).Reaches start ⟨scene, none⟩) :
    (Conditions.busy "driver" fails).Reaches start (underway calls scene) :=
  (run.tail (.start group trivial)).trans
    (Moment.reaches_follow _ _ fun _ _ known => by simp at known)

/-- A pass is made in a run. -/
theorem reaches_passed (run : (Conditions.busy "driver" fails).Reaches start ⟨scene, none⟩) :
    (Conditions.busy "driver" fails).Reaches start ⟨passed scene, none⟩ :=
  (reaches_underway 17 run).trans (Moment.reaches_stopped _)

/-- The cluster where a user deletes the group after a pass over it. -/
def closed : Scene := acted (.deleteGroup "group" "space") (passed ⟨stocked, []⟩)

/-- The cluster where a user gives the group another content name after a pass over it, and where
another pass is made. -/
def doubled : Scene :=
  passed (acted (.editGroup "group" "space" fun spec =>
    { spec with source := { spec.source with contentName := some "other" } }) (passed ⟨stocked, []⟩))

/-- The cluster where that group is deleted. -/
def abandoned : Scene := acted (.deleteGroup "group" "space") doubled

end Sample

/-- When the group is deleted after a pass over it, there is no marked content of the group as the group
loses its mark. -/
theorem released_under_one_name : ∃ (request : Call)
    (next : request.Answer → Program (Except PassError Action)) (answer : request.Answer)
    (after : Scene) (own : Group),
    Sample.stocked.Ordered ∧ Sample.stocked.contents = ∅ ∧
    (Conditions.busy "driver" Call.FailsHonestly).Reaches ⟨⟨Sample.stocked, []⟩, none⟩
      (Sample.underway 10 Sample.closed) ∧
    (Conditions.busy "driver" Call.FailsHonestly).Honest ∧
    (Sample.underway 10 Sample.closed).pass = some (.call request next) ∧
    (Conditions.busy "driver" Call.FailsHonestly).Answers (Sample.underway 10 Sample.closed).toScene
      request answer after ∧
    (Sample.underway 10 Sample.closed).store.find? "space/group" = some own ∧
    (Sample.underway 10 Sample.closed).store.Unmarks "space/group" after.store ∧
    own.metadata.uid = some "uid" ∧ OneName "uid" (Sample.underway 10 Sample.closed).exchanges ∧
    after.store.HasNoMarkedContent "uid" := by
  -- One pass runs, the group is deleted, and the next pass is about to take off the mark.
  have run : (Conditions.busy "driver" Call.FailsHonestly).Reaches ⟨⟨Sample.stocked, []⟩, none⟩
      (Sample.underway 10 Sample.closed) :=
    Sample.reaches_underway 10 (Sample.reaches_acted _ (Sample.reaches_passed .refl))
  have empty : Sample.stocked.contents = ∅ := by decide +kernel
  have named : OneName "uid" (Sample.underway 10 Sample.closed).exchanges := by
    unfold OneName
    decide +kernel
  have unmarks : (Sample.underway 10 Sample.closed).store.Unmarks "space/group"
      ((Sample.underway 10 Sample.closed).follow .call).store := by decide +kernel
  have waiting : (Sample.underway 10 Sample.closed).request?.isSome = true := by decide +kernel
  obtain ⟨request, next, answer, running, answers⟩ := Moment.answers_of_request? waiting
  have ⟨own, found, _⟩ := unmarks
  have identity : ∀ own ∈ (Sample.underway 10 Sample.closed).store.find? (α := Group) "space/group",
      own.metadata.uid = some "uid" := by decide +kernel
  -- The theorem is applied at that moment.
  obtain ⟨_, _, cleared⟩ := one_content_under_one_name "driver" (fun failed => failed.1)
    Sample.ordered_stocked empty run
  obtain ⟨_, unmarked⟩ := cleared id request next answer _ "space/group" own running (answers _) found
    unmarks
  exact ⟨request, next, answer, _, own, Sample.ordered_stocked, empty, run, id, running, answers _,
    found, unmarks, identity own found, named, unmarked "uid" (identity own found) named⟩

/-- A group that is given another content name after a pass has two contents after the next one, and
when it is deleted it loses its mark while the first content has its own. -/
theorem two_contents_after_renaming : Sample.stocked.contents = ∅ ∧
    (Conditions.busy "driver" Call.FailsHonestly).Reaches ⟨⟨Sample.stocked, []⟩, none⟩
      ⟨Sample.doubled, none⟩ ∧
    ¬ Sample.doubled.store.HasOneContent "uid" ∧
    (Conditions.busy "driver" Call.FailsHonestly).Reaches ⟨⟨Sample.stocked, []⟩, none⟩
      (Sample.underway 10 Sample.abandoned) ∧
    ∃ (request : Call) (next : request.Answer → Program (Except PassError Action))
      (answer : request.Answer) (after : Scene),
      (Sample.underway 10 Sample.abandoned).pass = some (.call request next) ∧
      (Conditions.busy "driver" Call.FailsHonestly).Answers
        (Sample.underway 10 Sample.abandoned).toScene request answer after ∧
      (Sample.underway 10 Sample.abandoned).store.Unmarks "space/group" after.store ∧
      ¬ after.store.HasNoMarkedContent "uid" := by
  -- The group is renamed between the two passes.
  have doubled : (Conditions.busy "driver" Call.FailsHonestly).Reaches
      ⟨⟨Sample.stocked, []⟩, none⟩ ⟨Sample.doubled, none⟩ :=
    Sample.reaches_passed (Sample.reaches_acted _ (Sample.reaches_passed .refl))
  have waiting : (Sample.underway 10 Sample.abandoned).request?.isSome = true := by decide +kernel
  obtain ⟨request, next, answer, running, answers⟩ := Moment.answers_of_request? waiting
  refine ⟨by decide +kernel, doubled, ?_,
    Sample.reaches_underway 10 (Sample.reaches_acted _ doubled), request, next, answer, _, running,
    answers _, by decide +kernel, ?_⟩
  · intro alone
    -- The first content stays where the group no longer looks.
    obtain ⟨first, found, owner⟩ :
        ∃ content ∈ Sample.doubled.store.find? (α := Content) "space/group-content",
          content.ownerUid? = some "uid" := by decide +kernel
    obtain ⟨second, further, ownerOther⟩ :
        ∃ content ∈ Sample.doubled.store.find? (α := Content) "space/other",
          content.ownerUid? = some "uid" := by decide +kernel
    exact absurd (alone _ _ first second found owner further ownerOther) (by decide)
  -- The second content loses its mark, and the first one keeps its own.
  · intro unmarked
    obtain ⟨content, found, owner, marked⟩ :
        ∃ content ∈ ((Sample.underway 10 Sample.abandoned).follow .call).store.find? (α := Content)
            "space/group-content",
          content.ownerUid? = some "uid" ∧ content.isMarked = true := by decide +kernel
    simp [unmarked _ content found owner] at marked

end VolumeGroups
