import VolumeGroups.Proofs.Records.Course

/-! What a pass changes in the store: each write goes over the very object that is stored at that
moment and changes it in one place. -/

namespace VolumeGroups

/-- At most one mark comes or goes, and nothing else changes. -/
def Metadata.Toggles (mark : String) (earlier later : Metadata) : Prop :=
  later = { earlier with finalizers := later.finalizers } ∧
    (later.finalizers.getD []).filter (· != mark) = (earlier.finalizers.getD []).filter (· != mark)

/-- A mark that is added is the only one that comes. -/
theorem Metadata.toggles_of_add {earlier later : Metadata} {mark : String}
    (added : earlier.addFinalizer? mark = some later) : earlier.Toggles mark later := by
  simp only [addFinalizer?] at added
  split at added
  · cases added
  · cases added
    exact ⟨rfl, by simp⟩

/-- A mark that is taken off is the only one that goes. -/
theorem Metadata.toggles_of_remove {earlier later : Metadata} {mark : String}
    (removed : earlier.removeFinalizer? mark = some later) : earlier.Toggles mark later := by
  -- The marks lose this one and keep all others.
  simp only [removeFinalizer?] at removed
  split at removed
  · cases removed
    refine ⟨rfl, ?_⟩
    cases earlier.finalizers <;> simp
  · cases removed

/-- Nothing that a pass only reads has changed. -/
def Store.SparesRest (earlier later : Store) : Prop :=
  later.classes = earlier.classes ∧ later.volumes = earlier.volumes ∧
    later.secrets = earlier.secrets ∧ later.storageClasses = earlier.storageClasses

/-- Nothing has changed if nothing was written. -/
theorem Store.SparesRest.refl (store : Store) : store.SparesRest store := ⟨rfl, rfl, rfl, rfl⟩

/-- What a call changes in the store, in a pass over the group under a key that began with some group
and has made some calls. A write that succeeds puts another form of an object over the stored one. -/
def Edits (place : String) (origin : Group) (log : List Exchange) (store : Store) :
    Exchange → Store → Prop
  -- A group is written with another set of marks, or with the name of the content in use.
  | ⟨.replaceGroup _, .ok group⟩, after => ∃ stored written,
    store.Overwrites stored written group after ∧
    Resource.key stored = place ∧ stored.metadata.uid = origin.metadata.uid ∧
    ((∃ metadata, stored.metadata.Toggles groupFinalizer metadata ∧
        written = { stored with metadata }) ∨
      ∃ content, InUse origin content log ∧ written = stored.naming (Resource.displayName content))
  -- The state of the group may be any other; what it records is told elsewhere.
  | ⟨.replaceGroupStatus _, .ok group⟩, after => ∃ stored status,
    store.Overwrites stored { stored with status } group after ∧
    Resource.key stored = place ∧ stored.metadata.uid = origin.metadata.uid
  -- Claims are written in the namespace of the group only.
  | ⟨.replaceClaim _, .ok claim⟩, after => ∃ stored metadata,
    store.Overwrites stored { stored with metadata } claim after ∧
    stored.metadata.namespace.isSome ∧ stored.metadata.namespace = origin.metadata.namespace ∧
    stored.metadata.Toggles claimFinalizer metadata
  -- The content is the one under the name that the group goes by.
  | ⟨.replaceContent _, .ok content⟩, after => ∃ stored metadata,
    store.Overwrites stored { stored with metadata } content after ∧
    Resource.key stored = origin.contentKey ∧ stored.metadata.Toggles contentFinalizer metadata
  | ⟨.replaceContentStatus _, .ok content⟩, after => ∃ stored status,
    store.Overwrites stored { stored with status := some status } content after ∧
    Resource.key stored = origin.contentKey ∧
    -- A time that was recorded once is never overwritten.
    ∀ time, stored.status.bind ContentStatus.creationTime = some time →
      status.creationTime = some time
  -- The content of the group may come and go.
  | ⟨.createContent _, .ok _⟩, after | ⟨.deleteContent .., .ok _⟩, after =>
    after.groups = store.groups ∧ after.claims = store.claims ∧
      ∀ key, key ≠ origin.contentKey → after.find? key = (store.find? key : Option Content)
  -- All other calls, and those that fail, leave the store.
  | _, after => after = store

/-- Writes of groups leave alone what is only read. -/
theorem Store.rest_of_groups : Untouched Group fun store =>
    (store.classes, store.volumes, store.secrets, store.storageClasses) := fun _ _ _ => rfl

/-- Writes of claims leave alone what is only read. -/
theorem Store.rest_of_claims : Untouched Claim fun store =>
    (store.classes, store.volumes, store.secrets, store.storageClasses) := fun _ _ _ => rfl

/-- Writes of contents leave alone what is only read. -/
theorem Store.rest_of_contents : Untouched Content fun store =>
    (store.classes, store.volumes, store.secrets, store.storageClasses) := fun _ _ _ => rfl

/-- A creation leaves alone what lies under other keys. -/
theorem Store.find?_create_of_ne {store : Store} {content : Content} {key : String}
    (apart : key ≠ Resource.key content) :
    (store.create content).2.find? key = (store.find? key : Option Content) := by
  rcases create_cases store content with ⟨error, failed⟩ | ⟨_, made⟩
  · rw [failed]
  · rw [made, find?_save]
    exact if_neg apart

/-- A deletion leaves alone what lies under other keys. -/
theorem Store.find?_delete_of_ne {store : Store} (orderly : store.Orderly Content)
    {name space key : String} (apart : key ≠ space ++ "/" ++ name) :
    (store.delete Content name space).2.find? key = (store.find? key : Option Content) := by
  -- A deletion removes the object, refuses, or sets it to terminate in place.
  rcases delete_cases (α := Content) store name space with
    ⟨error, failed⟩ | ⟨stored, found, ⟨_, gone⟩ | kept | ⟨_, ends⟩⟩
  · rw [failed]
  · rw [gone, find?_remove, if_neg apart]
  · rw [kept]
  · have own : Resource.key (ending stored) = Resource.key stored := rfl
    rw [ends, find?_save, own, orderly.placed found, if_neg apart]

/-- A call that is carried out writes groups, claims and contents only. -/
theorem Store.Serves.sparesRest {store after : Store} {request : Call} {answer : request.Answer}
    (serves : store.Serves request answer after) : store.SparesRest after := by
  -- All four tables are one quantity that no write touches.
  suffices same : (after.classes, after.volumes, after.secrets, after.storageClasses) =
      (store.classes, store.volumes, store.secrets, store.storageClasses) by
    simpa [SparesRest] using same
  -- Writes touch the one table of their objects; looks and calls to the driver touch none.
  cases request with
  | replaceGroup group =>
    rw [(Prod.mk.inj serves).2]
    exact rest_of_groups.replace _ _
  | replaceGroupStatus group =>
    rw [(Prod.mk.inj serves).2]
    exact rest_of_groups.replaceStatus _ _
  | replaceClaim claim =>
    rw [(Prod.mk.inj serves).2]
    exact rest_of_claims.replace _ _
  | createContent content =>
    rw [(Prod.mk.inj serves).2]
    exact rest_of_contents.create _ _
  | replaceContent content =>
    rw [(Prod.mk.inj serves).2]
    exact rest_of_contents.replace _ _
  | replaceContentStatus content =>
    rw [(Prod.mk.inj serves).2]
    exact rest_of_contents.replaceStatus _ _
  | deleteContent name space =>
    rw [(Prod.mk.inj serves).2]
    exact rest_of_contents.delete _ _ _
  | readClock =>
    obtain rfl : after = store := serves
    rfl
  | _ =>
    obtain ⟨_, rfl⟩ := serves
    rfl

namespace Scene.InCourse

variable {place : String} {met : Scene} (course : met.InCourse place) {origin : Group} {after : Store}
  (began : origin? met.exchanges = some origin)
include course began

/-- The group in hand is a copy of the pass's own group. -/
theorem own {held : Group} (hand : latest? met.exchanges = some held) :
    met.store.Recalls held ∧ Resource.key held = place ∧
      held.metadata.uid = origin.metadata.uid ∧ origin.Carries held := by
  obtain ⟨recalls, key, first, same, carries⟩ := course.latest hand
  obtain rfl := Option.some.inj (began.symm.trans same)
  exact ⟨recalls, key, by rw [carries.metadata], carries⟩

/-- A group that is written changes in a mark or in the name of its content. -/
theorem edits_replaceGroup {later group : Group}
    (permits : origin.Permits met.exchanges (.replaceGroup later))
    (done : (Except.ok group, after) = met.store.replace later) :
    Edits place origin met.exchanges met.store ⟨.replaceGroup later, .ok group⟩ after := by
  -- The group in hand is what the store gave last, so an accepted write goes over that form.
  obtain ⟨held, hand, edited⟩ := permits
  obtain ⟨recalls, key, uid, _⟩ := course.own began hand
  -- The mark comes on, the content gets its name, or the mark goes off.
  rcases edited with
    ⟨metadata, _, added, rfl⟩ | ⟨content, _, inUse, rfl⟩ | ⟨metadata, _, _, removed, rfl⟩
  · obtain ⟨continues, version, _⟩ := Metadata.addFinalizer?_eq_some added
    exact ⟨held, _, recalls.overwrites done continues.key version, key, uid,
      .inl ⟨metadata, Metadata.toggles_of_add added, rfl⟩⟩
  · exact ⟨held, _, recalls.overwrites done rfl rfl, key, uid, .inr ⟨content, inUse, rfl⟩⟩
  · obtain ⟨continues, version, _⟩ := Metadata.removeFinalizer?_eq_some removed
    exact ⟨held, _, recalls.overwrites done continues.key version, key, uid,
      .inl ⟨metadata, Metadata.toggles_of_remove removed, rfl⟩⟩

/-- A group whose state is written changes in nothing else. -/
theorem edits_replaceGroupStatus {later group : Group}
    (permits : origin.Permits met.exchanges (.replaceGroupStatus later))
    (done : (Except.ok group, after) = met.store.replaceStatus later) :
    Edits place origin met.exchanges met.store ⟨.replaceGroupStatus later, .ok group⟩ after := by
  obtain ⟨held, status, hand, rfl, _⟩ := permits
  obtain ⟨recalls, key, uid, _⟩ := course.own began hand
  exact ⟨held, some status, recalls.overwritesStatus done rfl rfl, key, uid⟩

omit began in
/-- A claim that is written is one of the group's namespace and changes in a mark. -/
theorem edits_replaceClaim {later claim : Claim}
    (permits : origin.Permits met.exchanges (.replaceClaim later))
    (done : (Except.ok claim, after) = met.store.replace later) :
    Edits place origin met.exchanges met.store ⟨.replaceClaim later, .ok claim⟩ after := by
  obtain ⟨space, claims, stored, metadata, inSpace, listed, known, edited, rfl⟩ := permits
  obtain ⟨recalls, own⟩ := course.copied _ listed stored known
  -- The copy comes from the list of the claims of the namespace.
  have toggles : stored.metadata.Toggles claimFinalizer metadata :=
    edited.elim Metadata.toggles_of_add Metadata.toggles_of_remove
  have key : metadata.key = stored.metadata.key := by rw [toggles.1]; rfl
  have version : metadata.resourceVersion = stored.metadata.resourceVersion := by rw [toggles.1]
  exact ⟨stored, metadata, recalls.overwrites done key version, by simp [own], own.trans inSpace.symm,
    toggles⟩

omit began in
/-- A content that is written is the one in use and changes in a mark. -/
theorem edits_replaceContent {later content : Content}
    (permits : origin.Permits met.exchanges (.replaceContent later))
    (done : (Except.ok content, after) = met.store.replace later) :
    Edits place origin met.exchanges met.store ⟨.replaceContent later, .ok content⟩ after := by
  obtain ⟨stored, metadata, inUse, removed, wrote⟩ := course.overwrites_replaceContent permits done
  exact ⟨stored, metadata, wrote, (course.inUse inUse).2, Metadata.toggles_of_remove removed⟩

omit began in
/-- A content whose state is written is the one in use, and keeps the time when it came to be. -/
theorem edits_replaceContentStatus {later content : Content}
    (permits : origin.Permits met.exchanges (.replaceContentStatus later))
    (done : (Except.ok content, after) = met.store.replaceStatus later) :
    Edits place origin met.exchanges met.store ⟨.replaceContentStatus later, .ok content⟩ after := by
  obtain ⟨stored, _, status, acknowledged, readies, wrote⟩ :=
    course.overwrites_replaceContentStatus permits done
  exact ⟨stored, status, wrote, (course.inUse acknowledged.inUse).2, readies.kept⟩

/-- A call that is carried out in the course of a pass changes one object in one place. -/
theorem edits {request : Call} {answer : request.Answer}
    (permits : origin.Permits met.exchanges request)
    (serves : met.store.Serves request answer after)
    (done : (Exchange.mk request answer).failure? = none) :
    Edits place origin met.exchanges met.store ⟨request, answer⟩ after := by
  -- Writes of stored objects have lemmas of their own; what is left are the content that comes and
  -- the one that goes.
  cases request with
  | replaceGroup later =>
    cases answer with
    | error cause => cases done
    | ok group => exact course.edits_replaceGroup began permits serves
  | replaceGroupStatus later =>
    cases answer with
    | error cause => cases done
    | ok group => exact course.edits_replaceGroupStatus began permits serves
  | replaceClaim later =>
    cases answer with
    | error cause => cases done
    | ok claim => exact course.edits_replaceClaim permits serves
  | replaceContent later =>
    cases answer with
    | error cause => cases done
    | ok content => exact course.edits_replaceContent permits serves
  | replaceContentStatus later =>
    cases answer with
    | error cause => cases done
    | ok content => exact course.edits_replaceContentStatus permits serves
  | createContent record =>
    cases answer with
    | error cause => cases done
    | ok content =>
      -- The new content lies where the group looks for it, so all others stay.
      obtain ⟨_, _, own, _⟩ := permits
      obtain ⟨groups, claims⟩ := Prod.mk.inj (Store.beside_contents.create met.store record)
      rw [(Prod.mk.inj serves).2]
      exact ⟨groups, claims, fun key apart => Store.find?_create_of_ne (own ▸ apart)⟩
  | deleteContent name space =>
    cases answer with
    | error cause => cases done
    | ok gone =>
      obtain ⟨content, _, inUse, there⟩ := permits
      -- A content in use lies under the name that the group goes by.
      have own : space ++ "/" ++ name = origin.contentKey := there.trans (course.inUse inUse).2
      obtain ⟨groups, claims⟩ := Prod.mk.inj (Store.beside_contents.delete met.store name space)
      rw [(Prod.mk.inj serves).2]
      exact ⟨groups, claims, fun key apart =>
        Store.find?_delete_of_ne course.ordered.contents (own ▸ apart)⟩
  | readClock => exact serves
  | _ => exact serves.2

end Scene.InCourse

/-- A call that fails changes nothing. -/
theorem Edits.of_failure {place : String} {origin : Group} {log : List Exchange} {store : Store}
    {exchange : Exchange} (failed : exchange.failure?.isSome) :
    Edits place origin log store exchange store := by
  obtain ⟨request, answer⟩ := exchange
  -- Only writes have an answer that matters, and that one is a failure here.
  cases request with
  | replaceGroup | replaceGroupStatus | replaceClaim | replaceContent | replaceContentStatus
  | createContent | deleteContent =>
    cases answer with
    | error cause => rfl
    | ok value => cases failed
  | _ => rfl

/-- Whatever others write between the calls of a pass and whichever calls fail, a call of the pass
that succeeds changes one object in one place, compared with the object stored right before it: the
pass's own group in its mark, in its state or in the name of its content, which becomes that of the
content in use, a claim of the group's namespace in its mark, and the content under the group's content
name in its mark or in its state, where the time when it came to be stays. Nothing else is written but
that this content may come and go. -/
theorem edits_in_one_place (driver : String) {seen : Group} {start : Store} {now after : Scene}
    {request : Call} {answer : request.Answer}
    {next : request.Answer → Program (Except PassError Action)} (ordered : start.Ordered)
    (run : (Conditions.crowded driver).Reaches ⟨⟨start, []⟩, some (seen.reconcile driver).run⟩
      ⟨now, some (.call request next)⟩)
    (answers : (Conditions.crowded driver).Answers now request answer after) :
    now.store.SparesRest after.store ∧
      (now.exchanges = [] ∧ after.store = now.store ∨
        ∃ origin, origin? now.exchanges = some origin ∧
          Edits seen.place origin now.exchanges now.store ⟨request, answer⟩ after.store) := by
  -- The pass keeps to what its group permits as long as versions guard every write.
  have versioned := Conditions.crowded_isVersioned driver
  obtain ⟨course, allows⟩ := versioned.inCourse ordered run
  rcases versioned.turn (allows request next rfl) answers with
    ⟨none, _, same⟩ | ⟨origin, began, permits, ⟨failed, same⟩ | ⟨done, serves⟩⟩
  · -- Before the group was read, nothing is written at all.
    exact ⟨same ▸ .refl _, .inl ⟨none, same⟩⟩
  · -- A call that failed left the store.
    exact ⟨same ▸ .refl _, .inr ⟨origin, began, same ▸ .of_failure failed⟩⟩
  · -- A call that was carried out had been permitted.
    exact ⟨serves.sparesRest, .inr ⟨origin, began, course.edits began permits serves done⟩⟩

namespace Sample

/-- The claim as the pass over its group marks it. -/
def joiner : Claim :=
  { claim with metadata :=
      { claim.metadata with
        uid := some "uid-claim", resourceVersion := some "3", finalizers := some [claimFinalizer] } }

end Sample

/-- A pass writes its mark over the claim that it counted, after another group has turned up. -/
theorem marks_counted_claim : ∃ next stored after, Sample.stocked.Ordered ∧
    (Conditions.crowded "driver").Reaches
      ⟨⟨Sample.stocked, []⟩, some (Sample.group.reconcile "driver").run⟩
      ⟨(Sample.crowded 1).toScene, some (.call (.replaceClaim Sample.joiner) next)⟩ ∧
    (Conditions.crowded "driver").Answers (Sample.crowded 1).toScene (.replaceClaim Sample.joiner)
      (.ok stored) after ∧
    (Sample.crowded 1).store.SparesRest after.store ∧
    ∃ origin, origin? (Sample.crowded 1).exchanges = some origin ∧
      Edits Sample.group.place origin (Sample.crowded 1).exchanges (Sample.crowded 1).store
        ⟨.replaceClaim Sample.joiner, .ok stored⟩ after.store := by
  have waiting : (Sample.crowded 1).request? = some (.replaceClaim Sample.joiner) := by decide +kernel
  have succeeds : ((Sample.crowded 1).store.replace Sample.joiner).1.isOk = true := by decide +kernel
  -- The pass is played up to the write, and the store accepts the write there.
  obtain ⟨next, run⟩ := Sample.reaches_crowded waiting
  obtain ⟨stored, replaced⟩ := exists_ok_of_isOk succeeds
  have answers : (Conditions.crowded "driver").Answers (Sample.crowded 1).toScene
      (.replaceClaim Sample.joiner) (.ok stored) ⟨_, _⟩ := ⟨rfl, .inl replaced.symm⟩
  obtain ⟨spares, ⟨none, _⟩ | edits⟩ :=
    edits_in_one_place "driver" Sample.ordered_stocked run answers
  · -- The group was read long before, so the log is not empty.
    exact absurd none (by decide +kernel)
  · exact ⟨next, stored, _, Sample.ordered_stocked, run, answers, spares, edits⟩

end VolumeGroups
