import VolumeGroups.Proofs.Records.Frame

/-! Whose handles a pass sends to the driver, and whose contents it writes and deletes. -/

namespace VolumeGroups

/-- A handle that a content of the group was read to record, or that the driver returned for a group
that it made. -/
def Obtained (origin : Group) (handle : String) (log : List Exchange) : Prop :=
  (∃ name space content, ⟨.getContent name space, .ok content⟩ ∈ log ∧ content.BelongsTo origin ∧
      content.handle? = some handle) ∨
    ∃ name secrets parameters created,
      ⟨.createDriverGroup name secrets parameters, .ok created⟩ ∈ log ∧ created.handle = handle

/-- A version in which a pass has seen the content in use: the one that it was brought in, or the one
that the store gave it when its mark was taken off. -/
def Seen (content : Content) (version : Option String) (log : List Exchange) : Prop :=
  version = Resource.version content ∨
    ∃ later stored, ⟨.replaceContent later, .ok stored⟩ ∈ log ∧ version = Resource.version stored

/-- A call respects whose the contents are, in a pass that began with some group and has made some
calls: handles come from contents of the group, the content that is written is one of the group, and so
is the content that is deleted if the pass has seen it in the version that it has. -/
def Respects (origin : Group) (log : List Exchange) (store : Store) : Exchange → Store → Prop
  -- The handle was read from a content of the group or came from the driver in this pass.
  | ⟨.modifyMembership handle _ _, _⟩, _ | ⟨.deleteDriverGroup handle _, _⟩, _ =>
    Obtained origin handle log
  -- A content is written only while it belongs to the group.
  | ⟨.replaceContent _, .ok content⟩, after | ⟨.replaceContentStatus _, .ok content⟩, after =>
    ∃ stored written, store.Overwrites stored written content after ∧ stored.BelongsTo origin
  -- The deletion goes by name, so its owner is known only for the version that was seen.
  | ⟨.deleteContent name space, _⟩, _ => ∃ content, InUse origin content log ∧
    Resource.key content = space ++ "/" ++ name ∧ ∀ stored : Content,
      store.find? (space ++ "/" ++ name) = some stored →
        Seen content (Resource.version stored) log → stored.BelongsTo origin
  | _, _ => True

/-- A pass records what the driver returned in no content but its group's. -/
theorem Upkeep.obtained {place : String} {store : Store} {origin : Group} {log : List Exchange}
    (kept : (Upkeep place).Kept log) (copied : ∀ exchange ∈ log, exchange.IsCopied store)
    {content : Content} (inUse : InUse origin content log) {handle : String}
    (records : content.handle? = some handle) : Obtained origin handle log := by
  -- A content in use was either read under the group's name or made by this pass.
  obtain ⟨⟨request, answer⟩, known, brings⟩ := inUse.brought
  have copy := copied _ known
  cases request with
  | getContent name space =>
    cases answer with
    | error cause => cases brings
    | ok found =>
      obtain ⟨_, rfl⟩ := Prod.mk.inj (Option.some.inj brings)
      -- What is read counts only if it belongs to the group.
      exact .inl ⟨name, space, found, known, inUse.belongs, records⟩
  | createContent record =>
    cases answer with
    | error cause => cases brings
    | ok made =>
      obtain ⟨_, rfl⟩ := Prod.mk.inj (Option.some.inj brings)
      obtain ⟨_, before, _, permits, goes⟩ := Upkeep.permitted kept known (by simp)
      obtain ⟨_, _, _, _, name, secrets, parameters, created, source, driven, recorded, same⟩ := permits
      refine .inr ⟨name, secrets, parameters, created, goes.mem driven, ?_⟩
      -- The content is stored with what it was made to record.
      have spec : made.spec = record.spec := copy.2.2
      simp only [Content.handle?, spec, recorded, Option.map_some, Option.filter_eq_some_iff,
        Option.some.injEq] at records
      exact same.symm.trans records.1
  | _ => cases brings

namespace Scene.InCourse

variable {place : String} {met : Scene} (course : met.InCourse place) {origin : Group}
include course

/-- A content that a pass was given back after it took the mark off is the content of its group. -/
theorem given_back {later stored : Content} (began : origin? met.exchanges = some origin)
    (known : ⟨.replaceContent later, .ok stored⟩ ∈ met.exchanges) :
    met.store.Recalls stored ∧ Resource.key stored = origin.contentKey ∧
      stored.BelongsTo origin := by
  obtain ⟨recalls, key, spec⟩ := course.copied _ known
  obtain ⟨first, _, same, permits, goes⟩ := Upkeep.permitted course.kept known (by simp)
  -- A mark is taken off the content in use only, whose key and owner stay.
  obtain ⟨content, metadata, _, inUse, removed, rfl⟩ := permits
  obtain rfl := Option.some.inj (same.symm.trans began)
  have unmoved : metadata.key = content.metadata.key :=
    (Metadata.removeFinalizer?_eq_some removed).1.key
  exact ⟨recalls, key.trans (unmoved.trans (course.inUse (inUse.later goes)).2),
    inUse.belongs.of_spec spec⟩

/-- A content that is there in a version that the pass has seen belongs to the group. -/
theorem belongs_of_seen (began : origin? met.exchanges = some origin) {content stored : Content}
    (inUse : InUse origin content met.exchanges)
    (found : met.store.find? (Resource.key content) = some stored)
    (seen : Seen content (Resource.version stored) met.exchanges) : stored.BelongsTo origin := by
  -- What has the version of a copy is what the copy was taken of.
  rcases seen with version | ⟨later, given, known, version⟩
  · obtain ⟨recalls, _⟩ := course.inUse inUse
    exact (recalls.unchanged (.refl _) found version).1 ▸ inUse.belongs
  · obtain ⟨recalls, key, belongs⟩ := course.given_back began known
    rw [(course.inUse inUse).2, ← key] at found
    exact (recalls.unchanged (.refl _) found version).1 ▸ belongs

/-- A call that is made in the course of a pass respects whose the contents are. -/
theorem respects {after : Store} (began : origin? met.exchanges = some origin) {request : Call}
    {answer : request.Answer} (permits : origin.Permits met.exchanges request)
    (done : (Exchange.mk request answer).failure? = none →
      met.store.Serves request answer after) :
    Respects origin met.exchanges met.store ⟨request, answer⟩ after := by
  -- Only calls with a handle and writes of contents have anything to respect.
  cases request with
  | modifyMembership handle ids secrets =>
    -- The plan that is handed over is of no concern here, only the handle.
    obtain ⟨_, content, _, _, inUse, records, _⟩ := permits
    exact Upkeep.obtained course.kept course.copied inUse records
  | deleteDriverGroup handle secrets =>
    obtain ⟨_, content, inUse, records⟩ := permits
    exact Upkeep.obtained course.kept course.copied inUse records
  | replaceContent later =>
    cases answer with
    | error cause => trivial
    | ok content =>
      obtain ⟨stored, _, inUse, _, wrote⟩ := course.overwrites_replaceContent permits (done rfl)
      exact ⟨stored, _, wrote, inUse.belongs⟩
  | replaceContentStatus later =>
    cases answer with
    | error cause => trivial
    | ok content =>
      obtain ⟨stored, _, _, acknowledged, _, wrote⟩ :=
        course.overwrites_replaceContentStatus permits (done rfl)
      exact ⟨stored, _, wrote, acknowledged.inUse.belongs⟩
  -- The version that the pass has seen is the group's; another version may be anybody's.
  | deleteContent name space =>
    obtain ⟨content, _, inUse, there⟩ := permits
    exact ⟨content, inUse, there.symm, fun stored found seen =>
      course.belongs_of_seen began inUse (there ▸ found) seen⟩
  | _ => trivial

end Scene.InCourse

/-- Whatever others write between the calls of a pass and whichever calls fail: the handles that the
pass sends to the driver were recorded in contents of its group or returned by the driver in the same
pass, the contents that it writes are contents of its group at that moment, and the content that it
deletes is one unless it has another version by then than the pass has seen. -/
theorem respects_owners (driver : String) {seen : Group} {start : Store} {now after : Scene}
    {request : Call} {answer : request.Answer}
    {next : request.Answer → Program (Except PassError Action)} (ordered : start.Ordered)
    (run : (Conditions.crowded driver).Reaches ⟨⟨start, []⟩, some (seen.reconcile driver).run⟩
      ⟨now, some (.call request next)⟩)
    (answers : (Conditions.crowded driver).Answers now request answer after) :
    now.exchanges = [] ∧ after.store = now.store ∨
      ∃ origin, origin? now.exchanges = some origin ∧
        Respects origin now.exchanges now.store ⟨request, answer⟩ after.store := by
  have versioned := Conditions.crowded_isVersioned driver
  obtain ⟨course, allows⟩ := versioned.inCourse ordered run
  rcases versioned.turn (allows request next rfl) answers with
    ⟨none, _, same⟩ | ⟨origin, began, permits, _⟩
  · -- The group was not read yet.
    exact .inl ⟨none, same⟩
  · exact .inr ⟨origin, began, course.respects began permits (versioned.serves answers)⟩

namespace Sample

/-- The cluster where a user deletes the group after a pass over it. -/
def closing : Store :=
  (UserAction.deleteGroup "group" "space").on
    (Rehearsal.pass { store := stocked } "driver" group).store

/-- The pass that takes the group down, after some calls. -/
def parting (calls : Nat) : Moment := underway calls ⟨closing, []⟩

/-- The cluster where a user deletes the group is in order. -/
theorem ordered_closing : closing.Ordered where
  groups := .of_entries (by decide +kernel)
  claims := .of_entries (by decide +kernel)
  contents := .of_entries (by decide +kernel)

/-- A call of the pass that takes the group down belongs to a run. -/
theorem reaches_parting {calls : Nat} {request : Call}
    (waiting : (parting calls).request? = some request) :
    ∃ next, (Conditions.crowded "driver").Reaches
      ⟨⟨closing, []⟩, some (group.reconcile "driver").run⟩
      ⟨(parting calls).toScene, some (.call request next)⟩ := by
  obtain ⟨next, same⟩ := Moment.eq_of_request? waiting
  exact ⟨next, same ▸ Moment.reaches_crowded _ (.outset ordered_closing)⟩

/-- A content of another group under the name of the group's content. -/
def usurper : Content where
  metadata := { name := some "group-content", «namespace» := some "space" }
  spec := { groupReference := some { uid := some "rival-uid" } }

/-- The cluster where somebody puts another group's content in the place of the content that the pass
has just taken the mark off. -/
def usurped : Store :=
  (((parting 9).store.delete Content "group-content" "space").2.create usurper).2

end Sample

/-- The pass that takes the group down deletes the content that it has taken the mark off. -/
theorem deletes_own_content : ∃ next after, Sample.closing.Ordered ∧
    (Conditions.crowded "driver").Reaches
      ⟨⟨Sample.closing, []⟩, some (Sample.group.reconcile "driver").run⟩
      ⟨(Sample.parting 9).toScene, some (.call (.deleteContent "group-content" "space") next)⟩ ∧
    (Conditions.crowded "driver").Answers (Sample.parting 9).toScene
      (.deleteContent "group-content" "space") (.ok ()) after ∧
    ∃ origin, origin? (Sample.parting 9).exchanges = some origin ∧
      Respects origin (Sample.parting 9).exchanges (Sample.parting 9).store
        ⟨.deleteContent "group-content" "space", .ok ()⟩ after.store := by
  -- The pass is played up to the deletion, and the store carries that out.
  have waiting : (Sample.parting 9).request? = some (.deleteContent "group-content" "space") := by
    decide +kernel
  have succeeds : ((Sample.parting 9).store.delete Content "group-content" "space").1.isOk = true := by
    decide +kernel
  obtain ⟨next, run⟩ := Sample.reaches_parting waiting
  obtain ⟨gone, deleted⟩ := exists_ok_of_isOk succeeds
  have answers : (Conditions.crowded "driver").Answers (Sample.parting 9).toScene
      (.deleteContent "group-content" "space") (.ok gone) ⟨_, _⟩ := ⟨rfl, .inl deleted.symm⟩
  rcases respects_owners "driver" Sample.ordered_closing run answers with ⟨none, _⟩ | respects
  · exact absurd none (by decide +kernel)
  · exact ⟨next, _, Sample.ordered_closing, run, answers, respects⟩

/-- A content of another group that is put in the place of the content whose mark a pass has taken off
is deleted by that pass. -/
theorem deletes_foreign_content : ∃ next after,
    (Conditions.crowded "driver").Reaches
      ⟨⟨Sample.closing, []⟩, some (Sample.group.reconcile "driver").run⟩
      ⟨⟨Sample.usurped, (Sample.parting 9).exchanges⟩,
        some (.call (.deleteContent "group-content" "space") next)⟩ ∧
    (Conditions.crowded "driver").Answers ⟨Sample.usurped, (Sample.parting 9).exchanges⟩
      (.deleteContent "group-content" "space") (.ok ()) after ∧
    (∃ origin ∈ origin? (Sample.parting 9).exchanges, origin.metadata.uid = some "uid") ∧
    (∃ stored ∈ Sample.usurped.find? (α := Content) "space/group-content",
      stored.ownerUid? = some "rival-uid") ∧
    after.store.find? (α := Content) "space/group-content" = none := by
  -- Up to the deletion nobody else has written.
  have waiting : (Sample.parting 9).request? = some (.deleteContent "group-content" "space") := by
    decide +kernel
  obtain ⟨next, run⟩ := Sample.reaches_parting waiting
  have ordered : (Sample.parting 9).store.Ordered :=
    ((Conditions.crowded_isVersioned "driver").reaches (.outset Sample.ordered_closing) run).ordered
  -- Others delete the content and make another one, as any writer may.
  have gone := ordered.advances_of_content (ordered.contents.renews_delete "group-content" "space")
    (Store.beside_contents.delete _ _ _)
  have usurps : (Sample.parting 9).store.Advances Sample.usurped :=
    gone.trans ((ordered.later gone).advances_of_content
      ((ordered.later gone).contents.renews_create Sample.usurper) (Store.beside_contents.create _ _))
  have succeeds : (Sample.usurped.delete Content "group-content" "space").1.isOk = true := by
    decide +kernel
  have removes : (Sample.usurped.delete Content "group-content" "space").2.find? (α := Content)
      "space/group-content" = none := by decide +kernel
  obtain ⟨_, deleted⟩ := exists_ok_of_isOk succeeds
  -- Nothing in the deletion says which version it is meant for, so the store carries it out.
  exact ⟨next, ⟨_, _⟩, run.tail (.wait usurps), ⟨rfl, .inl deleted.symm⟩, by decide +kernel,
    by decide +kernel, removes⟩

end VolumeGroups
