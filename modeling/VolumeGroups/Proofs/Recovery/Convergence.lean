import VolumeGroups.Proofs.Operator.Rehearsed
import VolumeGroups.Proofs.Solo.Resuming

/-! A live group whose passes were cut short comes to be what it would have been without that. -/

namespace VolumeGroups

/-- The driver answers every request for a group of one name with the same group. -/
def Gives (make : String → CreatedGroup) (log : List Exchange) : Prop :=
  ∀ {name : String} {secrets parameters : KeyMap String} {created : CreatedGroup},
    (Exchange.mk (.createDriverGroup name secrets parameters) (.ok created)) ∈ log →
      created = make name

/-- The state of a group without the time that it tells. -/
def GroupStatus.timeless (status : GroupStatus) : GroupStatus := { status with creationTime := none }

/-- The state of a content without the time that it tells. -/
def ContentStatus.timeless (status : ContentStatus) : ContentStatus :=
  { status with creationTime := none }

/-- What a content records, without the version that its group had. -/
def ContentSpec.versionless (spec : ContentSpec) : ContentSpec :=
  { spec with groupReference := spec.groupReference.map fun reference =>
      { reference with resourceVersion := none } }

namespace Store

/-- A live group of a store can be brought in line with its claims: it has an identity, a selector and a
class that make sense, its content is absent or its own, and the claims that it has to look at are bound
to volumes of a driver. -/
structure MaySync (driver : String) (group : Group) (start : Store) : Prop where
  -- The objects of the store lie where their names say.
  tidy : start.Tidy
  found : start.find? (Resource.key group) = some group
  inSpace : ∃ space, group.metadata.namespace = some space ∧ start.Backs space
  live : group.isTerminating = false
  -- Without these three a pass ends in a mistake that no other pass heals.
  identified : group.metadata.uid.isSome
  sensible : group.IsSensible
  equips : start.Equips driver group
  owns : start.OwnsContent group
  -- The content, if there is one, can be found and told to the driver.
  shelved : ∀ content : Content, start.find? group.contentKey = some content →
    content.IsShelved group.contentName ∧ content.handle?.isSome
  -- A claim that is listed but not bound would not count as a member.
  bound : ∀ {key : String} {claim : Claim}, start.find? key = some claim →
    group.lists claim = true → claim.volumeName?.isSome = true

/-- What a group has to do can be told from the store. -/
theorem MaySync.exists_venture {driver : String} {group : Group} {start : Store}
    (may : start.MaySync driver group) :
    ∃ venture : Venture driver, venture.start = start ∧ venture.group = group := by
  -- The store has all that a plan needs, so there is one.
  obtain ⟨space, inSpace, backs⟩ := may.inSpace
  obtain ⟨groupClass, parameters, secrets, provides⟩ := may.equips
  obtain ⟨plan, planned⟩ : ∃ plan, start.learns (group.plan (start.list space)) = .ok plan :=
    backs.exists_plan inSpace may.sensible
  exact ⟨⟨start, group, space, groupClass, parameters, secrets, plan,
    ⟨may.tidy, may.found, inSpace, planned⟩, provides, may.live,
    fun content found => (may.shelved content found).1⟩, rfl, rfl⟩

end Store

namespace Venture

variable {driver : String} {venture : Venture driver}

/-- The group is on its way after some passes, in which the driver got no call that another pass would
make in another way. -/
def Tracks (venture : Venture driver) (scene : Scene) : Prop :=
  (∃ own, venture.Underway scene.store scene.exchanges own) ∧
    ∀ exchange ∈ driven scene.exchanges, venture.Calls exchange

/-- However a pass ends, the group is on its way. -/
theorem Concludes.tracks {conditions : Conditions} {before after : Scene}
    {result : Except PassError Action} (concludes : venture.Concludes conditions before result after)
    (tracks : ∀ exchange ∈ driven before.exchanges, venture.Calls exchange) :
    venture.Tracks after := by
  -- The calls to the driver are those before and those of this pass.
  have along {calls : List Exchange} {told : List Event}
      (goes : GrowsByCalls calls told before.exchanges after.exchanges)
      (proper : ∀ exchange ∈ calls, venture.Calls exchange) :
      ∀ exchange ∈ driven after.exchanges, venture.Calls exchange := by
    intro exchange known
    rw [goes.driven] at known
    exact (List.mem_append.mp known).elim (proper exchange) (tracks exchange)
  -- A pass that carried the plan out is still on its way: it may be made again.
  rcases concludes with ⟨_, own, _, _, _, _, concluded⟩ | ⟨_, _, fails⟩
  · exact ⟨⟨own, concluded.inLine.toUnderway⟩, along concluded.goes concluded.proper⟩
  · obtain ⟨calls, told, goes, proper⟩ := fails.calls
    exact ⟨fails.underway, along goes proper⟩

section Same

variable {make : String → CreatedGroup} {one other : Store} {log more : List Exchange}
  {own its : Group} {content counterpart : Content} {handle grip : String} {time hour : Time}
  (first : venture.InLine one log own content handle time)
  (second : venture.InLine other more its counterpart grip hour)
include first second

/-- Two stores in which the group is in line have the same content, up to versions, if the driver made
the same group for it. -/
theorem InLine.spec_eq (gives : Gives make log) (gaveOther : Gives make more)
    (calls : ∀ exchange ∈ driven log, venture.Calls exchange)
    (otherCalls : ∀ exchange ∈ driven more, venture.Calls exchange) :
    content.spec.versionless = counterpart.spec.versionless := by
  -- What the driver was asked for is the group under its one name.
  have made {log : List Exchange} {created : CreatedGroup} {name : String}
      (gives : Gives make log) (calls : ∀ exchange ∈ driven log, venture.Calls exchange)
      (named : venture.group.driverName = .ok name) (obtains : Obtains log created) :
      created = make name := by
    obtain ⟨goes, secrets, parameters, known⟩ := obtains
    have proper := calls _ (List.mem_filter.mpr ⟨known, rfl⟩)
    rw [Except.ok.inj (named.symm.trans proper.1)]
    exact gives known
  -- A content that was there at the start was kept; otherwise each pass made one of what the driver
  -- returned.
  cases before : venture.start.find? (α := Content) venture.group.contentKey with
  | some origin =>
    obtain ⟨_, there, keeps⟩ := first.kept origin before
    obtain ⟨_, thereOther, keepsOther⟩ := second.kept origin before
    obtain rfl := Option.some.inj (first.there.symm.trans there)
    obtain rfl := Option.some.inj (second.there.symm.trans thereOther)
    rw [keeps.spec, keepsOther.spec]
  | none =>
    -- Each store has a content that records what the driver made.
    have makes := first.made before content first.there
    obtain ⟨created, version, obtains, spec⟩ := makes.spec
    obtain ⟨createdOther, versionOther, obtainsOther, specOther⟩ :=
      (second.made before counterpart second.there).spec
    obtain ⟨uid, known⟩ := Option.isSome_iff_exists.mp makes.owned
    have named : venture.group.driverName = .ok (driverNameStem ++ "-" ++ uid) := by
      rw [Group.driverName, Group.uid, known]
      rfl
    rw [spec, specOther, made gives calls named obtains, made gaveOther otherCalls named obtainsOther]
    rfl

/-- Two stores in which the group is in line tell the same time of its content if that was recorded at
the start. -/
theorem InLine.time_eq {origin : Content}
    (before : venture.start.find? venture.group.contentKey = some origin)
    (recorded : (origin.status.bind ContentStatus.creationTime).isSome) : time = hour := by
  obtain ⟨known, same⟩ := Option.isSome_iff_exists.mp recorded
  -- No pass writes another time over one that is recorded.
  have told {store : Store} {log : List Exchange} {own : Group} {content : Content}
      {handle : String} {time : Time} (inLine : venture.InLine store log own content handle time) :
      time = known := by
    obtain ⟨_, there, keeps⟩ := inLine.kept origin before
    obtain rfl := Option.some.inj (inLine.there.symm.trans there)
    have later := keeps.time known same
    rw [inLine.record] at later
    exact Option.some.inj later
  exact (told first).trans (told second).symm

end Same

end Venture

/-- After two histories of a store a group is the same with the same content, up to versions and times,
and the driver has the same volumes for it. -/
structure Scene.Agrees (group : Group) (start : Store) (one other : Scene) : Prop where
  -- The group is the same in its marks, its specification and its state without times.
  same : ∃ own its : Group, one.store.find? (Resource.key group) = some own ∧
    other.store.find? (Resource.key group) = some its ∧
    own.metadata.finalizers = its.metadata.finalizers ∧ own.spec = its.spec ∧
    own.status.map GroupStatus.timeless = its.status.map GroupStatus.timeless ∧
    -- So is the content.
    ∃ content counterpart : Content, one.store.find? own.contentKey = some content ∧
      other.store.find? its.contentKey = some counterpart ∧
      content.spec.versionless = counterpart.spec.versionless ∧
      content.status.map ContentStatus.timeless = counterpart.status.map ContentStatus.timeless ∧
      -- A time that was recorded at the start is not read from the clock again.
      (∀ first : Content, start.find? group.contentKey = some first →
        (first.status.bind ContentStatus.creationTime).isSome →
          own.status = its.status ∧ content.status = counterpart.status) ∧
      -- The driver has the same volumes under the same handle.
      ∃ handle volumeIds, content.handle? = some handle ∧ counterpart.handle? = some handle ∧
        membersAt? handle one.exchanges = some volumeIds ∧
        membersAt? handle other.exchanges = some volumeIds
  -- Every request for the group was the same.
  requests : ∃ request, ∀ name secrets parameters answer,
    (Exchange.mk (.createDriverGroup name secrets parameters) answer) ∈
        one.exchanges ++ other.exchanges →
      Call.createDriverGroup name secrets parameters = request

namespace Store.MaySync

variable {driver : String} {venture : Venture driver} {make : String → CreatedGroup}

/-- Nothing but a failing call keeps a pass over the group from succeeding. -/
theorem ready (may : venture.start.MaySync driver venture.group) {log : List Exchange}
    (gives : Gives make log) (handles : ∀ name, (make name).handle.isEmpty = false) :
    venture.Ready log where
  identified := may.identified
  owns := may.owns
  handle content found := (may.shelved content found).2
  made := by
    -- The driver gives each group that it makes a handle.
    rintro created ⟨name, secrets, parameters, known⟩
    rw [gives known]
    exact handles name

/-- A pass that nothing disturbs brings a group in line that is on its way. -/
theorem concluded (may : venture.start.MaySync driver venture.group) {scene final : Scene}
    {seen : Group} {result : Except PassError Action} (tracks : venture.Tracks scene)
    (sights : venture.group.Sights seen)
    (plays : (seen.reconcile driver).run.Plays (.undisturbed driver) result final scene)
    (gives : Gives make final.exchanges) (handles : ∀ name, (make name).handle.isEmpty = false) :
    result = venture.plan.verdict ∧ (∀ exchange ∈ driven final.exchanges, venture.Calls exchange) ∧
      ∃ own content handle time,
        venture.InLine final.store final.exchanges own content handle time ∧
        membersAt? handle final.exchanges = some venture.plan.volumeIds := by
  obtain ⟨⟨own, underway⟩, calls⟩ := tracks
  -- The pass carries the plan out or names what was missing, and nothing is.
  have concludes := plays.goal (underway.ensures_reconcile (Conditions.undisturbed_solo driver)
    (fun found listed _ => may.bound found listed) sights)
  refine ⟨?_, (concludes.tracks calls).2, ?_⟩
  all_goals
    rcases concludes with ⟨rfl, own, content, handle, time, made, concluded⟩ | ⟨_, _, fails⟩
  · rfl
  · exact absurd (fails.blames (may.ready gives handles))
      (Conditions.undisturbed_not_letsCallsFail driver)
  · exact ⟨own, content, handle, time, concluded.inLine, concluded.membersAt⟩
  · exact absurd (fails.blames (may.ready gives handles))
      (Conditions.undisturbed_not_letsCallsFail driver)

end Store.MaySync

/-- However many passes over a live group were cut short by calls that failed, the first pass that is not
ends as a pass over the first store alone does, and leaves the same group with the same content and the
same volumes at the driver, which was asked for that group in the same way every time. -/
theorem agrees_after_interruptions {driver : String} {store : Store} {group seen again : Group}
    {interrupted final alone : Scene} {result plain : Except PassError Action}
    {make : String → CreatedGroup} (may : store.MaySync driver group)
    (passes : Relation.ReflTransGen ((Conditions.flaky driver).Passes group) ⟨store, []⟩ interrupted)
    (sights : group.Sights seen) (sightsAgain : group.Sights again)
    (plays : (seen.reconcile driver).run.Plays (.undisturbed driver) result final interrupted)
    (playsAlone : (again.reconcile driver).run.Plays (.undisturbed driver) plain alone ⟨store, []⟩)
    (gives : Gives make final.exchanges) (givesAlone : Gives make alone.exchanges)
    (handles : ∀ name, (make name).handle.isEmpty = false) :
    result = plain ∧ final.Agrees group store alone := by
  -- What the group has to do is fixed by the store at the start.
  obtain ⟨venture, rfl, rfl⟩ := may.exists_venture
  have start : venture.Tracks ⟨venture.start, []⟩ :=
    ⟨⟨_, venture.underway_start []⟩, by simp [driven]⟩
  -- Every interrupted pass leaves the group on its way.
  have tracks : venture.Tracks interrupted := by
    clear plays
    induction passes with
    | refl => exact start
    | tail _ pass ih =>
      obtain ⟨other, ended, sighted, played⟩ := pass
      obtain ⟨⟨own, underway⟩, calls⟩ := ih
      exact (played.goal (underway.ensures_reconcile (Conditions.flaky_solo driver)
        (fun found listed _ => may.bound found listed) sighted)).tracks calls
  obtain ⟨rfl, calls, own, content, handle, time, inLine, members⟩ :=
    may.concluded tracks sights plays gives handles
  -- The pass over the first store alone is a case of the same.
  obtain ⟨rfl, callsAlone, its, counterpart, grip, hour, inLineAlone, membersAlone⟩ :=
    may.concluded start sightsAgain playsAlone givesAlone handles
  -- Both stores are in line with one plan, the plan of the first store.
  have spec := inLine.spec_eq inLineAlone gives givesAlone calls callsAlone
  -- The handle is part of what the contents agree in.
  have same : handle = grip := by
    have source : content.spec.versionless.source = counterpart.spec.versionless.source := by
      rw [spec]
    replace source : content.spec.source = counterpart.spec.source := source
    have handled := inLine.handled
    rw [Content.handle?, source] at handled
    exact Option.some.inj (handled.symm.trans inLineAlone.handled)
  -- The parts are taken from the two stores one by one.
  refine ⟨rfl, ⟨own, its, inLine.found, inLineAlone.found, inLine.marks.trans inLineAlone.marks.symm,
    inLine.source.trans inLineAlone.source.symm, ?_, content, counterpart, ?_, ?_, spec, ?_, ?_,
    handle, venture.plan.volumeIds, inLine.handled, same ▸ inLineAlone.handled, members,
    same ▸ membersAlone⟩, ?_⟩
  · rw [inLine.state, inLineAlone.state]
    rfl
  · rw [inLine.contentKey]
    exact inLine.there
  · rw [inLineAlone.contentKey]
    exact inLineAlone.there
  · rw [inLine.record, inLineAlone.record]
    rfl
  · -- A time that was there at the start was kept in both.
    intro first before recorded
    obtain rfl := inLine.time_eq inLineAlone before recorded
    exact ⟨inLine.state.trans inLineAlone.state.symm, inLine.record.trans inLineAlone.record.symm⟩
  · -- Both histories asked for the group under its one name.
    obtain ⟨uid, known⟩ := Option.isSome_iff_exists.mp may.identified
    have named : venture.group.driverName = .ok (driverNameStem ++ "-" ++ uid) := by
      rw [Group.driverName, Group.uid, known]
      rfl
    refine ⟨.createDriverGroup (driverNameStem ++ "-" ++ uid) venture.secrets
      venture.parameters.driver, ?_⟩
    intro name secrets parameters answer asked
    have proper : venture.Calls ⟨.createDriverGroup name secrets parameters, answer⟩ :=
      (List.mem_append.mp asked).elim (fun known => calls _ (List.mem_filter.mpr ⟨known, rfl⟩))
        fun known => callsAlone _ (List.mem_filter.mpr ⟨known, rfl⟩)
    obtain ⟨goes, rfl, rfl⟩ := proper
    rw [Except.ok.inj (goes.symm.trans named)]

/-- A call gets no other group than the one of its name. -/
def Exchange.keepsTo (make : String → CreatedGroup) (exchange : Exchange) : Bool :=
  match exchange with
  | ⟨.createDriverGroup name .., .ok created⟩ => created == make name
  | _ => true

/-- What the driver gives is told by the calls that have an effect. -/
theorem Gives.of_effects {make : String → CreatedGroup} {log : List Exchange}
    (keeps : ∀ exchange ∈ Rehearsal.effects log, exchange.keepsTo make = true) : Gives make log := by
  intro name secrets parameters created known
  have kept := keeps _ (List.mem_filter.mpr ⟨known, rfl⟩)
  exact eq_of_beq kept

namespace Sample

/-- The group that waits for its first pass. -/
def waiting : Group := (stocked.find? "space/group").getD group

/-- The cluster refuses once to record the content. -/
def refusedRecord : Disturbance Edit where
  method := .createContent
  fault := some (.conflict)

/-- A pass over the group in which the driver makes the group and nothing records it. -/
def unrecorded : Rehearsal :=
  Rehearsal.pass { store := stocked, disturbances := [refusedRecord] } "driver" group

/-- The groups that the rehearsed driver makes. -/
def made (name : String) : CreatedGroup := { handle := "handle-" ++ name }

/-- The group that waits can be brought in line with its claim. -/
theorem maySync_stocked : stocked.MaySync "driver" waiting where
  -- The tables are small enough to be checked entry by entry.
  tidy := .of_entries (by decide +kernel) (by decide +kernel) (by decide +kernel)
  found := by decide +kernel
  inSpace := by
    refine ⟨"space", by decide +kernel, ?_⟩
    -- The volumes of all bound claims are served.
    have backed : ∀ entry ∈ stocked.claims.entries, ∀ name ∈ entry.2.volumeName?,
        ∃ volume ∈ (stocked.get name "" : Except ClusterError Volume).toOption,
          volume.handle?.isSome = true := by
      decide +kernel
    intro key name claim found _ bound
    obtain ⟨volume, known, served⟩ := backed _ (Table.mem_of_get? found) name bound
    exact ⟨volume, ok_of_mem_toOption known, served⟩
  live := by decide +kernel
  identified := by decide +kernel
  sensible := ⟨_, rfl⟩
  equips := Sample.equips (by decide +kernel) (by decide +kernel)
  owns := by
    -- There is no content yet, so the conditions on it are empty.
    have absent : stocked.find? waiting.contentKey = (none : Option Content) := by decide +kernel
    intro content found
    simp [absent] at found
  shelved := by
    have absent : stocked.find? waiting.contentKey = (none : Option Content) := by decide +kernel
    intro content found
    simp [absent] at found
  bound := by
    have bound : ∀ entry ∈ stocked.claims.entries, waiting.lists entry.2 = true →
        entry.2.volumeName?.isSome = true := by
      decide +kernel
    intro key claim found
    exact bound _ (Table.mem_of_get? found)

/-- The refusal to record the content is an honest failure. -/
theorem fits_refusedRecord : Rehearsal.Fits (.flaky "driver") [refusedRecord] := by
  intro disturbance known
  -- There is one disturbance in the list.
  obtain rfl := List.mem_singleton.mp known
  refine ⟨rfl, ?_⟩
  rintro fault ⟨⟩ request answer failed
  refine Call.failsHonestly_of_failWith? failed fun kind name cause told => ?_
  cases told
  -- The refusal tells the truth about the call that it answers.
  exact ⟨rfl, rfl⟩

end Sample

/-- A group that the driver had made once before anybody recorded it comes to be what it is after one
pass alone, and the driver was asked for it in the same way both times. -/
theorem agrees_after_refusal : ∃ interrupted final alone : Scene,
    (Conditions.flaky "driver").Passes Sample.waiting ⟨Sample.stocked, []⟩ interrupted ∧
      interrupted.store.find? Sample.waiting.contentKey = (none : Option Content) ∧
      (Sample.group.reconcile "driver").run.Plays (.undisturbed "driver") (.ok .awaitChange) final
        interrupted ∧
      (Sample.group.reconcile "driver").run.Plays (.undisturbed "driver") (.ok .awaitChange) alone
        ⟨Sample.stocked, []⟩ ∧
      final.Agrees Sample.waiting Sample.stocked alone := by
  -- The operator's view of the group is an older one with the same name.
  have sights : Sample.waiting.Sights Sample.group := by
    constructor <;> decide +kernel
  -- In the first pass the store refuses to record the content.
  obtain ⟨log, first, told⟩ := Rehearsal.plays_pass (.flaky "driver")
    { store := Sample.stocked, disturbances := [Sample.refusedRecord] } Sample.group
    [] Sample.fits_refusedRecord rfl
  -- After that nothing disturbs any more.
  have healed : Sample.unrecorded.disturbances = [] := by decide +kernel
  obtain ⟨full, last, kept⟩ := Rehearsal.plays_pass (.undisturbed "driver") Sample.unrecorded
    Sample.group log (healed ▸ .nil _) told
  -- For comparison a pass is played over the first store alone.
  obtain ⟨only, lone, keptAlone⟩ := Rehearsal.plays_pass (.undisturbed "driver")
    { store := Sample.stocked } Sample.group [] (.nil _) rfl
  have pass : (Conditions.flaky "driver").Passes Sample.waiting ⟨Sample.stocked, []⟩
      ⟨Sample.unrecorded.store, log⟩ := ⟨_, _, sights, first⟩
  -- The driver makes the same group under the same name whenever it is asked.
  have gives : Gives Sample.made full := Gives.of_effects (kept ▸ by decide +kernel)
  have givesAlone : Gives Sample.made only := Gives.of_effects (keptAlone ▸ by decide +kernel)
  have handles (name : String) : (Sample.made name).handle.isEmpty = false := by
    simp [Sample.made]
  -- The general theorem gives both conclusions.
  obtain ⟨same, agrees⟩ := agrees_after_interruptions Sample.maySync_stocked (.single pass) sights
    sights last lone gives givesAlone handles
  have succeeds : Rehearsal.verdict { store := Sample.stocked } "driver" Sample.group =
      .ok .awaitChange :=
    ok_of_mem_toOption (by decide +kernel)
  have missing : Sample.unrecorded.store.find? Sample.waiting.contentKey =
      (none : Option Content) := by
    decide +kernel
  exact ⟨_, _, _, pass, missing, (same.trans succeeds) ▸ last, succeeds ▸ lone, agrees⟩

end VolumeGroups
