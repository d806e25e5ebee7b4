import VolumeGroups.Proofs.Records.Frame

/-! What a pass records of members is what the driver acknowledged in the same pass, and a pass in which
the driver refuses records nothing. -/

namespace VolumeGroups

/-- What a group records of its members, its content and its age is the same as before. -/
structure Group.SameRecord (stored written : Group) : Prop where
  members : written.members = stored.members
  contentName : written.status.bind GroupStatus.contentName =
    stored.status.bind GroupStatus.contentName
  creationTime : written.status.bind GroupStatus.creationTime =
    stored.status.bind GroupStatus.creationTime

/-- The group is recorded as ready. -/
def Group.isReady (group : Group) : Prop := group.status.bind GroupStatus.ready = some true

/-- Telling a failure changes nothing that a group records, and makes no group ready. -/
theorem Group.Reports.sameRecord {held : Group} {status : GroupStatus}
    (reports : held.Reports status) :
    held.SameRecord { held with status := some status } ∧
      (Group.isReady { held with status := some status } → held.isReady) := by
  obtain ⟨message, ready, rfl, unready⟩ := reports
  -- A group without a state counts as one with an empty one.
  cases state : held.status with
  | none =>
    refine ⟨⟨by simp [Group.members, state, GroupStatus.failed], by simp [state, GroupStatus.failed],
      by simp [state, GroupStatus.failed]⟩, ?_⟩
    simp [Group.isReady, state, GroupStatus.failed, unready]
  -- With a state, the failure replaces the error and perhaps the readiness, and nothing else.
  | some previous =>
    refine ⟨⟨by simp [Group.members, state, GroupStatus.failed], by simp [state, GroupStatus.failed],
      by simp [state, GroupStatus.failed]⟩, ?_⟩
    cases ready with
    | none => simp [Group.isReady, state, GroupStatus.failed]
    | some told =>
      have other : told = false := by simpa using unready
      simp [Group.isReady, state, GroupStatus.failed, other]

/-- A call records nothing of members, contents and ages, in the state of a group or of a content. -/
def RecordsNothing (store : Store) : Exchange → Store → Prop
  -- Writes of the group's state leave members, contents and ages as they were.
  | ⟨.replaceGroupStatus _, .ok group⟩, after => ∃ stored status,
    store.Overwrites stored { stored with status := some status } group after ∧
    stored.SameRecord { stored with status := some status }
  -- A content's state is not written at all.
  | ⟨.replaceContentStatus _, .ok _⟩, _ => False
  | ⟨.replaceGroup _, .ok group⟩, after => ∃ stored written,
    store.Overwrites stored written group after ∧ written.status = stored.status
  | ⟨.replaceContent _, .ok content⟩, after => ∃ stored written,
    store.Overwrites stored written content after ∧ written.status = stored.status
  | ⟨.createContent _, .ok content⟩, _ => content.status = none
  | _, _ => True

/-- What the driver has acknowledged before a call, in a pass that began with some group and has made
some calls. -/
def Acknowledges (origin : Group) (log : List Exchange) (store : Store) : Exchange → Store → Prop
  -- A content gets the volumes of a plan that the driver took, before the group gets its state.
  | ⟨.replaceContentStatus _, .ok content⟩, after => ∃ stored plan status,
    store.Overwrites stored { stored with status := some status } content after ∧
    Unstated log ∧ Acknowledged origin stored plan log ∧ stored.Readies plan status
  -- A group records such a plan, keeps its record, or forgets its members as it goes.
  | ⟨.replaceGroupStatus _, .ok group⟩, after => ∃ stored status,
    store.Overwrites stored { stored with status := some status } group after ∧
    (origin.Records status log ∨
      stored.SameRecord { stored with status := some status } ∧
        (Group.isReady { stored with status := some status } → stored.isReady) ∨
      origin.isTerminating = true ∧ Unrefused log ∧ stored.Forgets status)
  | exchange, after => RecordsNothing store exchange after

section Pass

variable {place : String} {met : Scene} (course : met.InCourse place) {origin : Group} {after : Store}
  (began : origin? met.exchanges = some origin) {request : Call} {answer : request.Answer}
  (permits : origin.Permits met.exchanges request) (serves : met.store.Serves request answer after)
include course began permits serves

/-- Whatever a call records, the driver acknowledged it before. -/
theorem Scene.InCourse.acknowledges :
    Acknowledges origin met.exchanges met.store ⟨request, answer⟩ after := by
  -- Five kinds of calls write something; each has to say what it was permitted for.
  cases request with
  | replaceContentStatus later =>
    cases answer with
    | error cause => trivial
    | ok content =>
      obtain ⟨stored, plan, status, acknowledged, readies, wrote⟩ :=
        course.overwrites_replaceContentStatus permits serves
      exact ⟨stored, plan, status, wrote, permits.1, acknowledged, readies⟩
  | replaceGroupStatus later =>
    cases answer with
    | error cause => trivial
    | ok group =>
      -- A state of the group is a report, a forgetting or a record, as the rules of upkeep say.
      obtain ⟨held, status, hand, rfl, told⟩ := permits
      obtain ⟨recalls, _⟩ := course.latest hand
      refine ⟨held, status, recalls.overwritesStatus serves rfl rfl, ?_⟩
      rcases told with reports | forgets | records
      · exact .inr (.inl reports.sameRecord)
      · exact .inr (.inr forgets)
      · exact .inl records
  | createContent record =>
    cases answer with
    | error cause => trivial
    | ok content =>
      -- A content is made without a state.
      obtain ⟨_, _, _, stateless, _⟩ := permits
      rcases Store.create_cases met.store record with ⟨_, refused⟩ | ⟨_, made⟩
      · cases (Prod.mk.inj (serves.trans refused)).1
      · rw [Except.ok.inj (Prod.mk.inj (serves.trans made)).1]
        exact stateless
  -- The group itself is written with its state as it was.
  | replaceGroup later =>
    cases answer with
    | error cause => trivial
    | ok group =>
      obtain ⟨stored, written, wrote, _, _, ⟨_, _, rfl⟩ | ⟨_, _, rfl⟩⟩ :=
        course.edits_replaceGroup began permits serves
      · exact ⟨stored, _, wrote, rfl⟩
      · exact ⟨stored, _, wrote, rfl⟩
  -- A content that loses its mark keeps its state.
  | replaceContent later =>
    cases answer with
    | error cause => trivial
    | ok content =>
      obtain ⟨stored, _, wrote, _⟩ := course.edits_replaceContent permits serves
      exact ⟨stored, _, wrote, rfl⟩
  | _ => trivial

/-- After a refusal of the driver nothing is recorded any more. -/
theorem Scene.InCourse.recordsNothing {refusal : Exchange} (known : refusal ∈ met.exchanges)
    (refused : refusal.IsRefusal) : RecordsNothing met.store ⟨request, answer⟩ after := by
  -- What is recorded was acknowledged, and an acknowledgement tells of no refusal.
  have acknowledges := course.acknowledges began permits serves
  cases request with
  -- A content's state is recorded only if nothing was refused.
  | replaceContentStatus later =>
    cases answer with
    | error cause => trivial
    | ok content =>
      obtain ⟨_, _, _, _, _, acknowledged, _⟩ := acknowledges
      exact acknowledged.unrefused refusal known refused
  | replaceGroupStatus later =>
    cases answer with
    | error cause => trivial
    | ok group =>
      -- To record a plan and to forget the members both take a driver that has refused nothing.
      obtain ⟨stored, status, wrote, records | same | ⟨_, unrefused, _⟩⟩ := acknowledges
      · obtain ⟨_, _, _, acknowledged, _⟩ := records
        exact absurd refused (acknowledged.unrefused refusal known)
      · exact ⟨stored, status, wrote, same.1⟩
      · exact absurd refused (unrefused refusal known)
  | _ => exact acknowledges

end Pass

/-- What the driver refuses writes no state. -/
theorem Exchange.IsRefusal.stateless {exchange : Exchange} (refused : exchange.IsRefusal) :
    ¬ exchange.request.States := by
  obtain ⟨request, answer⟩ := exchange
  cases request <;> first | exact refused.elim | exact id

/-- The driver is told something only while no state has been written. -/
theorem Upkeep.unstated {place : String} {log : List Exchange} {exchange : Exchange}
    -- Each of the three calls to the driver is permitted only before any state is written.
    (allowed : Upkeep place log exchange.request) (refused : exchange.IsRefusal) : Unstated log := by
  obtain ⟨request, answer⟩ := exchange
  cases request with
  | createDriverGroup name secrets parameters =>
    obtain ⟨_, _, unstated⟩ := Upkeep.permits allowed (by simp)
    exact unstated
  | modifyMembership handle ids secrets =>
    obtain ⟨_, _, unstated, _⟩ := Upkeep.permits allowed (by simp)
    exact unstated
  | deleteDriverGroup handle secrets =>
    obtain ⟨_, _, unstated, _⟩ := Upkeep.permits allowed (by simp)
    exact unstated
  | _ => exact refused.elim

/-- Only a write of a state records anything. -/
theorem Acknowledges.recordsNothing {origin : Group} {log : List Exchange} {store after : Store}
    {exchange : Exchange} (acknowledges : Acknowledges origin log store exchange after)
    (stateless : ¬ exchange.request.States) : RecordsNothing store exchange after := by
  obtain ⟨request, answer⟩ := exchange
  cases request with
  | replaceGroupStatus | replaceContentStatus => exact (stateless trivial).elim
  | _ => exact acknowledges

/-- A call that fails records nothing, and needs no acknowledgement. -/
theorem Acknowledges.of_failure {origin : Group} {log : List Exchange} {store after : Store}
    {exchange : Exchange} (failed : exchange.failure?.isSome) :
    Acknowledges origin log store exchange after ∧ RecordsNothing store exchange after := by
  obtain ⟨request, answer⟩ := exchange
  -- Only a call that succeeded has anything to record.
  cases request with
  | replaceGroupStatus | replaceContentStatus | replaceGroup | replaceContent | createContent =>
    cases answer with
    | error cause => exact ⟨trivial, trivial⟩
    | ok value => cases failed
  | _ => exact ⟨trivial, trivial⟩

/-- Whatever others write between the calls of a pass and whichever calls fail, the pass records the
volumes of a plan in its content, and the claims of a plan in its group, only after the driver took
those volumes into the group that the content records, or made a group while the plan is empty; both
come from one plan, and the group is given the time of the content. Anything else that it writes to the
state of its group leaves members, content and time as they are and makes no group ready, except that
a terminating group forgets its members. If the driver refuses anything in the pass, be it before or
after, then nothing is recorded at all. -/
theorem acknowledged_before_recorded (driver : String) {seen : Group} {start : Store}
    {now after : Scene} {request : Call} {answer : request.Answer}
    {next : request.Answer → Program (Except PassError Action)} {last : Moment}
    (ordered : start.Ordered)
    (run : (Conditions.crowded driver).Reaches ⟨⟨start, []⟩, some (seen.reconcile driver).run⟩
      ⟨now, some (.call request next)⟩)
    (answers : (Conditions.crowded driver).Answers now request answer after)
    (rest : (Conditions.crowded driver).Reaches ⟨after, some (next answer)⟩ last) :
    (now.exchanges = [] ∧ after.store = now.store ∨
      ∃ origin, origin? now.exchanges = some origin ∧
        Acknowledges origin now.exchanges now.store ⟨request, answer⟩ after.store) ∧
      ((∃ exchange ∈ last.exchanges, exchange.IsRefusal) →
        RecordsNothing now.store ⟨request, answer⟩ after.store) := by
  -- The pass is in its course at the call and at the end, as it is at every moment.
  have versioned := Conditions.crowded_isVersioned driver
  obtain ⟨course, allows⟩ := versioned.inCourse ordered run
  obtain ⟨later, _⟩ := versioned.inCourse ordered ((run.tail (.call answers)).trans rest)
  -- The first call only reads; any other fails without effect or is carried out as permitted.
  rcases versioned.turn (allows request next rfl) answers with
    ⟨none, ⟨name, space, rfl⟩, same⟩ | ⟨origin, began, permits, ⟨failed, _⟩ | ⟨_, serves⟩⟩
  · exact ⟨.inl ⟨none, same⟩, fun _ => trivial⟩
  · obtain ⟨acknowledges, silent⟩ := Acknowledges.of_failure failed
    exact ⟨.inr ⟨origin, began, acknowledges⟩, fun _ => silent⟩
  · have acknowledges := course.acknowledges began permits serves
    refine ⟨.inr ⟨origin, began, acknowledges⟩, ?_⟩
    rintro ⟨refusal, known, refused⟩
    obtain ⟨made, log⟩ := rest.extends
    replace log : last.exchanges = made ++ ⟨request, answer⟩ :: now.exchanges :=
      log.trans (congrArg _ answers.1)
    -- The driver refused before the call, or after it and so before any state was written.
    rw [log] at known
    rcases List.mem_append.mp known with following | known
    · obtain ⟨front, back, rfl⟩ := List.append_of_mem following
      have kept := later.kept
      rw [log, List.append_assoc, List.cons_append] at kept
      have unstated := Upkeep.unstated kept.allows refused
      exact acknowledges.recordsNothing (unstated _ (List.mem_append_right _ (List.mem_cons_self ..)))
    · rcases List.mem_cons.mp known with rfl | before
      · exact acknowledges.recordsNothing refused.stateless
      · exact course.recordsNothing began permits serves before refused

namespace Sample

/-- The group as the pass over it records the claim. -/
def recorded : Group where
  metadata :=
    { group.metadata with
      resourceVersion := some "9", finalizers := some [groupFinalizer] }
  spec := { group.spec with source := { contentName := some "group-content" } }
  status := some
    { contentName := some "group-content", creationTime := some Store.now, ready := some true,
      claimNames := ["claim"] }

end Sample

/-- A pass records the claim that it counted, which the driver has taken. -/
theorem records_counted_claim : ∃ next stored after last, Sample.stocked.Ordered ∧
    (Conditions.crowded "driver").Reaches
      ⟨⟨Sample.stocked, []⟩, some (Sample.group.reconcile "driver").run⟩
      ⟨(Sample.crowded 9).toScene, some (.call (.replaceGroupStatus Sample.recorded) next)⟩ ∧
    (Conditions.crowded "driver").Answers (Sample.crowded 9).toScene
      (.replaceGroupStatus Sample.recorded) (.ok stored) after ∧
    (Conditions.crowded "driver").Reaches ⟨after, some (next (.ok stored))⟩ last ∧
    (∃ origin, origin? (Sample.crowded 9).exchanges = some origin ∧
      Acknowledges origin (Sample.crowded 9).exchanges (Sample.crowded 9).store
        ⟨.replaceGroupStatus Sample.recorded, .ok stored⟩ after.store) ∧
    ((∃ exchange ∈ last.exchanges, exchange.IsRefusal) →
      RecordsNothing (Sample.crowded 9).store
        ⟨.replaceGroupStatus Sample.recorded, .ok stored⟩ after.store) := by
  -- After nine calls the pass is about to write its state, and the write succeeds.
  have waiting : (Sample.crowded 9).request? = some (.replaceGroupStatus Sample.recorded) := by
    decide +kernel
  have succeeds : ((Sample.crowded 9).store.replaceStatus Sample.recorded).1.isOk = true := by
    decide +kernel
  obtain ⟨next, run⟩ := Sample.reaches_crowded waiting
  obtain ⟨stored, replaced⟩ := exists_ok_of_isOk succeeds
  have answers : (Conditions.crowded "driver").Answers (Sample.crowded 9).toScene
      (.replaceGroupStatus Sample.recorded) (.ok stored) ⟨_, _⟩ := ⟨rfl, .inl replaced.symm⟩
  -- The group was read before that, so the first way out is closed.
  obtain ⟨⟨none, _⟩ | acknowledges, silent⟩ :=
    acknowledged_before_recorded "driver" Sample.ordered_stocked run answers .refl
  · exact absurd none (by decide +kernel)
  · exact ⟨next, stored, _, _, Sample.ordered_stocked, run, answers, .refl, acknowledges, silent⟩

end VolumeGroups
