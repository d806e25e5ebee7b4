import VolumeGroups.Proofs.Operator.Conduct
import VolumeGroups.Proofs.Operator.Yields
import VolumeGroups.Proofs.Provision.Handing

/-! The steps of a pass whose failure is told on its group, as the calls made so far show them. -/

namespace VolumeGroups

/-- What is told of a failure: the group that it is told on, in which step and with which error the pass
fails, and what becomes of the readiness of the group. -/
structure FailureReport where
  group : Group
  reason : Reason
  ready : Option Bool
  error : PassError

namespace FailureReport

/-- The state in which a group tells of a failure. -/
def status (report : FailureReport) : GroupStatus :=
  GroupStatus.failed report.group.status report.error.statusMessage report.ready

/-- The event that tells of a failure. -/
def event (report : FailureReport) : Event :=
  ⟨Resource.reference report.group, .warning, report.reason.name, report.error.statusMessage⟩

/-- The calls by which a failure is told, the latest first, whatever their answers are. -/
inductive ToldBy (report : FailureReport) : List Exchange → Prop where
  /-- The group has that state already. -/
  | stated (same : report.group.status = some report.status)
    (answer : Except ClusterError Unit) : report.ToldBy [⟨.record report.event, answer⟩]
  /-- The state is written first. -/
  | unstated (other : report.group.status ≠ some report.status)
    (written : Except ClusterError Group) (answer : Except ClusterError Unit) :
    report.ToldBy [⟨.record report.event, answer⟩,
      ⟨.replaceGroupStatus { report.group with status := some report.status }, written⟩]

end FailureReport

/-- An event that tells of a failure of a pass, and not only of a claim that is refused. -/
def Event.IsAlarm (event : Event) : Prop :=
  event.type = .warning ∧ event.reason ≠ Reason.membershipRejected.name

/-- A call that records an event of a failure. -/
def Call.IsAlarm : Call → Prop
  | .record event => event.IsAlarm
  | _ => False

instance (event : Event) : Decidable event.IsAlarm := inferInstanceAs (Decidable (_ ∧ _))

instance (request : Call) : Decidable request.IsAlarm :=
  match request with
  | .record event => inferInstanceAs (Decidable event.IsAlarm)
  | .getGroup .. | .listGroups _ | .replaceGroup _ | .replaceGroupStatus _ | .getClass _
  | .getContent .. | .createContent _ | .replaceContent _ | .replaceContentStatus _
  | .deleteContent .. | .getSecret .. | .listClaims _ | .replaceClaim _ | .getVolume _
  | .getStorageClass _ | .createDriverGroup .. | .deleteDriverGroup .. | .modifyMembership ..
  | .readClock => isFalse id

/-- What comes of looking up the content of a group, by the answer to the look. -/
def Group.identified (group : Group) :
    Except ClusterError Content → Except ContentError (Option Content)
  | .ok content => do
    let uid ← group.uid.mapError .object
    some <$> content.boundTo uid
  | .error cause => if cause.isNotFound then .ok none else .error (.cluster cause)

/-- After earlier calls a call gets an answer with which a step of the pass fails, and what is to be told
of that. -/
inductive FailingCall (driver : String) (earlier : List Exchange) : Exchange → FailureReport → Prop where
  /-- The group that is read names no class. -/
  | unclassed {name space : String} {group : Group} (nameless : group.className? = none) :
    FailingCall driver earlier ⟨.getGroup name space, .ok group⟩
      ⟨group, .classResolutionFailed, none, .missingClassName group.name⟩
  /-- The class cannot be read. -/
  | noClass {className : String} {group : Group} {cause : ClusterError}
    (held : latest? earlier = some group) :
    FailingCall driver earlier ⟨.getClass className, .error cause⟩
      ⟨group, .classResolutionFailed, none,
        if cause.isNotFound then .classNotFound className else .cluster cause⟩
  /-- The class is one of the driver's own, and its parameters make no sense. -/
  | parameters {className : String} {group : Group} {groupClass : GroupClass}
    {cause : ParameterError} (held : latest? earlier = some group)
    (served : groupClass.spec.driver = driver)
    (refused : ClassParameters.resolve groupClass.spec.parameters = .error cause) :
    FailingCall driver earlier ⟨.getClass className, .ok groupClass⟩
      ⟨group, .invalidParameters, none, .parameters (Resource.displayName groupClass) cause⟩
  /-- The secret of the class cannot be read, or holds no credentials. -/
  | secret {name space : String} {answer : Except ClusterError Secret} {group : Group}
    {cause : SecretError} (held : latest? earlier = some group)
    (refused : fetched name space answer = .error cause) :
    FailingCall driver earlier ⟨.getSecret name space, answer⟩
      ⟨group, .secretResolutionFailed, none, .secret cause⟩
  /-- The driver does not make a group. -/
  | create {name : String} {secrets parameters : KeyMap String} {group : Group}
    {cause : DriverError} (held : latest? earlier = some group) :
    FailingCall driver earlier ⟨.createDriverGroup name secrets parameters, .error cause⟩
      ⟨group, .createVolumeGroupFailed, some false, .driver cause⟩
  /-- The driver does not take the members of a group. -/
  | modify {handle : String} {volumeIds : List String} {secrets : KeyMap String} {group : Group}
    {cause : DriverError} (held : latest? earlier = some group) :
    FailingCall driver earlier ⟨.modifyMembership handle volumeIds secrets, .error cause⟩
      ⟨group, .modifyVolumeGroupFailed, some false, .driver cause⟩
  /-- The content of a terminating group cannot be read, or is not its own. -/
  | lookup {name space : String} {answer : Except ClusterError Content} {group : Group}
    {cause : ContentError} (began : origin? earlier = some group)
    (terminating : group.isTerminating = true) (refused : group.identified answer = .error cause) :
    FailingCall driver earlier ⟨.getContent name space, answer⟩
      ⟨group, .deleteVolumeGroupFailed, none, .content cause⟩
  /-- The driver does not delete a group that it knows. -/
  | delete {handle : String} {secrets : KeyMap String} {group : Group} {cause : DriverError}
    (held : latest? earlier = some group) (known : cause.isNotFound = false) :
    FailingCall driver earlier ⟨.deleteDriverGroup handle secrets, .error cause⟩
      ⟨group, .deleteVolumeGroupFailed, some false, .driver cause⟩

/-- The calls so far, the latest first, end with those of a step that fails, and what is to be told of
that. -/
inductive StepFails (driver : String) : List Exchange → FailureReport → Prop where
  /-- The step is a single call. -/
  | call {earlier : List Exchange} {exchange : Exchange} {report : FailureReport}
    (fails : FailingCall driver earlier exchange report) : StepFails driver (exchange :: earlier) report
  /-- The step is the plan of a live group, which is made from the groups of its namespace. -/
  | plan {space : String} {groups : List Group} {origin group : Group} {cause : MembershipError}
    {planning earlier : List Exchange} (began : origin? earlier = some origin)
    (live : origin.isTerminating = false) (held : latest? earlier = some group)
    (inSpace : group.metadata.namespace = some space)
    (fails : (group.plan groups).run.Yields planning (.error cause)) :
    StepFails driver (planning.reverse ++ ⟨.listGroups space, .ok groups⟩ :: earlier)
      ⟨group, .membershipResolutionFailed, none, .membership cause⟩

/-- A call with which a step may fail whose failure is told, where the group is terminating or live. -/
def Call.MayFail (terminating : Bool) : Call → Prop
  | .getGroup .. | .getClass _ | .getSecret .. | .createDriverGroup .. | .deleteDriverGroup ..
  | .modifyMembership .. => True
  | .getContent .. => terminating = true
  | .listClaims _ | .getVolume _ | .getStorageClass _ => terminating = false
  | _ => False

/-- A call that a plan is made with. -/
def Call.IsPlanning : Call → Prop
  | .listClaims _ | .getVolume _ | .getStorageClass _ => True
  | _ => False

/-- What a plan is made with brings no group. -/
theorem Call.IsPlanning.silent {exchange : Exchange} (planning : exchange.request.IsPlanning) :
    exchange.group? = none := by
  obtain ⟨request, answer⟩ := exchange
  cases request <;> first | exact planning.elim | rfl

/-- What a plan is made with tells of no failure. -/
theorem Call.IsPlanning.not_isAlarm {request : Call} (planning : request.IsPlanning) :
    ¬ request.IsAlarm := by
  cases request <;> first | exact planning.elim | exact id

/-- A plan is made with a count of the claims and with peeks at what they are bound to. -/
theorem Group.asks_planning (group : Group) (groups : List Group) :
    Attempt.Asks Call.IsPlanning (fun _ => True) (group.plan groups) := by
  -- Claims are listed first, and then each of them is looked at.
  unfold plan
  refine .bind (.within (.known (Attempt.gives_any _))) fun space _ => ?_
  refine .bind (.within (.only ⟨trivial, fun _ => trivial⟩)) fun claims _ => ?_
  refine (Attempt.asks_planFor group groups (sortedByName claims)).mono ?_ fun _ _ => trivial
  intro request peeks
  -- Whoever peeks plans.
  cases request <;> trivial

/-- Where the plan of a group in a namespace has come to its end, the latest call is one that it was made
with, as its claims have been counted at least. -/
theorem Group.exists_latest_of_plan {group : Group} {groups : List Group} {space : String}
    {planning : List Exchange} {result : Except MembershipError MembershipPlan}
    (inSpace : group.metadata.namespace = some space)
    (yields : (group.plan groups).run.Yields planning result) :
    ∃ latest rest, planning.reverse = latest :: rest ∧ latest.request.IsPlanning := by
  have made := yields.of_asks (group.asks_planning groups)
  -- With a namespace the listing of claims is the first call, so the log is not empty.
  rw [plan, Attempt.space_bind inSpace] at yields
  obtain ⟨answer, rest, rfl, -⟩ := yields
  obtain ⟨latest, others, reversed⟩ := List.exists_cons_of_ne_nil
    (List.reverse_ne_nil_iff.mpr (List.cons_ne_nil ⟨.listClaims space, answer⟩ rest))
  exact ⟨latest, others, reversed, made latest (by rw [← List.mem_reverse, reversed]; simp)⟩

/-- Two logs that go on with planning from a look at groups are the same only if both the planning and
what comes before it are. -/
theorem eq_of_planning {later more earlier before : List Exchange} {look other : Exchange}
    (planning : ∀ exchange ∈ later, exchange.request.IsPlanning)
    (further : ∀ exchange ∈ more, exchange.request.IsPlanning)
    (looks : ¬ look.request.IsPlanning) (watches : ¬ other.request.IsPlanning)
    (same : later ++ look :: earlier = more ++ other :: before) :
    later = more ∧ look = other ∧ earlier = before := by
  -- The look is the first entry of either log that is no planning.
  induction later generalizing more with
  | nil =>
    cases more with
    -- Then the plans have the same calls, and so has all that came before.
    | nil => exact ⟨rfl, List.cons.inj same⟩
    -- The second plan would have made the look at the groups.
    | cons first rest => exact absurd (further first (by simp)) ((List.cons.inj same).1 ▸ looks)
  | cons exchange rest ih =>
    cases more with
    | nil => exact absurd (planning exchange (by simp)) ((List.cons.inj same).1 ▸ watches)
    | cons first remaining =>
      obtain ⟨rfl, still⟩ := List.cons.inj same
      obtain ⟨rfl, looked, began⟩ := ih
        (fun known there => planning known (List.mem_cons_of_mem _ there))
        (fun known there => further known (List.mem_cons_of_mem _ there)) still
      -- The first calls agree, and the rest is the same by induction.
      exact ⟨rfl, looked, began⟩

variable {driver : String}

/-- No planning call is one with which a step fails by itself. -/
theorem FailingCall.not_isPlanning {earlier : List Exchange} {exchange : Exchange}
    {report : FailureReport} (fails : FailingCall driver earlier exchange report) :
    ¬ exchange.request.IsPlanning := by
  cases fails <;> exact id

/-- A step fails in one way only with a call. -/
theorem FailingCall.unique {earlier : List Exchange} {exchange : Exchange}
    {report other : FailureReport} (one : FailingCall driver earlier exchange report)
    (second : FailingCall driver earlier exchange other) : report = other := by
  -- The call tells the step, and the group is the one that the pass has in hand.
  cases one with
  | unclassed => cases second; rfl
  | noClass held | create held | modify held =>
    cases second with
    | _ again => cases held.symm.trans again; rfl
  | parameters held _ refused =>
    cases second with
    | parameters again _ wrong =>
      cases held.symm.trans again
      cases refused.symm.trans wrong
      rfl
  | secret held refused =>
    cases second with
    | secret again wrong =>
      cases held.symm.trans again
      cases refused.symm.trans wrong
      rfl
  | lookup began _ refused =>
    cases second with
    | lookup again _ wrong =>
      cases began.symm.trans again
      cases refused.symm.trans wrong
      rfl
  | delete held _ =>
    cases second with
    | delete again _ => cases held.symm.trans again; rfl

namespace StepFails

/-- A failing step has made a call. -/
theorem exists_cons {log : List Exchange} {report : FailureReport}
    (fails : StepFails driver log report) : ∃ exchange earlier, log = exchange :: earlier := by
  cases fails with
  | call => exact ⟨_, _, rfl⟩
  | @plan _ _ _ _ _ planning =>
    refine List.exists_cons_of_ne_nil ?_
    simp

/-- The calls of a step that fails with a plan begin with one that is no planning only if the step is a
single call. -/
theorem eq_call {exchange : Exchange} {earlier : List Exchange} {report : FailureReport}
    (fails : StepFails driver (exchange :: earlier) report)
    (other : ¬ exchange.request.IsPlanning) : FailingCall driver earlier exchange report := by
  -- The call is the last one of the step.
  generalize same : exchange :: earlier = log at fails
  cases fails with
  | call fails =>
    obtain ⟨rfl, rfl⟩ := List.cons.inj same
    exact fails
  -- A step that is a plan would end with a call of planning.
  | @plan space groups _ group _ planning before _ _ _ inSpace fails =>
    obtain ⟨latest, rest, reversed, made⟩ := Group.exists_latest_of_plan inSpace fails
    rw [reversed] at same
    obtain ⟨rfl, -⟩ := List.cons.inj same
    exact absurd made other

/-- A step of a plan fails only while the plan of a live group is made, and what has been made of it by then
ends with the failure. -/
theorem eq_plan {space : String} {groups : List Group} {group : Group}
    {planning earlier : List Exchange} {report : FailureReport} {log : List Exchange}
    (fails : StepFails driver log report)
    (same : log = planning ++ ⟨.listGroups space, .ok groups⟩ :: earlier)
    (made : ∀ exchange ∈ planning, exchange.request.IsPlanning) (busy : planning ≠ [])
    (held : latest? earlier = some group) : ∃ cause,
      (group.plan groups).run.Yields planning.reverse (.error cause) ∧
        report = ⟨group, .membershipResolutionFailed, none, .membership cause⟩ := by
  -- A step that is a single call would be a call of planning, which fails no such step.
  cases fails with
  | call fails =>
    obtain ⟨latest, rest, rfl⟩ := List.exists_cons_of_ne_nil busy
    obtain ⟨rfl, -⟩ := List.cons.inj same
    exact absurd (made _ (by simp)) fails.not_isPlanning
  | @plan _ listed _ own cause calls before _ _ again _ fails =>
    have calling := fails.of_asks (own.asks_planning listed)
    -- Both plans are made from the same groups, as the look at them is the same.
    obtain ⟨reversed, looked, rfl⟩ := eq_of_planning (by simpa using calling) made id id same
    cases looked
    obtain rfl := Option.some.inj (again.symm.trans held)
    refine ⟨cause, ?_, rfl⟩
    rw [← reversed, List.reverse_reverse]
    exact fails

/-- A step fails in one way only. -/
theorem unique {log : List Exchange} {report other : FailureReport}
    (one : StepFails driver log report) (second : StepFails driver log other) : report = other := by
  cases one with
  | @call earlier exchange _ fails =>
    exact fails.unique (second.eq_call fails.not_isPlanning)
  | @plan space groups _ group cause planning earlier _ _ held inSpace fails =>
    obtain ⟨latest, rest, reversed, -⟩ := Group.exists_latest_of_plan inSpace fails
    obtain ⟨again, yields, rfl⟩ := second.eq_plan rfl
      (by simpa using fails.of_asks (group.asks_planning groups)) (by simp [reversed]) held
    rw [List.reverse_reverse] at yields
    -- The same calls with the same answers lead to one failure of the plan only.
    rw [← List.append_nil planning] at yields
    cases (fails.unique yields).2
    rfl

/-- A step fails with a call that may fail, given whether the pass began with a terminating group. -/
theorem mayFail {exchange : Exchange} {earlier : List Exchange} {report : FailureReport}
    (fails : StepFails driver (exchange :: earlier) report) :
    exchange.request.MayFail ((origin? earlier).any Group.isTerminating) := by
  -- Either the step is the call, or the call is the last one of a plan.
  generalize same : exchange :: earlier = log at fails
  cases fails with
  | call fails =>
    obtain ⟨rfl, rfl⟩ := List.cons.inj same
    cases fails with
    -- Only the look-up of a content depends on how the pass began.
    | lookup began terminating => simp [Call.MayFail, began, terminating]
    | _ => trivial
  | @plan space groups origin group _ planning before began live _ inSpace fails =>
    obtain ⟨latest, rest, reversed, made⟩ := Group.exists_latest_of_plan inSpace fails
    -- What is made of the plan after the look at groups leaves the first call where it is.
    have still : origin? (rest ++ ⟨.listGroups space, .ok groups⟩ :: before) = some origin := by
      rw [List.append_cons, origin?_append _ (ne_nil_of_origin? began), began]
    rw [reversed, List.cons_append] at same
    obtain ⟨rfl, rfl⟩ := List.cons.inj same
    rw [still]
    obtain ⟨request, answer⟩ := exchange
    -- A plan is made of a live group only, so its calls are those that may fail there.
    cases request <;> first | exact made.elim | exact live

end StepFails

/-- No step has failed whose failure is told, and none was told. -/
structure Smooth (driver : String) (log : List Exchange) : Prop where
  unfailing : ∀ before, before <:+ log → ∀ report, ¬ StepFails driver before report
  unalarmed : ∀ exchange ∈ log, ¬ exchange.request.IsAlarm

namespace Smooth

/-- Before the first call nothing has failed. -/
theorem nil : Smooth driver [] where
  unfailing before short report fails := by
    obtain rfl := List.suffix_nil.mp short
    obtain ⟨_, _, same⟩ := fails.exists_cons
    cases same
  unalarmed := List.forall_mem_nil _

/-- All is still well after a call with which no step fails and that tells of no failure. -/
theorem cons {exchange : Exchange} {log : List Exchange} (smooth : Smooth driver log)
    (steady : ∀ report, ¬ StepFails driver (exchange :: log) report)
    (calm : ¬ exchange.request.IsAlarm) : Smooth driver (exchange :: log) where
  unfailing before short report := by
    -- A step ends with the new call, or it was over before.
    rcases List.suffix_cons_iff.mp short with rfl | short
    · exact steady report
    · exact smooth.unfailing before short report
  unalarmed := List.forall_mem_cons.mpr ⟨calm, smooth.unalarmed⟩

/-- All is still well after calls with which no step may fail and that tell of no failure. -/
theorem append {origin : Group} {later log : List Exchange} (smooth : Smooth driver log)
    (began : origin? log = some origin)
    (steady : ∀ exchange ∈ later, ¬ exchange.request.MayFail origin.isTerminating)
    (calm : ∀ exchange ∈ later, ¬ exchange.request.IsAlarm) : Smooth driver (later ++ log) := by
  -- The induction goes along the calls, and the pass began with the same group at each of them.
  induction later with
  | nil => exact smooth
  | cons exchange rest ih =>
    have still : origin? (rest ++ log) = some origin :=
      (origin?_append rest (ne_nil_of_origin? began)).trans began
    -- The new call comes after the others, which left all well.
    refine (ih (fun known there => steady known (by simp [there]))
      (fun known there => calm known (by simp [there]))).cons ?_ (calm exchange (by simp))
    intro report fails
    have may := fails.mayFail
    rw [still] at may
    exact steady exchange (by simp) may

end Smooth

/-- A step has failed, the failure was told, and nothing came after that. -/
inductive Reported (driver : String) : List Exchange → PassError → Prop where
  | intro {told earlier : List Exchange} {exchange : Exchange} {report : FailureReport}
    (smooth : Smooth driver earlier) (fails : StepFails driver (exchange :: earlier) report)
    (tells : report.ToldBy told) : Reported driver (told ++ exchange :: earlier) report.error

/-- What a failure is told by is nothing with which a step may fail. -/
theorem FailureReport.ToldBy.not_mayFail {report : FailureReport} {told : List Exchange}
    (tells : report.ToldBy told) (terminating : Bool) :
    ∀ exchange ∈ told, ¬ exchange.request.MayFail terminating := by
  cases tells with
  | stated => exact List.forall_mem_singleton.mpr id
  | unstated => exact List.forall_mem_cons.mpr ⟨id, List.forall_mem_singleton.mpr id⟩

/-- In a log that ends with what was told of a failing step, that step is the only one that fails. -/
theorem Reported.eq_of_stepFails {log before : List Exchange} {error : PassError}
    {other : FailureReport} (reported : Reported driver log error) (ran : before <:+ log)
    (fails : StepFails driver before other) :
    error = other.error ∧ ∃ told, log = told ++ before ∧ other.ToldBy told := by
  -- The step that fails ends before the telling began, or within it.
  obtain ⟨smooth, failed, tells⟩ := reported
  rename_i told earlier exchange report
  have whole : exchange :: earlier <:+ told ++ exchange :: earlier := List.suffix_append ..
  rcases List.suffix_or_suffix_of_suffix ran whole with short | ⟨front, rfl⟩
  · -- It ends no later than the step that was told.
    rcases List.suffix_cons_iff.mp short with rfl | short
    · obtain rfl := failed.unique fails
      exact ⟨rfl, told, rfl, tells⟩
    · exact absurd fails (smooth.unfailing before short other)
  · cases front with
    -- It ends exactly there.
    | nil =>
      obtain rfl := failed.unique fails
      exact ⟨rfl, told, rfl, tells⟩
    | cons latest rest =>
      -- What a failure is told by is nothing with which another step could fail.
      obtain ⟨later, same⟩ := ran
      rw [← List.append_assoc] at same
      have known : latest ∈ told := by
        rw [← List.append_cancel_right same]
        simp
      exact absurd fails.mayFail (tells.not_mayFail _ latest known)

/-- Where a log tells of a failure, a step has failed. -/
theorem Reported.exists_stepFails {log : List Exchange} {error : PassError}
    (reported : Reported driver log error) :
    ∃ before report, before <:+ log ∧ StepFails driver before report := by
  obtain ⟨_, failed, _⟩ := reported
  exact ⟨_, _, List.suffix_append .., failed⟩

end VolumeGroups
