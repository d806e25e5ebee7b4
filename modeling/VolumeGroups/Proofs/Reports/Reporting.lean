import VolumeGroups.Proofs.Reports.Failing

/-! Every stage of a pass tells each failure of its steps on the group, and goes no further then. -/

namespace VolumeGroups

/-- A failure is told by the calls that are due for it, and by no other. -/
theorem Group.logs_tell (group : Group) (reason : Reason) (ready : Option Bool) (error : PassError) :
    (group.tell reason ready error).Logs fun told _ =>
      (FailureReport.mk group reason ready error).ToldBy told := by
  unfold tell
  extract_lets status
  -- A state that the group has already is not written again.
  split
  · rename_i other
    exact fun written answer => .unstated other written answer
  · rename_i known
    exact fun answer => .stated (Decidable.of_not_not known) answer

/-- The class of a group is read by one call. -/
theorem Group.run_resolveClass {group : Group} {className : String}
    (classed : group.className? = some className) :
    group.resolveClass.run = .call (.getClass className) fun answer => .done <|
      answer.mapError fun cause =>
        if cause.isNotFound then PassError.classNotFound className else .cluster cause := by
  rw [resolveClass, classed]
  rfl

/-- The content of a group in a namespace is looked up by one call. -/
theorem Group.run_lookupContent {group : Group} {space : String}
    (inSpace : group.metadata.namespace = some space) :
    group.lookupContent.run = .call (.getContent group.contentName space) fun answer =>
      .done (group.identified answer) := by
  -- The look-up is a call, and the answer decides all the rest.
  rw [lookupContent, Attempt.space_bind inSpace]
  show Program.call (.getContent group.contentName space) _ = _
  refine congrArg _ (funext fun answer => ?_)
  cases answer with
  | ok content =>
    -- A content is the group's own if it names the group as its owner.
    unfold identified
    cases group.uid with
    | error cause => rfl
    | ok uid =>
      show ((some <$> Attempt.known (content.boundTo uid) :
        Attempt ContentError (Option Content))).run = .done (some <$> content.boundTo uid)
      cases content.boundTo uid <;> rfl
  -- A content that is missing is no failure.
  | error cause =>
    show (if cause.isNotFound then pure none else throw (.cluster cause) :
      Attempt ContentError (Option Content)).run =
        .done (if cause.isNotFound then .ok none else .error (.cluster cause))
    split <;> rfl

/-- What comes of asking the driver to delete a group, by its answer, where a group that it does not know
is as good as deleted. -/
def deletion : Except DriverError Unit → Except PassError Unit
  | .ok () => .ok ()
  | .error cause => if cause.isNotFound then .ok () else .error (.driver cause)

/-- A pass that began with a group has another form of it in hand, and all has gone well so far. -/
structure InProgress (driver : String) (origin held : Group) (log : List Exchange) : Prop where
  smooth : Smooth driver log
  began : origin? log = some origin
  held : latest? log = some held

variable {driver : String} {origin held : Group} {log : List Exchange}

/-- A pass is still in progress after a call that brings no group, with which no step fails and that tells
of no failure. -/
theorem InProgress.cons (progress : InProgress driver origin held log) {exchange : Exchange}
    (silent : exchange.group? = none) (steady : ∀ report, ¬ StepFails driver (exchange :: log) report)
    (calm : ¬ exchange.request.IsAlarm) : InProgress driver origin held (exchange :: log) where
  smooth := progress.smooth.cons steady calm
  began := (origin?_append [exchange] (ne_nil_of_origin? progress.began)).trans progress.began
  held := by rw [latest?, List.findSome?_cons, silent]; exact progress.held

/-- A call that belongs to no step of a pass over a terminating or a live group whose failure is told, and
that tells of no failure. -/
def Call.IsSteady (terminating : Bool) (request : Call) : Prop :=
  ¬ request.MayFail terminating ∧ ¬ request.IsAlarm

/-- A call that is steady in a pass over a live group and brings no group. -/
def Call.IsGroupless : Call → Prop
  | .getContent .. | .createContent _ | .replaceContentStatus _ | .replaceClaim _ | .readClock => True
  | .record event => ¬ event.IsAlarm
  | _ => False

/-- What is groupless is steady while the group is live. -/
theorem Call.IsGroupless.isSteady {request : Call} (groupless : request.IsGroupless) :
    request.IsSteady false := by
  cases request with
  | record => exact ⟨id, groupless⟩
  | getContent => exact ⟨Bool.false_ne_true, id⟩
  | createContent | replaceContentStatus | replaceClaim | readClock => exact ⟨id, id⟩
  | _ => exact groupless.elim

/-- What is groupless brings no group. -/
theorem Call.IsGroupless.silent {exchange : Exchange} (groupless : exchange.request.IsGroupless) :
    exchange.group? = none := by
  obtain ⟨request, answer⟩ := exchange
  cases request <;> first | exact groupless.elim | rfl

/-- An event of something that went well is steady. -/
theorem Call.RecordsSuccess.isSteady {request : Call} (success : request.RecordsSuccess)
    (terminating : Bool) : request.IsSteady terminating := by
  cases request with
  | record event => exact ⟨id, fun alarm => by cases success.1.symm.trans alarm.1⟩
  | _ => exact success.elim

namespace Attempt

variable {α β : Type}

/-- After earlier calls, an attempt succeeds as wished, or it fails while all has gone well, or a step of
it fails, and then that is told and the attempt ends. -/
def ReportsFailures (driver : String) (goal : α → List Exchange → Prop)
    (attempt : Attempt PassError α) (earlier : List Exchange) : Prop :=
  attempt.run.Logs fun later result => match result with
    | .ok value => goal value (later ++ earlier)
    | .error error => Smooth driver (later ++ earlier) ∨ Reported driver (later ++ earlier) error

namespace ReportsFailures

variable {goal : α → List Exchange → Prop} {final : β → List Exchange → Prop}

/-- Success ends an attempt at once. -/
theorem pure {value : α} (ended : goal value log) :
    ReportsFailures driver goal (Pure.pure value) log := ended

/-- A failure of no step is not told. -/
theorem throw {error : PassError} (smooth : Smooth driver log) :
    ReportsFailures driver goal (MonadExcept.throw error : Attempt PassError α) log := .inl smooth

/-- What is known without any call may fail without being told. -/
theorem known {ε : Type} {wider : ε → PassError} {result : Except ε α}
    (smooth : Smooth driver log) (ended : ∀ value, result = .ok value → goal value log) :
    ReportsFailures driver goal (within wider (.known result)) log := by
  cases result with
  | ok value => exact ended value rfl
  | error error => exact .inl smooth

/-- Attempts one after another report what both report, where a failure ends both. -/
theorem bind {attempt : Attempt PassError α} {next : α → Attempt PassError β}
    (first : ReportsFailures driver goal attempt log)
    (second : ∀ value later, goal value later → ReportsFailures driver final (next value) later) :
    ReportsFailures driver final (attempt >>= next) log := by
  -- The log of the second attempt lies on top of that of the first.
  refine Program.Logs.bind first ?_
  intro made result reached
  cases result with
  | error error => exact reached
  | ok value =>
    refine (second value _ reached).mono ?_
    intro later result ended
    simpa only [List.append_assoc] using ended

/-- An attempt that ends in one way ends in every more general way. -/
theorem imp {wider : α → List Exchange → Prop} {attempt : Attempt PassError α}
    (reports : ReportsFailures driver goal attempt log)
    (wide : ∀ value later, goal value later → wider value later) :
    ReportsFailures driver wider attempt log := by
  refine reports.mono ?_
  intro later result ended
  cases result with
  | ok value => exact wide value _ ended
  | error error => exact ended

/-- An attempt that makes steady calls only has no failure to tell. -/
theorem of_steady {gives : α → Prop} {attempt : Attempt PassError α} (smooth : Smooth driver log)
    (began : origin? log = some origin)
    (asks : Asks (Call.IsSteady origin.isTerminating) gives attempt) :
    ReportsFailures driver (fun _ later => Smooth driver later ∧ origin? later = some origin) attempt
      log := by
  -- Steady calls are neither failures to be told nor events that tell them.
  refine (Program.Asks.logs asks).mono ?_
  intro later result ended
  have still : Smooth driver (later ++ log) := smooth.append began
    (fun exchange known => (ended.1 exchange known).1)
    (fun exchange known => (ended.1 exchange known).2)
  cases result with
  | ok value => exact ⟨still, (origin?_append later (ne_nil_of_origin? began)).trans began⟩
  | error error => exact .inl still

/-- A pass over a live group is still in progress after an attempt that makes groupless calls only. -/
theorem of_groupless {gives : α → Prop} {attempt : Attempt PassError α}
    (progress : InProgress driver origin held log) (live : origin.isTerminating = false)
    (asks : Asks Call.IsGroupless gives attempt) :
    ReportsFailures driver (fun _ later => InProgress driver origin held later) attempt log := by
  refine (Program.Asks.logs asks).mono ?_
  intro later result ended
  have smooth : Smooth driver (later ++ log) := by
    -- Of a live group no groupless call may fail a step.
    refine progress.smooth.append progress.began ?_ ?_
    · intro exchange known
      exact live ▸ (ended.1 exchange known).isSteady.1
    · exact fun exchange known => (ended.1 exchange known).isSteady.2
  cases result with
  | error error => exact .inl smooth
  | ok value =>
    have goes : Extends Call.IsGroupless log (later ++ log) := ⟨later, rfl, ended.1⟩
    refine ⟨smooth, goes.origin? progress.began, ?_⟩
    -- Groupless calls leave the pass with the group that it has in hand.
    exact (goes.findSome? fun _ groupless => groupless.silent).trans progress.held

/-- The failure of a step is told, and nothing comes after that. -/
theorem tellingOn {attempt : Attempt PassError α} {group : Group} {reason : Reason}
    {ready : Option Bool} (logs : attempt.run.Logs fun later result => match result with
      | .ok value => goal value (later ++ log)
      | .error error => ∃ exchange earlier, later ++ log = exchange :: earlier ∧
        Smooth driver earlier ∧
          StepFails driver (exchange :: earlier) ⟨group, reason, ready, error⟩) :
    ReportsFailures driver goal (attempt.tellingOn group reason ready) log := by
  refine Program.Logs.bind logs ?_
  intro later result ended
  cases result with
  -- There is no failure to tell.
  | ok value => exact ended
  | error error =>
    -- The telling comes right after the step that failed, and the pass ends.
    refine Program.Logs.bind (group.logs_tell reason ready error) ?_
    intro told _ tells
    obtain ⟨exchange, earlier, same, smooth, fails⟩ := ended
    refine .inr ?_
    simp only [List.nil_append, List.append_assoc, same]
    exact .intro smooth fails tells

/-- A step that is a single call either succeeds as wished, or its failure is told. -/
theorem step {request : Call} {result : request.Answer → Except PassError α}
    {attempt : Attempt PassError α} {group : Group} {reason : Reason} {ready : Option Bool}
    (smooth : Smooth driver log)
    (asks : attempt.run = .call request fun answer => .done (result answer))
    (succeeds : ∀ answer value, result answer = .ok value → goal value (⟨request, answer⟩ :: log))
    (fails : ∀ answer error, result answer = .error error →
      FailingCall driver log ⟨request, answer⟩ ⟨group, reason, ready, error⟩) :
    ReportsFailures driver goal (attempt.tellingOn group reason ready) log := by
  -- The step is over with the answer.
  refine tellingOn ?_
  rw [asks]
  intro answer
  show match result answer with
    | .ok value => goal value (⟨request, answer⟩ :: log)
    | .error error => ∃ exchange earlier, ⟨request, answer⟩ :: log = exchange :: earlier ∧
      Smooth driver earlier ∧ StepFails driver (exchange :: earlier) ⟨group, reason, ready, error⟩
  cases ended : result answer with
  | ok value => exact succeeds answer value ended
  | error error => exact ⟨_, _, rfl, smooth, .call (fails answer error ended)⟩

/-- A single call whose failure is not told ends as its answers do. -/
theorem ask {request : Call} {result : request.Answer → Except PassError α}
    {attempt : Attempt PassError α}
    (asks : attempt.run = .call request fun answer => .done (result answer))
    (succeeds : ∀ answer value, result answer = .ok value → goal value (⟨request, answer⟩ :: log))
    (fails : ∀ answer error, result answer = .error error → Smooth driver (⟨request, answer⟩ :: log)) :
    ReportsFailures driver goal attempt log := by
  -- The call is the last one that is made.
  show Program.Logs _ attempt.run
  rw [asks]
  intro answer
  show match result answer with
    | .ok value => goal value (⟨request, answer⟩ :: log)
    | .error error => Smooth driver (⟨request, answer⟩ :: log) ∨
      Reported driver (⟨request, answer⟩ :: log) error
  cases ended : result answer with
  | ok value => exact succeeds answer value ended
  | error error => exact .inl (fails answer error ended)

end ReportsFailures

end Attempt

/-- On the way to the end of a plan all is well, unless the end is reached and the plan fails. -/
theorem Smooth.planning {space : String} {groups : List Group} {front later : List Exchange}
    {result : Except MembershipError MembershipPlan}
    (smooth : Smooth driver (⟨.listGroups space, .ok groups⟩ :: log))
    (hand : latest? log = some held) (yields : (held.plan groups).run.Yields later.reverse result)
    (short : front <:+ later) (fine : front = later → ∀ cause, result ≠ .error cause) :
    Smooth driver (front ++ ⟨.listGroups space, .ok groups⟩ :: log) := by
  have made : ∀ exchange ∈ front, exchange.request.IsPlanning := fun exchange known =>
    yields.of_asks (held.asks_planning groups) exchange (List.mem_reverse.mpr (short.mem known))
  refine ⟨?_, List.forall_mem_append.mpr ⟨?_, smooth.unalarmed⟩⟩
  · intro before ran report fails
    -- A step that fails either failed before the plan, or with what has been made of the plan by then.
    rcases List.suffix_or_suffix_of_suffix ran (List.suffix_append front _) with early | ⟨more, rfl⟩
    · exact smooth.unfailing before early report fails
    · by_cases idle : more = []
      · exact smooth.unfailing _ (idle ▸ List.suffix_rfl) report fails
      · have part : more <:+ front := ((List.suffix_append_inj_of_length_eq rfl).mp ran).1
        obtain ⟨cause, failed, -⟩ := fails.eq_plan rfl (fun known there => made known (part.mem there))
          idle hand
        -- The plan ends only once, so what has been made of it is all of it.
        obtain ⟨rest, rfl⟩ := part.trans short
        rw [List.reverse_append] at yields
        obtain ⟨done, same⟩ := failed.unique yields
        obtain rfl := List.reverse_eq_nil_iff.mp done
        exact fine (short.eq_of_length_le part.length_le) cause same.symm
  · exact fun exchange known => (made exchange known).not_isAlarm

namespace Attempt

/-- The plan of a live group, made after a look at the groups of its namespace, is reported if it
fails. -/
theorem reports_plan {space : String} {groups : List Group}
    (progress : InProgress driver origin held (⟨.listGroups space, .ok groups⟩ :: log))
    (began : origin? log = some origin) (live : origin.isTerminating = false)
    (inSpace : held.metadata.namespace = some space) :
    ReportsFailures driver (fun _ later => InProgress driver origin held later)
      (Attempt.tellingOn held .membershipResolutionFailed none <|
        .within .membership (held.plan groups)) (⟨.listGroups space, .ok groups⟩ :: log) := by
  have hand : latest? log = some held := progress.held
  -- The calls of the plan are all that is new in the log.
  refine .tellingOn (Program.Logs.bind (Program.logs_yields (held.plan groups).run) ?_)
  intro later result yields
  cases result with
  -- A plan that succeeds leaves the pass with the group in hand.
  | ok plan =>
    have made : ∀ exchange ∈ later, exchange.request.IsPlanning := by
      simpa using yields.of_asks (held.asks_planning groups)
    have goes : Extends Call.IsPlanning (⟨.listGroups space, .ok groups⟩ :: log)
        (later ++ ⟨.listGroups space, .ok groups⟩ :: log) := ⟨later, rfl, made⟩
    refine ⟨progress.smooth.planning hand yields List.suffix_rfl (by rintro - cause ⟨⟩),
      goes.origin? progress.began, ?_⟩
    exact (goes.findSome? fun exchange planning => planning.silent).trans progress.held
  -- A plan that fails is a failing step, whose last call is named.
  | error cause =>
    obtain ⟨latest, rest, reversed, -⟩ := Group.exists_latest_of_plan inSpace yields
    rw [List.reverse_reverse] at reversed
    subst reversed
    refine ⟨latest, rest ++ ⟨.listGroups space, .ok groups⟩ :: log, rfl,
      progress.smooth.planning hand yields (List.suffix_cons latest rest) fun same => ?_, ?_⟩
    · exact absurd same List.ne_cons_self
    · have fails : StepFails driver _ _ := .plan began live hand inSpace yields
      rwa [List.reverse_reverse] at fails

/-- A write of the group is not told of if it fails, and gives the pass the stored group. -/
theorem reports_replaceGroup (progress : InProgress driver origin held log) (later : Group) :
    ReportsFailures driver (fun own after => InProgress driver origin own after)
      (within .cluster (.of (.ask (.replaceGroup later)))) log := by
  -- The write fails no step, whatever its answer is.
  have smooth (answer : Except ClusterError Group) :
      Smooth driver (⟨.replaceGroup later, answer⟩ :: log) :=
    progress.smooth.cons (fun _ fails => fails.mayFail) id
  have asks : (within PassError.cluster (.of (.ask (.replaceGroup later)))).run =
      .call (.replaceGroup later) fun answer => .done (answer.mapError PassError.cluster) := rfl
  refine .ask asks ?_ fun answer _ _ => smooth answer
  intro answer own written
  cases answer with
  | error cause => cases written
  -- The pass goes on with the group as it is stored now.
  | ok stored =>
    cases written
    exact ⟨smooth (.ok own),
      (origin?_append [_] (ne_nil_of_origin? progress.began)).trans progress.began, rfl⟩

/-- The first stage of a live group reports a plan that fails. -/
theorem reports_prepare (progress : InProgress driver origin held log)
    (live : origin.isTerminating = false) :
    ReportsFailures driver (fun _ later => InProgress driver origin held later) held.prepare log := by
  -- Without a namespace there are no groups to look at.
  cases inSpace : held.metadata.namespace with
  | none =>
    unfold Group.prepare
    rw [Group.namespace, inSpace]
    exact .throw progress.smooth
  | some space =>
    rw [Group.prepare, space_bind inSpace]
    have looks (answer : Except ClusterError (List Group)) :
        InProgress driver origin held (⟨.listGroups space, answer⟩ :: log) :=
      progress.cons rfl (fun _ fails => fails.mayFail) id
    -- The plan is made from the groups that are seen now, so the log is kept as it is here.
    have sees : ReportsFailures driver
        (fun groups later => later = ⟨.listGroups space, .ok groups⟩ :: log)
        (within .cluster (.of (.ask (.listGroups space)))) log := by
      have asks : (within PassError.cluster (.of (.ask (.listGroups space)))).run =
          .call (.listGroups space) fun answer => .done (answer.mapError PassError.cluster) := rfl
      refine .ask asks ?_ fun answer _ _ => (looks answer).smooth
      intro answer groups seen
      cases answer <;> cases seen
      rfl
    refine .bind sees ?_
    rintro groups _ rfl
    -- The plan is the only step of the stage whose failure is told.
    refine .bind (reports_plan (looks (.ok groups)) progress.began live inSpace) ?_
    intro plan planned progress
    have notes (entry : Claim × Rejection) : Asks Call.IsGroupless (fun _ => True)
        (liftM (note (Resource.reference entry.1) .warning .membershipRejected entry.2.message) :
          Attempt PassError Unit) :=
      .lift ⟨fun alarm => alarm.2 rfl, fun _ => trivial⟩
    refine .bind (.of_groupless progress live (.forM fun entry _ => notes entry)) ?_
    intro _ noted progress
    refine .bind (.of_groupless progress live (.forM fun member _ =>
      .within (asks_protectClaim member.claim fun _ => trivial))) ?_
    exact fun _ marked progress => .pure progress

/-- A content is obtained, and it is reported if the driver makes no group for it. -/
theorem reports_obtainContent (progress : InProgress driver origin held log)
    (live : origin.isTerminating = false) (groupClass : GroupClass) (parameters : ClassParameters)
    (secrets : KeyMap String) :
    ReportsFailures driver (fun _ later => InProgress driver origin held later)
      (held.obtainContent groupClass parameters secrets) log := by
  unfold Group.obtainContent
  -- The look-up is silent, and so is all but the driver's call.
  refine .bind (.of_groupless progress live (.within
    (asks_lookupContent held fun _ _ => trivial))) ?_
  intro found looked progress
  cases found with
  | some content => exact .pure progress
  | none =>
    refine .bind (.known progress.smooth fun name _ => progress) ?_
    intro name looked progress
    have makes : ReportsFailures driver (fun _ later => InProgress driver origin held later)
        (Attempt.tellingOn held .createVolumeGroupFailed (some false) <|
          .within .driver (.of (.ask (.createDriverGroup name secrets parameters.driver))))
        looked := by
      have asks : (within PassError.driver (.of (.ask (.createDriverGroup name secrets
          parameters.driver)))).run = .call (.createDriverGroup name secrets parameters.driver)
            fun answer => .done (answer.mapError PassError.driver) := rfl
      -- The step is a single call.
      refine .step progress.smooth asks ?_ ?_
      · intro answer created made
        cases answer <;> cases made
        exact progress.cons rfl (fun _ fails => by cases fails.eq_call id) id
      · intro answer error failed
        cases answer <;> cases failed
        exact .create progress.held
    refine .bind makes ?_
    intro created made progress
    refine .bind (.known progress.smooth fun content _ => progress) ?_
    intro content made progress
    refine .bind (.of_groupless progress live
      (.within (asks_createContent content trivial fun _ _ => trivial))) ?_
    exact fun stored later progress => .pure progress

/-- The second stage of a live group reports what the driver refuses. -/
theorem reports_furnish (progress : InProgress driver origin held log)
    (live : origin.isTerminating = false) (groupClass : GroupClass) (parameters : ClassParameters)
    (secrets : KeyMap String) (plan : MembershipPlan) :
    ReportsFailures driver (fun furnished later => InProgress driver origin furnished.group later)
      (held.furnish groupClass parameters secrets plan) log := by
  unfold Group.furnish
  refine .bind (reports_obtainContent progress live groupClass parameters secrets) ?_
  rintro ⟨content, created⟩ obtained progress
  dsimp -zeta only
  -- Without a handle the stage fails, and nobody is told.
  extract_lets contentName
  cases content.handle? with
  | none => exact .throw progress.smooth
  | some handle =>
    have remembers : ReportsFailures driver (fun own later => InProgress driver origin own later)
        (held.rememberContent contentName) obtained := by
      unfold Group.rememberContent
      split
      · exact .pure progress
      · exact reports_replaceGroup progress _
    refine .bind remembers ?_
    intro own named progress
    extract_lets finish
    -- What follows the driver's call writes the state of the content only.
    have finishes {told : List Exchange} (progress : InProgress driver origin own told) :
        ReportsFailures driver (fun furnished later => InProgress driver origin furnished.group later)
          (finish ()) told := by
      refine .bind (.of_groupless progress live
        (.lift (asks_readyStatus content plan.volumeNames trivial))) ?_
      intro status read progress
      refine .bind (.of_groupless progress live (.within
        (asks_syncStatus content status trivial))) ?_
      exact fun stored written progress => .pure progress
    have modifies : ReportsFailures driver (fun _ later => InProgress driver origin own later)
        (Attempt.tellingOn own .modifyVolumeGroupFailed (some false) <|
          .within .driver (.of (.ask (.modifyMembership handle plan.volumeIds secrets)))) named := by
      have asks : (within PassError.driver (.of (.ask (.modifyMembership handle plan.volumeIds
          secrets)))).run = .call (.modifyMembership handle plan.volumeIds secrets)
            fun answer => .done (answer.mapError PassError.driver) := rfl
      -- The step is a single call.
      refine .step progress.smooth asks ?_ ?_
      · intro answer _ taken
        cases answer <;> cases taken
        exact progress.cons rfl (fun _ fails => by cases fails.eq_call id) id
      · intro answer error failed
        cases answer <;> cases failed
        exact .modify progress.held
    split
    · -- The driver is told of the members.
      exact .bind modifies fun _ told progress => finishes progress
    · -- There is nothing to tell the driver.
      exact finishes progress

/-- A pass over a live group reports the failures of its steps. -/
theorem reports_sync (progress : InProgress driver origin held log)
    (live : origin.isTerminating = false) (groupClass : GroupClass) (parameters : ClassParameters)
    (secrets : KeyMap String) :
    ReportsFailures driver (fun _ later => Smooth driver later)
      (held.sync groupClass parameters secrets) log := by
  rw [Group.sync_eq]
  refine .bind (reports_prepare progress live) ?_
  rintro ⟨groups, plan⟩ prepared progress
  refine .bind (reports_furnish progress live groupClass parameters secrets plan) ?_
  intro furnished done progress
  -- What is left are writes and events of what went well, and no step whose failure is told.
  refine .bind (.of_steady progress.smooth progress.began
    (asks_syncGroupStatus furnished.group (furnished.status plan) ⟨id, id⟩)) ?_
  rintro later stated ⟨smooth, began⟩
  refine .bind (.of_steady smooth began
    (asks_releaseClaims plan.departed (later.others groups) fun _ => ⟨id, id⟩)) ?_
  rintro _ released ⟨smooth, began⟩
  have announces := (recordsSuccess_announce furnished plan later).mono
    (fun _ success => success.isSteady origin.isTerminating) fun _ => id
  exact (ReportsFailures.of_steady smooth began announces).imp fun _ _ ended => ended.1

/-- The content of a terminating group is looked up, and it is reported if the content cannot be used. -/
theorem reports_lookupContent (progress : InProgress driver origin origin log)
    (terminating : origin.isTerminating = true) {space : String}
    (inSpace : origin.metadata.namespace = some space) :
    ReportsFailures driver (fun _ later => InProgress driver origin origin later)
      (Attempt.tellingOn origin .deleteVolumeGroupFailed none <|
        .within .content origin.lookupContent) log := by
  -- The look-up is a single call, whose answer may be a failure.
  have asks : (within PassError.content origin.lookupContent).run =
      .call (.getContent origin.contentName space) fun answer =>
        .done ((origin.identified answer).mapError PassError.content) := by
    show Program.bind origin.lookupContent.run _ = _
    rw [Group.run_lookupContent inSpace]
    rfl
  refine .step progress.smooth asks ?_ ?_
  · intro answer found identified
    refine progress.cons rfl (fun _ fails => ?_) id
    -- A content that is the group's own is none with which the look-up fails.
    cases fails.eq_call id with
    | lookup began _ refused =>
      obtain rfl := Option.some.inj (began.symm.trans progress.began)
      rw [refused] at identified
      cases identified
  · intro answer error failed
    -- The content is in order, or that is the failure.
    cases refused : origin.identified answer with
    | ok found =>
      rw [refused] at failed
      cases failed
    | error cause =>
      rw [refused] at failed
      cases failed
      exact .lookup progress.began terminating refused

/-- The driver is asked to delete a group, and it is reported if it does not delete one that it knows. -/
theorem reports_deleteAtDriver (progress : InProgress driver origin held log) (handle : String)
    (secrets : KeyMap String) :
    ReportsFailures driver (fun _ later => InProgress driver origin held later)
      (held.deleteAtDriver handle secrets) log := by
  unfold Group.deleteAtDriver
  refine .step progress.smooth (?_ : _ = Program.call (.deleteDriverGroup handle secrets)
    fun answer => .done (deletion answer)) ?_ ?_
  · -- The attempt is the call, and it goes on as the answer tells.
    show Program.call (.deleteDriverGroup handle secrets) _ = _
    refine congrArg _ (funext fun answer => ?_)
    cases answer with
    | ok => rfl
    | error cause =>
      show (if cause.isNotFound then pure () else throw (.driver cause) : Attempt PassError Unit).run =
        .done (if cause.isNotFound then .ok () else .error (.driver cause))
      split <;> rfl
  · -- The driver deleted the group, or it did not know it.
    intro answer _ deleted
    refine progress.cons rfl (fun _ fails => ?_) id
    cases fails.eq_call id with
    | delete _ known => simp [deletion, known] at deleted
  · -- Only a driver that knows the group fails to delete it.
    intro answer error failed
    cases answer with
    | ok => cases failed
    | error cause =>
      cases known : cause.isNotFound with
      | true => simp [deletion, known] at failed
      | false =>
        simp only [deletion, known] at failed
        cases failed
        exact .delete progress.held known

/-- A pass over a terminating group reports the failures of its steps. -/
theorem reports_finalize (progress : InProgress driver origin origin log)
    (terminating : origin.isTerminating = true) (secrets : KeyMap String) :
    ReportsFailures driver (fun _ later => Smooth driver later) (origin.finalize secrets) log := by
  rw [Group.finalize_eq]
  -- Only a marked group is finalized.
  split
  · cases inSpace : origin.metadata.namespace with
    | none =>
      rw [Group.namespace, inSpace]
      exact .throw progress.smooth
    | some space =>
      rw [space_bind inSpace]
      -- The look-up and the driver are the steps whose failures are told.
      have dissolves : ReportsFailures driver
          (fun _ later => InProgress driver origin origin later) (origin.dissolve secrets) log := by
        unfold Group.dissolve
        refine .bind (reports_lookupContent progress terminating inSpace) ?_
        intro content looked progress
        extract_lets finish
        split
        · exact .bind (reports_deleteAtDriver progress _ secrets) fun _ _ progress => .pure progress
        · exact .pure progress
      refine .bind dissolves ?_
      intro content dissolved progress
      -- Claims of a terminating group are counted for no plan.
      have counts : (Call.listClaims space).IsSteady origin.isTerminating :=
        ⟨fun live => Bool.noConfusion (terminating.symm.trans live), id⟩
      refine .bind (.of_steady progress.smooth progress.began (asks_disband origin space content
        counts (fun _ => ⟨id, id⟩) ⟨id, id⟩ fun _ => ⟨id, id⟩)) ?_
      rintro later disbanded ⟨smooth, began⟩
      -- What is left are steady calls.
      have departs : Asks (Call.IsSteady origin.isTerminating) (fun _ => True)
          (later.depart content) :=
        asks_depart later content (fun _ => ⟨id, id⟩) (fun _ _ => ⟨id, id⟩) fun _ => ⟨id, id⟩
      exact (ReportsFailures.of_steady smooth began departs).imp fun _ _ ended => ended.1
  · exact .pure progress.smooth

/-- The class of a group that names one is read, and it is reported if that fails. -/
theorem reports_resolveClass {group : Group} {className : String} (smooth : Smooth driver log)
    (hand : latest? log = some group) (classed : group.className? = some className) :
    ReportsFailures driver
      (fun groupClass later => later = ⟨.getClass className, .ok groupClass⟩ :: log)
      (group.resolveClass.tellingOn group .classResolutionFailed none) log := by
  -- The step is a single call.
  refine .step smooth (Group.run_resolveClass classed) ?_ ?_
  · intro answer groupClass read
    cases answer <;> cases read
    rfl
  · intro answer error failed
    cases answer <;> cases failed
    exact .noClass hand

/-- The parameters of a class of the driver's own, which has just been read, are reported if they make no
sense. -/
theorem reports_parameters {group : Group} {groupClass : GroupClass} {className : String}
    (smooth : Smooth driver log) (began : origin? log = some group) (hand : latest? log = some group)
    (served : groupClass.spec.driver = driver) :
    ReportsFailures driver (fun _ later => InProgress driver group group later)
      (Attempt.tellingOn group .invalidParameters none <|
        .within (.parameters (Resource.displayName groupClass)) <|
          .known (ClassParameters.resolve groupClass.spec.parameters))
      (⟨.getClass className, .ok groupClass⟩ :: log) := by
  refine .tellingOn ?_
  -- The read of the class and its parameters are one step.
  cases resolved : ClassParameters.resolve groupClass.spec.parameters with
  | error cause => exact ⟨_, _, rfl, smooth, .call (.parameters hand served resolved)⟩
  | ok parameters =>
    refine ⟨smooth.cons (fun _ fails => ?_) id,
      (origin?_append [_] (ne_nil_of_origin? began)).trans began, hand⟩
    -- Of a class that was read, only parameters that make no sense are reported.
    cases fails.eq_call id with
    | parameters _ _ refused => cases refused.symm.trans resolved

/-- Credentials are read if the class points to a secret, and it is reported if there are none there. -/
theorem reports_credentials (progress : InProgress driver origin held log)
    (location : SecretLocation) :
    ReportsFailures driver (fun _ later => InProgress driver origin held later)
      (Attempt.tellingOn held .secretResolutionFailed none <|
        .within .secret location.credentials) log := by
  -- A class that points to no secret needs no call.
  cases points : location.both with
  | none =>
    have none : (within PassError.secret location.credentials).run = .done (.ok ∅) := by
      show Program.bind location.credentials.run _ = _
      rw [SecretLocation.credentials_of_none points]
      rfl
    refine .tellingOn ?_
    rw [none]
    exact progress
  | some both =>
    obtain ⟨name, space⟩ := both
    have asks : (within PassError.secret location.credentials).run =
        .call (.getSecret name space) fun answer =>
          .done ((fetched name space answer).mapError PassError.secret) := by
      show Program.bind location.credentials.run _ = _
      rw [SecretLocation.credentials_of_some points]
      rfl
    refine .step progress.smooth asks ?_ ?_
    · intro answer secrets read
      refine progress.cons rfl (fun _ fails => ?_) id
      -- What is read are credentials, so no step fails with this call.
      cases fails.eq_call id with
      | secret _ refused =>
        rw [refused] at read
        cases read
    · intro answer error failed
      -- The answer holds credentials, or that is the failure.
      cases refused : fetched name space answer with
      | ok secrets =>
        rw [refused] at failed
        cases failed
      | error cause =>
        rw [refused] at failed
        cases failed
        exact .secret progress.held refused

/-- A pass over a stored group, which has just been read, reports the failures of its steps. -/
theorem reports_advance (group : Group) (name space : String) :
    ReportsFailures driver (fun _ later => Smooth driver later) (group.advance driver)
      [⟨.getGroup name space, .ok group⟩] := by
  unfold Group.advance
  -- The class has a name, or that is the failure.
  cases classed : group.className? with
  | none =>
    -- Nothing is called for a class that has no name, so the read is the last call of the step.
    have fails : group.resolveClass = throw (.missingClassName group.name) := by
      rw [Group.resolveClass, classed]
    have ends : ReportsFailures driver (fun _ _ => False)
        (group.resolveClass.tellingOn group .classResolutionFailed none)
        [⟨.getGroup name space, .ok group⟩] := by
      rw [fails]
      exact .tellingOn ⟨_, _, rfl, .nil, .call (.unclassed classed)⟩
    exact .bind ends fun _ _ => False.elim
  | some className =>
    -- The read of a group that names its class fails no step.
    have smooth : Smooth driver [⟨.getGroup name space, .ok group⟩] := by
      refine Smooth.nil.cons (fun _ fails => ?_) id
      cases fails.eq_call id with
      | unclassed nameless => cases nameless.symm.trans classed
    refine .bind (reports_resolveClass smooth rfl classed) ?_
    rintro groupClass _ rfl
    split
    · rename_i foreign
      -- The class of another driver ends the pass, and its parameters are nobody's business here.
      refine .pure (smooth.cons (fun _ fails => ?_) id)
      cases fails.eq_call id with
      | parameters _ served _ => exact foreign served
    · rename_i own
      refine .bind (reports_parameters smooth rfl rfl (Decidable.of_not_not own)) ?_
      intro parameters resolved progress
      refine .bind (reports_credentials progress parameters.secret) ?_
      intro secrets read progress
      -- What comes then depends on whether the group is terminating.
      split
      · rename_i terminating
        exact reports_finalize progress terminating secrets
      · rename_i live
        have protects : ReportsFailures driver (fun own later => InProgress driver group own later)
            (within .cluster group.protect) read := by
          unfold Group.protect
          split
          · exact .pure progress
          · exact reports_replaceGroup progress _
        refine .bind protects fun own marked progress => ?_
        exact reports_sync progress (Bool.not_eq_true _ ▸ live) groupClass parameters secrets

/-- A pass reports the failures of its steps. -/
theorem reports_reconcile (seen : Group) (driver : String) :
    ReportsFailures driver (fun _ later => Smooth driver later) (seen.reconcile driver) [] := by
  unfold Group.reconcile
  -- Without a namespace nothing is read.
  cases inSpace : seen.metadata.namespace with
  | none =>
    rw [Group.namespace, inSpace]
    exact .throw .nil
  | some space =>
    rw [space_bind inSpace]
    have asks : (Attempt.outcome (.of (.ask (.getGroup seen.name space))) :
        Attempt PassError (Except ClusterError Group)).run =
          .call (.getGroup seen.name space) fun answer => .done (.ok answer) := rfl
    have reads : ReportsFailures driver
        (fun answer later => later = [⟨.getGroup seen.name space, answer⟩])
        (Attempt.outcome (.of (.ask (.getGroup seen.name space)))) [] :=
      .ask asks (fun answer value read => by cases read; rfl) (by rintro answer error ⟨⟩)
    refine .bind reads ?_
    rintro answer _ rfl
    cases answer with
    | ok group => exact reports_advance group seen.name space
    | error cause =>
      -- A group that cannot be read fails no step whose failure is told.
      have smooth : Smooth driver [⟨.getGroup seen.name space, .error cause⟩] :=
        Smooth.nil.cons (fun _ fails => by cases fails.eq_call id) id
      dsimp only
      split
      · exact .pure smooth
      · exact .throw smooth

end Attempt

/-- In the log of a pass either no step has failed whose failure is told, or one has, and the pass ended
with its failure once that was told. -/
theorem smooth_or_reported {σ : Type} (respond : σ → (request : Call) → request.Answer × σ) (state : σ)
    (seen : Group) (driver : String) :
    Smooth driver ((seen.reconcile driver).run.journal respond state) ∨
      ∃ error, ((seen.reconcile driver).run.run respond state).1 = .error error ∧
        Reported driver ((seen.reconcile driver).run.journal respond state) error := by
  -- What holds of every log holds of that of the run.
  have reports := Program.Logs.journal (Attempt.reports_reconcile seen driver) respond state
  cases ended : ((seen.reconcile driver).run.run respond state).1 with
  | ok action =>
    rw [ended, List.append_nil] at reports
    exact .inl reports
  | error error =>
    rw [ended, List.append_nil] at reports
    exact reports.imp_right fun reported => ⟨error, rfl, reported⟩

end VolumeGroups
