import Mathlib.Control.Monad.Basic
import VolumeGroups.Proofs.Recovery.Passes
import VolumeGroups.Proofs.Reports.Reporting

/-! Reporting is best effort: whatever comes of it, a pass makes the same calls and ends in the same
way. -/

namespace VolumeGroups

namespace Program

variable {α β : Type}

/-- A program that goes on in one way whatever comes of recording events. -/
inductive IgnoresRecording : Program α → Prop where
  /-- It ends. -/
  | done (value : α) : IgnoresRecording (.done value)
  /-- It makes a call that records no event, and goes on from any answer. -/
  | call {request : Call} {next : request.Answer → Program α} (other : ¬ request.IsRecord)
    (rest : ∀ answer, IgnoresRecording (next answer)) : IgnoresRecording (.call request next)
  /-- It records an event, and what follows does not depend on what comes of it. -/
  | note (event : Event) {rest : Program α} (ignores : IgnoresRecording rest) :
    IgnoresRecording (.call (.record event) fun _ => rest)

namespace IgnoresRecording

/-- A program that records nothing ignores what comes of recording. -/
theorem of_asks {calls : Call → Prop} {gives : α → Prop} {program : Program α}
    (asks : program.Asks calls gives) (other : ∀ request, calls request → ¬ request.IsRecord) :
    program.IgnoresRecording := by
  -- The induction goes along the calls, none of which is one of those in question.
  induction program with
  | done value => exact .done value
  | call request next ih => exact .call (other request asks.1) fun answer => ih answer (asks.2 answer)

/-- One program after another ignores what both ignore. -/
theorem bind {program : Program α} {next : α → Program β} (first : program.IgnoresRecording)
    (second : ∀ value, (next value).IgnoresRecording) : (program.bind next).IgnoresRecording := by
  -- The second program takes over at whatever value the first one ends with.
  induction first with
  | done value => exact second value
  | call other _ ih => exact .call other ih
  | note event _ ih => exact .note event ih

end IgnoresRecording

end Program

/-- An event is recorded, and nothing is made of the answer. -/
theorem ignoresRecording_note (regarding : ObjectReference) (type : EventType) (reason : Reason)
    (message : String) : (note regarding type reason message).IgnoresRecording :=
  .note _ (.done ())

/-- A failure is told by a write of the state at most and by an event, and nothing is made of either
answer. -/
theorem Group.ignoresRecording_tell (group : Group) (reason : Reason) (ready : Option Bool)
    (error : PassError) : (group.tell reason ready error).IgnoresRecording := by
  unfold tell
  extract_lets status
  split
  · exact .call id fun _ => ignoresRecording_note ..
  · exact ignoresRecording_note ..

namespace Attempt

variable {ε ε' α β : Type}

/-- An attempt that goes on in one way whatever comes of recording events. -/
def IgnoresRecording (attempt : Attempt ε α) : Prop := Program.IgnoresRecording attempt.run

/-- What is eventless records nothing, so there is nothing to ignore. -/
theorem IsEventless.ignoresRecording {attempt : Attempt ε α} (eventless : attempt.IsEventless) :
    attempt.IgnoresRecording := by
  refine .of_asks eventless fun request sort => ?_
  cases request <;> first | exact sort.elim | exact id

namespace IgnoresRecording

/-- Success needs no call. -/
theorem pure (value : α) : IgnoresRecording (Pure.pure value : Attempt ε α) :=
  Program.IgnoresRecording.done (Except.ok value)

/-- Failure needs no call. -/
theorem throw (error : ε) : IgnoresRecording (MonadExcept.throw error : Attempt ε α) :=
  Program.IgnoresRecording.done (Except.error error)

/-- What is known needs no call. -/
theorem known (result : Except ε α) : IgnoresRecording (Attempt.known result) := .done result

/-- A single call that records nothing leaves nothing to ignore. -/
theorem only {program : Program (Except ε α)}
    (asks : program.Asks (fun request => ¬ request.IsRecord) fun _ => True) :
    IgnoresRecording (Attempt.of program) := .of_asks asks fun _ => id

/-- Attempts one after another ignore what both ignore, where a failure ends both. -/
theorem bind {attempt : Attempt ε α} {next : α → Attempt ε β} (first : attempt.IgnoresRecording)
    (second : ∀ value, (next value).IgnoresRecording) : IgnoresRecording (attempt >>= next) := by
  refine Program.IgnoresRecording.bind first fun result => ?_
  cases result with
  | ok value => exact second value
  | error error => exact .done (Except.error error)

/-- A failure in wider terms comes of the same calls. -/
theorem within {wider : ε → ε'} {attempt : Attempt ε α} (ignores : attempt.IgnoresRecording) :
    IgnoresRecording (Attempt.within wider attempt) :=
  Program.IgnoresRecording.bind ignores fun result => .done (result.mapError wider)

/-- The outcome of an attempt comes of the same calls. -/
theorem outcome {attempt : Attempt ε α} (ignores : attempt.IgnoresRecording) :
    IgnoresRecording (Attempt.outcome attempt : Attempt ε' (Except ε α)) :=
  Program.IgnoresRecording.bind ignores fun result =>
    .done (Except.ok result)

/-- A program that cannot fail ignores the same as an attempt. -/
theorem lift {program : Program α} (ignores : program.IgnoresRecording) :
    IgnoresRecording (liftM program : Attempt ε α) :=
  Program.IgnoresRecording.bind ignores fun value => .done (Except.ok value)

/-- Telling a failure adds calls whose answers are ignored. -/
theorem tellingOn {attempt : Attempt PassError α} {group : Group} {reason : Reason}
    {ready : Option Bool} (ignores : attempt.IgnoresRecording) :
    IgnoresRecording (attempt.tellingOn group reason ready) := by
  -- The telling comes last, and it hides no answer from the attempt.
  refine Program.IgnoresRecording.bind ignores fun result => ?_
  cases result with
  | ok value => exact .done (Except.ok value)
  | error error =>
    exact .bind (group.ignoresRecording_tell reason ready error) fun _ =>
      .done (Except.error error)

/-- Attempts made for each of some items ignore what each ignores. -/
theorem forM {γ : Type} {items : List γ} {body : γ → Attempt ε PUnit}
    (ignores : ∀ item, (body item).IgnoresRecording) : IgnoresRecording (items.forM body) := by
  -- The loop makes one attempt after another, in the order of the items.
  induction items with
  | nil => exact pure _
  | cons item rest ih => exact bind (ignores item) fun _ => ih

end IgnoresRecording

/-- The first stage of a live group lets go what comes of telling of refused claims. -/
theorem ignoresRecording_prepare (group : Group) : group.prepare.IgnoresRecording := by
  unfold Group.prepare
  refine .bind (.within (.known _)) fun space => ?_
  refine .bind (.within (.only ⟨id, fun _ => trivial⟩)) fun groups => ?_
  -- No step looks at what came of an event, so each part is taken by itself.
  refine .bind (.tellingOn (.within (eventless_plan group groups).ignoresRecording)) fun plan => ?_
  refine .bind (.forM fun _ => .lift (ignoresRecording_note ..)) fun _ => ?_
  refine .bind (.forM fun member =>
    .within (eventless_protectClaim member.claim).ignoresRecording) fun _ => ?_
  exact .pure _

/-- A content is obtained whatever comes of telling why that fails. -/
theorem ignoresRecording_obtainContent (group : Group) (groupClass : GroupClass)
    (parameters : ClassParameters) (secrets : KeyMap String) :
    (group.obtainContent groupClass parameters secrets).IgnoresRecording := by
  unfold Group.obtainContent
  refine .bind (.within (eventless_lookupContent group).ignoresRecording) fun found => ?_
  cases found with
  -- A content that is found is taken as it is.
  | some content => exact .pure _
  | none =>
    -- The name, the call of the driver and the new content are made one after another.
    refine .bind (.within (.known _)) fun name => ?_
    refine .bind (.tellingOn (.within (.only ⟨id, fun _ => trivial⟩))) fun created => ?_
    refine .bind (.within (.known _)) fun content => ?_
    refine .bind (.within (eventless_createContent content).ignoresRecording) fun stored => ?_
    exact .pure _

/-- The second stage of a live group lets go what comes of telling why it fails. -/
theorem ignoresRecording_furnish (group : Group) (groupClass : GroupClass)
    (parameters : ClassParameters) (secrets : KeyMap String) (plan : MembershipPlan) :
    (group.furnish groupClass parameters secrets plan).IgnoresRecording := by
  unfold Group.furnish
  refine .bind (ignoresRecording_obtainContent group groupClass parameters secrets)
    fun (content, created) => ?_
  -- What comes after the driver's call is shared by both branches.
  have states : IgnoresRecording (liftM (content.readyStatus plan.volumeNames) :
      Attempt PassError ContentStatus) :=
    IsEventless.ignoresRecording (.lift (eventless_readyStatus content plan.volumeNames))
  have stores (status : ContentStatus) : IgnoresRecording
      (Attempt.within PassError.content (content.syncStatus status)) :=
    .within (eventless_syncContent content status).ignoresRecording
  dsimp only
  split
  · refine .bind (eventless_rememberContent group _).ignoresRecording fun named => ?_
    -- The driver is told of members only if there may be any.
    split
    · refine .bind (.tellingOn (.within (.only ⟨id, fun _ => trivial⟩))) fun _ => ?_
      exact .bind states fun status => .bind (stores status) fun _ => .pure _
    · exact .bind states fun status => .bind (stores status) fun _ => .pure _
  · -- Without a handle there is nobody to ask.
    exact .throw _

/-- The last stage of a live group lets go what comes of telling what is new. -/
theorem ignoresRecording_announce (furnished : Group.Furnished) (plan : MembershipPlan)
    (later : Group) : (furnished.announce plan later).IgnoresRecording := by
  unfold Group.Furnished.announce
  -- What ends the stage is used by both branches, so it is taken first.
  extract_lets finish tell
  -- At the end there are no calls, only the verdict on refused claims.
  have finishes : IgnoresRecording (finish ()) := by
    simp only [finish]
    split
    · exact .throw _
    · exact .pure _
  have tells : IgnoresRecording (tell ()) := by
    simp only [tell]
    split
    · exact .bind (.lift (ignoresRecording_note ..)) fun _ => finishes
    · exact finishes
  split
  · exact .bind (.lift (ignoresRecording_note ..)) fun _ => tells
  · exact tells

/-- A pass over a live group ignores what comes of recording events. -/
theorem ignoresRecording_sync (group : Group) (groupClass : GroupClass)
    (parameters : ClassParameters) (secrets : KeyMap String) :
    (group.sync groupClass parameters secrets).IgnoresRecording := by
  -- The stages are taken one by one.
  rw [Group.sync_eq]
  refine .bind (ignoresRecording_prepare group) fun (groups, plan) => ?_
  refine .bind (ignoresRecording_furnish group groupClass parameters secrets plan)
    fun furnished => ?_
  refine .bind (eventless_syncGroup _ _).ignoresRecording fun later => ?_
  refine .bind (eventless_releaseClaims _ _).ignoresRecording fun _ => ?_
  exact ignoresRecording_announce furnished plan later

/-- A terminating group is dissolved whatever comes of telling why that fails. -/
theorem ignoresRecording_dissolve (group : Group) (secrets : KeyMap String) :
    (group.dissolve secrets).IgnoresRecording := by
  have deletes (handle : String) : (group.deleteAtDriver handle secrets).IgnoresRecording := by
    refine .tellingOn (.bind (.outcome (.only ⟨id, fun _ => trivial⟩)) fun answer => ?_)
    split
    · -- The driver deleted the group.
      exact .pure _
    · -- A group that the driver does not know counts as deleted.
      split
      · exact .pure _
      · exact .throw _
  unfold Group.dissolve
  refine .bind (.tellingOn (.within (eventless_lookupContent group).ignoresRecording))
    fun content => ?_
  -- The driver is asked only if the content has a handle.
  extract_lets finish
  split
  · exact .bind (deletes _) fun _ => .pure _
  · exact .pure _

/-- A pass over a terminating group ignores what comes of recording events. -/
theorem ignoresRecording_finalize (group : Group) (secrets : KeyMap String) :
    (group.finalize secrets).IgnoresRecording := by
  rw [Group.finalize_eq]
  -- Only a marked group has anything to undo.
  split
  · refine .bind (.within (.known _)) fun space => ?_
    refine .bind (ignoresRecording_dissolve group secrets) fun content => ?_
    refine .bind (eventless_disband group space content).ignoresRecording fun later => ?_
    exact (eventless_depart later content).ignoresRecording
  · -- A group without the mark is let go.
    exact .pure _

/-- A pass over a stored group ignores what comes of recording events. -/
theorem ignoresRecording_advance (group : Group) (driver : String) :
    (group.advance driver).IgnoresRecording := by
  -- Credentials are read by one call at most, which is no record.
  have reads (location : SecretLocation) : location.credentials.IgnoresRecording := by
    unfold SecretLocation.credentials
    split
    · exact .pure _
    · exact .bind (.within (.only ⟨id, fun _ => trivial⟩)) fun _ => .known _
  unfold Group.advance
  -- Each step whose failure is told ends with at most one event.
  refine .bind (.tellingOn (eventless_resolveClass group).ignoresRecording) fun groupClass => ?_
  split
  · -- The class may be another driver's.
    exact .pure _
  · refine .bind (.tellingOn (.within (.known _))) fun parameters => ?_
    refine .bind (.tellingOn (.within (reads parameters.secret))) fun secrets => ?_
    split
    · exact ignoresRecording_finalize group secrets
    · refine .bind (.within (eventless_protectGroup group).ignoresRecording) fun own => ?_
      exact ignoresRecording_sync own groupClass parameters secrets

/-- A pass ignores what comes of recording events. -/
theorem ignoresRecording_reconcile (seen : Group) (driver : String) :
    (seen.reconcile driver).IgnoresRecording := by
  unfold Group.reconcile
  refine .bind (.within (.known _)) fun space => ?_
  refine .bind (.outcome (.only ⟨id, fun _ => trivial⟩)) fun answer => ?_
  cases answer with
  | ok group => exact ignoresRecording_advance group driver
  | error cause =>
    -- A group that is gone needs no pass, and other failures end it.
    dsimp only
    split
    · exact .pure _
    · exact .throw _

end Attempt

/-- A call and its answer, as somebody sees them who is not told what comes of recording events. -/
def Exchange.withoutRecording : Exchange → Exchange
  | ⟨.record event, _⟩ => ⟨.record event, .ok ()⟩
  | exchange => exchange

namespace Program

variable {σ α : Type}

/-- Calls are answered as ever, except that somebody chooses what comes of recording events. -/
def noting (respond : σ → (request : Call) → request.Answer × σ)
    (choice : σ → Event → Except ClusterError Unit) (state : σ) (request : Call) :
    request.Answer × σ :=
  match request with
  | .record event => (choice state event, (respond state (.record event)).2)
  | request => respond state request

/-- Nobody chooses what comes of other calls. -/
theorem noting_of_not_isRecord (respond : σ → (request : Call) → request.Answer × σ)
    (choice : σ → Event → Except ClusterError Unit) (state : σ) {request : Call}
    (other : ¬ request.IsRecord) : noting respond choice state request = respond state request := by
  cases request <;> first | rfl | exact (other trivial).elim

/-- Two runs end in the same way, after calls that look the same to somebody who is not told what
comes of recording events. -/
structure RunsAgree (program : Program α)
    (respond retort : σ → (request : Call) → request.Answer × σ) (state : σ) : Prop where
  run : program.run respond state = program.run retort state
  journal : (program.journal respond state).map Exchange.withoutRecording =
    (program.journal retort state).map Exchange.withoutRecording

/-- Runs agree that start with a call after which they agree. -/
theorem RunsAgree.call {respond retort : σ → (request : Call) → request.Answer × σ} {state : σ}
    {request : Call} {next : request.Answer → Program α}
    (same : (respond state request).2 = (retort state request).2)
    (alike : Exchange.withoutRecording ⟨request, (respond state request).1⟩ =
      Exchange.withoutRecording ⟨request, (retort state request).1⟩)
    (goes : next (respond state request).1 = next (retort state request).1)
    (rest : (next (retort state request).1).RunsAgree respond retort (retort state request).2) :
    (Program.call request next).RunsAgree respond retort state := by
  -- The two goals are the result and the calls of the rest.
  constructor
  · show (next _).run respond _ = (next _).run retort _
    rw [goes, same]
    exact rest.run
  · rw [journal_call, journal_call, List.map_append, List.map_append, goes, same, rest.journal]
    simp only [List.map_cons, List.map_nil, alike]

variable (respond : σ → (request : Call) → request.Answer × σ)
  (one other : σ → Event → Except ClusterError Unit)

/-- Where a program ignores what comes of recording events, runs agree that differ in it. -/
theorem IgnoresRecording.runsAgree {program : Program α} (ignores : program.IgnoresRecording)
    (state : σ) :
    program.RunsAgree (noting respond one) (noting respond other) state := by
  -- The two runs stay in the same state, and go on with the same program after each call.
  induction ignores generalizing state with
  | done value => exact ⟨rfl, rfl⟩
  | call plain _ ih =>
    have same := (noting_of_not_isRecord respond one state plain).trans
      (noting_of_not_isRecord respond other state plain).symm
    exact .call (by rw [same]) (by rw [same]) (by rw [same]) (ih _ _)
  | note event _ ih => exact .call rfl rfl rfl (ih _)

end Program

/-- Whoever answers the calls of a pass: it ends in the same way, after the same calls with the same
answers, whatever comes of recording events. When a step fails whose failure is to be told, the pass ends
with exactly that failure, and what it calls after that is the write of the state, unless the group has
that state, and the event, whatever comes of either. No failure is told but that of such a step. -/
theorem reports_sway_nothing {σ : Type} (respond : σ → (request : Call) → request.Answer × σ)
    (state : σ) (seen : Group) (driver : String) :
    (∀ one other : σ → Event → Except ClusterError Unit,
      (seen.reconcile driver).run.run (Program.noting respond one) state =
          (seen.reconcile driver).run.run (Program.noting respond other) state ∧
        ((seen.reconcile driver).run.journal (Program.noting respond one) state).map
            Exchange.withoutRecording =
          ((seen.reconcile driver).run.journal (Program.noting respond other) state).map
            Exchange.withoutRecording) ∧
    (∀ (before : List Exchange) (report : FailureReport),
      before <:+ (seen.reconcile driver).run.journal respond state → StepFails driver before report →
        ((seen.reconcile driver).run.run respond state).1 = .error report.error ∧
          ∃ told, (seen.reconcile driver).run.journal respond state = told ++ before ∧
            report.ToldBy told) ∧
    ∀ exchange ∈ (seen.reconcile driver).run.journal respond state, exchange.request.IsAlarm →
      ∃ before report, before <:+ (seen.reconcile driver).run.journal respond state ∧
        StepFails driver before report := by
  refine ⟨fun one other => ?_, ?_⟩
  · -- Who ignores recording runs alike whatever comes of it.
    have agree := (Attempt.ignoresRecording_reconcile seen driver).runsAgree respond one other state
    exact ⟨agree.run, agree.journal⟩
  · rcases smooth_or_reported respond state seen driver with smooth | ⟨error, ended, reported⟩
    · -- Where no step has failed, there is no failure to tell.
      refine ⟨fun before report ran fails => absurd fails (smooth.unfailing before ran report), ?_⟩
      exact fun exchange known alarm => absurd alarm (smooth.unalarmed exchange known)
    · -- One step has failed, and the log ends with what was told of it.
      refine ⟨fun before report ran fails => ?_, fun _ _ _ => reported.exists_stepFails⟩
      obtain ⟨rfl, told⟩ := reported.eq_of_stepFails ran fails
      exact ⟨ended, told⟩

namespace Sample

/-- The cluster where the driver makes no group, and neither the state nor the event of that can be
stored. -/
def unheard : Rehearsal where
  store := stocked
  disturbances := [
    { method := .createDriverGroup, fault := some (.status 14 "") },
    { method := .replaceGroupStatus, fault := some .conflict },
    { method := .record, fault := some .conflict }]

end Sample

/-- The driver's refusal to make a group is told on the group, and it is what the pass ends with, although
neither the state nor the event of it can be stored. -/
theorem refusal_reported_in_vain : ∃ before report,
    before <:+ (Sample.group.reconcile "driver").run.journal Rehearsal.respond Sample.unheard ∧
      StepFails "driver" before report ∧
      report.error = .driver (.status "CreateVolumeGroup" 14 (some "")) ∧
      Sample.unheard.verdict "driver" Sample.group = .error report.error ∧
      ∃ told, (Sample.group.reconcile "driver").run.journal Rehearsal.respond Sample.unheard =
        told ++ before ∧ report.ToldBy told := by
  -- The event in the log comes from some step that failed.
  obtain ⟨-, ends, alarms⟩ :=
    reports_sway_nothing Rehearsal.respond Sample.unheard Sample.group "driver"
  -- What the pass ends with names the failure of that step.
  have verdict : Sample.unheard.verdict "driver" Sample.group =
      .error (.driver (.status "CreateVolumeGroup" 14 (some ""))) := by decide +kernel
  have alarm : ∃ exchange ∈
      (Sample.group.reconcile "driver").run.journal Rehearsal.respond Sample.unheard,
      exchange.request.IsAlarm := by decide +kernel
  obtain ⟨exchange, known, alarm⟩ := alarm
  obtain ⟨before, report, ran, fails⟩ := alarms exchange known alarm
  obtain ⟨ended, told⟩ := ends before report ran fails
  exact ⟨before, report, ran, fails, Except.error.inj (ended.symm.trans verdict), ended, told⟩

end VolumeGroups
