import VolumeGroups.Proofs.Operator.Common
import VolumeGroups.Proofs.Operator.Yields
import VolumeGroups.Proofs.Solo.Outset

/-! Passes that have the cluster to themselves, where no call fails but those of the driver: what they
tell on their group is told for good. -/

namespace VolumeGroups

/-- A call to the driver. -/
def Call.IsDriven : Call → Prop
  | .createDriverGroup .. | .deleteDriverGroup .. | .modifyMembership .. => True
  | _ => False

/-- A call that neither goes to the driver nor tells of anything that is wrong. -/
def Call.IsTacit : Call → Prop
  | .createDriverGroup .. | .deleteDriverGroup .. | .modifyMembership .. => False
  | .record event => event.type = .normal ∧ event.reason ≠ Reason.membershipRejected.name
  | _ => True

/-- An attempt all of whose calls are tacit. -/
def Attempt.IsTacit {ε α : Type} (attempt : Attempt ε α) : Prop :=
  attempt.Asks Call.IsTacit fun _ => True

/-- What is tacit does not go to the driver. -/
theorem Call.IsTacit.not_driven {request : Call} (tacit : request.IsTacit) : ¬ request.IsDriven := by
  cases request <;> first | exact tacit.elim | exact id

/-- What is eventless is tacit. -/
theorem Call.IsEventless.isTacit {request : Call} (eventless : request.IsEventless) :
    request.IsTacit := by
  cases request <;> first | exact eventless.elim | trivial

/-- An event of something that went well is no word of what is wrong. -/
theorem Call.RecordsSuccess.isTacit {request : Call} (success : request.RecordsSuccess) :
    request.IsTacit := by
  cases request <;> first | exact success | exact success.elim

/-- An attempt that is eventless is tacit. -/
theorem Attempt.IsEventless.isTacit {ε α : Type} {attempt : Attempt ε α}
    (eventless : attempt.IsEventless) : attempt.IsTacit :=
  eventless.mono (fun _ sort => sort.isTacit) fun _ => id

/-- A look is tacit. -/
theorem Call.IsLook.isTacit {request : Call} (look : request.IsLook) : request.IsTacit := by
  cases request <;> first | exact look.elim | trivial

/-- The warning on a group that a call records. -/
def Exchange.warning? : Exchange → Option Event
  | ⟨.record event, .ok ()⟩ =>
    if event.type = .warning ∧ event.regarding.kind = some (Resource.kind Group).name then some event
    else none
  | _ => none

/-- The warnings on groups that were recorded, the latest first. -/
def warnings (log : List Exchange) : List Event := log.filterMap Exchange.warning?

/-- A warning that was recorded was recorded by a call. -/
theorem exists_of_mem_warnings {log : List Exchange} {event : Event} (known : event ∈ warnings log) :
    event.type = .warning ∧ event.regarding.kind = some (Resource.kind Group).name ∧
      ⟨.record event, .ok ()⟩ ∈ log := by
  -- Only an event that was stored is told of.
  obtain ⟨⟨request, answer⟩, there, told⟩ := List.mem_filterMap.mp known
  cases request with
  | record recorded =>
    cases answer with
    | error cause => cases told
    | ok done =>
      -- The entry counts if it is a warning and it is about a group.
      simp only [Exchange.warning?, Option.ite_none_right_eq_some, Option.some.injEq] at told
      obtain ⟨⟨warns, kind⟩, rfl⟩ := told
      exact ⟨warns, kind, there⟩
  | _ => cases told

/-- A log goes on in which the driver gets some calls, some refusals are recorded and some warnings on
groups. -/
structure GrowsByWarnings (calls : List Exchange) (told warned : List Event)
    (before after : List Exchange) : Prop extends GrowsByCalls calls told before after where
  onward : Extends (fun _ => True) before after
  warnings : warnings after = warned ++ warnings before

namespace GrowsByWarnings

variable {calls more : List Exchange} {told further warned again : List Event}
  {first second third : List Exchange}

/-- A log goes on with no calls at all. -/
theorem refl (log : List Exchange) : GrowsByWarnings [] [] [] log log := ⟨.refl log, .refl log, rfl⟩

/-- A log that goes on twice goes on. -/
theorem trans (before : GrowsByWarnings calls told warned first second)
    (after : GrowsByWarnings more further again second third) :
    GrowsByWarnings (more ++ calls) (further ++ told) (again ++ warned) first third where
  toGrowsByCalls := before.toGrowsByCalls.trans after.toGrowsByCalls
  onward := before.onward.trans after.onward
  warnings := by rw [after.warnings, before.warnings, List.append_assoc]

/-- What one call adds is what the whole log tells more. -/
theorem cons (exchange : Exchange) (log : List Exchange) :
    GrowsByWarnings (VolumeGroups.driven [exchange]) (VolumeGroups.refusals [exchange])
      (VolumeGroups.warnings [exchange]) log (exchange :: log) where
  longer _ := List.mem_cons_of_mem exchange
  onward := .single trivial
  driven := by rw [← List.singleton_append, VolumeGroups.driven, List.filter_append]; rfl
  refusals := by rw [← List.singleton_append, VolumeGroups.refusals, List.filterMap_append]; rfl
  warnings := by rw [← List.singleton_append, VolumeGroups.warnings, List.filterMap_append]; rfl

/-- Nothing is said by tacit calls. -/
theorem of_tacit (tacit : Extends Call.IsTacit first second) :
    GrowsByWarnings [] [] [] first second := by
  obtain ⟨made, rfl, sort⟩ := tacit
  -- The induction goes along the calls that were made.
  induction made with
  | nil => exact .refl first
  | cons exchange made ih =>
    have rest := ih fun other known => sort other (List.mem_cons_of_mem _ known)
    obtain ⟨request, answer⟩ := exchange
    have tacit : request.IsTacit := sort _ (List.mem_cons_self ..)
    have silent : GrowsByWarnings [] [] [] (made ++ first)
        (⟨request, answer⟩ :: (made ++ first)) := by
      have adds := cons ⟨request, answer⟩ (made ++ first)
      -- A tacit call adds nothing to any of the three.
      cases request with
      | createDriverGroup | deleteDriverGroup | modifyMembership => exact tacit.elim
      | record event =>
        -- A tacit event is no refusal, and it is no warning on a group.
        have unrefused : VolumeGroups.refusals [⟨.record event, answer⟩] = [] := by
          simp [VolumeGroups.refusals, Exchange.refusal?, tacit.2]
        have unwarned : VolumeGroups.warnings [⟨.record event, answer⟩] = [] := by
          cases answer <;> simp [VolumeGroups.warnings, Exchange.warning?, tacit.1]
        rw [unrefused, unwarned] at adds
        exact adds
      | _ => exact adds
    simpa using rest.trans silent

/-- Nothing more is said by tacit calls. -/
theorem tacitly (before : GrowsByWarnings calls told warned first second)
    (after : Extends Call.IsTacit second third) :
    GrowsByWarnings calls told warned first third := by
  simpa using before.trans (of_tacit after)

/-- Nothing is said by tacit calls before. -/
theorem after_tacit (before : Extends Call.IsTacit first second)
    (after : GrowsByWarnings calls told warned second third) :
    GrowsByWarnings calls told warned first third := by
  simpa using (of_tacit before).trans after

end GrowsByWarnings

namespace Conditions

/-- An operator that has the cluster to itself, and whose calls only fail at the driver. -/
def fickle (driver : String) : Conditions where
  driver := driver
  fails request answer := request.IsDriven ∧ request.FailsWith answer

/-- A failure of the driver tells nothing of the cluster. -/
theorem fickle_solo (driver : String) : (fickle driver).Solo where
  still _ _ := id
  honest := by
    rintro request answer ⟨drives, fails⟩
    refine ⟨fails, fun cause failure => ?_⟩
    -- The failures of these calls are not told in the terms of the cluster.
    cases request with
    | createDriverGroup | deleteDriverGroup | modifyMembership =>
      cases answer with
      | ok value => cases failure
      | error error => cases failure
    | _ => exact drives.elim

/-- What does not go to the driver is carried out. -/
theorem fickle_serves {driver : String} {scene after : Scene} {request : Call}
    {answer : request.Answer} (answers : (fickle driver).Answers scene request answer after)
    (aside : ¬ request.IsDriven) : scene.store.Serves request answer after.store :=
  answers.2.resolve_right fun failed => aside failed.1.1

end Conditions

section Fickle

variable {driver : String} {scene : Scene} {ε α : Type}

/-- A call that does not go to the driver is carried out. -/
theorem Program.honours_served {request : Call} (aside : ¬ request.IsDriven) :
    (Program.ask request).Honours (.fickle driver) .any
      (fun answer after => scene.store.Serves request answer after.store ∧
        after.exchanges = ⟨request, answer⟩ :: scene.exchanges) scene := by
  refine (Program.honours_ask (Conditions.fickle_solo driver) request scene).mono ?_
  exact fun answer after answers => ⟨Conditions.fickle_serves answers aside, answers.1⟩

/-- What a tacit attempt does if nothing fails it does where only the driver fails. -/
theorem Attempt.Ensures.tacitly {goal : Except ε α → Scene → Prop} {attempt : Attempt ε α}
    (ensures : attempt.Ensures (.undisturbed driver) goal scene) (tacit : attempt.IsTacit) :
    attempt.Ensures (.fickle driver) (fun result after => goal result after ∧
      Extends Call.IsTacit scene.exchanges after.exchanges) scene := by
  -- Whatever the call is answered, it was answered as where nothing fails.
  have served : attempt.Ensures (.fickle driver) goal scene := by
    refine Program.Honours.carried ensures tacit (fun _ _ => id) ?_
    intro met request answer after sort answers
    exact ⟨⟨answers.1, .inl (Conditions.fickle_serves answers sort.not_driven)⟩, id⟩
  -- The goal and the sort of the calls are shown separately.
  refine Attempt.Honours.both served (Honours.mono (Program.Asks.honours tacit
    (fun after => Extends Call.IsTacit scene.exchanges after.exchanges) ?_ ?_ (.refl _)) ?_)
  · -- Nobody else moves the scene.
    intro before met goes waits
    obtain rfl := (Conditions.fickle_solo driver).waits waits
    exact goes
  · -- A call of the sort keeps the log growing by such calls.
    intro met request answer after sort goes answers
    exact ⟨trivial, answers.1 ▸ goes.trans (.single sort)⟩
  · exact fun _ _ ended => ended.2

/-- An eventless attempt that only fails where a call does succeeds where only the driver fails. -/
theorem Attempt.Ensures.surely {success : α → Scene → Prop} {failure : ε → Scene → Prop}
    {attempt : Attempt ε α}
    (ensures : attempt.Ensures (.undisturbed driver) (EndsEither success failure) scene)
    (blames : ∀ error after, failure error after → (Conditions.undisturbed driver).LetsCallsFail)
    (eventless : attempt.IsEventless) :
    attempt.Ensures (.fickle driver)
      (EndsEither
        (fun value after => success value after ∧ Extends Call.IsTacit scene.exchanges after.exchanges)
        fun _ _ => False) scene := by
  -- What would fail there is a call, and no call that is tacit fails here.
  refine (ensures.tacitly eventless.isTacit).mono ?_
  rintro (error | value) after ⟨ended, tacit⟩
  · exact Conditions.undisturbed_not_letsCallsFail driver (blames error after ended)
  · exact ⟨ended, tacit⟩

/-- What succeeds succeeds however its failures are told. -/
theorem Attempt.Ensures.widely {conditions : Conditions} {ε' : Type} {success : α → Scene → Prop}
    {attempt : Attempt ε α} {wider : ε → ε'}
    (ensures : attempt.Ensures conditions (EndsEither success fun _ _ => False) scene) :
    (Attempt.within wider attempt).Ensures conditions (EndsEither success fun _ _ => False)
      scene := by
  refine .within (ensures.mono ?_)
  rintro (error | value) after ended
  · exact ended
  · exact ended

/-- A failure is told on a stored group for good: the state tells it, and a warning was recorded. -/
structure Group.TellsForGood (group : Group) (reason : Reason) (ready : Option Bool)
    (message : String)
    (before after : Scene) : Prop where
  found : ∃ own : Group, after.store.find? (Resource.key group) = some own ∧ group.Continues own ∧
    own.spec = group.spec ∧ own.status = some (.failed group.status message ready)
  contents : after.store.contents = before.store.contents
  log : GrowsByWarnings [] [] [⟨Resource.reference group, .warning, reason.name, message⟩]
    before.exchanges after.exchanges

/-- What was told after nothing had been said was told all along. -/
theorem Group.TellsForGood.after {group : Group} {reason : Reason} {ready : Option Bool}
    {message : String} {before middle after : Scene}
    (tellsForGood : group.TellsForGood reason ready message middle after)
    (contents : middle.store.contents = before.store.contents)
    (tacit : Extends Call.IsTacit before.exchanges middle.exchanges) :
    group.TellsForGood reason ready message before after :=
  { tellsForGood with
    contents := tellsForGood.contents.trans contents, log := .after_tacit tacit tellsForGood.log }

/-- Where only the driver fails, every failure is told for good on a stored group. -/
theorem Group.tellsForGood_tell {group : Group}
    (found : scene.store.find? (Resource.key group) = some group)
    (held : group.metadata.isForsaken = false) {reason : Reason}
    (other : reason ≠ .membershipRejected) (ready : Option Bool) (error : PassError) :
    (group.tell reason ready error).Honours (.fickle driver) .any
      (fun _ after => group.TellsForGood reason ready error.statusMessage scene after) scene := by
  -- The state is written first, unless the group has it.
  unfold Group.tell
  extract_lets status
  -- The event is recorded in whatever form the group is stored by then.
  have noted (between : Scene) (own : Group)
      (stored : between.store.find? (Resource.key group) = some own)
      (same : group.Continues own ∧ own.spec = group.spec ∧ own.status = some status)
      (contents : between.store.contents = scene.store.contents)
      (tacit : Extends Call.IsTacit scene.exchanges between.exchanges) :
      (note (Resource.reference group) .warning reason error.statusMessage).Honours (.fickle driver)
        .any (fun _ after => group.TellsForGood reason ready error.statusMessage scene after)
        between := by
    refine Program.Honours.bind (Program.honours_served id) ?_
    rintro answer after ⟨⟨rfl, kept⟩, log⟩
    -- The reason is no refusal, so neither is the event.
    have silent : reason.name ≠ Reason.membershipRejected.name := by
      cases reason <;> first | exact (other rfl).elim | decide
    -- The store is as it was, and the log has one warning more.
    refine ⟨⟨own, kept ▸ stored, same⟩, (congrArg Store.contents kept).trans contents, ?_⟩
    refine .after_tacit tacit ?_
    have adds := GrowsByWarnings.cons ⟨.record ⟨Resource.reference group, .warning, reason.name,
      error.statusMessage⟩, .ok ()⟩ between.exchanges
    rw [log]
    have refusals : refusals [⟨.record ⟨Resource.reference group, .warning, reason.name,
        error.statusMessage⟩, .ok ()⟩] = [] := by
      simp [refusals, Exchange.refusal?, silent]
    rw [refusals] at adds
    exact adds
  split
  · refine Program.Honours.bind (Program.honours_served id) ?_
    -- The write finds the group as it was read.
    rintro answer between ⟨serves, log⟩
    have there : scene.store.find? (Resource.key { group with status := some status }) = some group :=
      found
    have wrote : between.store = (scene.store.overwrite { group with status := some status }).2 :=
      congrArg Prod.snd (serves.trans (Store.replaceStatus_eq there rfl))
    refine noted between (scene.store.stamped { group with status := some status }) ?_
      ⟨⟨rfl, rfl, rfl⟩, rfl, rfl⟩ ?_ (log ▸ .single trivial)
    · -- The group lies where it was.
      rw [wrote]
      exact Store.find?_overwrite_self held
    · -- Contents are left alone by a write of groups.
      rw [wrote]
      exact Store.contents_of_groups.overwrite _ _
  · rename_i same
    exact noted scene group found ⟨.refl group, rfl, Decidable.not_not.mp same⟩ rfl (.refl _)

namespace Attempt

/-- An attempt whose failure is told on a stored group fails with the failure told for good. -/
theorem Ensures.proclaiming {group : Group} {reason : Reason} {ready : Option Bool}
    {attempt : Attempt PassError α} {success : α → Scene → Prop} {failure : PassError → Scene → Prop}
    (ensures : attempt.Ensures (.fickle driver) (EndsEither success failure) scene)
    (there : ∀ error after, failure error after →
      after.store.find? (Resource.key group) = some group)
    (held : group.metadata.isForsaken = false) (other : reason ≠ .membershipRejected) :
    (attempt.tellingOn group reason ready).Ensures (.fickle driver)
      (EndsEither success fun error last => ∃ after, failure error after ∧
        group.TellsForGood reason ready error.statusMessage after last) scene := by
  -- The failure leaves the group in place, so it can be told there.
  refine .tellingOn ensures (fun _ _ => id) ?_
  intro error after failed
  refine (group.tellsForGood_tell (there error after failed) held other ready error).mono ?_
  exact fun _ last tellsForGood => ⟨after, failed, tellsForGood⟩

/-- What is only read is learnt without a word, or the reading fails. -/
theorem Reads.tacitly {blames : ε → Prop} {attempt : Attempt ε α}
    (reads : Reads (.fickle driver) blames attempt) (wider : ε → PassError) :
    (Attempt.within wider attempt).Ensures (.fickle driver)
      (EndsEither
        (fun value after => scene.store.learns attempt = .ok value ∧ after.store = scene.store ∧
          Extends Call.IsTacit scene.exchanges after.exchanges)
        (fun error after => (∃ cause, error = wider cause) ∧ after.store = scene.store ∧
          Extends Call.IsTacit scene.exchanges after.exchanges)) scene := by
  -- Looks are tacit, and they leave the store alone.
  refine Ensures.widened ((reads.endsEither scene).mono ?_)
  rintro (error | value) after ⟨learnt, same, looks⟩
  · exact ⟨same, looks.mono fun _ => Call.IsLook.isTacit⟩
  · exact ⟨learnt, same, looks.mono fun _ => Call.IsLook.isTacit⟩

/-- What is only read is read without a word, or its failure is told for good on a stored group. -/
theorem Reads.proclaiming {blames : ε → Prop} {attempt : Attempt ε α} {wider : ε → PassError}
    (reads : Reads (.fickle driver) blames attempt) {group : Group}
    (found : scene.store.find? (Resource.key group) = some group)
    (held : group.metadata.isForsaken = false) {reason : Reason}
    (other : reason ≠ .membershipRejected) (ready : Option Bool) :
    ((Attempt.within wider attempt).tellingOn group reason ready).Ensures (.fickle driver)
      (EndsEither
        (fun value after => after.store = scene.store ∧
          Extends Call.IsTacit scene.exchanges after.exchanges ∧
          ∃ trace, after.exchanges = trace.reverse ++ scene.exchanges ∧ attempt.Yields trace value)
        (fun error after => (∃ cause, error = wider cause) ∧
          group.TellsForGood reason ready error.statusMessage scene after)) scene := by
  -- Whether the reading succeeds or fails, nothing has been said by then.
  have looking : attempt.Ensures (.fickle driver)
      (EndsEither
        (fun value after => after.store = scene.store ∧
          Extends Call.IsTacit scene.exchanges after.exchanges ∧
          ∃ trace, after.exchanges = trace.reverse ++ scene.exchanges ∧ attempt.Yields trace value)
        (fun _ after => after.store = scene.store ∧
          Extends Call.IsTacit scene.exchanges after.exchanges)) scene := by
    refine ((reads scene).both (honours_yields attempt scene)).mono ?_
    rintro (error | value) after ⟨⟨same, looks, -⟩, yields⟩
    · exact ⟨same, looks.mono fun _ => Call.IsLook.isTacit⟩
    · exact ⟨same, looks.mono fun _ => Call.IsLook.isTacit, yields⟩
  refine Honours.mono (Ensures.proclaiming looking.widened ?_ held other) ?_
  · -- The group is still in the store when the failure is told.
    rintro error after ⟨-, same, -⟩
    exact same ▸ found
  · rintro (error | value) last
    · rintro ⟨after, ⟨cause, same, tacit⟩, tellsForGood⟩
      -- Nothing was said before, so the telling is all there is.
      exact ⟨cause, tellsForGood.after (congrArg Store.contents same) tacit⟩
    · exact id

end Attempt

end Fickle

end VolumeGroups
