import VolumeGroups.Proofs.Operator.Stages
import VolumeGroups.Proofs.Solo.Journal
import VolumeGroups.Proofs.Solo.Venture

/-! The first stages of a pass over a live group when nobody else writes: the group is marked, its plan
is made, refusals are told and members marked. -/

namespace VolumeGroups

namespace Venture

variable {driver : String} (venture : Venture driver)

/-- Nothing that is stored or that the driver gave keeps a pass over the group from succeeding. -/
structure Ready (log : List Exchange) : Prop where
  identified : venture.group.metadata.uid.isSome
  owns : venture.start.OwnsContent venture.group
  handle : ∀ content : Content, venture.start.find? venture.group.contentKey = some content →
    content.handle?.isSome
  made : ∀ created, Obtains log created → created.handle.isEmpty = false

/-- A call is not one of the driver that passes over the group make in another way, or do not make. -/
def Calls (exchange : Exchange) : Prop :=
  match exchange.request with
  | .createDriverGroup name secrets parameters =>
    venture.group.driverName = .ok name ∧ secrets = venture.secrets ∧
      parameters = venture.parameters.driver
  | .deleteDriverGroup .. => False
  | _ => True

/-- How a pass over the group is cut short: by an error that tells of no refusal, and only by a failing
call if nothing else keeps it from succeeding, with nothing done that a later pass would not do. -/
structure Fails (conditions : Conditions) (before : Scene) (error : PassError) (after : Scene) :
    Prop where
  other : ¬ error.IsRefusal
  blames : venture.Ready after.exchanges → conditions.LetsCallsFail
  underway : ∃ own, venture.Underway after.store after.exchanges own
  calls : ∃ calls told, GrowsByCalls calls told before.exchanges after.exchanges ∧
    ∀ exchange ∈ calls, venture.Calls exchange

variable {venture} {conditions : Conditions} {first second third : Scene}

/-- What fails after some calls fails. -/
theorem Fails.after {error : PassError} {calls : List Exchange} {told : List Event}
    (fails : venture.Fails conditions second error third)
    (goes : GrowsByCalls calls told first.exchanges second.exchanges)
    (proper : ∀ exchange ∈ calls, venture.Calls exchange) :
    venture.Fails conditions first error third := by
  -- The calls of both stretches are of the sort.
  obtain ⟨more, further, going, sort⟩ := fails.calls
  refine ⟨fails.other, fails.blames, fails.underway, _, _, goes.trans going, ?_⟩
  intro exchange known
  exact (List.mem_append.mp known).elim (sort exchange) (proper exchange)

/-- A pass is cut short by calls that the driver does not get. -/
theorem Fails.of_growsByCalls {error : PassError} {own : Group} {told : List Event}
    (other : ¬ error.IsRefusal) (blames : venture.Ready second.exchanges → conditions.LetsCallsFail)
    (underway : venture.Underway second.store second.exchanges own)
    (goes : GrowsByCalls [] told first.exchanges second.exchanges) :
    venture.Fails conditions first error second :=
  ⟨other, blames, ⟨own, underway⟩, [], told, goes, by simp⟩

/-- What a pass knows of a store it knows after quiet calls too, if they leave that store. -/
theorem Underway.of_quiet {store : Store} {log : List Exchange} {own : Group} {after : Scene}
    (underway : venture.Underway store log own) (same : after.store = store)
    (quiet : Extends Call.IsSilent log after.exchanges) :
    venture.Underway after.store after.exchanges own := by
  rw [same]
  exact underway.later (GrowsByCalls.of_quiet quiet).longer

/-- A pass is cut short by a quiet call that changes nothing. -/
theorem Fails.of_quiet {error : PassError} {own : Group} (other : ¬ error.IsRefusal)
    (blames : venture.Ready second.exchanges → conditions.LetsCallsFail)
    (underway : venture.Underway first.store first.exchanges own) (same : second.store = first.store)
    (quiet : Extends Call.IsSilent first.exchanges second.exchanges) :
    venture.Fails conditions first error second :=
  .of_growsByCalls other blames (underway.of_quiet same quiet) (GrowsByCalls.of_quiet quiet)

end Venture

namespace MembershipPlan

/-- The events that tell of the refusals of a plan. -/
def notices (plan : MembershipPlan) : List Event :=
  plan.rejected.map fun (claim, cause) =>
    { regarding := Resource.reference claim
      type := .warning
      reason := Reason.membershipRejected.name
      message := cause.message }

/-- How a pass ends that carries a plan out: with success, or with the refusals. -/
def verdict (plan : MembershipPlan) : Except PassError Action :=
  match plan.rejectionMessage with
  | some message => .error (.claimsRejected message)
  | none => .ok .awaitChange

/-- Plans that agree end a pass in the same way. -/
theorem Agrees.verdict {plan other : MembershipPlan} (agrees : plan.Agrees other) :
    other.verdict = plan.verdict := by
  rw [MembershipPlan.verdict, MembershipPlan.verdict, agrees.rejectionMessage]

/-- Plans that agree tell of the same refusals. -/
theorem Agrees.notices {plan other : MembershipPlan} (agrees : plan.Agrees other) :
    other.notices = plan.notices := by
  rw [MembershipPlan.notices, MembershipPlan.notices, agrees.rejected]

end MembershipPlan

/-- What a live group does with a plan that it made among some groups. -/
def Group.enact (group : Group) (groups : List Group) (plan : MembershipPlan)
    (groupClass : GroupClass) (parameters : ClassParameters) (secrets : KeyMap String) :
    Attempt PassError Action := do
  plan.rejected.forM fun (claim, cause) =>
    note (Resource.reference claim) .warning .membershipRejected cause.message
  plan.members.forM fun member => Attempt.within .cluster member.claim.protect
  let furnished ← group.furnish groupClass parameters secrets plan
  let later ← furnished.group.syncStatus (furnished.status plan)
  releaseClaims plan.departed (later.others groups)
  furnished.announce plan later

/-- A pass over a live group makes a plan and enacts it. -/
theorem Group.sync_eq_enact (group : Group) (groupClass : GroupClass)
    (parameters : ClassParameters) (secrets : KeyMap String) :
    group.sync groupClass parameters secrets = (do
      let space ← Attempt.within .object (.known group.namespace)
      let groups ← Attempt.within .cluster (.of (.ask (.listGroups space)))
      let plan ← Attempt.tellingOn group .membershipResolutionFailed none <|
        .within .membership (group.plan groups)
      group.enact groups plan groupClass parameters secrets) := by
  -- The rest of the pass has a name from here on.
  simp only [sync_eq, prepare, enact, bind_assoc, pure_bind]

section Stages

variable {conditions : Conditions} (solo : conditions.Solo) {scene : Scene}
include solo

/-- A live group is marked, unless the call fails. -/
theorem Group.ensures_protect {group : Group}
    (found : scene.store.find? (Resource.key group) = some group) :
    Attempt.Ensures conditions
      (Attempt.EndsEither
        (fun later after => Extends Call.IsSilent scene.exchanges after.exchanges ∧
          ((later = group ∧ after.store = scene.store ∧ group.isMarked = true) ∨
            ∃ metadata, group.metadata.addFinalizer? groupFinalizer = some metadata ∧
              later = scene.store.stamped { group with metadata } ∧
              after.store = (scene.store.overwrite { group with metadata }).2))
        (fun error after => ¬ error.IsRefusal ∧ conditions.LetsCallsFail ∧
          after.store = scene.store ∧
          Extends Call.IsSilent scene.exchanges after.exchanges))
      (Attempt.within PassError.cluster group.protect) scene := by
  -- A group that is marked is not written.
  unfold Group.protect
  split
  · rename_i kept
    exact .within (.pure ⟨.refl _, .inl ⟨rfl, rfl, Metadata.addFinalizer?_eq_none kept⟩⟩)
  · rename_i metadata marked
    obtain ⟨continues, version, _⟩ := Metadata.addFinalizer?_eq_some marked
    have there : scene.store.find? (Resource.key ({ group with metadata } : Group)) = some group := by
      rw [← found]
      exact congrArg _ continues.key
    have same : Resource.version group = Resource.version ({ group with metadata } : Group) :=
      version.symm
    refine .within ((Attempt.ensures_replaceGroup solo there same rfl).mono ?_)
    rintro (cause | stored) after ended
    · exact ⟨id, ended.1, ended.2.2.1, ended.2.2.2⟩
    · exact ⟨ended.2.2, .inr ⟨metadata, marked, ended.1, ended.2.1⟩⟩

/-- A live group makes its plan and goes on to enact it, or the pass fails with nothing more than the
telling. -/
theorem Group.ensures_sync {group : Group} {groupClass : GroupClass}
    {parameters : ClassParameters} {secrets : KeyMap String} {space : String}
    {goal : Except PassError Action → Scene → Prop} (tidy : scene.store.Tidy)
    (found : scene.store.find? (Resource.key group) = some group)
    (inSpace : group.metadata.namespace = some space)
    (failed : ∀ error after, ¬ error.IsRefusal →
      ((∃ plan, scene.store.Intends group space plan) → conditions.LetsCallsFail) →
      group.Tells scene.store after.store → Extends Call.IsSilent scene.exchanges after.exchanges →
      goal (.error error) after)
    (goes : ∀ plan middle, scene.store.Intends group space plan → middle.store = scene.store →
      Extends Call.IsLook scene.exchanges middle.exchanges →
      (group.enact (scene.store.list space) plan groupClass parameters secrets).Ensures conditions
        goal middle) :
    (group.sync groupClass parameters secrets).Ensures conditions goal scene := by
  -- Listing the groups is a look, which tells what is stored.
  have reads : Attempt.Reads conditions (fun error => ¬ error.IsRefusal)
      (Attempt.within PassError.cluster (.of (.ask (.listGroups space)))) :=
    (Attempt.reads_look solo (.listGroups space) trivial id fun _ => rfl).within fun _ _ => id
  have listed : scene.store.learns (Attempt.within PassError.cluster
      (.of (.ask (.listGroups space)))) = .ok (scene.store.list space) := rfl
  rw [Group.sync_eq_enact, Attempt.space_bind inSpace]
  refine .bind (reads scene) ?_ ?_
  · -- The groups of a namespace can be listed unless the call fails.
    rintro error after ⟨same, log, told | ⟨letsFail, _, ⟨⟩, other⟩⟩
    · rw [listed] at told
      cases told
    · exact failed _ after other (fun _ => letsFail) (same ▸ .nothing) log.quiet
  rintro groups after ⟨same, log, told | ⟨_, _, wrong, _⟩⟩
  · rw [listed] at told
    obtain rfl := Except.ok.inj told
    -- Making a plan looks at volumes and classes of volumes.
    refine .bind (Attempt.Reads.told solo (Attempt.reads_plan solo group _) (same ▸ found)
      (by decide) none) ?_ ?_
    · -- Either some claim cannot be placed, or a call failed.
      rintro error last ⟨⟨cause, rfl, letsFail⟩, tells, more⟩
      refine failed _ last id ?_ (same ▸ tells) (log.quiet.trans more)
      rintro ⟨plan, intends⟩
      exact letsFail ⟨plan, same ▸ intends.planned⟩
    · -- The plan is what the store tells.
      rintro plan middle ⟨learnt, kept, more⟩
      have intends : scene.store.Intends group space plan := ⟨tidy, found, inSpace, same ▸ learnt⟩
      exact goes plan middle intends (kept.trans same) (log.trans more)
  · cases wrong

/-- A refusal is told by an event, whatever becomes of it. -/
theorem Attempt.ensures_notice {ε : Type} (claim : Claim) (cause : Rejection) :
    Attempt.Ensures conditions
      (EndsEither
        (fun _ after => after.store = scene.store ∧
          GrowsByCalls [] (MembershipPlan.notices { rejected := [(claim, cause)] }) scene.exchanges
            after.exchanges ∧
          GrowsByDoings ((MembershipPlan.notices { rejected := [(claim, cause)] }).map .record)
            scene.exchanges after.exchanges)
        fun _ _ => False)
      (liftM (note (Resource.reference claim) .warning .membershipRejected cause.message) :
        Attempt ε Unit) scene := by
  -- The event is recorded or not; nobody waits for it.
  have noted : (note (Resource.reference claim) .warning .membershipRejected
      cause.message).Honours conditions .any (fun _ after => after.store = scene.store ∧
        GrowsByCalls [] (MembershipPlan.notices { rejected := [(claim, cause)] }) scene.exchanges
          after.exchanges ∧
        GrowsByDoings ((MembershipPlan.notices { rejected := [(claim, cause)] }).map .record)
          scene.exchanges after.exchanges) scene := by
    refine Program.Honours.bind (Program.honours_ask solo _ scene) ?_
    rintro answer after ⟨log, done⟩
    exact ⟨done.elim (·.2) (·.2), log ▸ .refuse rfl answer _, log ▸ .single id _⟩
  exact Program.Honours.bind noted fun _ _ ended => ended

/-- All refusals are told one after another. -/
theorem Attempt.ensures_notices {ε : Type} (rejected : List (Claim × Rejection)) :
    Attempt.Ensures conditions
      (EndsEither
        (fun _ after => after.store = scene.store ∧
          GrowsByCalls [] (MembershipPlan.notices { rejected }).reverse scene.exchanges
          after.exchanges ∧
          GrowsByDoings ((MembershipPlan.notices { rejected }).reverse.map .record) scene.exchanges
            after.exchanges)
        fun _ _ => False)
      (rejected.forM fun (claim, cause) =>
        (liftM (note (Resource.reference claim) .warning .membershipRejected cause.message) :
          Attempt ε Unit)) scene := by
  -- The induction goes along the refusals, the latest of which stands first in the log.
  induction rejected generalizing scene with
  | nil => exact .pure ⟨rfl, .refl _, .refl _⟩
  | cons entry rest ih =>
    obtain ⟨claim, cause⟩ := entry
    refine .bind (ensures_notice solo claim cause) (fun _ _ never => never) ?_
    rintro _ middle ⟨same, goes, does⟩
    refine ih.mono ?_
    -- The first refusal was told before the others.
    rintro (error | value) after ended
    · exact ended
    · obtain ⟨kept, going, doing⟩ := ended
      refine ⟨kept.trans same, ?_, ?_⟩
      · simpa [MembershipPlan.notices] using goes.trans going
      · simpa [MembershipPlan.notices] using does.trans doing

/-- Every member of a plan is marked, unless a call fails. -/
theorem Venture.Underway.ensures_protectMembers {driver : String} {venture : Venture driver}
    {own : Group} {plan : MembershipPlan}
    (underway : venture.Underway scene.store scene.exchanges own)
    (intends : scene.store.Intends own venture.space plan) (agrees : venture.plan.Agrees plan) :
    Attempt.Ensures conditions
      (Attempt.EndsEither
        (fun _ after => venture.Underway after.store after.exchanges own ∧
          scene.store.Marked .protecting (plan.members.map Member.claim) after.store ∧
          (∀ member ∈ plan.members, ∃ claim : Claim,
            after.store.find? (Resource.key member.claim) = some claim ∧ claim.isMarked = true) ∧
          Extends Call.IsSilent scene.exchanges after.exchanges)
        (venture.Fails conditions scene))
      (plan.members.forM fun member => Attempt.within .cluster member.claim.protect) scene := by
  -- Protecting the members is one case of changing marks, the release of claims being the other.
  have loop : (plan.members.forM fun member => Attempt.within PassError.cluster member.claim.protect) =
      (plan.members.map Member.claim).forM fun claim =>
        Attempt.within PassError.cluster (claim.mark .protecting) := by
    rw [List.forM_eq_forM, List.forM_eq_forM, List.forM_map]
    rfl
  -- Members are not among the refused claims.
  have apart : ∀ claim ∈ plan.members.map Member.claim, ∀ entry ∈ venture.plan.rejected,
      Resource.key claim ≠ Resource.key entry.1 :=
    fun _ known _ refused => intends.member_apart_rejected known (agrees.rejected ▸ refused)
  rw [loop]
  refine (Attempt.ensures_marks solo Marking.protecting_lawful intends.tidy
    intends.members_distinct fun _ => intends.found_member).mono ?_
  -- However far it gets, marks are all that changes.
  rintro (error | value) after ended
  · obtain ⟨letsFail, ⟨cause, rfl⟩, marked, log⟩ := ended
    exact .of_growsByCalls id (fun _ => letsFail)
      ((underway.marked marked Marking.protecting_lawful apart).of_quiet rfl log)
      (GrowsByCalls.of_quiet log)
  · obtain ⟨marked, results, log⟩ := ended
    refine ⟨(underway.marked marked Marking.protecting_lawful apart).of_quiet rfl log, marked, ?_,
      log⟩
    intro member planned
    obtain ⟨later, there, _, held⟩ :=
      (results member.claim (List.mem_map_of_mem planned)).protected
    exact ⟨later, there, held⟩

end Stages

end VolumeGroups
