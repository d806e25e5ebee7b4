import VolumeGroups.Proofs.Recovery.Repetition
import VolumeGroups.Proofs.Reports.Lapses
import VolumeGroups.Proofs.Reports.Telling

/-! Which failures that last until somebody changes an object are told to everybody: all but those of a
content that cannot be used and of a group that is not in order. -/

namespace VolumeGroups

/-- Everybody can see what is wrong with a group: its state says so, and so does a warning on the group
or, where claims were refused, one on each of them. -/
structure Group.Surfaces (group : Group) (error : PassError) (now : Scene) : Prop where
  stated : ∃ (own : Group) (status : GroupStatus),
    now.store.find? (Resource.key group) = some own ∧ group.Continues own ∧
      own.status = some status ∧ status.error = some { message := some error.statusMessage }
  announced : match error with
    | .claimsRejected message => ∃ held plan, group.Continues held ∧
      Devised held plan now.exchanges ∧ plan.rejectionMessage = some message ∧
        refusals now.exchanges = plan.notices.reverse ∧
          ∀ event ∈ plan.notices, ⟨.record event, .ok ()⟩ ∈ now.exchanges
    | _ => ∃ (held : Group) (reason : Reason), group.Continues held ∧
      ⟨.record ⟨Resource.reference held, .warning, reason.name, error.statusMessage⟩, .ok ()⟩ ∈
        now.exchanges

/-- A warning on a group that was recorded is one of the warnings. -/
theorem mem_warnings {log : List Exchange} {group : Group} {reason message : String}
    (recorded : ⟨.record ⟨Resource.reference group, .warning, reason, message⟩, .ok ()⟩ ∈ log) :
    ⟨Resource.reference group, .warning, reason, message⟩ ∈ warnings log := by
  have regards : (Resource.reference group).kind = some (Resource.kind Group).name := rfl
  refine List.mem_filterMap.mpr ⟨_, recorded, ?_⟩
  simp [Exchange.warning?, regards]

/-- A failure that was told on a group surfaces, unless it is a refusal. -/
theorem Group.TellsForGood.surfaces {group own : Group} {reason : Reason} {ready : Option Bool}
    {error : PassError} {before after : Scene} (continues : group.Continues own)
    (other : ¬ error.IsRefusal)
    (tellsForGood : own.TellsForGood reason ready error.statusMessage before after) :
    group.Surfaces error after := by
  -- The state of the group tells the failure.
  obtain ⟨last, found, same, -, stated⟩ := tellsForGood.found
  have place : Resource.key own = Resource.key group := continues.metadata.key
  refine ⟨⟨last, _, place ▸ found, continues.trans same, stated, rfl⟩, ?_⟩
  -- So does the warning that was recorded last.
  have told : ⟨Resource.reference own, .warning, reason.name, error.statusMessage⟩ ∈
      warnings after.exchanges := by
    rw [tellsForGood.log.warnings]
    exact List.mem_cons_self ..
  obtain ⟨-, -, recorded⟩ := exists_of_mem_warnings told
  cases error with
  -- Refusals are announced on the claims, and they are excluded here.
  | claimsRejected => exact (other trivial).elim
  | _ => exact ⟨own, reason, continues, recorded⟩

/-- A mute failure does not surface where no warning on a group was recorded. -/
theorem Group.not_surfaces {group : Group} {error : PassError} {now : Scene} {live : Bool}
    (mute : error.IsMute live) (silent : warnings now.exchanges = []) :
    ¬ group.Surfaces error now := by
  intro surfaces
  have announced := surfaces.announced
  -- A mute failure would have to be announced by a warning on the group.
  cases error with
  | missingHandle | object | content =>
    obtain ⟨held, reason, -, recorded⟩ := announced
    have told := mem_warnings recorded
    rw [silent] at told
    cases told
  | _ => exact mute.elim

/-- A failure that lasts either surfaces, or it is mute and nobody is warned. -/
def Group.SurfacesUnlessMute (group : Group) (start : Scene) (result : Except PassError Action)
    (now : Scene) : Prop :=
  ∀ error, result = .error error → error.isConfiguration = true →
    error.IsMute (!group.isTerminating) ∧ warnings now.exchanges = warnings start.exchanges ∨
      ¬ error.IsMute (!group.isTerminating) ∧ group.Surfaces error now

/-- A pass that does not fail has nothing that would have to surface. -/
theorem Group.surfacesUnlessMute_ok (group : Group) (start now : Scene) (action : Action) :
    group.SurfacesUnlessMute start (.ok action) now := by
  rintro _ ⟨⟩

/-- A failure that may be over soon need not surface. -/
theorem PassError.IsRetriable.surfacesUnlessMute {error : PassError} (retriable : error.IsRetriable)
    (group : Group) (start now : Scene) : group.SurfacesUnlessMute start (.error error) now := by
  rintro _ ⟨⟩ configured
  rw [retriable] at configured
  cases configured

/-- Where an attempt fails for a while only, nothing is left that would have to surface. -/
theorem Attempt.Fails.surfacesUnlessMute {α : Type} {attempt : Attempt PassError α}
    (fails : attempt.Fails PassError.IsRetriable) (group : Group) (start : Scene)
    (conditions : Conditions) (scene : Scene) :
    attempt.Ensures conditions
      (EndsEither (fun _ _ => True) fun error =>
        group.SurfacesUnlessMute start (.error error)) scene := by
  refine (fails.ensures conditions scene).mono ?_
  rintro (error | _) last ended
  · exact PassError.IsRetriable.surfacesUnlessMute ended group start last
  · trivial

/-- A failure of a pass over a live group surfaces or is mute, as its account says. -/
theorem Group.Account.surfacesUnlessMute {group : Group} {start now : Scene}
    {result : Except PassError Action} (account : group.Account start result now)
    (live : group.isTerminating = false) (unwarned : refusals start.exchanges = []) :
    group.SurfacesUnlessMute start result now := by
  -- The cases are the ways in which the pass may end.
  cases account with
  | silent midway toldOrRetriable =>
    intro error failed configured
    rw [live]
    exact .inl ⟨toldOrRetriable error failed configured, midway.log.warnings⟩
  -- What was told is there for everybody to see.
  | told midway spoken tellsForGood =>
    rintro _ ⟨⟩ -
    exact .inr ⟨spoken.2 _, tellsForGood.surfaces midway.continues spoken.1⟩
  | @refused _ _ _ _ _ cause =>
    have retriable : (PassError.driver cause).IsRetriable := rfl
    exact retriable.surfacesUnlessMute group start now
  | astray _ retriable => exact retriable.surfacesUnlessMute group start now
  | @settled furnished own plan status _ _ _ settles found continues _ stated _ erred _ log devised
      recorded verdict =>
    -- The pass ends with a failure that lasts only if some claims were refused.
    rcases verdict with rfl | ⟨cause, rfl⟩
    · rw [MembershipPlan.verdict]
      cases refused : plan.rejectionMessage with
      | none => exact group.surfacesUnlessMute_ok start now _
      | some message =>
        rw [refused] at erred
        obtain ⟨exchange, calls, told, -⟩ := settles.log
        have refusals : refusals now.exchanges = plan.notices.reverse := by
          rw [log.refusals, told.refusals, unwarned, List.append_nil, List.nil_append]
        obtain ⟨held, same, made⟩ := devised
        rintro _ ⟨⟩ -
        exact .inr ⟨id, ⟨_, status, found, settles.continues.trans continues, stated, erred⟩, held, plan,
          same, made, refused, refusals, recorded⟩
    · have retriable : (PassError.cluster cause).IsRetriable := rfl
      exact retriable.surfacesUnlessMute group start now

/-- A pass over a terminating group tells that its content was made for another group, and whatever
else makes it fail may be over soon. -/
theorem Group.surfacesUnlessMute_finalize {driver : String} {group : Group} {start scene : Scene}
    (found : start.store.find? (Resource.key group) = some group)
    (terminating : group.isTerminating = true) (held : group.metadata.isForsaken = false)
    (same : scene.store = start.store) (tacit : Extends Call.IsTacit start.exchanges scene.exchanges)
    (secrets : KeyMap String) :
    (group.finalize secrets).Ensures (.fickle driver) (group.SurfacesUnlessMute start) scene := by
  -- The look-up and the driver come first.
  have dissolves : (group.dissolve secrets).Ensures (.fickle driver)
      (Attempt.EndsEither (fun _ _ => True) fun error =>
        group.SurfacesUnlessMute start (.error error))
        scene := by
    unfold Group.dissolve
    refine .bind ((Attempt.reads_lookupContent (Conditions.fickle_solo driver) group).proclaiming
      (same ▸ found) held (by decide) none) ?_ ?_
    · rintro _ after ⟨⟨cause, rfl⟩, tellsForGood⟩ error ⟨⟩ configured
      rw [terminating]
      -- Of the failures of a look-up, only that of a content of somebody else lasts.
      cases cause with
      | foreign => exact .inr ⟨Bool.false_ne_true, tellsForGood.surfaces (.refl group) id⟩
      | cluster | object => cases configured
    · rintro content after -
      refine Attempt.Fails.surfacesUnlessMute ?_ group start _ after
      split
      · exact .bind (group.retriable_deleteAtDriver _ secrets) fun _ => .pure
      · exact .pure
  rw [Group.finalize_eq]
  split
  · -- Without a namespace the pass ends at once.
    rcases Option.eq_none_or_eq_some group.metadata.namespace with inSpace | ⟨space, inSpace⟩
    · rw [Group.namespace, inSpace]
      refine .throw ?_
      rintro _ ⟨⟩ -
      exact .inl ⟨trivial, (GrowsByWarnings.of_tacit tacit).warnings⟩
    rw [Attempt.space_bind inSpace]
    refine .bind dissolves (fun _ _ => id) ?_
    rintro content middle -
    -- From here on only calls fail, none of them for want of an object that is in order.
    have goes : Attempt.Fails PassError.IsRetriable (do
        let later ← group.disband space content
        later.depart content) :=
      .bind (group.retriable_disband space content) fun later => later.retriable_depart content
    refine (goes.surfacesUnlessMute group start _ middle).mono ?_
    rintro (error | action) last ended
    · exact ended
    · exact group.surfacesUnlessMute_ok start last action
  · exact .pure (group.surfacesUnlessMute_ok start scene _)

/-- A lasting failure of a pass over a stored group surfaces or is mute. -/
theorem Group.surfacesUnlessMute_advance {driver : String} {group : Group} {start : Scene}
    (found : start.store.find? (Resource.key group) = some group)
    (held : group.metadata.isForsaken = false) (unwarned : refusals start.exchanges = []) :
    (group.advance driver).Ensures (.fickle driver) (group.SurfacesUnlessMute start) start := by
  cases live : group.isTerminating with
  | false =>
    -- While the group is live, its account says how the pass ended.
    refine (ensures_accounts live found).mono ?_
    exact fun result after account => account.surfacesUnlessMute live unwarned
  | true =>
    refine group.ensures_opens found held ?_ ?_ ?_
    · -- What is told while the pass opens surfaces.
      rintro reason error after spoken tellsForGood _ ⟨⟩ -
      exact .inr ⟨spoken.2 _, tellsForGood.surfaces (.refl group) spoken.1⟩
    · exact fun after _ _ => group.surfacesUnlessMute_ok start after _
    · intro groupClass parameters secrets middle same tacit
      simp only [live, if_true]
      -- From there on the group is finalized.
      exact surfacesUnlessMute_finalize found live held same tacit secrets

/-- A lasting failure surfaces exactly if it is not mute, if nobody was warned before. -/
theorem Group.SurfacesUnlessMute.surfaces_iff {group : Group} {start now : Scene}
    {error : PassError}
    (surfacesUnlessMute : group.SurfacesUnlessMute start (.error error) now)
    (configured : error.isConfiguration = true) (unwarned : warnings start.exchanges = []) :
    group.Surfaces error now ↔ ¬ error.IsMute (!group.isTerminating) := by
  rcases surfacesUnlessMute error rfl configured with ⟨mute, silent⟩ | ⟨spoken, surfaces⟩
  · -- A mute failure stays unsaid, as nothing was said before.
    exact ⟨fun surfaces => absurd surfaces (not_surfaces mute (silent.trans unwarned)),
      fun spoken => absurd mute spoken⟩
  · -- A failure that is not mute surfaces.
    exact ⟨fun _ => spoken, fun _ => surfaces⟩

/-- Where a pass has the cluster to itself and only the driver fails, a failure that lasts until somebody
changes an object surfaces on the stored group, whatever the store: the state of the group says what is
wrong, and so does a warning on the group or, where claims were refused, one on each of them. The only
failures that do not surface are those of a content without a handle, of an object that is not in order,
and, while the group is live, of a content that was made for another group. -/
theorem surfaces_iff_not_mute {driver : String} {start : Store} {seen group : Group}
    {error : PassError} {final : Scene} (found : start.find? seen.place = some group)
    (placed : Resource.key group = seen.place) (held : group.metadata.isForsaken = false)
    (plays : (seen.reconcile driver).run.Plays (.fickle driver) (.error error) final ⟨start, []⟩)
    (configured : error.isConfiguration = true) :
    group.Surfaces error final ↔ ¬ error.IsMute (!group.isTerminating) := by
  have surfacesUnlessMute : (seen.reconcile driver).Ensures (.fickle driver)
      (fun result now => ∃ first : Scene, warnings first.exchanges = [] ∧
        group.SurfacesUnlessMute first result now) ⟨start, []⟩ := by
    rcases Option.eq_none_or_eq_some seen.metadata.namespace with inSpace | ⟨space, inSpace⟩
    · -- What was seen is nowhere, so nothing is read.
      unfold Group.reconcile
      rw [Group.namespace, inSpace]
      refine .throw ⟨⟨start, []⟩, rfl, ?_⟩
      rintro _ ⟨⟩ -
      exact .inl ⟨trivial, rfl⟩
    · refine Group.ensures_reconcile (Conditions.fickle_solo driver) inSpace ?_ ?_ ?_
      · -- The group is gone, which is no failure.
        exact fun after _ _ _ => ⟨⟨start, []⟩, rfl, group.surfacesUnlessMute_ok _ after _⟩
      · -- A group that cannot be read may be readable soon.
        intro cause after _ _ _
        have retriable : (PassError.cluster cause).IsRetriable := rfl
        exact ⟨⟨start, []⟩, rfl, retriable.surfacesUnlessMute group _ after⟩
      · intro stored middle there same looks
        -- What was read is what is stored.
        obtain rfl := Option.some.inj (there.symm.trans found)
        have quiet := GrowsByWarnings.of_tacit (looks.mono fun _ => Call.IsLook.isTacit)
        have here : middle.store.find? (Resource.key stored) = some stored := by
          rw [same, placed]
          exact found
        refine (Group.surfacesUnlessMute_advance here held quiet.refusals).mono ?_
        exact fun result after disclosed => ⟨middle, quiet.warnings, disclosed⟩
  obtain ⟨first, unwarned, disclosed⟩ := plays.goal surfacesUnlessMute
  exact disclosed.surfaces_iff configured unwarned

/-- When a group may not take a claim that it selects, the refusal surfaces. -/
theorem refusal_surfaces : ∃ (message : String) (final : Scene),
    Sample.contested.find? Sample.rival.place = some Sample.wanting ∧
      Resource.key Sample.wanting = Sample.rival.place ∧
      Sample.wanting.metadata.isForsaken = false ∧
      (Sample.rival.reconcile "driver").run.Plays (.fickle "driver")
        (.error (.claimsRejected message)) final ⟨Sample.contested, []⟩ ∧
      Sample.wanting.Surfaces (.claimsRejected message) final := by
  -- Which message it is follows from the rehearsal.
  obtain ⟨message, told⟩ := Option.isSome_iff_exists.mp
    (by decide +kernel : (Sample.refusalIn? (Rehearsal.verdict { store := Sample.contested } "driver"
      Sample.rival)).isSome = true)
  have refuses := Sample.eq_of_refusalIn? told
  obtain ⟨log, plays, -⟩ := Rehearsal.plays_pass (.fickle "driver")
    { store := Sample.contested } Sample.rival [] (.nil _) rfl
  simp only [Conditions.fickle, refuses] at plays
  -- The hypotheses hold of the sample.
  have found : Sample.contested.find? Sample.rival.place = some Sample.wanting := by decide +kernel
  have placed : Resource.key Sample.wanting = Sample.rival.place := by decide +kernel
  have held : Sample.wanting.metadata.isForsaken = false := by decide +kernel
  exact ⟨message, _, found, placed, held, plays,
    (surfaces_iff_not_mute found placed held plays rfl).mpr id⟩

namespace Sample

/-- A content that was made for another group. -/
def intruder : Content where
  metadata := { name := some "group-content", «namespace» := some "space" }
  spec := { groupReference := some { uid := some "rival-uid" } }

/-- The cluster where the content of another group lies under the name that the group goes by. -/
def intruded : Store := (stocked.save intruder).2

end Sample

/-- When the content of another group lies under the name that a live group goes by, the pass fails for
as long as nobody changes an object, and yet the group gets no state at all and no event is recorded. -/
theorem intruder_unannounced : ∃ (group : Group) (error : PassError) (final : Scene),
    Sample.intruded.find? Sample.group.place = some group ∧ group.isTerminating = false ∧
      (Sample.group.reconcile "driver").run.Plays (.fickle "driver") (.error error) final
        ⟨Sample.intruded, []⟩ ∧
      error.isConfiguration = true ∧
      (∀ own : Group, final.store.find? Sample.group.place = some own → own.status = none) ∧
      ∀ event answer, (⟨.record event, answer⟩ : Exchange) ∉ final.exchanges := by
  -- What the pass ends with and what it leaves are computed.
  obtain ⟨group, there, live⟩ : ∃ group ∈ (Sample.intruded.find? Sample.group.place : Option Group),
      group.isTerminating = false := by
    decide +kernel
  have ended : Rehearsal.verdict { store := Sample.intruded } "driver" Sample.group =
      .error (.content (.foreign "group-content" (some "rival-uid") "uid")) := by decide +kernel
  obtain ⟨log, plays, told⟩ := Rehearsal.plays_pass (.fickle "driver")
    { store := Sample.intruded } Sample.group [] (.nil _) rfl
  have unstated : ∀ own ∈ ((Rehearsal.pass { store := Sample.intruded } "driver"
      Sample.group).store.find? Sample.group.place : Option Group), own.status = none := by
    decide +kernel
  have unsaid : ∀ exchange ∈ (Rehearsal.pass { store := Sample.intruded } "driver"
      Sample.group).exchanges, exchange.request.method ≠ .record := by
    decide +kernel
  simp only [Conditions.fickle, ended] at plays
  refine ⟨group, _, _, there, live, plays, rfl, unstated, fun event answer known => ?_⟩
  -- An event would be among the effects of the rehearsal.
  have noticed : ⟨.record event, answer⟩ ∈ Rehearsal.effects log := List.mem_filter.mpr ⟨known, rfl⟩
  exact unsaid _ (told ▸ noticed) rfl

end VolumeGroups
