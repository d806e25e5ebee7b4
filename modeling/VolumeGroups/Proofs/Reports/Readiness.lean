import VolumeGroups.Proofs.Records.Acknowledgement
import VolumeGroups.Proofs.Recovery.Convergence
import VolumeGroups.Proofs.Reports.Telling

/-! When a group and its content agree that the group is ready: as long as the driver did what it was asked
to do last. -/

namespace VolumeGroups

/-- The group of a content is recorded there as ready. -/
def Content.isReady (content : Content) : Prop :=
  content.status.bind ContentStatus.ready = some true

/-- The driver did what it was asked to do last. -/
def Obeyed (log : List Exchange) : Prop :=
  ∃ exchange rest, driven log = exchange :: rest ∧ exchange.failure? = none

/-- A failure that says nothing of readiness leaves it as it was. -/
theorem GroupStatus.ready_failed (previous : Option GroupStatus) (message : String)
    (ready : Option Bool) :
    (GroupStatus.failed previous message ready).ready =
      ready.or (previous.bind GroupStatus.ready) := by
  cases previous <;> rfl

/-- Whether the driver did what it was asked to do last does not change while it is asked nothing. -/
theorem GrowsByWarnings.obeyed_iff {told warned : List Event} {before after : List Exchange}
    (log : GrowsByWarnings [] told warned before after) : Obeyed after ↔ Obeyed before := by
  rw [Obeyed, Obeyed, log.driven, List.nil_append]

namespace Group

/-- Between passes a group lies where its key says, its content does too, and the content is not taken for
ready unless the group is ready exactly if the driver did what it was asked to do last. -/
structure InStep (own : Group) (now : Scene) : Prop where
  found : now.store.find? (Resource.key own) = some own
  contentInPlace : own.ContentInPlace now.store
  agrees : ∀ content : Content, now.store.find? own.contentKey = some content →
    content.isReady → (own.isReady ↔ Obeyed now.exchanges)

/-- What lies where a group looks for its content lies where a later form of it looks that goes by the same
name of a content. -/
theorem Continues.liesFor {own later : Group} (continues : own.Continues later)
    (names : later.contentName = own.contentName) {content : Content} (lies : content.LiesFor own) :
    content.LiesFor later :=
  ⟨names ▸ lies.toIsShelved, (continues.contentKey names).symm ▸ lies.key⟩

/-- A later form of a group that goes by the same name of a content is in step if its content lies where
it should and agrees. -/
theorem InStep.of_continues {own later : Group} {now : Scene} (continues : own.Continues later)
    (names : later.contentName = own.contentName)
    (found : now.store.find? (Resource.key own) = some later)
    (agrees : ∀ content : Content, now.store.find? own.contentKey = some content →
      content.LiesFor own ∧ (content.isReady → (later.isReady ↔ Obeyed now.exchanges))) :
    later.InStep now := by
  -- The later form lies in the same place and points to the same content.
  have place : Resource.key later = Resource.key own := continues.metadata.key
  have room : later.contentKey = own.contentKey := continues.contentKey names
  refine ⟨place.symm ▸ found, fun content there => ?_, fun content there => ?_⟩
  · exact continues.liesFor names (agrees content (room ▸ there)).1
  · exact (agrees content (room ▸ there)).2

/-- The content that a pass finds before it writes any state was there before if it is taken for ready. -/
theorem Midway.agrees {own later : Group} {calls : List Exchange} {told : List Event}
    {start now : Scene} (midway : own.Midway later calls told start now) (inStep : own.InStep start)
    {content : Content} (there : now.store.find? own.contentKey = some content) :
    content.LiesFor own ∧
      (content.isReady → calls = [] ∧ (own.isReady ↔ Obeyed start.exchanges)) := by
  refine ⟨midway.liesFor inStep.contentInPlace there, fun ready => ?_⟩
  rcases midway.stocks with ⟨same, none⟩ | ⟨-, made, -, found, blank, -⟩
  · exact ⟨none, inStep.agrees content ((congrArg (Table.get? · _) same).symm.trans there) ready⟩
  · -- A content that was just made has no state at all.
    obtain rfl := Option.some.inj (found.symm.trans there)
    rw [Content.isReady, blank] at ready
    cases ready

/-- Wherever a pass over a live group ends, the group is in step again if it was before. -/
theorem Account.inStep {own : Group} {start final : Scene} {result : Except PassError Action}
    (account : own.Account start result final) (inStep : own.InStep start) :
    ∃ later, own.Continues later ∧ later.contentName = own.contentName ∧ later.InStep final := by
  -- The cases are the ways in which the pass may end.
  cases account with
  -- Nothing was stated, so the group and the log agree as before.
  | @silent later calls told _ _ midway =>
    have names := midway.names inStep.contentInPlace
    refine ⟨later, midway.continues, names, .of_continues midway.continues names midway.found ?_⟩
    intro content there
    obtain ⟨lies, agrees⟩ := midway.agrees inStep there
    refine ⟨lies, fun ready => ?_⟩
    obtain ⟨rfl, same⟩ := agrees ready
    rw [Group.isReady, midway.status, midway.log.obeyed_iff]
    exact same
  | @told before _ _ _ _ _ midway _ tellsForGood =>
    obtain ⟨later, found, continues, spec, stated⟩ := tellsForGood.found
    have names := (continues.contentName spec).trans (midway.names inStep.contentInPlace)
    have further := midway.continues.trans continues
    refine ⟨later, further, names, .of_continues further names (midway.key ▸ found) ?_⟩
    intro content there
    -- What was told leaves the contents as they were.
    obtain ⟨lies, agrees⟩ := midway.agrees inStep
      ((congrArg (Table.get? · _) tellsForGood.contents).symm.trans there)
    refine ⟨lies, fun ready => ?_⟩
    -- What was told says nothing of readiness.
    rw [Group.isReady, stated, Option.bind_some, GroupStatus.ready_failed, Option.none_or,
      midway.status, tellsForGood.log.obeyed_iff, midway.log.obeyed_iff]
    exact (agrees ready).2
  | @refused before calls _ exchange _ _ middle _ midway drives fails tellsForGood =>
    obtain ⟨later, found, continues, spec, stated⟩ := tellsForGood.found
    have names := (continues.contentName spec).trans (midway.names inStep.contentInPlace)
    have further := midway.continues.trans continues
    refine ⟨later, further, names, .of_continues further names (midway.key ▸ found) ?_⟩
    intro content there
    obtain ⟨lies, -⟩ := midway.agrees inStep
      ((congrArg (Table.get? · _) tellsForGood.contents).symm.trans there)
    refine ⟨lies, fun _ => ?_⟩
    -- The group says that it is not ready, and the driver refused what it was asked to do last.
    have disobeyed : ¬ Obeyed (exchange :: middle.exchanges) := by
      rintro ⟨last, rest, log, worked⟩
      rw [driven, List.filter_cons_of_pos drives] at log
      obtain ⟨rfl, -⟩ := List.cons.inj log
      simp [worked] at fails
    rw [Group.isReady, stated, Option.bind_some, GroupStatus.ready_failed, Option.some_or,
      tellsForGood.log.obeyed_iff]
    exact iff_of_false (by simp) disobeyed
  -- A content in place is not astray.
  | astray stray => exact absurd inStep.contentInPlace stray
  | @settled furnished later _ _ _ _ _ settles found continues spec stated ready _ contents log =>
    have names := (continues.contentName spec).trans (settles.names inStep.contentInPlace)
    have further := settles.continues.trans continues
    refine ⟨later, further, names, .of_continues further names found ?_⟩
    -- The content that is stored is the one that the pass has settled.
    obtain ⟨stocked, readied, lies⟩ := settles.content inStep.contentInPlace
    intro content there
    obtain rfl := Option.some.inj
      (stocked.symm.trans ((congrArg (Table.get? · _) contents).symm.trans there))
    refine ⟨lies, fun _ => ?_⟩
    -- The group says that it is ready, and the driver did what it was asked to do last.
    obtain ⟨exchange, calls, goes, worked⟩ := settles.log
    rw [Group.isReady, stated, log.obeyed_iff]
    exact ⟨fun _ => ⟨exchange, _, goes.driven, worked⟩, fun _ => ready⟩

/-- A pass over a group that is live and in step leaves it in step. -/
theorem InStep.pass {driver : String} {own : Group} {before after : Scene} (inStep : own.InStep before)
    (named : own.metadata.name.isSome) (live : own.isTerminating = false)
    (passes : (Conditions.fickle driver).Passes own before after) :
    ∃ later, own.Continues later ∧ later.contentName = own.contentName ∧ later.InStep after := by
  obtain ⟨seen, result, sights, plays⟩ := passes
  have place : seen.place = Resource.key own := sights.place named
  -- Looks of the pass leave the group in step, as they drive nothing.
  have keeps (middle : Scene) (same : middle.store = before.store)
      (looks : Extends Call.IsLook before.exchanges middle.exchanges) : own.InStep middle := by
    have quiet := GrowsByWarnings.of_tacit (looks.mono fun _ => Call.IsLook.isTacit)
    refine ⟨same ▸ inStep.found, same ▸ inStep.contentInPlace, fun content there ready => ?_⟩
    rw [quiet.obeyed_iff]
    exact inStep.agrees content (same ▸ there) ready
  -- The pass ends before it has read the group, or it gives an account of the group that is stored.
  have ends : (seen.reconcile driver).Ensures (.fickle driver)
      (fun _ now => ∃ later, own.Continues later ∧ later.contentName = own.contentName ∧
        later.InStep now) before := by
    rcases Option.eq_none_or_eq_some seen.metadata.namespace with inSpace | ⟨space, inSpace⟩
    · -- What was seen is in no namespace, so nothing is read.
      unfold Group.reconcile
      rw [Group.namespace, inSpace]
      exact .throw ⟨own, .refl own, rfl, inStep⟩
    · refine Group.ensures_reconcile (Conditions.fickle_solo driver) inSpace ?_ ?_ ?_
      · -- The group is gone.
        exact fun after _ same looks => ⟨own, .refl own, rfl, keeps after same looks⟩
      · -- The group could not be read.
        exact fun _ after _ same looks => ⟨own, .refl own, rfl, keeps after same looks⟩
      · intro stored middle there same looks
        -- What was read is what is stored.
        obtain rfl := Option.some.inj ((place ▸ there).symm.trans inStep.found)
        refine (ensures_accounts live (same ▸ inStep.found)).mono ?_
        exact fun _ _ account => account.inStep (keeps middle same looks)
  exact plays.goal ends

end Group

/-- Where passes over a live group that has no content yet have the cluster to themselves and only the
driver fails, at will, the group and its content agree after every pass as long as the driver did what it
was asked to do last: if the content then takes the group for ready, the group does so exactly in that
case. -/
theorem ready_iff_obeyed {driver : String} {group : Group} {start : Store} {log : List Exchange}
    {final : Scene} (found : start.find? (Resource.key group) = some group)
    (named : group.metadata.name.isSome) (live : group.isTerminating = false)
    (absent : start.find? group.contentKey = (none : Option Content))
    (run : Relation.ReflTransGen ((Conditions.fickle driver).Passes group) ⟨start, log⟩ final) :
    ∃ own : Group, final.store.find? (Resource.key group) = some own ∧ group.Continues own ∧
      own.contentKey = group.contentKey ∧
      ∀ content : Content, final.store.find? group.contentKey = some content → content.isReady →
        (own.isReady ↔ Obeyed final.exchanges) := by
  have inStep : ∃ own, group.Continues own ∧ own.contentName = group.contentName ∧
      own.InStep final := by
    -- The induction goes along the passes, each of which finds the group in step.
    induction run with
    | refl =>
      -- At first there is no content that could disagree.
      refine ⟨group, .refl group, rfl, found, fun content there => ?_, fun content there => ?_⟩
      all_goals
        rw [absent] at there
        cases there
    | tail _ passes ih =>
      obtain ⟨own, continues, names, inStep⟩ := ih
      -- The pass is one over the group as it is by now.
      obtain ⟨seen, result, sights, plays⟩ := passes
      have still : own.metadata.name.isSome := by
        rw [continues.metadata]
        exact named
      have sightsOwn : own.Sights seen :=
        ⟨sights.name.trans continues.name.symm, sights.namespace.trans continues.namespace.symm⟩
      obtain ⟨later, further, same, stays⟩ := inStep.pass still
        (continues.isTerminating.trans live) ⟨seen, result, sightsOwn, plays⟩
      exact ⟨later, continues.trans further, same.trans names, stays⟩
  obtain ⟨own, continues, names, inStep⟩ := inStep
  have place : Resource.key own = Resource.key group := continues.metadata.key
  have room : own.contentKey = group.contentKey := continues.contentKey names
  exact ⟨own, place ▸ inStep.found, continues, room, fun content there =>
    inStep.agrees content (room.symm ▸ there)⟩

namespace Sample

/-- A pass over the group whose claim has yet to join. -/
def welcomed : Rehearsal := Rehearsal.pass { store := stocked } "driver" group

/-- The driver refuses to take members. -/
def refusedMembers : Disturbance Edit where
  method := .modifyMembership
  fault := some (.status 14 "away")

/-- Another pass over the group, in which the driver refuses. -/
def rebuffed : Rehearsal :=
  Rehearsal.pass { welcomed with disturbances := [refusedMembers] } "driver" group

/-- The refusal is a failure of the driver. -/
theorem fits_refusedMembers : Rehearsal.Fits (.fickle "driver") [refusedMembers] := by
  intro disturbance known
  obtain rfl := List.mem_singleton.mp known
  refine ⟨rfl, ?_⟩
  rintro fault ⟨⟩ request answer failed
  refine ⟨?_, Call.failsWith_of_failWith? failed⟩
  cases request <;> trivial

end Sample

/-- After the first pass over a group the content takes the group for ready, and the group is ready since the
driver took its members. -/
theorem ready_when_welcomed : ∃ (final : Scene) (own : Group) (content : Content),
    Sample.stocked.find? (Resource.key Sample.waiting) = some Sample.waiting ∧
      Sample.waiting.metadata.name.isSome ∧ Sample.waiting.isTerminating = false ∧
      Sample.stocked.find? Sample.waiting.contentKey = (none : Option Content) ∧
      (Conditions.fickle "driver").Passes Sample.waiting ⟨Sample.stocked, []⟩ final ∧
      final.store.find? (Resource.key Sample.waiting) = some own ∧
      final.store.find? Sample.waiting.contentKey = some content ∧
      content.isReady ∧ (own.isReady ↔ Obeyed final.exchanges) := by
  -- The hypotheses hold of the sample.
  have found : Sample.stocked.find? (Resource.key Sample.waiting) = some Sample.waiting := by
    decide +kernel
  have named : Sample.waiting.metadata.name.isSome := by decide +kernel
  have live : Sample.waiting.isTerminating = false := by decide +kernel
  have absent : Sample.stocked.find? Sample.waiting.contentKey = (none : Option Content) := by
    decide +kernel
  have sights : Sample.waiting.Sights Sample.group := by constructor <;> decide +kernel
  -- The rehearsal is a pass that the conditions allow.
  obtain ⟨log, plays, -⟩ := Rehearsal.plays_pass (.fickle "driver") { store := Sample.stocked }
    Sample.group [] (.nil _) rfl
  have pass : (Conditions.fickle "driver").Passes Sample.waiting ⟨Sample.stocked, []⟩
      ⟨Sample.welcomed.store, log⟩ := ⟨_, _, sights, plays⟩
  -- What the content says after it is computed.
  obtain ⟨content, there, ready⟩ : ∃ content ∈ (Sample.welcomed.store.find? Sample.waiting.contentKey :
      Option Content), content.status.bind ContentStatus.ready = some true := by
    decide +kernel
  obtain ⟨own, stored, -, -, agrees⟩ := ready_iff_obeyed found named live absent (.single pass)
  exact ⟨_, own, content, found, named, live, absent, pass, stored, there, ready,
    agrees content there ready⟩

/-- After a pass in which the driver refused, the group is not ready any more, and yet its content still
takes it for ready. -/
theorem content_ready_when_rebuffed : ∃ (first final : Scene) (own : Group) (content : Content),
    Sample.stocked.find? (Resource.key Sample.waiting) = some Sample.waiting ∧
      Sample.stocked.find? Sample.waiting.contentKey = (none : Option Content) ∧
      (Conditions.fickle "driver").Passes Sample.waiting ⟨Sample.stocked, []⟩ first ∧
      (Conditions.fickle "driver").Passes Sample.waiting first final ∧
      final.store.find? (Resource.key Sample.waiting) = some own ∧ own.isTerminating = false ∧
      final.store.find? Sample.waiting.contentKey = some content ∧
      content.isReady ∧ ¬ own.isReady := by
  have sights : Sample.waiting.Sights Sample.group := by constructor <;> decide +kernel
  -- In the first pass the driver takes the members.
  obtain ⟨log, plays, told⟩ := Rehearsal.plays_pass (.fickle "driver") { store := Sample.stocked }
    Sample.group [] (.nil _) rfl
  -- In the second one it refuses them.
  obtain ⟨full, again, -⟩ := Rehearsal.plays_pass (.fickle "driver")
    { Sample.welcomed with disturbances := [Sample.refusedMembers] } Sample.group log
    Sample.fits_refusedMembers told
  -- What group and content say after that is computed.
  obtain ⟨own, stored, live, unready⟩ : ∃ own ∈ (Sample.rebuffed.store.find?
      (Resource.key Sample.waiting) : Option Group),
      own.isTerminating = false ∧ own.status.bind GroupStatus.ready ≠ some true := by
    decide +kernel
  obtain ⟨content, there, ready⟩ : ∃ content ∈ (Sample.rebuffed.store.find? Sample.waiting.contentKey :
      Option Content), content.status.bind ContentStatus.ready = some true := by
    decide +kernel
  exact ⟨⟨Sample.welcomed.store, log⟩, ⟨Sample.rebuffed.store, full⟩, own, content, by decide +kernel,
    by decide +kernel, ⟨_, _, sights, plays⟩, ⟨_, _, sights, again⟩, stored, live, there, ready,
    unready⟩

end VolumeGroups
