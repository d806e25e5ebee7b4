import VolumeGroups.Proofs.Operator.Passes
import VolumeGroups.Proofs.Records.Readied

/-! A pass over a terminating group, and whole passes: all of their calls are permitted by the group that
the pass began with. -/

namespace VolumeGroups

namespace Upkeep

open Attempt

section Rules

variable {driver place : String} {group held : Group} {scene : Scene}

/-- What is known of the content of a terminating group: there is none, or it is in use. -/
structure Located (group : Group) (found : Option Content) (log : List Exchange) : Prop where
  absent : found = none → Absent group log
  inUse : ∀ content, found = some content → InUse group content log

/-- What is known of the content stays known as the log goes on. -/
theorem Located.later {found : Option Content} {calls : Call → Prop} {before after : List Exchange}
    (located : Located group found before) (goes : Extends calls before after) :
    Located group found after where
  absent none := (located.absent none).later goes
  inUse content same := (located.inUse content same).later goes

/-- The driver deletes the group that a content records. -/
theorem honours_deleting {content : Content} {handle : String} {secrets : KeyMap String}
    (holding : Holding group held scene.exchanges) (inUse : InUse group content scene.exchanges)
    (named : content.handle? = some handle) :
    Honours (.unruly driver) (Upkeep place).promise
      (Ends fun _ after => Holding group held after.exchanges ∧
        Extends (fun _ => True) scene.exchanges after.exchanges)
      -- The handle is recorded in a content of the group.
      (held.deleteAtDriver handle secrets) scene := by
  have allowed : Upkeep place scene.exchanges (.deleteDriverGroup handle secrets) :=
    .inr ⟨group, holding.origin, holding.unstated, content, inUse, named⟩
  -- The answer is kept whatever it is, as one of the failures counts as success.
  have asking : Honours (.unruly driver) (Upkeep place).promise
      (fun result after => HoldsForm group held after.exchanges ∧ Ends (fun answer after =>
        after.exchanges = ⟨.deleteDriverGroup handle secrets, answer⟩ :: scene.exchanges) result after)
      (outcome (of (.ask (.deleteDriverGroup handle secrets))) :
        Attempt PassError (Except DriverError Unit)) scene := by
    refine .outcome (.of (Program.Honours.mono ?_ (Program.honours_next allowed)))
    exact fun _ after told => ⟨told.1 ▸ holding.toHoldsForm.cons rfl, told.1⟩
  unfold Group.deleteAtDriver
  refine honours_telling group (by simp) (.bind asking
    (fun _ _ reached => ⟨reached.1, trivial⟩) ?_)
  rintro answer deleted ⟨holdsForm, log⟩
  replace log : deleted.exchanges =
    ⟨.deleteDriverGroup handle secrets, answer⟩ :: scene.exchanges := log
  have goes : Extends (fun _ => True) scene.exchanges deleted.exchanges := log ▸ .single trivial
  -- The deletion is done, or the driver fails.
  split
  · exact .pure ⟨holdsForm, log ▸ holding.drive rfl id id, goes⟩
  · split
    · -- That the driver does not know the group is as good as its deletion.
      rename_i cause missing
      refine .pure ⟨holdsForm, log ▸ holding.drive rfl id ?_, goes⟩
      simp [Exchange.IsRefusal, missing]
    · exact .throw ⟨holdsForm, trivial⟩

/-- The first stage of a terminating group tells what its content is. -/
theorem honours_dissolving {secrets : KeyMap String} (holding : Holding group held scene.exchanges)
    (shares : group.SharesContentIdentity held) :
    Honours (.unruly driver) (Upkeep place).promise
      (Ends fun found after => Holding group held after.exchanges ∧
        Located group found after.exchanges)
      (held.dissolve secrets) scene := by
  unfold Group.dissolve
  have passively : Asks Call.IsPassive (fun _ => True) held.lookupContent :=
    asks_lookupContent held fun _ _ => trivial
  -- The lookup tells whether there is a content, and if so, that it is in use.
  have looking : Honours (.unruly driver) (Upkeep place).promise
      (fun result after => HoldsForm group held after.exchanges ∧
        Ends (fun found after => Holding group held after.exchanges ∧
          Located group found after.exchanges) result after) held.lookupContent scene := by
    refine ((honours_lookingUp shares holding.origin).both
      (honours_passive passively holding.origin)).mono ?_
    rintro result after ⟨found, _, goes⟩
    refine ⟨(holding.passive goes).toHoldsForm, ?_⟩
    cases result with
    | error error => trivial
    | ok content => exact ⟨holding.passive goes, found.1, found.2⟩
  -- A failed lookup is told on the group, and nothing else is done.
  refine .then (honours_telling group nofun (.retold looking)) ?_
  rintro found looked ⟨holding, located⟩
  extract_lets finish
  -- The driver is told only if the content records a handle.
  split
  · rename_i handle named
    obtain ⟨content, rfl, named⟩ := Option.bind_eq_some_iff.mp named
    refine .then (honours_deleting holding (located.inUse content rfl) named) ?_
    exact fun _ deleted reached => .pure ⟨reached.1, located.later reached.2⟩
  · exact .pure ⟨holding, located⟩

/-- A terminating group that has listed members is written without them, and is in hand as it is
written. -/
theorem honours_forgetting (holding : Holding group held scene.exchanges)
    (terminating : group.isTerminating = true) :
    Honours (.unruly driver) (Upkeep place).promise
      (Ends fun later after => HoldsForm group later after.exchanges ∧
        Extends (fun _ => True) scene.exchanges after.exchanges)
      held.forgetMembers scene := by
  unfold Group.forgetMembers
  -- A group that lists nobody is not written.
  split
  · exact .pure ⟨holding.toHoldsForm, .refl _⟩
  · rename_i status recorded
    split
    · exact .pure ⟨holding.toHoldsForm, .refl _⟩
    -- The written state is the old one without the members.
    · have forgets : held.Forgets { status with claimNames := [] } := ⟨status, recorded, rfl⟩
      refine .told (.of (Program.Honours.mono ?_ (Program.honours_next (.inr ⟨group,
        holding.origin, held, _, holding.latest, rfl,
        .inr (.inl ⟨terminating, holding.unrefused, forgets⟩)⟩))))
      rintro answer after ⟨log, _⟩
      cases answer with
      | error cause => trivial
      | ok later =>
        refine ⟨⟨log ▸ (Extends.cons _ _).origin? holding.origin, ?_⟩, log ▸ .single trivial⟩
        exact log ▸ rfl

/-- The second stage of a terminating group has its form in hand that lists no members any more. -/
theorem honours_disbanding {space : String} {found : Option Content}
    (holding : Holding group held scene.exchanges) (inSpace : group.metadata.namespace = some space)
    (terminating : group.isTerminating = true) (located : Located group found scene.exchanges) :
    Honours (.unruly driver) (Upkeep place).promise
      (Ends fun later after => HoldsForm group later after.exchanges ∧
        Located group found after.exchanges)
      (held.disband space found) scene := by
  unfold Group.disband
  -- The claims are counted first, to know which of them are owed their release.
  extract_lets volumeNames
  refine .then (.told (.ends (.of (Program.honours_next (.inr ⟨group, holding.origin, trivial⟩))))) ?_
  rintro claims counting ⟨log, _⟩
  have goes : Extends Call.IsPassive scene.exchanges counting.exchanges := log ▸ .single trivial
  replace holding := holding.passive goes
  replace located := located.later goes
  have counted : ⟨.listClaims space, .ok claims⟩ ∈ counting.exchanges := log ▸ List.mem_cons_self ..
  -- The group lists nobody any more before the first of its claims is released.
  refine .then (honours_forgetting holding terminating) ?_
  rintro later forgotten ⟨holdsForm, forgetting⟩
  -- Other groups are read after the group has forgotten its members, so it is not among those that
  -- list a claim.
  refine .then (.told (.ends (.of (Program.honours_next (.inr
    ⟨group, holdsForm.origin, trivial⟩))))) ?_
  rintro groups looked ⟨log, _⟩
  replace holdsForm : HoldsForm group later looked.exchanges := log ▸ holdsForm.cons rfl
  have looking : Extends (fun _ => True) forgotten.exchanges looked.exchanges :=
    log ▸ .single trivial
  replace goes := forgetting.trans looking
  -- Only counted claims are owed.
  refine .then (honours_releasing holdsForm.origin inSpace (goes.mem counted) fun claim owed =>
    (List.mem_filter.mp owed).1) ?_
  rintro _ released releasing
  exact .pure ⟨holdsForm.aside releasing, (located.later goes).later releasing⟩

/-- A content in use loses its mark if it has one. -/
theorem honours_freeing {content : Content} (origin : origin? scene.exchanges = some group)
    (terminating : group.isTerminating = true) (inUse : InUse group content scene.exchanges) :
    Honours (.unruly driver) (Upkeep place).promise
      (Ends fun _ after => Extends Call.IsAside scene.exchanges after.exchanges ∧
        Released content after.exchanges)
      content.release scene := by
  unfold Content.release
  -- A content without the mark is not written.
  split
  · rename_i kept
    exact .pure ⟨.refl _, .inl (Metadata.removeFinalizer?_eq_none kept)⟩
  -- Only a content that was in use and had the mark is written.
  · rename_i metadata removed
    have allowed : Upkeep place scene.exchanges (.replaceContent { content with metadata }) :=
      .inr ⟨group, origin, content, metadata, terminating, inUse, removed, rfl⟩
    refine .dropped (.of (Program.Honours.mono ?_ (Program.honours_next allowed)))
    rintro answer after ⟨log, _⟩
    cases answer with
    | error cause => trivial
    | ok stored =>
      exact ⟨log ▸ .single trivial, .inr ⟨metadata, stored, removed, log ▸ List.mem_cons_self ..⟩⟩

/-- A content in use loses its mark and is deleted. -/
theorem honours_discarding {content : Content} (holdsForm : HoldsForm group held scene.exchanges)
    (terminating : group.isTerminating = true) (inUse : InUse group content scene.exchanges) :
    Honours (.unruly driver) (Upkeep place).promise
      (Ends fun _ after => HoldsForm group held after.exchanges ∧
        AbsentOrReleased group after.exchanges)
      content.delete scene := by
  unfold Content.delete
  -- The mark comes off before the deletion, which would only set a marked content to terminate.
  refine .then (honours_freeing holdsForm.origin terminating inUse).told ?_
  rintro _ released ⟨goes, free⟩
  extract_lets name space
  have allowed : Upkeep place released.exchanges (.deleteContent name space) :=
    .inr ⟨group, goes.origin? holdsForm.origin, content, terminating, inUse.later goes, rfl⟩
  have deleting : Honours (.unruly driver) (Upkeep place).promise
      (Ends fun _ after => Extends Call.IsAside released.exchanges after.exchanges)
      (outcome (of (.ask (.deleteContent name space))) :
        Attempt ContentError (Except ClusterError Unit)) released := by
    refine .outcome (.of (Program.Honours.mono ?_ (Program.honours_next allowed)))
    rintro answer after ⟨log, _⟩
    exact (log ▸ .single trivial : Extends Call.IsAside released.exchanges after.exchanges)
  refine .then deleting ?_
  intro answer deleted deleting
  -- However the deletion ends, the mark is off.
  have relinquished : HoldsForm group held deleted.exchanges ∧
      AbsentOrReleased group deleted.exchanges :=
    ⟨holdsForm.aside (goes.trans deleting),
      .inr ⟨content, inUse.later (goes.trans deleting), free.later deleting⟩⟩
  -- That the content is gone already is as good as its deletion.
  split
  · exact .pure relinquished
  · split
    · exact .pure relinquished
    · exact .throw trivial

/-- The last stage of a terminating group takes its mark off once its content is given up. -/
theorem honours_departing {found : Option Content} (holdsForm : HoldsForm group held scene.exchanges)
    (terminating : group.isTerminating = true) (located : Located group found scene.exchanges) :
    Honours (.unruly driver) (Upkeep place).promise (Ends fun _ _ => True)
      (held.depart found) scene := by
  unfold Group.depart
  extract_lets finish
  -- Whether the content was discarded or was never there, the mark of the group goes last.
  have finishes (gone : Scene) (holdsForm : HoldsForm group held gone.exchanges)
      (relinquished : AbsentOrReleased group gone.exchanges) :
      Honours (.unruly driver) (Upkeep place).promise (Ends fun _ _ => True) (finish ()) gone := by
    have releasing : Honours (.unruly driver) (Upkeep place).promise (Ends fun _ _ => True)
        held.release gone := by
      -- A group without the mark is not written any more.
      unfold Group.release
      split
      · exact .pure trivial
      · rename_i metadata freed
        have allowed : Upkeep place gone.exchanges (.replaceGroup { held with metadata }) :=
          .inr ⟨group, holdsForm.origin, held, holdsForm.latest,
            .inr (.inr ⟨metadata, terminating, relinquished, freed, rfl⟩)⟩
        refine .dropped (.of (Program.Honours.mono ?_ (Program.honours_next allowed)))
        exact fun answer _ _ => gives_any answer
    exact .then releasing.told fun _ _ _ => .pure trivial
  -- There is a content to discard, or none was found in the first place.
  cases found with
  | some content =>
    refine .then (honours_discarding holdsForm terminating (located.inUse content rfl)).told ?_
    exact fun _ gone reached => finishes gone reached.1 reached.2
  | none => exact finishes scene holdsForm (.inl (located.absent rfl))

/-- A pass over a terminating group makes calls that the group permits. -/
theorem honours_finalizing {secrets : KeyMap String} (holding : Holding group group scene.exchanges)
    (terminating : group.isTerminating = true) :
    Honours (.unruly driver) (Upkeep place).promise (Ends fun _ _ => True)
      (group.finalize secrets) scene := by
  -- A pass over a group without the mark does nothing.
  rw [Group.finalize_eq]
  split
  -- The three stages follow one another, each on the group that the one before has in hand.
  · refine .then (honours_namespace group) ?_
    rintro space scene ⟨rfl, inSpace⟩
    refine .then (honours_dissolving holding (.refl group)) ?_
    rintro found dissolved ⟨holding, located⟩
    refine .then (honours_disbanding holding inSpace terminating located) ?_
    exact fun later disbanded reached => honours_departing reached.1 terminating reached.2
  · exact .pure trivial

/-- A live group that was read gets its mark, and goes by the same content with it. -/
theorem honours_protecting (holding : Holding group group scene.exchanges)
    (live : group.isTerminating = false) :
    Honours (.unruly driver) (Upkeep place).promise
      (Ends fun own after => Holding group own after.exchanges ∧ group.SharesContentIdentity own)
      group.protect scene := by
  unfold Group.protect
  -- A group that has the mark is not written.
  split
  · exact .pure ⟨holding, .refl group⟩
  · rename_i metadata added
    obtain ⟨continues, _, _⟩ := Metadata.addFinalizer?_eq_some added
    have allowed : Upkeep place scene.exchanges (.replaceGroup { group with metadata }) :=
      .inr ⟨group, holding.origin, group, holding.latest, .inl ⟨metadata, live, added, rfl⟩⟩
    refine .of (Program.Honours.mono ?_ (Program.honours_next allowed))
    rintro answer after ⟨log, possible⟩
    cases answer with
    | error cause => trivial
    | ok own =>
      -- What is stored goes by the same content, since only a mark was added.
      refine ⟨log ▸ holding.bring _ own, .of_continues ?_ possible.specification⟩
      exact continues.trans possible.continues.metadata

/-- A pass over a group that was read makes calls that the group permits. -/
theorem honours_advancing (holding : Holding group group scene.exchanges) :
    Honours (.unruly driver) (Upkeep place).promise (Ends fun _ _ => True)
      (group.advance driver) scene := by
  unfold Group.advance
  -- Up to the branch on deletion the pass only reads, so the group in hand stays the one that was
  -- read.
  refine .then (honours_tellingPassive nofun holding ((asks_resolveClass group).mono
    (fun _ idle => idle.isPassive) fun _ => id)) ?_
  rintro groupClass resolved ⟨_, resolving⟩
  replace holding := holding.passive resolving
  -- A class of another driver ends the pass.
  split
  · exact .pure trivial
  · refine .then (honours_tellingPassive nofun holding (.within (.known (gives_any _)))) ?_
    rintro parameters checked ⟨_, checking⟩
    replace holding := holding.passive checking
    refine .then (honours_tellingPassive nofun holding
      (.within ((asks_credentials parameters.secret).mono (fun _ idle => idle.isPassive)
        fun _ => id))) ?_
    rintro secrets read ⟨_, reading⟩
    replace holding := holding.passive reading
    -- From here on the pass takes the group down or brings it in line.
    split
    · rename_i terminating
      exact honours_finalizing holding terminating
    · rename_i live
      replace live : group.isTerminating = false := by simpa using live
      -- From here on the group in hand may be another form of the one that was read.
      refine .then (honours_protecting holding live).told ?_
      rintro own marked ⟨holding, shares⟩
      exact honours_syncing holding shares live

/-- A pass makes calls that the group it began with permits. -/
theorem honours_reconciling (seen : Group) (start : Store) :
    Honours (.unruly driver) (Upkeep seen.place).promise (Ends fun _ _ => True)
      (seen.reconcile driver) ⟨start, []⟩ := by
  unfold Group.reconcile
  -- The pass can begin only with a namespace.
  refine .then (honours_namespace seen) ?_
  rintro space _ ⟨rfl, inSpace⟩
  have place : space ++ "/" ++ seen.name = seen.place := by
    rw [Group.place, (inSpace : seen.metadata.namespace = some space)]
    rfl
  -- The first call reads the group under the key.
  have reading : Honours (.unruly driver) (Upkeep seen.place).promise
      (Ends fun answer after => after.exchanges = [⟨.getGroup seen.name space, answer⟩])
      (outcome (of (.ask (.getGroup seen.name space))) :
        Attempt PassError (Except ClusterError Group)) ⟨start, []⟩ :=
    .outcome (.of (Program.Honours.mono (fun _ _ told => told.1)
      (Program.honours_next (.inl ⟨rfl, seen.name, space, rfl, place⟩))))
  refine .then reading ?_
  rintro answer read log
  replace log : read.exchanges = [⟨.getGroup seen.name space, answer⟩] := log
  -- The group is there, it is gone, or the store fails.
  split
  · rename_i group
    -- The only call so far has read the group.
    refine honours_advancing ⟨⟨log ▸ rfl, log ▸ rfl⟩, ?_, ?_⟩
    · simp [Unstated, log, Call.States]
    · simp [Unrefused, log, Exchange.IsRefusal]
  · split
    · exact .pure trivial
    · exact .throw trivial

end Rules

end Upkeep

end VolumeGroups
