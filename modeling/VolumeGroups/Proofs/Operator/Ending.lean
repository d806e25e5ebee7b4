import VolumeGroups.Proofs.Operator.Live

/-! The pass over a terminating group: it forgets its members before it lets their claims go, and
loses its own mark last. -/

namespace VolumeGroups

namespace Attempt

variable {conditions : Conditions} {key : String} {scene : Scene}

/-- A terminating group that forgot its members is known, and nothing else changed. -/
theorem honours_forgetMembers {group : Group} (harmless : conditions.Harmless)
    (regular : scene.store.Regular) (knows : conditions.Knows group scene.store)
    (terminating : group.isTerminating = true) (marked : group.isMarked = true) :
    Honours conditions (conditions.Moves (Resource.key group))
      (Ends fun later after => after.store.Regular ∧ scene.store.Since after.store ∧
        conditions.Knows later after.store ∧ group.Continues later ∧ later.members = [])
      group.forgetMembers scene := by
  unfold Group.forgetMembers
  -- There is something to write only if the group has a state that names members.
  split
  · rename_i none
    exact .pure ⟨regular, .refl _, knows, .refl _, by simp [Group.members, none]⟩
  · rename_i status recorded
    split
    · rename_i nothing
      refine .pure ⟨regular, .refl _, knows, .refl _, ?_⟩
      simpa [Group.members, recorded] using nothing
    · refine .told (.of (Program.Honours.ask ?_))
      intro met waits answer after answers
      have calm := harmless.waits regular waits
      rcases answers.replaceGroupStatus harmless (knows.recalls.later calm.since.groups) with
        ⟨error, rfl, unchanged⟩ | ⟨found, rfl, wrote⟩
      · exact ⟨.keep (unchanged ▸ .refl _), trivial⟩
      · have move : Store.Move conditions.driver (Resource.key group) met.store after.store := by
          rw [wrote]
          exact .forget found terminating rfl
        have ordered := move.regular calm.regular
        have shrinks : met.store.Since after.store := by
          rw [wrote]
          exact .overwrite_group calm.regular _ found rfl (by simp [Group.members])
        -- The mark of the group holds it, so it is still there.
        have there : after.store.find? (Resource.key group) = some (met.store.stamped
            { group with status := some { status with claimNames := [] } }) := by
          rw [wrote]
          exact Store.find?_overwrite_self (Metadata.isForsaken_of_hasFinalizer marked)
        exact ⟨move, ordered, calm.since.trans shrinks, .of_found ordered there,
          ⟨rfl, rfl, rfl⟩, rfl⟩

/-- A group that disbands forgets its members, and then lets go of claims that no group lists. -/
theorem honours_disband {group : Group} {space : String} {content : Option Content}
    (harmless : conditions.Harmless) (regular : scene.store.Regular)
    (knows : conditions.Knows group scene.store) (terminating : group.isTerminating = true)
    (marked : group.isMarked = true) (inSpace : group.metadata.namespace = some space) :
    Honours conditions (conditions.Moves (Resource.key group))
      (Ends fun later after => after.store.Regular ∧ conditions.Knows later after.store ∧
        group.Continues later ∧ later.members = [])
      (group.disband space content) scene := by
  unfold Group.disband
  extract_lets volumeNames
  refine .then (honours_listClaims harmless regular space) ?_
  rintro claims counted ⟨counting, rfl⟩
  -- The members are forgotten before any of their claims is let go.
  refine .then (honours_forgetMembers harmless counting.regular
    (knows.later counting.toRecordsNoMember) terminating marked) ?_
  rintro later forgotten ⟨ordered, forgetting, known, continues, nothing⟩
  refine .then (honours_listGroups harmless ordered space) ?_
  rintro groups seen ⟨looking, rfl⟩
  have known := known.later looking.toRecordsNoMember
  refine .then (honours_releaseClaims harmless looking.regular ?_ ?_) ?_
  · -- The claims were there when they were counted.
    intro claim owed
    obtain ⟨⟨place, found⟩, _⟩ := Store.mem_list.mp (List.mem_filter.mp owed).1
    exact ((counting.regular.claims.recalls found).later forgetting.claims).later
      looking.since.claims
  · -- No group lists what is let go, neither this one nor any other that was seen.
    intro claim owed unlisted other name named listed
    obtain ⟨_, sameSpace⟩ := Store.mem_list.mp (List.mem_filter.mp owed).1
    have sameSpace : claim.metadata.namespace = some space := sameSpace
    rw [sameSpace] at listed
    by_cases own : other = later.name
    · -- The group itself lists nothing any more.
      have member : name ∈ later.members := by
        refine known.lists ?_
        rw [continues.namespace, inSpace, ← own]
        exact listed
      simp [nothing] at member
    · obtain ⟨stored, present, goes, lists⟩ := listed.exists_mem sameSpace named
      have another : stored ∈ later.others (seen.store.list space) :=
        List.mem_filter.mpr ⟨present, by simpa [goes] using own⟩
      exact List.any_eq_false.mp unlisted stored another lists
  · intro _ after releasing
    exact .pure ⟨releasing.regular, known.later releasing, continues, nothing⟩

/-- A terminating group without members may lose its mark, and is terminating and without members
afterwards if it is still there. -/
theorem honours_releaseGroup {group : Group} (harmless : conditions.Harmless)
    (regular : scene.store.Regular) (knows : conditions.Knows group scene.store)
    (terminating : group.isTerminating = true) (nothing : group.members = []) :
    Honours conditions (conditions.Moves (Resource.key group))
      (Ends fun _ after => conditions.Still →
        after.store.Settled conditions.driver (Resource.key group))
      group.release scene := by
  -- The mark is written only if it is there.
  unfold Group.release
  split
  · -- The group has no mark to lose.
    refine .pure fun still own found _ => ?_
    obtain ⟨continues, members⟩ := knows.current still found
    exact Or.inl ⟨continues.isTerminating.trans terminating, members.trans nothing⟩
  · rename_i metadata freed
    obtain ⟨continues, version, _⟩ := Metadata.removeFinalizer?_eq_some freed
    -- The write succeeds only over the group as the pass knows it.
    refine .dropped (.of (Program.Honours.ask ?_))
    intro met waits answer after answers
    have calm := harmless.waits regular waits
    rcases answers.replaceGroup harmless (knows.recalls.later calm.since.groups) continues version
      rfl with ⟨error, rfl, unchanged⟩ | ⟨found, rfl, wrote⟩
    · exact ⟨.keep (unchanged ▸ .refl _), trivial⟩
    · refine ⟨?_, fun _ own there _ => ?_⟩
      -- Other marks may hold the group, which is then still terminating and without members.
      · rw [Conditions.Moves, wrote]
        exact .close found terminating nothing freed
      · have place : Resource.key group = Resource.key (α := Group) { group with metadata } :=
          continues.key.symm
        rw [wrote, place] at there
        rcases Store.find?_overwrite_eq_some there with ⟨_, rfl⟩ | ⟨apart, _⟩
        · have later : group.Continues (met.store.stamped { group with metadata }) :=
            ⟨continues.trans rfl, rfl, rfl⟩
          exact Or.inl ⟨later.isTerminating.trans terminating, nothing⟩
        · exact absurd rfl apart

/-- A terminating group without members loses its mark after its content is gone. -/
theorem honours_depart {group : Group} {content : Option Content} (harmless : conditions.Harmless)
    (regular : scene.store.Regular) (knows : conditions.Knows group scene.store)
    (terminating : group.isTerminating = true) (nothing : group.members = []) :
    Honours conditions (conditions.Moves (Resource.key group))
      (Ends fun _ after => conditions.Still →
        after.store.Settled conditions.driver (Resource.key group))
      (group.depart content) scene := by
  unfold Group.depart
  extract_lets finish
  -- Whether there is a content to delete or not, the group stays as it is until its mark goes.
  have finishes (gone : Scene) (going : conditions.KeepsMarks scene.store gone.store) :
      Honours conditions (conditions.Moves (Resource.key group))
        (Ends fun _ after => conditions.Still →
          after.store.Settled conditions.driver (Resource.key group)) (finish ()) gone := by
    have known := knows.later going.toRecordsNoMember
    refine .then (.told (honours_releaseGroup harmless going.regular known terminating nothing)) ?_
    exact fun _ _ settled => .pure settled
  split
  · refine .then (honours_plain harmless regular (.within
      (asks_deleteContent _ (fun _ => trivial) fun _ _ => trivial))) ?_
    exact fun _ gone reached => finishes gone reached.2
  · exact finishes scene (.refl regular)

/-- A pass over a terminating group keeps its promise, and settles the group if it succeeds while
nobody else edits anything. -/
theorem honours_finalize {group : Group} {secrets : KeyMap String}
    (harmless : conditions.Harmless) (regular : scene.store.Regular)
    (knows : conditions.Knows group scene.store) (terminating : group.isTerminating = true) :
    Honours conditions (conditions.Moves (Resource.key group))
      (Ends fun _ after => conditions.Still → (group.isMarked = false → group.members = []) →
        after.store.Settled conditions.driver (Resource.key group))
      (group.finalize secrets) scene := by
  -- A group without its mark is left to itself.
  rw [Group.finalize_eq]
  split
  · rename_i marked
    -- Calls to the driver leave groups and claims alone, so the group is still known.
    refine .then (honours_namespace group) ?_
    rintro space _ ⟨rfl, inSpace⟩
    refine .then (honours_calm harmless regular knows.recalls (asks_dissolve ..)) ?_
    rintro content dissolved ⟨_, dissolving⟩
    refine .then (honours_disband harmless dissolving.regular
      (knows.later dissolving.toRecordsNoMember) terminating marked inSpace) ?_
    rintro later disbanded ⟨ordered, known, continues, nothing⟩
    have place : Resource.key later = Resource.key group := continues.metadata.key
    rw [← place]
    refine (honours_depart harmless ordered known (continues.isTerminating.trans terminating)
      nothing).imp ?_
    exact fun _ _ settled still _ => settled still
  -- Nothing is done, so a group without members is settled as it stands.
  · rename_i unmarked
    refine .pure fun still kept own found _ => ?_
    obtain ⟨continues, members⟩ := knows.current still found
    exact Or.inl ⟨continues.isTerminating.trans terminating,
      members.trans (kept (by simpa using unmarked))⟩

end Attempt

end VolumeGroups
