import VolumeGroups.Proofs.Secrecy.Likeness

/-! A pass is discreet: whatever credentials it reads, it is alike in all but what it hands to the
driver. -/

namespace VolumeGroups

namespace Attempt

variable {one other : KeyMap String}

/-- Credentials are read alike from secrets that differ in their data. -/
theorem alike_credentials (location : SecretLocation) :
    Alike (fun _ _ => True) location.credentials location.credentials := by
  -- The location tells whether there is anything to read.
  unfold SecretLocation.credentials
  split
  · exact .pure trivial
  · rename_i name space _
    extract_lets unavailable
    have reads : Alike (ε := SecretError) Secret.Alike
        (.within unavailable (.of (.ask (.getSecret name space))))
        (.within unavailable (.of (.ask (.getSecret name space)))) :=
      .within (.read fun _ _ likewise => .done likewise)
    refine reads.bind ?_
    -- Legible secrets both have texts, so neither is refused for its data.
    intro first second alike
    obtain ⟨texts, readable⟩ := alike.legible.exists_texts name space
    obtain ⟨others, otherReadable⟩ := alike.otherLegible.exists_texts name space
    rw [readable, otherReadable]
    exact .known (.ok trivial)

/-- The content of a group is found or made alike with any credentials. -/
theorem alike_obtainContent (group : Group) (groupClass : GroupClass)
    (parameters : ClassParameters) :
    Alike Eq (group.obtainContent groupClass parameters one)
      (group.obtainContent groupClass parameters other) := by
  unfold Group.obtainContent
  -- The look-up is common to both.
  refine IsCommon.then (.within (eventless_lookupContent group).isCommon) fun found => ?_
  cases found with
  | some content => exact .pure rfl
  | none =>
    refine IsCommon.then (.within (.known (gives_any _))) fun name => ?_
    have makes : Alike Eq
        (Attempt.within PassError.driver (.of (.ask (.createDriverGroup name one parameters.driver))))
        (Attempt.within PassError.driver
          (.of (.ask (.createDriverGroup name other parameters.driver)))) :=
      .within (.create fun answer => .done (.of_eq rfl))
    refine makes.tellingOn.bind ?_
    -- What the content records is what the driver answered, whatever it was given.
    rintro created _ rfl
    refine IsCommon.then (.within (.known (gives_any _))) fun content => ?_
    refine IsCommon.then (.within (eventless_createContent content).isCommon) fun stored => ?_
    exact .pure rfl

/-- Content and driver are brought in line with a plan alike with any credentials. -/
theorem alike_furnish (group : Group) (groupClass : GroupClass) (parameters : ClassParameters)
    (plan : MembershipPlan) :
    Alike Eq (group.furnish groupClass parameters one plan)
      (group.furnish groupClass parameters other plan) := by
  unfold Group.furnish
  -- The content is the same on both sides.
  refine (alike_obtainContent group groupClass parameters).bind ?_
  rintro ⟨content, created⟩ _ rfl
  dsimp -zeta only
  extract_lets contentName
  cases content.handle? with
  | none => exact .done (.error _)
  | some handle =>
    refine IsCommon.then (eventless_rememberContent group contentName).isCommon fun own => ?_
    extract_lets finish
    -- The state of the content comes last, and it is common to both.
    have finishes : Alike Eq (finish ()) (finish ()) := by
      refine IsCommon.then (.lift (eventless_readyStatus content plan.volumeNames).isCommon)
        fun status => ?_
      refine IsCommon.then (.within (eventless_syncContent content status).isCommon) fun stored => ?_
      exact .pure rfl
    split
    · have modifies : Alike Eq
          (Attempt.within PassError.driver
            (.of (.ask (.modifyMembership handle plan.volumeIds one))))
          (Attempt.within PassError.driver
            (.of (.ask (.modifyMembership handle plan.volumeIds other)))) :=
        .within (.modify fun answer => .done (.of_eq rfl))
      exact modifies.tellingOn.bind fun _ _ _ => finishes
    · exact finishes

/-- A pass over a live group is alike with any credentials. -/
theorem alike_sync (group : Group) (groupClass : GroupClass) (parameters : ClassParameters) :
    Alike Eq (group.sync groupClass parameters one) (group.sync groupClass parameters other) := by
  rw [Group.sync_eq, Group.sync_eq]
  -- The plan is common to both.
  refine IsCommon.then (common_prepare group) ?_
  rintro ⟨groups, plan⟩
  refine (alike_furnish group groupClass parameters plan).bind ?_
  rintro furnished _ rfl
  refine IsCommon.then (eventless_syncGroup furnished.group (furnished.status plan)).isCommon
    fun later => ?_
  refine IsCommon.then (eventless_releaseClaims ..).isCommon fun _ => ?_
  exact (common_announce furnished plan later).alike

/-- The driver forgets a group alike with any credentials. -/
theorem alike_deleteAtDriver (group : Group) (handle : String) :
    Alike Eq (group.deleteAtDriver handle one) (group.deleteAtDriver handle other) := by
  unfold Group.deleteAtDriver
  -- The driver is asked on both sides, with credentials of its own for each.
  have asks : Alike (ε := PassError) (Likewise Eq)
      (.outcome (.of (.ask (.deleteDriverGroup handle one))))
      (.outcome (.of (.ask (.deleteDriverGroup handle other)))) :=
    .outcome (.delete fun answer => .done (.of_eq rfl))
  refine Alike.tellingOn (asks.bind ?_)
  -- Whether the driver knew the group decides how the pass goes on, and both were told the same.
  intro first second likewise
  rw [likewise.eq]
  cases second with
  | ok value => exact .pure rfl
  | error cause =>
    simp only
    split
    · exact .pure rfl
    · exact .done (.error _)

/-- A pass over a terminating group is alike with any credentials. -/
theorem alike_finalize (group : Group) :
    Alike Eq (group.finalize one) (group.finalize other) := by
  rw [Group.finalize_eq, Group.finalize_eq]
  split
  · -- Only the driver is shown the credentials.
    refine IsCommon.then (.within (.known (gives_any _))) fun space => ?_
    have dissolves : Alike Eq (group.dissolve one) (group.dissolve other) := by
      unfold Group.dissolve
      refine IsCommon.then (IsCommon.tellingOn (.within (eventless_lookupContent group).isCommon))
        fun content => ?_
      extract_lets finish
      split
      · exact (alike_deleteAtDriver group _).bind fun _ _ _ => .pure rfl
      · exact .pure rfl
    refine dissolves.bind ?_
    rintro content _ rfl
    refine IsCommon.then (eventless_disband group space content).isCommon fun later => ?_
    exact (eventless_depart later content).isCommon.alike
  · exact .pure rfl

end Attempt

/-- A pass over a stored group is like itself where only the data of secrets differ. -/
theorem Group.alike_advance (group : Group) (driver : String) :
    Attempt.Alike Eq (group.advance driver) (group.advance driver) := by
  unfold Group.advance
  refine Attempt.IsCommon.then (Attempt.eventless_resolveClass group).isCommon.tellingOn
    fun groupClass => ?_
  -- The class may be another driver's.
  split
  · exact .pure rfl
  · refine Attempt.IsCommon.then
      (Attempt.IsCommon.tellingOn (.within (.known (Attempt.gives_any _)))) fun parameters => ?_
    -- From here on the two passes have credentials of their own.
    have reads : Attempt.Alike (fun _ _ => True)
        (Attempt.tellingOn group .secretResolutionFailed none
          (.within .secret parameters.secret.credentials))
        (Attempt.tellingOn group .secretResolutionFailed none
          (.within .secret parameters.secret.credentials)) :=
      (Attempt.alike_credentials parameters.secret).within.tellingOn
    refine reads.bind ?_
    intro one other _
    split
    · exact Attempt.alike_finalize group
    · refine Attempt.IsCommon.then (.within (Attempt.eventless_protectGroup group).isCommon)
        fun own => ?_
      exact Attempt.alike_sync own groupClass parameters

/-- A pass is like itself where only the data of secrets differ. -/
theorem Group.alike_reconcile (seen : Group) (driver : String) :
    Attempt.Alike Eq (seen.reconcile driver) (seen.reconcile driver) := by
  unfold Group.reconcile
  refine Attempt.IsCommon.then (.within (.known (Attempt.gives_any _))) fun space => ?_
  -- The group is read by a common call.
  have looks : Attempt.IsCommon (.of (.ask (.getGroup seen.name space))) :=
    .only ⟨trivial, fun _ => trivial⟩
  refine looks.outcome.then fun answer => ?_
  cases answer with
  | ok group => exact group.alike_advance driver
  | error cause =>
    simp only
    split
    · exact .pure rfl
    · exact .done (.error _)

end VolumeGroups
