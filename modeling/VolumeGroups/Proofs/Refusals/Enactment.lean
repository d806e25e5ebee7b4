import VolumeGroups.Proofs.Refusals.Resemblance
import VolumeGroups.Proofs.Solo.Enacting

/-! How a plan is enacted alongside the same plan that refuses nothing: content and driver are brought in
line in the same way, and only what is reported on the group differs. -/

namespace VolumeGroups

/-- Groups were furnished in the same way, with contents that are the same but for version and moment. -/
structure Group.Furnished.Resembles (one other : Group.Furnished) : Prop where
  group : other.group = one.group
  content : one.content.Resembles other.content
  contentName : other.contentName = one.contentName
  handle : other.handle = one.handle
  created : other.created = one.created

/-- The states of groups that were furnished in the same way differ in what is reported on them. -/
theorem Group.Furnished.Resembles.status {one other : Group.Furnished} (resembles : one.Resembles other)
    (plan : MembershipPlan) : (one.status plan).Resembles (other.status plan.unrefused) where
  rest := by
    simp only [Furnished.status, resembles.contentName]
    rfl
  dated := resembles.content.dated

namespace Attempt

variable {start one other : Store} {gone : List String} {clock later : Time}
  {make : String → KeyMap String → KeyMap String → CreatedGroup} {ε α β γ : Type} {group : Group}

/-- What writes no group and keeps clear of some claims goes the same way in both stores, and so does what
comes after it. -/
theorem Asks.lockstep {gives : α → Prop} {attempt : Attempt ε α} {next : α → Attempt ε β}
    {rest : α → Attempt ε γ} {final : Except ε β → Store → Except ε γ → Store → Prop}
    (asks : attempt.Asks (Call.IsBelow gone) gives) (bothHold : start.BothHold gone group one other)
    (failed : ∀ error after there, start.SameButForClaims gone after there →
      final (.error error) after (.error error) there)
    (goes : ∀ value after there, start.BothHold gone group after there →
      Alongside make clock later gone final (next value) after (rest value) there) :
    Alongside make clock later gone final (attempt >>= next) one (attempt >>= rest) other := by
  -- The group in hand stays the same, so the rest begins with it on both sides.
  refine Pairs.bind (asks.holding bothHold)
    (fun error _ _ grasped => failed error _ _ grasped.toSameButForClaims) ?_
  rintro _ after value there ⟨rfl, -, grasped⟩
  exact goes value after there grasped

/-- A content is found or made in the same way in both stores. -/
theorem alongside_obtainContent (bothHold : start.BothHold gone group one other)
    (groupClass : GroupClass) (parameters : ClassParameters) (secrets : KeyMap String) :
    Alongside make clock later gone
      (Agree (fun value after result there =>
          result = value ∧ start.BothHold gone group after there)
        (start.SameButForClaims gone))
      (group.obtainContent groupClass parameters secrets) one
      (group.obtainContent groupClass parameters secrets) other := by
  unfold Group.obtainContent
  -- Nothing here reads the clock, counts claims or writes a group, so both sides go call by call.
  refine Asks.lockstep (.within (asks_lookupContent group fun _ _ => trivial)) bothHold
    (fun _ _ _ sameRest => .error sameRest) fun found after there grasped => ?_
  cases found with
  | some content => exact Program.Pairs.done (.ok ⟨rfl, grasped⟩)
  | none =>
    refine Asks.lockstep (.within (.known (gives_any _))) grasped
      (fun _ _ _ sameRest => .error sameRest)
      fun name after there grasped => ?_
    -- The driver is asked for the same group on both sides.
    have makes : Attempt.Asks (Call.IsBelow gone) (fun _ => True)
        (.within PassError.driver (.of (.ask (.createDriverGroup name secrets parameters.driver)))) :=
      .within (.only ⟨trivial, fun _ => trivial⟩)
    refine Pairs.bind ((makes.holding grasped).tellingOn
      fun _ _ grasped => grasped.toSameButForClaims)
      (fun _ _ _ sameRest => .error sameRest) ?_
    rintro created after _ there ⟨rfl, -, grasped⟩
    refine Asks.lockstep (.within (.known (gives_any _))) grasped
      (fun _ _ _ sameRest => .error sameRest)
      fun content after there grasped => ?_
    refine Asks.lockstep (.within (asks_createContent content trivial fun _ _ => trivial)) grasped
      (fun _ _ _ sameRest => .error sameRest) fun stored after there grasped => ?_
    exact Program.Pairs.done (.ok ⟨rfl, grasped⟩)

/-- The name of the content is recorded in both stores. -/
theorem alongside_rememberContent (bothHold : start.BothHold gone group one other)
    (contentName : String) : Alongside make clock later gone
      (Agree (fun value after result there => result = value ∧
        start.BothHold gone value after there ∧ Resource.key value = Resource.key group) fun _ _ => False)
      (group.rememberContent contentName) one (group.rememberContent contentName) other := by
  -- The name is written only if the group does not show it.
  unfold Group.rememberContent
  split
  · exact Program.Pairs.done (.ok ⟨rfl, bothHold, rfl⟩)
  · refine .within (Pairs.imp (alongside_replaceGroup bothHold (.refl _) rfl rfl) ?_
      fun _ _ never => never)
    rintro value after _ there ⟨rfl, rfl, -, grasped⟩
    exact ⟨rfl, grasped, Store.key_stamped ..⟩

/-- What a pass does to the state of a content that is ready. -/
def readying (content : Content) (volumeNames : List String) : Attempt PassError Content := do
  let status ← content.readyStatus volumeNames
  within .content (content.syncStatus status)

/-- Showing that a content is ready neither goes to the driver nor writes a claim. -/
theorem asks_readying (content : Content) (volumeNames : List String) :
    Asks (fun request => request.isLabour = false) (fun _ => True) (readying content volumeNames) := by
  exact .bind (.lift (asks_readyStatus content volumeNames rfl)) fun status _ =>
    .within (asks_syncStatus content status rfl)

/-- A content with no moment recorded gets the moment that the clock shows. -/
theorem run_readying {store : Store} {content : Content}
    (undated : content.status.bind ContentStatus.creationTime = none) (volumeNames : List String) :
    (readying content volumeNames).run.run (Store.serving make clock) store =
      let status := { creationTime := some clock, ready := some true, volumeNames }
      let (answer, after) := store.replaceStatus { content with status := some status }
      (answer.mapError fun cause => .content (.cluster cause), after) := by
  -- The state differs, since it had no moment, so it is written.
  have other : content.status ≠
      some { creationTime := some clock, ready := some true, volumeNames } := by
    intro same
    rw [same] at undated
    cases undated
  -- The clock is read by one call.
  have asks : content.readyStatus volumeNames = .call .readClock fun time =>
      .done { creationTime := some time, ready := some true, volumeNames } := by
    unfold Content.readyStatus Content.creationTime
    rw [undated]
    rfl
  have written : content.syncStatus { creationTime := some clock, ready := some true, volumeNames } =
      within .cluster (.of (.ask (.replaceContentStatus { content with
        status := some { creationTime := some clock, ready := some true, volumeNames } }))) :=
    if_neg other
  unfold readying
  rw [asks]
  show (within PassError.content (content.syncStatus _)).run.run (Store.serving make clock) store = _
  rw [written]
  rcases answered : store.replaceStatus { content with
    status := some { creationTime := some clock, ready := some true, volumeNames } } with
    ⟨answer, after⟩
  -- What is left is a single call, whose answer is in terms of contents.
  have served : Store.serving make clock store (.replaceContentStatus _) = _ := answered
  show Program.run (Store.serving make clock) store (.call (.replaceContentStatus _) _) = _
  rw [Program.run, served]
  simp only [answered]
  cases answer <;> rfl

/-- A content shows that it is ready in both stores, with some moment in each. -/
theorem alongside_readying (bothHold : start.BothHold gone group one other) (content : Content)
    (volumeNames : List String) :
    Alongside make clock later gone
      (Agree (fun value after result there => value.Resembles result ∧
        start.BothHoldAlike gone group after there) (start.SameButForClaims gone))
      (readying content volumeNames) one (readying content volumeNames) other := by
  cases recorded : content.status.bind ContentStatus.creationTime with
  | some time =>
    -- The moment is recorded, so the clock is not read.
    have known : content.readyStatus volumeNames =
        .done { creationTime := some time, ready := some true, volumeNames } := by
      unfold Content.readyStatus Content.creationTime
      rw [recorded]
      rfl
    have same : readying content volumeNames = within .content
        (content.syncStatus { creationTime := some time, ready := some true, volumeNames }) := by
      unfold readying
      rw [known]
      rfl
    rw [same]
    refine Pairs.imp ((asks_syncStatus content _ trivial).within.holding bothHold) ?_
      fun _ _ grasped => grasped.toSameButForClaims
    rintro _ after value there ⟨rfl, -, grasped⟩
    exact ⟨.refl _, grasped.bothHoldAlike⟩
  | none =>
    -- The clocks may differ, so the two writes differ, but neither is a labour.
    have idle := asks_readying content volumeNames
    refine Program.Pairs.of_idle (idle.labours_eq_nil (fun _ => id) _)
      (idle.labours_eq_nil (fun _ => id) _) ?_
    rw [run_readying recorded, run_readying recorded]
    obtain ⟨⟨rfl, kept⟩, held, live⟩ := bothHold
    -- Both writes start from the same stored version, so both are carried out or neither is.
    have current (status : ContentStatus) :
        (one.withoutClaims gone).current ({ content with status := some status } : Content) =
          one.current content := rfl
    have currentOne (status : ContentStatus) :
        one.current ({ content with status := some status } : Content) = one.current content := rfl
    simp only [Store.replaceStatus, current, currentOne]
    cases one.current content with
    -- A write that fails leaves both stores as they are.
    | error cause => exact .error ⟨rfl, kept⟩
    -- What is written differs in the moment only.
    | ok stored =>
      simp only [Store.overwrite_fst]
      let shown (time : Time) : Content :=
        { content with status := some { creationTime := some time, ready := some true, volumeNames } }
      have alike : (Stored.withStatusOf stored (shown clock)).Resembles
          (Stored.withStatusOf stored (shown later)) := ⟨rfl, rfl, .some ⟨rfl, rfl⟩⟩
      exact .ok ⟨⟨rfl, rfl, alike.status⟩,
        Store.BothHold.overwrite_content ⟨⟨rfl, kept⟩, held, live⟩ alike rfl⟩

/-- Content and driver are brought in line with a plan in the same way in both stores. -/
theorem alongside_furnish (bothHold : start.BothHold gone group one other) (groupClass : GroupClass)
    (parameters : ClassParameters) (secrets : KeyMap String) (plan : MembershipPlan) :
    Alongside make clock later gone
      (Agree (fun furnished after given there => furnished.Resembles given ∧
        start.BothHoldAlike gone furnished.group after there ∧
        Resource.key furnished.group = Resource.key group) (start.SameButForClaims gone))
      (group.furnish groupClass parameters secrets plan) one
      (group.furnish groupClass parameters secrets plan) other := by
  unfold Group.furnish
  -- The content is the same on both sides, and so is its handle.
  refine Pairs.bind (alongside_obtainContent bothHold groupClass parameters secrets)
    (fun _ _ _ sameRest => .error sameRest) ?_
  rintro _ after ⟨content, created⟩ there ⟨rfl, grasped⟩
  cases known : content.handle? with
  | none =>
    simp only [known]
    exact Program.Pairs.done (.error grasped.toSameButForClaims)
  | some handle =>
    simp only [known]
    refine Pairs.then (alongside_rememberContent grasped _) ?_
    rintro _ after own there ⟨rfl, grasped, place⟩
    -- Whether the driver is told or not, the state of the content comes last.
    have finishes {after there : Store} (grasped : start.BothHold gone own after there) :
        Alongside make clock later gone
          (Agree (fun (furnished : Group.Furnished) after given there => furnished.Resembles given ∧
            start.BothHoldAlike gone furnished.group after there ∧
            Resource.key furnished.group = Resource.key group) (start.SameButForClaims gone))
          (readying content plan.volumeNames >>= fun shown =>
            pure ⟨own, shown, Resource.displayName content, handle, created⟩) after
          (readying content plan.volumeNames >>= fun shown =>
            pure ⟨own, shown, Resource.displayName content, handle, created⟩) there := by
      refine Pairs.bind (alongside_readying grasped content plan.volumeNames)
        (fun _ _ _ sameRest => .error sameRest) ?_
      rintro shown after given there ⟨alike, bothHoldAlike⟩
      exact Program.Pairs.done (.ok ⟨⟨rfl, alike, rfl, rfl, rfl⟩, bothHoldAlike, place⟩)
    simp only [readying, bind_assoc] at finishes
    split
    · -- The driver hears of the same members.
      have tells : Attempt.Asks (Call.IsBelow gone) (fun _ => True)
          (.within PassError.driver (.of (.ask (.modifyMembership handle plan.volumeIds secrets)))) :=
        .within (.only ⟨trivial, fun _ => trivial⟩)
      refine Pairs.bind ((tells.holding grasped).tellingOn
        fun _ _ grasped => grasped.toSameButForClaims)
        (fun _ _ _ sameRest => .error sameRest) ?_
      rintro _ after _ there ⟨rfl, -, grasped⟩
      exact finishes grasped
    · -- There is nothing to tell the driver.
      exact finishes grasped

/-- Content and driver are not brought in line for other reasons than refusals. -/
theorem fails_furnish (group : Group) (groupClass : GroupClass) (parameters : ClassParameters)
    (secrets : KeyMap String) (plan : MembershipPlan) :
    (group.furnish groupClass parameters secrets plan).Fails fun error => ¬ error.IsRefusal := by
  -- None of the calls on the way can be a refusal.
  have obtains : (group.obtainContent groupClass parameters secrets).Fails
      fun error => ¬ error.IsRefusal := by
    unfold Group.obtainContent
    refine .bind (.within (.any _) fun _ _ => id) fun found => ?_
    split
    · exact .pure
    · refine .bind (.within (.any _) fun _ _ => id) fun name => ?_
      refine .bind (.tellingOn (.within (.any _) fun _ _ => id)) fun created => ?_
      refine .bind (.within (.any _) fun _ _ => id) fun content => ?_
      exact .bind (.within (.any _) fun _ _ => id) fun stored => .pure
  have remembers (contentName : String) :
      (group.rememberContent contentName).Fails fun error => ¬ error.IsRefusal := by
    unfold Group.rememberContent
    split
    · exact .pure
    · exact .within (.any _) fun _ _ => id
  unfold Group.furnish
  refine .bind obtains fun obtained => ?_
  obtain ⟨content, created⟩ := obtained
  cases known : content.handle? with
  | none =>
    simp only [known]
    exact .throw id
  | some handle =>
    simp only [known]
    refine .bind (remembers _) fun own => ?_
    -- The content shows its state at the end of either branch.
    have finishes : Fails (fun error => ¬ error.IsRefusal)
        (readying content plan.volumeNames >>= fun shown =>
          pure (⟨own, shown, Resource.displayName content, handle, created⟩ : Group.Furnished)) :=
      .bind (.bind .lift fun _ => .within (.any _) fun _ _ => id) fun _ => .pure
    simp only [readying, bind_assoc] at finishes
    split
    · exact .bind (.tellingOn (.within (.any _) fun _ _ => id)) fun _ => finishes
    · exact finishes

end Attempt

end VolumeGroups
