import VolumeGroups.Proofs.Refusals.Enactment

/-! How a pass ends alongside the same pass without the claims that its group refuses: with the same
writes, a state of the group that differs in its error, and the refusals in place of success. -/

namespace VolumeGroups

/-- A group that a store holds is stored with a state. -/
structure Group.Restated (own : Group) (status : GroupStatus) (before : Store) (stored : Group)
    (after : Store) : Prop where
  claims : after.claims = before.claims
  contents : after.contents = before.contents
  grounds : after.grounds = before.grounds
  groups : ∀ key ≠ Resource.key own, after.find? key = (before.find? key : Option Group)
  found : after.find? (Resource.key own) = some stored
  metadata : own.metadata.Resembles stored.metadata
  spec : stored.spec = own.spec
  status : stored.status = some status

/-- How a pass that refuses claims ends alongside one that has none to refuse: both fail in the same way, or
the one succeeds where the other ends as its plan says, with the refusals reported on the group. -/
structure Store.Outcome (start : Store) (plan : MembershipPlan) (place : String)
    (result : Except PassError Action) (after : Store) (reply : Except PassError Action)
    (there : Store) : Prop where
  resembles : start.Resembles plan.refusedKeys place after there
  ends : (∃ error, ¬ error.IsRefusal ∧ result = .error error ∧ reply = .error error) ∨
    (reply = .ok .awaitChange ∧ result = plan.verdict ∧ ∃ (own : Group) (status : GroupStatus),
      after.find? place = some own ∧ own.status = some status ∧
        status.error = plan.rejectionMessage.map fun message => { message := some message })

namespace Attempt

variable {start one other : Store} {gone : List String} {clock later : Time}
  {make : String → KeyMap String → KeyMap String → CreatedGroup} {own : Group}

/-- A live group that a store holds gets its state. -/
theorem run_syncStatus (make : String → KeyMap String → KeyMap String → CreatedGroup) (clock : Time)
    {store : Store} (held : store.find? (Resource.key own) = some own)
    (live : own.isTerminating = false) (status : GroupStatus) :
    ∃ stored after, (own.syncStatus status).run.run (Store.serving make clock) store =
      (.ok stored, after) ∧ own.Restated status store stored after := by
  unfold Group.syncStatus
  split
  · -- The group has that state already.
    rename_i same
    exact ⟨own, store, rfl, rfl, rfl, rfl, fun _ _ => rfl, held, rfl, rfl, same⟩
  · let written : Group := { own with status := some status }
    -- The group in hand is as it is stored, so the write is not refused.
    have done : store.replaceStatus written = store.overwrite written := Store.replaceStatus_eq held rfl
    have kept : written.metadata.isForsaken = false :=
      (show own.metadata.Continues written.metadata from rfl).held live
    obtain ⟨claims, rest⟩ := Prod.mk.inj (Store.apart_of_groups.overwrite store written)
    obtain ⟨contents, grounds⟩ := Prod.mk.inj rest
    refine ⟨store.stamped written, (store.overwrite written).2, ?_, claims, contents, grounds, ?_, ?_,
      rfl, rfl, rfl⟩
    · have served : Store.serving make clock store (.replaceGroupStatus written) = (_, _) :=
        done.trans (Prod.ext (Store.overwrite_fst _ _) rfl)
      show Program.run (Store.serving make clock) store (.call (.replaceGroupStatus written) _) = _
      rw [Program.run, served]
      rfl
    · intro key apart
      rw [Store.find?_overwrite]
      exact if_neg apart
    · exact Store.find?_overwrite_self kept

/-- Two groups that were abreast get states that resemble each other. -/
theorem alongside_syncStatus (bothHoldAlike : start.BothHoldAlike gone own one other)
    {status given : GroupStatus} (alike : status.Resembles given) :
    Alongside make clock later gone
      (Agree (fun stored after last there => last.name = stored.name ∧
        start.Resembles gone (Resource.key own) after there ∧
        (∀ key ∉ gone, there.find? key = (after.find? key : Option Claim)) ∧
        after.find? (Resource.key own) = some stored ∧ stored.status = some status)
        fun _ _ => False)
      (own.syncStatus status) one (own.syncStatus given) other := by
  have idle (status : GroupStatus) :
      Asks (fun request => request.isLabour = false) (fun _ => True) (own.syncStatus status) := by
    unfold Group.syncStatus
    split
    · exact .pure trivial
    · exact .within (.only ⟨rfl, fun _ => trivial⟩)
  -- One store may be written where the other is not, since the states differ.
  have held : other.find? (Resource.key own) = some own :=
    (Store.find?_of_groups bothHoldAlike.groups _).trans bothHoldAlike.held
  obtain ⟨stored, after, run, restated⟩ :=
    run_syncStatus make clock bothHoldAlike.held bothHoldAlike.live status
  obtain ⟨last, there, runOther, restatedOther⟩ :=
    run_syncStatus make later held bothHoldAlike.live given
  refine Program.Pairs.of_idle ((idle status).labours_eq_nil (fun _ => id) _)
    ((idle given).labours_eq_nil (fun _ => id) _) ?_
  rw [run, runOther]
  -- Claims and contents are left alone by either write.
  have unclaimed (key : String) : after.find? key = (one.find? key : Option Claim) :=
    Store.find?_of_claims restated.claims key
  have unclaimedOther (key : String) : there.find? key = (other.find? key : Option Claim) :=
    Store.find?_of_claims restatedOther.claims key
  have claims (key : String) (stays : key ∉ gone) :
      there.find? key = (after.find? key : Option Claim) := by
    rw [unclaimed, unclaimedOther, bothHoldAlike.claims key stays]
  have metadata : stored.metadata.Resembles last.metadata := by
    rw [Metadata.Resembles, restated.metadata]
    exact restatedOther.metadata
  have name : last.name = stored.name := by
    rw [Group.name, metadata]
    rfl
  refine .ok ⟨name, ⟨?_, ?_, ?_, ?_, ?_, ?_, ?_⟩, claims, restated.found, restated.status⟩
  · rw [restatedOther.grounds, restated.grounds, bothHoldAlike.grounds]
  · -- The group is the same but for the error that it shows.
    rw [restated.found, restatedOther.found]
    refine .some ⟨metadata, restatedOther.spec.trans restated.spec.symm, ?_⟩
    rw [restated.status, restatedOther.status]
    exact .some alike
  · -- No other group was written.
    intro key apart
    rw [restated.groups key apart, restatedOther.groups key apart]
    exact Store.find?_of_groups bothHoldAlike.groups key
  · intro key
    rw [Store.find?_of_contents restated.contents, Store.find?_of_contents restatedOther.contents]
    exact bothHoldAlike.contents key
  · intro key stays
    rw [claims key stays]
    exact rel_self .refl _
  · intro key removed
    rw [unclaimedOther, bothHoldAlike.absent key removed]
  · intro key removed
    rw [unclaimed, bothHoldAlike.kept key removed]

/-- What only tells something in one store takes no labour there and leaves both stores alone. -/
theorem alongside_pure {driver : String} {ε α β : Type} {gives : α → Prop} {attempt : Attempt ε α}
    (asks : attempt.Asks Call.IsIdle gives)
    (ensures : attempt.Ensures (.undisturbed driver)
      (EndsEither (fun _ after => after.store = one) fun _ _ => False) ⟨one, []⟩) (value : β) :
    Alongside make clock later gone
      (Agree (fun _ after _ there => one = after ∧ other = there) fun _ _ => False)
      attempt one (pure value) other := by
  have ended := ensures.serving make clock
  refine Program.Pairs.of_idle (asks.labours_eq_nil (fun _ => Call.IsIdle.isLabour) _) rfl ?_
  -- What the run ends with is all that matters.
  generalize attempt.run.run (Store.serving make clock) one = ran at ended ⊢
  obtain ⟨outcome, after⟩ := ran
  cases outcome with
  | error error => exact ended.elim
  | ok value => exact .ok ⟨ended.symm, rfl⟩

/-- An announcement ends as the plan says, and leaves the store alone. -/
theorem run_announce (furnished : Group.Furnished) (plan : MembershipPlan) (stored : Group)
    (store : Store) :
    (furnished.announce plan stored).run.run (Store.serving make clock) store =
      (plan.verdict, store) := by
  -- What holds where nothing disturbs holds of a store that serves every call.
  have announces : Attempt.Ensures (.undisturbed "") _ (furnished.announce plan stored) ⟨store, []⟩ :=
    ensures_announce (Conditions.undisturbed_solo "") furnished plan stored
  obtain ⟨verdict, same, -⟩ := announces.serving make clock
  exact Prod.ext verdict same

/-- Members are marked by writes of other claims than those that are refused. -/
theorem asks_protectMembers {store : Store} {space : String} {plan : MembershipPlan}
    (intends : store.Intends own space plan) :
    Asks (Call.IsBelow plan.refusedKeys) (fun _ => True)
      (plan.members.forM fun member => within PassError.cluster member.claim.protect) := by
  -- A member is no refused claim, and its key stays under the mark.
  refine .forM fun member planned => .within ?_
  unfold Claim.protect
  split
  · exact .pure trivial
  · rename_i metadata added
    have stays : Resource.key member.claim ∉ plan.refusedKeys :=
      MembershipPlan.not_mem_refusedKeys fun _ =>
        intends.member_apart_rejected (List.mem_map_of_mem planned)
    have place : Resource.key ({ member.claim with metadata } : Claim) = Resource.key member.claim :=
      (Metadata.addFinalizer?_eq_some added).1.key
    rw [← place] at stays
    exact .bind (.only ⟨stays, fun _ => trivial⟩) fun _ _ => .pure trivial

/-- A plan is enacted alongside the same plan that refuses nothing. -/
theorem alongside_enact {space : String} {plan : MembershipPlan} (groups : List Group)
    (groupClass : GroupClass) (parameters : ClassParameters) (secrets : KeyMap String)
    (intends : one.Intends own space plan)
    (bothHold : start.BothHold plan.refusedKeys own one other) :
    Alongside make clock later plan.refusedKeys (start.Outcome plan (Resource.key own))
      (own.enact groups plan groupClass parameters secrets) one
      (own.enact groups plan.unrefused groupClass parameters secrets) other := by
  have cut {place : String} {error : PassError} {after there : Store} (other : ¬ error.IsRefusal)
      (resembles : start.Resembles plan.refusedKeys place after there) :
      start.Outcome plan place (.error error) after (.error error) there :=
    ⟨resembles, .inl ⟨error, other, rfl, rfl⟩⟩
  unfold Group.enact
  -- The refusals are told in one store only.
  refine Pairs.then (alongside_pure (.forM fun entry _ => .lift (asks_note ..))
    ((ensures_notices (Conditions.undisturbed_solo "") plan.rejected).mono ?_) ()) ?_
  · rintro (error | value) after ended
    · exact ended
    · exact ended.1
  rintro _ _ _ _ ⟨rfl, rfl⟩
  -- Members are marked, and content and driver brought in line, in the same way.
  refine Alongside.bindBlaming ((asks_protectMembers intends).holding bothHold)
    (.forM fun _ => .within (.any _) fun _ _ => id)
    (fun _ _ _ other grasped => cut other (grasped.resembles _)) ?_
  rintro _ _ _ _ ⟨rfl, -, grasped⟩
  refine Alongside.bindBlaming (alongside_furnish grasped groupClass parameters secrets plan)
    (fails_furnish ..) (fun _ _ _ other sameRest => cut other (sameRest.resembles _)) ?_
  rintro furnished after given there ⟨alike, bothHoldAlike, place⟩
  -- Here the two part, since one group tells of refusals and the other does not.
  rw [← place, alike.group]
  refine Pairs.then (alongside_syncStatus bothHoldAlike (alike.status plan)) ?_
  rintro stored after last there ⟨name, resembles, same, found, status⟩
  -- The claims that depart are not refused either, so they are the same in both stores.
  have stays : ∀ claim ∈ plan.departed, Resource.key claim ∉ plan.refusedKeys := fun _ departs =>
    MembershipPlan.not_mem_refusedKeys fun _ => intends.departed_apart_rejected departs
  have others : last.others groups = stored.others groups := by
    rw [Group.others, Group.others, name]
  rw [others]
  refine Alongside.bindBlaming (alongside_releases (stored.others groups) intends.departed_distinct
    stays (fun claim departs => same _ (stays claim departs)) resembles rfl)
    (.forM fun _ => .within (.any _) fun _ _ => id) (fun _ _ _ => cut) ?_
  rintro _ final _ there' ⟨resembles, groups⟩
  -- The last events are told, and then only the first pass has refusals to end with.
  refine Program.Pairs.of_idle
    ((asks_announce furnished plan stored).labours_eq_nil (fun _ => Call.IsIdle.isLabour) _)
    ((asks_announce given plan.unrefused last).labours_eq_nil (fun _ => Call.IsIdle.isLabour) _) ?_
  rw [run_announce, run_announce]
  exact ⟨resembles, .inr ⟨rfl, rfl, stored, furnished.status plan,
    (Store.find?_of_groups groups _).trans found, status, rfl⟩⟩

end Attempt

end VolumeGroups
