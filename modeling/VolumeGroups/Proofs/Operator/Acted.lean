import VolumeGroups.Proofs.Operator.Rehearsed

/-! Runs of a pass that are acted out, one edit and one call after another, and the cluster in which two
groups compete for a claim. -/

namespace VolumeGroups

/-- What happens next while a pass runs: somebody acts, or the pass makes its next call. -/
inductive Cue where
  | act (action : UserAction)
  | call

namespace Moment

/-- The moment after a cue, where store and driver do as they are told. -/
def follow (moment : Moment) (cue : Cue) : Moment :=
  match cue, moment.pass with
  | .act action, some pass => ⟨{ moment.toScene with store := action.on moment.store }, some pass⟩
  | .call, some (.call request next) =>
    let served := Rehearsal.serve { store := moment.store } request
    ⟨⟨served.2.store, ⟨request, served.1⟩ :: moment.exchanges⟩, some (next served.1)⟩
  | _, _ => moment

/-- The moment after a cue belongs to a run, if others may act as the cue says. -/
theorem reaches_cue {conditions : Conditions} (moment : Moment) (cue : Cue)
    (allowed : ∀ action, cue = .act action →
      conditions.during moment.store (action.on moment.store)) :
    conditions.Reaches moment (moment.follow cue) := by
  -- A cue is one step of the run, or none if nothing is left to do.
  obtain ⟨scene, pass⟩ := moment
  cases cue with
  -- Somebody acts while a pass is under way; with no pass there is nobody to act between calls.
  | act action =>
    cases pass with
    | none => exact .refl
    | some pass => exact .single (.wait (allowed action rfl))
  -- A pass that is over makes no further call.
  | call =>
    cases pass with
    | none => exact .refl
    | some pass =>
      cases pass with
      | done value => exact .refl
      | call request next =>
        exact .single (.call ⟨rfl, .inl (Rehearsal.serve_serves { store := scene.store } request)⟩)

/-- A moment after some cues belongs to a run, if others may act as the cues say. -/
theorem reaches_follow {conditions : Conditions} (cues : List Cue) (moment : Moment)
    (allowed : ∀ action store, .act action ∈ cues → conditions.during store (action.on store)) :
    conditions.Reaches moment (cues.foldl follow moment) := by
  -- The induction goes along the cues.
  induction cues generalizing moment with
  | nil => exact .refl
  | cons cue rest ih =>
    have later := ih (moment.follow cue) fun action store known =>
      allowed action store (List.mem_cons_of_mem _ known)
    refine .trans (moment.reaches_cue cue ?_) later
    rintro action rfl
    exact allowed action moment.store (List.mem_cons_self ..)

/-- The call that the pass is about to make. -/
def request? (moment : Moment) : Option Call :=
  match moment.pass with
  | some (.call request _) => some request
  | _ => none

/-- A pass that is about to make a call goes on from its answer. -/
theorem eq_of_request? {moment : Moment} {request : Call} (waiting : moment.request? = some request) :
    ∃ next, moment = ⟨moment.toScene, some (.call request next)⟩ := by
  obtain ⟨scene, pass⟩ := moment
  match pass, waiting with
  | some (.call _ next), rfl => exact ⟨next, rfl⟩

/-- A call that the pass is about to make is answered as store and driver do. -/
theorem answers_of_request? {moment : Moment} (waiting : moment.request?.isSome = true) :
    ∃ (request : Call) (next : request.Answer → Program (Except PassError Action))
      (answer : request.Answer), moment.pass = some (.call request next) ∧
        ∀ conditions : Conditions, conditions.Answers moment.toScene request answer
          (moment.follow .call).toScene := by
  -- There is such a call only in the middle of a pass.
  obtain ⟨scene, pass⟩ := moment
  match pass, waiting with
  | some (.call request next), _ =>
    exact ⟨request, next, _, rfl, fun _ => ⟨rfl, .inl (Rehearsal.serve_serves _ request)⟩⟩

/-- The operator may stop at any moment. -/
theorem reaches_stopped {conditions : Conditions} (moment : Moment) :
    conditions.Reaches moment ⟨moment.toScene, none⟩ := by
  obtain ⟨scene, pass⟩ := moment
  cases pass with
  | none => exact .refl
  | some pass => exact .single .stop

end Moment

namespace Sample

/-- Another group with the default selector. -/
def rival : Group where
  metadata := { name := some "rival", «namespace» := some "space", uid := some "rival-uid" }
  spec := { className := some "class" }

/-- The labels by which a claim is the other group's. -/
def rivalLabels : Option (KeyMap String) := some (KeyMap.singleton defaultSelectorLabel "rival")

/-- The cluster with both groups and the claim, which is free. -/
def disputed : Store := (UserAction.createGroup rival).on stocked

/-- The cluster with both groups is in order. -/
theorem regular_disputed : disputed.Regular := by
  have grouped : (UserAction.createGroup rival).IsProper := ⟨rfl, rfl⟩
  exact (grouped.spares regular_stocked).regular

/-- The cluster after a pass over each group, where the first group has the claim and users have just
given it the labels of the other. -/
def contested : Store :=
  (UserAction.relabelClaim "claim" "space" rivalLabels).on
    (Rehearsal.pass (Rehearsal.pass { store := disputed } "driver" group) "driver" rival).store

end Sample

end VolumeGroups
