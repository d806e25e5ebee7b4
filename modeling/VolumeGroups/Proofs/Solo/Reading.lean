import VolumeGroups.Proofs.Handles.Ledger
import VolumeGroups.Proofs.Operator.Passes
import VolumeGroups.Proofs.Operator.Rule

/-! What a pass learns from a store that nobody else writes to, where a call that fails may keep it
from learning anything. -/

namespace VolumeGroups

/-- Nothing is promised of any call. -/
def Promise.any : Promise := fun _ _ _ _ => True

namespace Conditions

variable (conditions : Conditions)

/-- Nobody else writes, and no call fails by taking an object for absent or existing. -/
structure Solo : Prop where
  still : conditions.Still
  honest : conditions.Honest

/-- Some call may fail otherwise than by a deletion of what the driver does not have. -/
def LetsCallsFail : Prop :=
  ∃ (request : Call) (answer : request.Answer), conditions.fails request answer ∧
    (Exchange.mk request answer).drops? = none

variable {conditions}

/-- Where nobody else writes, a call meets the scene that the call before it left. -/
theorem Still.meets (still : conditions.Still) {scene met : Scene}
    (waits : conditions.Waits scene met) : met = scene := by
  have store := still.waits waits
  have log := waits.1
  rcases scene with ⟨_, _⟩
  rcases met with ⟨_, _⟩
  simp_all

/-- Where a pass has the cluster to itself, a call meets the scene that the call before it left. -/
theorem Solo.waits (solo : conditions.Solo) {scene met : Scene} (waits : conditions.Waits scene met) :
    met = scene := solo.still.meets waits

end Conditions

/-- A call that looks at something that is stored. -/
def Call.IsLook : Call → Prop
  | .getGroup .. | .listGroups _ | .getClass _ | .getContent .. | .getSecret .. | .listClaims _
  | .getVolume _ | .getStorageClass _ => True
  | _ => False

/-- An answer that gives something is a success. -/
theorem ok_of_mem_toOption {ε α : Type} {answer : Except ε α} {value : α}
    (known : value ∈ answer.toOption) : answer = .ok value := by
  cases answer with
  | error cause => cases known
  | ok other => exact congrArg Except.ok (Option.some.inj known)

section Wider

variable {ε ε' α : Type} (wider : ε → ε')

/-- A success is the same in wider terms. -/
@[simp] theorem mapError_ok (value : α) :
    (Except.ok value : Except ε α).mapError wider = .ok value := rfl

/-- A failure is told in wider terms. -/
@[simp] theorem mapError_error (error : ε) :
    (Except.error error : Except ε α).mapError wider = .error (wider error) := rfl

end Wider

namespace Store

variable {ε ε' α β : Type}

/-- The answer that a store gives to a call. -/
def tells (store : Store) (request : Call) : request.Answer := (Rehearsal.serve { store } request).1

/-- What is learnt by an attempt whose calls a store answers. -/
def learns (store : Store) (attempt : Attempt ε α) : Except ε α :=
  (attempt.run.run (fun state request => (store.tells request, state)) ()).1

variable (store : Store)

/-- A success is learnt. -/
@[simp] theorem learns_pure (value : α) : store.learns (pure value : Attempt ε α) = .ok value := rfl

/-- A failure is learnt. -/
@[simp] theorem learns_throw (error : ε) :
    store.learns (throw error : Attempt ε α) = .error error := rfl

/-- What is known is learnt. -/
@[simp] theorem learns_known (result : Except ε α) :
    store.learns (.known result) = result := rfl

/-- What is learnt first decides what is learnt next. -/
@[simp] theorem learns_bind (attempt : Attempt ε α) (next : α → Attempt ε β) :
    store.learns (attempt >>= next) =
      (store.learns attempt).bind fun value => store.learns (next value) := by
  -- Running one program after another starts the second where the first has left off.
  have run := Program.run_bind (fun (state : Unit) request => (store.tells request, state)) ()
    attempt.run fun result => match result with
      | .ok value => (next value).run
      | .error error => .done (.error error)
  have split : store.learns (attempt >>= next) =
      ((attempt.run.bind fun result => match result with
        | .ok value => (next value).run
        | .error error => .done (.error error)).run
          (fun (state : Unit) request => (store.tells request, state)) ()).1 := rfl
  rw [split, run]
  -- An error ends both, and a value goes on.
  unfold learns
  cases (attempt.run.run (fun (state : Unit) request => (store.tells request, state)) ()).1 with
  | ok value => rfl
  | error error => rfl

/-- A changed success is learnt. -/
@[simp] theorem learns_map (change : α → β) (attempt : Attempt ε α) :
    store.learns (change <$> attempt) = (store.learns attempt).map change := by
  rw [← bind_pure_comp, learns_bind]
  cases store.learns attempt <;> rfl

/-- What is learnt in narrower terms is learnt in wider ones. -/
@[simp] theorem learns_within (wider : ε → ε') (attempt : Attempt ε α) :
    store.learns (.within wider attempt) = (store.learns attempt).mapError wider :=
  congrArg Prod.fst (Program.run_bind _ () attempt.run fun result => .done (result.mapError wider))

/-- An outcome is learnt, whichever it is. -/
@[simp] theorem learns_outcome (attempt : Attempt ε α) :
    store.learns (.outcome attempt : Attempt ε' (Except ε α)) = .ok (store.learns attempt) :=
  congrArg Prod.fst
    (Program.run_bind _ () attempt.run fun result => .done (.ok result : Except ε' (Except ε α)))

end Store

/-- A look is answered by the store and leaves it as it is. -/
theorem Call.IsLook.serves {request : Call} (look : request.IsLook) {store after : Store}
    {answer : request.Answer} (serves : store.Serves request answer after) :
    answer = store.tells request ∧ after = store := by
  cases request <;> first | exact serves | exact look.elim

/-- A failure of the cluster is an error. -/
theorem Exchange.clusterFailure?_isSome {α : Type} {answer : Except ClusterError α}
    (failed : (clusterFailure? answer).isSome) :
    ∃ cause, answer = .error cause ∧ clusterFailure? answer = some (.cluster cause) := by
  cases answer with
  | ok value => cases failed
  | error cause => exact ⟨cause, rfl, rfl⟩

/-- A failure that takes no object for absent. -/
def ClusterError.IsPlain (cause : ClusterError) : Prop := cause.isNotFound = false

namespace Attempt

variable {ε ε' α β : Type} {conditions : Conditions}

/-- Whatever the answers, an attempt ends as wished. -/
abbrev Ensures (conditions : Conditions) (goal : Except ε α → Scene → Prop)
    (attempt : Attempt ε α) (scene : Scene) : Prop :=
  Honours conditions .any goal attempt scene

/-- An attempt ends in one way if it succeeds, and in another if it fails. -/
def EndsEither (success : α → Scene → Prop) (failure : ε → Scene → Prop) : Except ε α → Scene → Prop
  | .ok value, scene => success value scene
  | .error error, scene => failure error scene

/-- An attempt whose failures are told in wider terms ends in the same scenes. -/
theorem Ensures.widened {conditions : Conditions} {success : α → Scene → Prop}
    {failure : Scene → Prop} {wider : ε → ε'} {attempt : Attempt ε α} {scene : Scene}
    (ensures : attempt.Ensures conditions (EndsEither success fun _ => failure) scene) :
    (Attempt.within wider attempt).Ensures conditions
      (EndsEither success fun error after => (∃ cause, error = wider cause) ∧ failure after)
        scene := by
  refine .within (ensures.mono ?_)
  -- Only the terms of an error differ.
  rintro (error | value) after ended
  · exact ⟨⟨error, rfl⟩, ended⟩
  · exact ended

/-- An attempt only looks at what is stored, and learns what the store tells unless a call fails, by
an error of some sort then. -/
def Reads (conditions : Conditions) (blames : ε → Prop) (attempt : Attempt ε α) : Prop :=
  ∀ scene, attempt.Ensures conditions (fun result after => after.store = scene.store ∧
    Extends Call.IsLook scene.exchanges after.exchanges ∧
    (result = scene.store.learns attempt ∨
      conditions.LetsCallsFail ∧ ∃ error, result = .error error ∧ blames error)) scene

namespace Reads

variable {blames : ε → Prop}

/-- What is known without any call is learnt. -/
theorem known (result : Except ε α) : Reads conditions blames (known result) :=
  fun _ => .known ⟨rfl, .refl _, .inl rfl⟩

/-- A success is learnt without any call. -/
theorem pure (value : α) : Reads conditions blames (Pure.pure value : Attempt ε α) :=
  fun _ => .pure ⟨rfl, .refl _, .inl rfl⟩

/-- A failure is learnt without any call. -/
theorem throw (error : ε) : Reads conditions blames (throw error : Attempt ε α) :=
  fun _ => .throw ⟨rfl, .refl _, .inl rfl⟩

/-- One attempt after another only looks if both do. -/
theorem bind {attempt : Attempt ε α} {next : α → Attempt ε β}
    (first : Reads conditions blames attempt)
    (second : ∀ value, Reads conditions blames (next value)) :
    Reads conditions blames (attempt >>= next) := by
  intro scene
  refine Honours.bind (first scene) ?_ ?_
  · -- A failure of the first attempt is what both learn.
    rintro error after ⟨same, log, learnt | ⟨letsFail, _, told, blamed⟩⟩
    · exact ⟨same, log, .inl (by rw [Store.learns_bind, ← learnt]; rfl)⟩
    · cases told
      exact ⟨same, log, .inr ⟨letsFail, error, rfl, blamed⟩⟩
  · -- A value is what the first attempt learnt, so both learn what the second does.
    rintro value after ⟨same, log, learnt | ⟨_, _, wrong, _⟩⟩
    · refine (second value after).mono ?_
      rintro result last ⟨still, more, reading⟩
      refine ⟨still.trans same, log.trans more, reading.imp_left fun reading => ?_⟩
      rw [reading, same, Store.learns_bind, ← learnt]
      rfl
    · cases wrong

/-- Failures told in wider terms come from the same looks. -/
theorem within {wider : ε → ε'} {blamesWider : ε' → Prop} {attempt : Attempt ε α}
    (reads : Reads conditions blames attempt)
    (wide : ∀ error, blames error → blamesWider (wider error)) :
    Reads conditions blamesWider (within wider attempt) := by
  refine fun scene => .within ((reads scene).mono ?_)
  -- Either outcome is the same in wider terms.
  rintro result after ⟨same, log, learnt | ⟨letsFail, error, rfl, blamed⟩⟩
  · exact ⟨same, log, .inl (by rw [learnt, Store.learns_within])⟩
  · exact ⟨same, log, .inr ⟨letsFail, wider error, rfl, wide error blamed⟩⟩

/-- What goes on after either outcome only looks if a failing call ends it. -/
theorem outcome {blamesNext : ε' → Prop} {attempt : Attempt ε α}
    {next : Except ε α → Attempt ε' β} (first : Reads conditions blames attempt)
    (second : ∀ answer, Reads conditions blamesNext (next answer))
    (failing : ∀ error, blames error → ∃ told, blamesNext told ∧
      next (.error error) = MonadExcept.throw told) :
    Reads conditions blamesNext (outcome attempt >>= next) := by
  intro scene
  have reading : Ensures conditions (fun result after => ∃ answer, result = .ok answer ∧
      after.store = scene.store ∧ Extends Call.IsLook scene.exchanges after.exchanges ∧
      (answer = scene.store.learns attempt ∨
        conditions.LetsCallsFail ∧ ∃ error, answer = .error error ∧ blames error))
      (Attempt.outcome attempt : Attempt ε' (Except ε α)) scene :=
    .outcome ((first scene).mono fun answer after ended => ⟨answer, rfl, ended⟩)
  -- An outcome is never an error, so what goes on has the answer.
  refine Honours.bind reading ?_ ?_
  · rintro error after ⟨_, wrong, _⟩
    cases wrong
  · rintro answer after ⟨_, ⟨⟩, same, log, learnt | ⟨letsFail, error, rfl, blamed⟩⟩
    · refine (second answer after).mono ?_
      rintro result last ⟨still, more, reading⟩
      refine ⟨still.trans same, log.trans more, reading.imp_left fun reading => ?_⟩
      rw [reading, same, Store.learns_bind, Store.learns_outcome, ← learnt]
      rfl
    · -- After a call that failed, the attempt fails without any further call.
      obtain ⟨told, blamedNext, ends⟩ := failing error blamed
      rw [ends]
      exact .throw ⟨same, log, .inr ⟨letsFail, told, rfl, blamedNext⟩⟩

end Reads

/-- A failing look is passed on where only an absent object is put up with. -/
theorem throws_of_isPlain {cause : ClusterError} (plain : cause.IsPlain) (told : ε)
    (missing : Attempt ε α) :
    (if cause.isNotFound then missing else throw told) = (throw told : Attempt ε α) := by
  rw [ClusterError.IsPlain] at plain
  simp [plain]

/-- What is only read is learnt, or the reading fails and leaves everything as it is. -/
theorem Reads.endsEither {blames : ε → Prop} {attempt : Attempt ε α}
    (reads : Reads conditions blames attempt) (scene : Scene) :
    attempt.Ensures conditions
      (EndsEither
        (fun value after => scene.store.learns attempt = .ok value ∧ after.store = scene.store ∧
          Extends Call.IsLook scene.exchanges after.exchanges)
        (fun error after => (scene.store.learns attempt = .error error ∨ conditions.LetsCallsFail) ∧
          after.store = scene.store ∧ Extends Call.IsLook scene.exchanges after.exchanges)) scene := by
  refine (reads scene).mono ?_
  -- A success cannot come from a failing call.
  rintro (error | value) after ⟨same, log, learnt⟩
  · exact ⟨learnt.imp Eq.symm And.left, same, log⟩
  · rcases learnt with learnt | ⟨_, _, wrong, _⟩
    · exact ⟨learnt.symm, same, log⟩
    · cases wrong

variable (solo : conditions.Solo)
include solo

/-- A look is answered by what is stored, or fails honestly. -/
theorem ensures_look {request : Call} (look : request.IsLook) (scene : Scene) :
    (Program.ask request).Honours conditions .any (fun answer after =>
      after.store = scene.store ∧ Extends Call.IsLook scene.exchanges after.exchanges ∧
        (answer = scene.store.tells request ∨
          conditions.LetsCallsFail ∧ request.FailsHonestly answer)) scene := by
  refine .ask fun met waits answer after answers => ⟨trivial, ?_⟩
  obtain rfl := solo.waits waits
  obtain ⟨log, serves | ⟨failing, same⟩⟩ := answers
  · obtain ⟨told, same⟩ := look.serves serves
    exact ⟨same, log ▸ .single look, .inl told⟩
  · -- A look is no deletion, so its failure is one that a pass does not put up with.
    refine ⟨same, log ▸ .single look, .inr ⟨⟨request, answer, failing, ?_⟩, solo.honest failing⟩⟩
    cases request <;> first | rfl | exact look.elim

/-- An attempt of a single look learns what the store answers, unless the call fails. -/
theorem reads_look (request : Call) (look : request.IsLook)
    (view : request.Answer → Except ClusterError α)
    (same : ∀ answer, (Exchange.mk request answer).failure? = Exchange.clusterFailure? (view answer)) :
    Reads conditions ClusterError.IsPlain
      (of ((Program.ask request).bind fun answer => .done (view answer))) := by
  refine fun scene => .of (Program.Honours.bind (ensures_look solo look scene) ?_)
  -- The store answers, or the call fails.
  rintro answer after ⟨kept, log, told | ⟨letsFail, failed, honest⟩⟩
  · exact ⟨kept, log, .inl (congrArg view told)⟩
  · obtain ⟨cause, told, failure⟩ := Exchange.clusterFailure?_isSome
      ((congrArg Option.isSome (same answer)).symm.trans failed)
    have plain := (honest cause ((same answer).trans failure)).1
    exact ⟨kept, log, .inr ⟨letsFail, cause, told, plain⟩⟩

/-- Credentials are only read. -/
theorem reads_credentials (location : SecretLocation) :
    Reads conditions (fun _ => True) location.credentials := by
  unfold SecretLocation.credentials
  -- Only a class that names a secret needs a look.
  split
  · exact .pure _
  · rename_i name space _
    refine .bind (.within (reads_look solo (.getSecret name space) trivial id fun _ => rfl)
      fun _ _ => trivial) fun secret => ?_
    exact .known _

/-- The content of a group is only looked up. -/
theorem reads_lookupContent (group : Group) :
    Reads conditions (fun _ => True) group.lookupContent := by
  unfold Group.lookupContent
  -- The namespace is known without a call.
  refine .bind (.within (.known _) fun _ never => never) fun space => ?_
  refine .outcome (reads_look solo (.getContent group.contentName space) trivial id fun _ => rfl)
    (fun answer => ?_) fun cause plain => ⟨.cluster cause, trivial, throws_of_isPlain plain _ _⟩
  -- That there is no content is an answer too.
  cases answer with
  | ok content =>
    exact .bind (.within (.known _) fun _ never => never) fun uid => .bind (.known _) fun _ =>
      .pure _
  | error cause =>
    simp only
    split
    · exact .pure _
    · exact .throw _

/-- Whether its class of volumes speaks against a claim is only looked up. -/
theorem reads_storageClassGuard (claim : Claim) :
    Reads conditions (fun _ => True) (storageClassGuard claim) := by
  unfold storageClassGuard
  -- A claim of no class is not guarded.
  split
  · exact .pure _
  · rename_i name _
    refine .outcome (reads_look solo (.getStorageClass name) trivial id fun _ => rfl)
      (fun answer => ?_) fun cause plain => ⟨.cluster cause, trivial, throws_of_isPlain plain _ _⟩
    cases answer with
    | ok storageClass =>
      simp only
      split
      · exact .pure _
      · exact .pure _
    | error cause =>
      simp only
      split
      · exact .pure _
      · exact .throw _

/-- The volume of a claim is only looked up. -/
theorem reads_boundVolume (claim : Claim) :
    Reads conditions (fun _ => True) (boundVolume claim) := by
  unfold boundVolume
  -- A claim that is not bound has no volume.
  split
  · exact .pure _
  · rename_i name _
    refine .bind (.within (reads_look solo (.getVolume name) trivial id fun _ => rfl)
      fun _ _ => trivial) fun volume => ?_
    split
    · exact .pure _
    · exact .throw _

/-- Where a claim stands towards a group is only looked up. -/
theorem reads_standing (group : Group) (groups : List Group) (claim : Claim) :
    Reads conditions (fun _ => True) (group.standing groups claim) := by
  unfold Group.standing
  extract_lets listed take decide
  -- What is looked up last is the volume, and before that the class of volumes of a newcomer.
  have takes : Reads conditions (fun _ => True) (take ()) := by
    refine .bind (reads_boundVolume solo claim) fun bound => ?_
    split <;> exact .pure _
  have decides (stays : Bool) : Reads conditions (fun _ => True) (decide stays) := by
    simp only [decide]
    split
    · split <;> exact .pure _
    · split
      · split
        · exact .pure _
        · refine .bind (reads_storageClassGuard solo claim) fun refusal => ?_
          split
          · exact .pure _
          · exact takes
      · exact takes
  -- A claim that cannot stay is not looked at any closer.
  split
  · exact decides false
  · exact .bind (.within (.known _) fun _ never => never) decides

/-- A plan for some claims only takes looks. -/
theorem reads_planFor (group : Group) (groups : List Group) (claims : List Claim) :
    Reads conditions (fun _ => True) (group.planFor groups claims) := by
  -- The induction goes along the claims, as the plan does.
  induction claims with
  | nil => exact .pure _
  | cons claim rest ih =>
    exact .bind (reads_standing solo group groups claim) fun standing =>
      .bind ih fun plan => .pure _

/-- A plan for all claims of a namespace only takes looks. -/
theorem reads_plan (group : Group) (groups : List Group) :
    Reads conditions (fun _ => True) (group.plan groups) := by
  refine .bind (.within (.known _) fun _ never => never) fun space => ?_
  refine .bind (.within (reads_look solo (.listClaims space) trivial id fun _ => rfl)
    fun _ _ => trivial) fun claims => ?_
  exact reads_planFor solo group groups (sortedByName claims)

end Attempt

end VolumeGroups
