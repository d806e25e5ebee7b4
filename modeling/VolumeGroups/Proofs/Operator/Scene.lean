import Mathlib.Logic.Relation
import VolumeGroups.Pass
import VolumeGroups.Rehearsal

/-! The scene that a pass plays in: how its calls are answered, and what others do between them. -/

namespace VolumeGroups

/-- A call carried out by the store, the driver or the clock, with its answer and the store after
it. -/
def Store.Serves (store : Store) (request : Call) (answer : request.Answer) (after : Store) :
    Prop :=
  match request, answer with
  -- Looks tell what is stored and leave it.
  | .getGroup name space, answer => answer = store.get name space ∧ after = store
  | .listGroups space, answer => answer = .ok (store.list space) ∧ after = store
  -- Writes go through the store, which stamps or refuses them.
  | .replaceGroup group, answer => (answer, after) = store.replace group
  | .replaceGroupStatus group, answer => (answer, after) = store.replaceStatus group
  | .getClass name, answer => answer = store.get name "" ∧ after = store
  | .getContent name space, answer => answer = store.get name space ∧ after = store
  | .createContent content, answer => (answer, after) = store.create content
  | .replaceContent content, answer => (answer, after) = store.replace content
  | .replaceContentStatus content, answer => (answer, after) = store.replaceStatus content
  | .deleteContent name space, answer => (answer, after) = store.delete Content name space
  | .getSecret name space, answer => answer = store.get name space ∧ after = store
  | .listClaims space, answer => answer = .ok (store.list space) ∧ after = store
  | .replaceClaim claim, answer => (answer, after) = store.replace claim
  | .getVolume name, answer => answer = store.get name "" ∧ after = store
  | .getStorageClass name, answer => answer = store.get name "" ∧ after = store
  | .record _, answer => answer = .ok () ∧ after = store
  -- Which handle and which attributes the driver gives is the driver's affair.
  | .createDriverGroup .., answer => (∃ created, answer = .ok created) ∧ after = store
  | .deleteDriverGroup .., answer => answer = .ok () ∧ after = store
  | .modifyMembership .., answer => answer = .ok () ∧ after = store
  | .readClock, _ => after = store

/-- A rehearsal without disturbances carries calls out as a store does. -/
theorem Rehearsal.serve_serves (rehearsal : Rehearsal) (request : Call) :
    rehearsal.store.Serves request (rehearsal.serve request).1 (rehearsal.serve request).2.store := by
  -- The driver's answer is the only one that the rehearsal and not the store decides.
  cases request with
  | createDriverGroup => exact ⟨⟨_, rfl⟩, rfl⟩
  | readClock => rfl
  | _ => first | exact ⟨rfl, rfl⟩ | rfl

/-- A call may end with this answer, which tells of a failure. -/
def Call.FailsWith (request : Call) (answer : request.Answer) : Prop :=
  (Exchange.mk request answer).failure?.isSome

/-- A call may end with this answer, which tells of a failure and neither takes an object for
absent nor for existing. -/
def Call.FailsHonestly (request : Call) (answer : request.Answer) : Prop :=
  request.FailsWith answer ∧ ∀ cause, (Exchange.mk request answer).failure? = some (.cluster cause) →
    cause.isNotFound = false ∧ cause.isAlreadyExists = false

/-- A call that writes no object and neither makes nor deletes a group of the driver. -/
def Call.IsInert : Call → Prop
  | .replaceGroup _ | .replaceGroupStatus _ | .createContent _ | .replaceContent _
  | .replaceContentStatus _ | .deleteContent .. | .replaceClaim _ | .createDriverGroup ..
  | .deleteDriverGroup .. => False
  -- What only reads, tells or changes members leaves no object and no group behind.
  | _ => True

/-- A call that writes neither groups nor claims. -/
def Call.IsPlain : Call → Prop
  | .replaceGroup _ | .replaceGroupStatus _ | .replaceClaim _ => False
  | _ => True

/-- A call that neither looks at nor writes groups and claims and leaves the driver's members
alone. -/
def Call.IsApart : Call → Prop
  | .getGroup .. | .listGroups _ | .replaceGroup _ | .replaceGroupStatus _ | .listClaims _
  | .replaceClaim _ | .modifyMembership .. => False
  | _ => True

/-- A call that records an event or looks at something that a pass never writes. -/
def Call.IsIdle : Call → Prop
  | .getClass _ | .getSecret .. | .getVolume _ | .getStorageClass _ | .record _ | .readClock => True
  | _ => False

/-- What has nothing to do with groups and claims does not write them. -/
theorem Call.IsApart.isPlain {request : Call} (apart : request.IsApart) : request.IsPlain := by
  cases request <;> trivial

/-- What is idle writes nothing. -/
theorem Call.IsIdle.isInert {request : Call} (idle : request.IsIdle) : request.IsInert := by
  cases request <;> trivial

/-- What is idle has nothing to do with groups and claims. -/
theorem Call.IsIdle.isApart {request : Call} (idle : request.IsIdle) : request.IsApart := by
  cases request <;> trivial

/-- What an operator works under. -/
structure Conditions where
  /-- The driver that the operator serves. -/
  driver : String
  /-- The groups that passes are made over. -/
  visits : Group → Prop := fun _ => True
  /-- What others may do to the store while no pass runs. -/
  between : Store → Store → Prop := fun _ _ => False
  /-- What others may do to the store between two calls of a pass. -/
  during : Store → Store → Prop := fun _ _ => False
  /-- The answers by which a call may fail, which then has no effect. -/
  fails : (request : Call) → request.Answer → Prop := fun _ _ => False

/-- A store together with the calls made so far, the latest first. -/
structure Scene where
  store : Store
  exchanges : List Exchange := []

namespace Conditions

variable (conditions : Conditions)

/-- Others change the store any number of times between two calls of a pass. -/
def Waits (scene met : Scene) : Prop :=
  met.exchanges = scene.exchanges ∧
    Relation.ReflTransGen conditions.during scene.store met.store

/-- A call gets an answer, either carried out or failing without effect. -/
def Answers (scene : Scene) (request : Call) (answer : request.Answer) (after : Scene) : Prop :=
  after.exchanges = ⟨request, answer⟩ :: scene.exchanges ∧
    (scene.store.Serves request answer after.store ∨
      conditions.fails request answer ∧ after.store = scene.store)

/-- Doing nothing counts as waiting. -/
theorem waits_refl (scene : Scene) : conditions.Waits scene scene := ⟨rfl, .refl⟩

variable {conditions}

/-- Waiting twice is waiting. -/
theorem Waits.trans {first second third : Scene} (before : conditions.Waits first second)
    (after : conditions.Waits second third) : conditions.Waits first third :=
  ⟨after.1.trans before.1, before.2.trans after.2⟩

end Conditions

end VolumeGroups
