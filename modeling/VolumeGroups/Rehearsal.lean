import VolumeGroups.Json
import VolumeGroups.Program
import VolumeGroups.Rehearsal.Fault
import VolumeGroups.Store.Object

/-! Rehearsals, in which programs run against a store, a driver that does as it is told and
planned disturbances. -/

namespace VolumeGroups

/-- A disturbance laid on a call: edits made just before it, and a fault it fails with. -/
structure Disturbance (edit : Type) where
  method : Method
  /-- How many calls pass undisturbed first. -/
  skip : Nat := 0
  /-- How many calls are disturbed, where nothing means all. -/
  times : Option Nat := some 1
  edits : List edit := []
  fault : Option Fault := none

/-- A change made from outside. -/
inductive Edit where
  /-- Store an object under its own key, with its observed state. -/
  | put (object : AnyObject)
  /-- Edit an object by a merge patch of its document. -/
  | patch (kind : Kind) (name «namespace» : String) (change : Json)
  /-- Delete an object. -/
  | delete (kind : Kind) (name «namespace» : String)
  /-- Tell the driver what to return for the groups it makes. -/
  | instruct (handle : Option String) (attributes : KeyMap String)
  /-- Lay a disturbance on a call. -/
  | disturb (disturbance : Disturbance Edit)
  /-- Lift the disturbances of one call, or of all. -/
  | heal (method : Option Method)

/-- Why an edit does nothing. -/
inductive EditError where
  /-- The store refuses. -/
  | cluster (cause : ClusterError)
  /-- The edited document holds no object of the kind. -/
  | unreadable
  deriving DecidableEq

/-- A call together with the answer it got. -/
structure Exchange where
  request : Call
  answer : request.Answer

/-- Why a call failed. -/
inductive CallFailure where
  /-- The cluster did not do what was asked. -/
  | cluster (cause : ClusterError)
  /-- The driver did not do what was asked. -/
  | driver (cause : DriverError)
  deriving DecidableEq

namespace Exchange

/-- The failure in an answer of the cluster. -/
def clusterFailure? {α : Type} : Except ClusterError α → Option CallFailure
  | .ok _ => none
  | .error cause => some (.cluster cause)

/-- The failure in an answer of the driver. -/
def driverFailure? {α : Type} : Except DriverError α → Option CallFailure
  | .ok _ => none
  | .error cause => some (.driver cause)

/-- Why the call failed, if it did. -/
def failure? (exchange : Exchange) : Option CallFailure :=
  -- The answer has its type from the call, so each call is opened before its answer.
  match exchange with
  | ⟨.getGroup .., answer⟩ => clusterFailure? answer
  | ⟨.listGroups _, answer⟩ => clusterFailure? answer
  | ⟨.replaceGroup _, answer⟩ => clusterFailure? answer
  | ⟨.replaceGroupStatus _, answer⟩ => clusterFailure? answer
  | ⟨.getClass _, answer⟩ => clusterFailure? answer
  | ⟨.getContent .., answer⟩ => clusterFailure? answer
  | ⟨.createContent _, answer⟩ => clusterFailure? answer
  | ⟨.replaceContent _, answer⟩ => clusterFailure? answer
  | ⟨.replaceContentStatus _, answer⟩ => clusterFailure? answer
  | ⟨.deleteContent .., answer⟩ => clusterFailure? answer
  | ⟨.getSecret .., answer⟩ => clusterFailure? answer
  | ⟨.listClaims _, answer⟩ => clusterFailure? answer
  | ⟨.replaceClaim _, answer⟩ => clusterFailure? answer
  | ⟨.getVolume _, answer⟩ => clusterFailure? answer
  | ⟨.getStorageClass _, answer⟩ => clusterFailure? answer
  | ⟨.record _, answer⟩ => clusterFailure? answer
  | ⟨.createDriverGroup .., answer⟩ => driverFailure? answer
  | ⟨.deleteDriverGroup .., answer⟩ => driverFailure? answer
  | ⟨.modifyMembership .., answer⟩ => driverFailure? answer
  | ⟨.readClock, _⟩ => none

end Exchange

/-- The state of a rehearsal. -/
structure Rehearsal where
  store : Store := {}
  /-- The handle that the driver returns, where nothing means one made from the name. -/
  handle : Option String := none
  /-- The attributes that the driver returns. -/
  attributes : KeyMap String := ∅
  /-- The disturbances, the oldest first. -/
  disturbances : List (Disturbance Edit) := []
  /-- The calls so far that had an effect, the latest first. -/
  exchanges : List Exchange := []
  deriving Inhabited

namespace Rehearsal

/-- A change made from outside, with the reason if it does nothing. -/
def apply (rehearsal : Rehearsal) (edit : Edit) : Except EditError Unit × Rehearsal :=
  match edit with
  -- Edits come from outside, so no version is compared and no mark is in the way of storing.
  | .put object => (.ok (), { rehearsal with store := rehearsal.store.saveAny object })
  | .patch kind name space change =>
    -- The patch goes to the document, as it may remove fields or make the object unreadable.
    match rehearsal.store.getAny kind name space with
    | .error cause => (.error (.cluster cause), rehearsal)
    | .ok object =>
      match AnyObject.ofJson? kind (object.toJson.merge change) with
      | some object => (.ok (), { rehearsal with store := rehearsal.store.saveAny object })
      | none => (.error .unreadable, rehearsal)
  | .delete kind name space =>
    let (result, store) := rehearsal.store.deleteAny kind name space
    (result.mapError .cluster, { rehearsal with store })
  | .instruct handle attributes => (.ok (), { rehearsal with handle, attributes })
  | .disturb disturbance =>
    (.ok (), { rehearsal with disturbances := rehearsal.disturbances ++ [disturbance] })
  | .heal none => (.ok (), { rehearsal with disturbances := [] })
  | .heal (some method) =>
    let disturbances := rehearsal.disturbances.filter fun disturbance =>
      disturbance.method ≠ method
    (.ok (), { rehearsal with disturbances })

/-- The disturbance that a call meets, and the disturbances after that. -/
def meet (method : Method) :
    List (Disturbance Edit) → Option (Disturbance Edit) × List (Disturbance Edit)
  | [] => (none, [])
  | disturbance :: rest =>
    if disturbance.method ≠ method then
      let (met, rest) := meet method rest
      (met, disturbance :: rest)
    -- Only the oldest disturbance of a call is looked at, even while it lets calls pass.
    else if 0 < disturbance.skip then
      (none, { disturbance with skip := disturbance.skip - 1 } :: rest)
    else
      match disturbance.times with
      | none => (some disturbance, disturbance :: rest)
      | some times =>
        if times ≤ 1 then (some disturbance, rest)
        else (some disturbance, { disturbance with times := some (times - 1) } :: rest)

/-- A call carried out by the store or the driver. -/
def serve (rehearsal : Rehearsal) (request : Call) : request.Answer × Rehearsal :=
  let store := rehearsal.store
  let after {α : Type} (result : α × Store) : α × Rehearsal :=
    (result.1, { rehearsal with store := result.2 })
  match request with
  -- Calls that only read hand back the rehearsal as it is.
  | .getGroup name space => (store.get name space, rehearsal)
  | .listGroups space => (.ok (store.list space), rehearsal)
  | .replaceGroup group => after (store.replace group)
  | .replaceGroupStatus group => after (store.replaceStatus group)
  | .getClass name => (store.get name "", rehearsal)
  | .getContent name space => (store.get name space, rehearsal)
  | .createContent content => after (store.create content)
  | .replaceContent content => after (store.replace content)
  | .replaceContentStatus content => after (store.replaceStatus content)
  | .deleteContent name space => after (store.delete Content name space)
  | .getSecret name space => (store.get name space, rehearsal)
  | .listClaims space => (.ok (store.list space), rehearsal)
  | .replaceClaim claim => after (store.replace claim)
  | .getVolume name => (store.get name "", rehearsal)
  | .getStorageClass name => (store.get name "", rehearsal)
  | .record _ => (.ok (), rehearsal)
  | .createDriverGroup name _ _ =>
    -- A handle made from the name is the same whenever the group is made again.
    let handle := rehearsal.handle.getD ("handle-" ++ name)
    (.ok { handle, attributes := rehearsal.attributes }, rehearsal)
  | .deleteDriverGroup .. => (.ok (), rehearsal)
  | .modifyMembership .. => (.ok (), rehearsal)
  | .readClock => (Store.now, rehearsal)

/-- A call answered, after whatever is planned to disturb it. -/
def respond (rehearsal : Rehearsal) (request : Call) : request.Answer × Rehearsal :=
  let (met, disturbances) := meet request.method rehearsal.disturbances
  let rehearsal := { rehearsal with disturbances }
  -- The edits come first, so the call meets the store that they leave.
  let edits := (met.map Disturbance.edits).getD []
  let rehearsal := edits.foldl (fun rehearsal edit => (rehearsal.apply edit).2) rehearsal
  let failure := (met.bind Disturbance.fault).bind request.failWith?
  let (answer, rehearsal) :=
    match failure with
    | some answer => (answer, rehearsal)
    | none => rehearsal.serve request
  if request.method.isEffect then
    (answer, { rehearsal with exchanges := ⟨request, answer⟩ :: rehearsal.exchanges })
  else (answer, rehearsal)

/-- A program run from a state, with the calls it made that had an effect, the earliest first. -/
def rehearse {α : Type} (rehearsal : Rehearsal) (program : Program α) :
    α × List Exchange × Rehearsal :=
  let (value, rehearsal) := program.run respond { rehearsal with exchanges := [] }
  (value, rehearsal.exchanges.reverse, rehearsal)

end Rehearsal

end VolumeGroups
