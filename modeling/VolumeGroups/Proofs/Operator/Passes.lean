import VolumeGroups.Proofs.Operator.Ending
import VolumeGroups.Proofs.Operator.Run
import VolumeGroups.Proofs.Operator.Users

/-! A whole pass over a group that may have changed or gone since it was seen. -/

namespace VolumeGroups

/-- The key under which a pass looks for a group that was seen. -/
def Group.place (seen : Group) : String := seen.metadata.namespace.getD "" ++ "/" ++ seen.name

/-- No call fails by taking an object for absent or existing. -/
def Conditions.Honest (conditions : Conditions) : Prop :=
  ∀ {request : Call} {answer : request.Answer}, conditions.fails request answer →
    request.FailsHonestly answer

/-- While nobody else edits anything, waiting changes nothing. -/
theorem Conditions.Still.waits {conditions : Conditions} (still : conditions.Still)
    {scene met : Scene} (waits : conditions.Waits scene met) : met.store = scene.store := by
  rcases waits.2.cases_tail with same | ⟨_, _, edit⟩
  · exact same
  · exact absurd edit (still _ _)

namespace Attempt

variable {conditions : Conditions} {key : String} {scene : Scene}

/-- A group that is read is the stored one, and one that is honestly absent is not stored. -/
theorem honours_getGroup {ε : Type} (harmless : conditions.Harmless)
    (regular : scene.store.Regular) (name space : String) :
    Honours conditions (conditions.Moves key)
      (Ends fun answer after => conditions.KeepsMarks scene.store after.store ∧
        (conditions.Still → after.store = scene.store) ∧
        (∀ group, answer = .ok group → after.store.find? (space ++ "/" ++ name) = some group) ∧
        ∀ cause, answer = .error cause → cause.isNotFound = true → conditions.Honest →
          after.store.find? (α := Group) (space ++ "/" ++ name) = none)
      (outcome (of (.ask (.getGroup name space))) : Attempt ε (Except ClusterError Group))
      scene := by
  -- Reading takes one call, before which others may have acted.
  refine .outcome (.of (Program.honours_look harmless regular trivial ?_))
  intro met after answer waits answers
  have unchanged : after.store = met.store := by
    rcases answers.2 with ⟨_, same⟩ | ⟨_, same⟩
    · exact same
    · exact same
  refine ⟨fun still => unchanged.trans (still.waits waits), ?_, ?_⟩
  · -- A call that fails tells so, hence the group was read.
    rintro group rfl
    rcases answers.2 with ⟨read, _⟩ | ⟨failing, _⟩
    · rw [unchanged]
      exact Store.get_eq_ok.mp read.symm
    · cases harmless.fails failing
  · rintro cause rfl absent honest
    rcases answers.2 with ⟨read, _⟩ | ⟨failing, _⟩
    · rw [unchanged]
      exact Store.find?_of_get_eq_error read.symm
    · -- An honest failure does not tell of an absent object.
      have present := ((honest failing).2 cause rfl).1
      simp [absent] at present

/-- The class of a group is that of the store at the moment of the answer. -/
theorem honours_resolveClass {group : Group} (harmless : conditions.Harmless)
    (regular : scene.store.Regular) :
    Honours conditions (conditions.Moves key)
      (fun result after => conditions.KeepsMarks scene.store after.store ∧
        Ends (fun groupClass after => ∃ name, group.className? = some name ∧
          after.store.find? ("" ++ "/" ++ name) = some groupClass) result after)
      group.resolveClass scene := by
  -- A group that names no class ends the attempt without a call.
  unfold Group.resolveClass
  split
  · exact .throw ⟨.refl regular, trivial⟩
  -- The class is looked up once, and what is found is stored at that moment.
  · rename_i name named
    refine .retold (.of (Program.honours_look harmless regular trivial ?_))
    intro met after answer _ answers
    cases answer with
    | error cause => trivial
    | ok groupClass =>
      rcases answers.2 with ⟨read, unchanged⟩ | ⟨failing, _⟩
      · refine ⟨name, named, ?_⟩
        rw [unchanged]
        exact Store.get_eq_ok.mp read.symm
      · cases harmless.fails failing

/-- A pass over a group that is known keeps its promise, and settles the group if it succeeds while
nobody else edits anything. -/
theorem honours_advance {group : Group} (harmless : conditions.Harmless)
    (regular : scene.store.Regular) (knows : conditions.Knows group scene.store) :
    Honours conditions (conditions.Moves (Resource.key group))
      (Ends fun _ after => conditions.Still → (group.isMarked = false → group.members = []) →
        after.store.Settled conditions.driver (Resource.key group))
      (group.advance conditions.driver) scene := by
  -- Class, parameters and credentials come first, and telling their failures is calm.
  unfold Group.advance
  refine .then (honours_tellingOn harmless knows.recalls
    (honours_resolveClass harmless regular)) ?_
  rintro groupClass resolved ⟨resolving, name, named, foundClass⟩
  split
  · rename_i foreign
    -- The group of another driver is settled, whatever it lists.
    refine .pure fun still _ own found managed => ?_
    obtain ⟨continues, _⟩ := (knows.later resolving.toRecordsNoMember).current still found
    obtain ⟨ownName, stored, ownNamed, foundStored, same⟩ := managed
    obtain rfl : name = ownName :=
      Option.some.inj (named.symm.trans (continues.className?.symm.trans ownNamed))
    rw [foundClass] at foundStored
    exact absurd (Option.some.inj foundStored ▸ same) foreign
  -- The driver manages the group, and goes on managing it until its state is written.
  · rename_i served
    have managed : resolved.store.Manages conditions.driver group :=
      ⟨name, groupClass, named, foundClass, by simpa using served⟩
    have known := knows.later resolving.toRecordsNoMember
    refine .then (honours_calm harmless resolving.regular known.recalls
      (.telling (.within (.known (gives_any _))) fun _ tells => tells.isCalm)) ?_
    rintro parameters checked ⟨_, checking⟩
    have known := known.later checking.toRecordsNoMember
    refine .then (honours_calm harmless checking.regular known.recalls
      (.telling (.within ((asks_credentials parameters.secret).mono
        (fun _ idle => idle.isApart.isPlain.isCalm group) fun _ => id))
        fun _ tells => tells.isCalm)) ?_
    rintro secrets read ⟨_, reading⟩
    have known := known.later reading.toRecordsNoMember
    -- From here on the two kinds of passes part.
    split
    · rename_i terminating
      exact honours_finalize harmless reading.regular known terminating
    · rename_i live
      refine .then (.told (honours_protectGroup harmless reading.regular known)) ?_
      rintro own protected' ⟨protecting, ownKnown, continues, _, marked⟩
      have place : Resource.key own = Resource.key group := continues.metadata.key
      rw [← place]
      refine (honours_sync harmless protecting.regular ownKnown ?_ marked ?_).imp ?_
      · exact continues.isTerminating.trans (by simpa using live)
      · exact managed.later (checking.trans (reading.trans protecting)).classes continues
      · exact fun _ _ settled still _ => settled still

/-- A pass keeps its promise whatever was seen, and settles the group if it succeeds while nobody
else edits anything and every failure is told as it is. -/
theorem honours_reconcile (seen : Group) (harmless : conditions.Harmless)
    (regular : scene.store.Regular) :
    Honours conditions (conditions.Moves seen.place)
      (Ends fun _ after => conditions.Still → conditions.Honest →
        (∀ own : Group, scene.store.find? seen.place = some own →
          own.isMarked = false → own.members = []) →
        after.store.Settled conditions.driver seen.place)
      (seen.reconcile conditions.driver) scene := by
  -- The key of the group is made of the namespace that was seen and the name.
  unfold Group.reconcile
  refine .then (honours_namespace seen) ?_
  rintro space _ ⟨rfl, inSpace⟩
  have place : space ++ "/" ++ seen.name = seen.place := by
    rw [Group.place, (inSpace : seen.metadata.namespace = some space)]
    rfl
  refine .then (honours_getGroup harmless regular seen.name space) ?_
  rintro answer read ⟨reading, same, found, absent⟩
  rw [place] at found absent
  -- A pass goes on with the group that it read, whatever group was seen before.
  split
  · rename_i group
    have there := found group rfl
    have own : Resource.key group = seen.place := reading.regular.groups.placed there
    rw [← own]
    refine (honours_advance harmless reading.regular (.of_found reading.regular there)).imp ?_
    intro _ after settled still _ kept
    exact settled still (kept group (same still ▸ own ▸ there))
  -- A group that is honestly absent is not stored, so there is nothing to settle.
  · rename_i cause
    split
    · rename_i missing
      refine .pure fun still honest _ own there _ => ?_
      simp [absent cause rfl missing honest] at there
    · exact .throw trivial

end Attempt

namespace Conditions

/-- Each call of a pass over any group does what such a call may do. -/
def Acts (conditions : Conditions) : Promise := fun met _ _ after =>
  ∃ key, Store.Move conditions.driver key met.store after.store

/-- What users cannot break and no call of a pass breaks lasts over whole runs. -/
theorem Harmless.upholds {conditions : Conditions} (harmless : conditions.Harmless)
    (holds : Store → Prop)
    (idle : ∀ {store after : Store}, store.Regular → holds store → conditions.between store after →
      after.Regular ∧ holds after)
    (wait : ∀ {store after : Store}, store.Regular → holds store → conditions.during store after →
      holds after)
    (move : ∀ {key : String} {store after : Store}, store.Regular → holds store →
      Store.Move conditions.driver key store after → holds after) :
    conditions.Upholds conditions.Acts fun scene => scene.store.Regular ∧ holds scene.store where
  -- Each of the four steps of a run is matched by one of the three hypotheses.
  idle held change := idle held.1 held.2 change
  wait held change := ⟨(harmless.during held.1 change).regular, wait held.1 held.2 change⟩
  -- A call of a pass is a move of the group under some key.
  call held moved := by
    obtain ⟨key, moved⟩ := moved
    exact ⟨moved.regular held.1, move held.1 held.2 moved⟩
  -- A pass keeps its promise from its first call on, whatever it began with.
  pass {scene seen} held _ := by
    have honours := Attempt.honours_reconcile seen harmless held.1
    exact Program.Honours.promising (fun _ _ _ _ moved => ⟨_, moved⟩)
      (honours.mono fun _ _ _ => trivial)

/-- An operator that shares its cluster with users, who may do at any time what users may do, and
whose calls may fail in any way. -/
def shared (driver : String) : Conditions where
  driver := driver
  between := UserAction.Leads UserAction.IsProper
  during := UserAction.Leads UserAction.IsProper
  fails := Call.FailsWith

/-- Users who share the cluster do no harm. -/
theorem shared_harmless (driver : String) : (shared driver).Harmless where
  during regular := by
    rintro ⟨action, proper, rfl⟩
    exact proper.spares regular
  fails := id

end Conditions

end VolumeGroups
