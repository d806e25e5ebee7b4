import VolumeGroups.Proofs.Handles.Closing
import VolumeGroups.Proofs.Handles.Making
import VolumeGroups.Proofs.Operator.Passes
import VolumeGroups.Proofs.Operator.Rehearsed

/-! A group that loses its mark has all handles deleted that a content recorded, and loses those that
no content did. -/

namespace VolumeGroups

namespace Attempt

variable {conditions : Conditions} {scene : Scene}

/-- A pass over a tended group loses no handle that a content recorded. -/
theorem honours_advanceTended {place : String} {group : Group}
    (reserved : conditions.Reserved place) (tended : Tended place group scene) :
    Honours conditions (Tends place) (Ends fun _ _ => True) (group.advance conditions.driver)
      scene := by
  -- Class, parameters and credentials are only read, and what fails is told on the group.
  unfold Group.advance
  refine .then (honours_quiet reserved tended
    (.tellingQuietly (asks_resolveClass group).quietly)) ?_
  rintro groupClass resolved ⟨_, resolves⟩
  have tended := tended.rests resolves
  split
  · exact .pure trivial
  · refine .then (honours_quiet reserved tended
      (.tellingQuietly (.within (.known (gives_any _))))) ?_
    rintro parameters checked ⟨_, checks⟩
    have tended := tended.rests checks
    refine .then (honours_quiet reserved tended
      (.tellingQuietly (.within (asks_credentials _).quietly))) ?_
    rintro secrets read ⟨_, reads⟩
    have tended := tended.rests reads
    split
    · exact honours_finalizeTended reserved tended
    · -- A live group is marked before anything is made for it.
      refine .then (honours_markGroup reserved tended).told ?_
      rintro own marking ⟨marks, same, marked⟩
      exact honours_syncTended reserved ((tended.rests marks).matching same) marked

/-- A pass over whatever group was seen loses no handle that a content recorded. -/
theorem honours_reconcileTended (seen : Group) (reserved : conditions.Reserved seen.place)
    (guarded : Guarded seen.place scene) :
    Honours conditions (Tends seen.place) (Ends fun _ _ => True)
      (seen.reconcile conditions.driver) scene := by
  unfold Group.reconcile
  -- The namespace has to be known before anything else.
  refine .then (honours_namespace seen) ?_
  rintro space scene ⟨rfl, inSpace⟩
  have place : space ++ "/" ++ seen.name = seen.place := by
    rw [Group.place, (inSpace : seen.metadata.namespace = some space)]
    rfl
  -- The pass learns about its group from the first call only.
  have reading : Honours conditions (Tends seen.place)
      (Ends fun answer after => ∀ group, answer = .ok group → Tended seen.place group after)
      (outcome (of (.ask (.getGroup seen.name space))) :
        Attempt PassError (Except ClusterError Group)) scene := by
    refine .outcome (.of (Program.Honours.ask ?_))
    intro met waits answer after answers
    -- The group is not known before this answer, so all there is to go by is that it is guarded.
    have store : after.store = met.store := answers.2.elim And.right And.right
    have silent := Exchange.isSilent (.getGroup seen.name space) answer (by simp [Call.method])
    have rests : met.Rests seen.place after := .of_silent silent answers.1 (store ▸ .refl _)
    have now := (guarded.rests (guarded.waits reserved waits)).rests rests
    refine ⟨now.tends_of_find? (by rw [store]), ?_⟩
    rintro group rfl
    rcases answers.2 with ⟨read, _⟩ | ⟨failing, _⟩
    · exact now.tended (store ▸ place ▸ Store.get_eq_ok.mp read.symm)
    · cases (reserved.honest failing).1
  refine .then reading ?_
  intro answer read tended
  -- If the group is gone or cannot be read, nothing is made or deleted.
  split
  · rename_i group
    exact honours_advanceTended reserved (tended group rfl)
  · split
    · exact .pure trivial
    · exact .throw trivial

end Attempt

/-- An operator that only passes over one group, which the user may delete at any time, and whose
calls fail honestly. -/
def Conditions.sole (driver name space : String) : Conditions where
  driver := driver
  visits seen := seen.metadata.namespace = some space ∧ seen.name = name
  between := UserAction.Leads (· = .deleteGroup name space)
  during := UserAction.Leads (· = .deleteGroup name space)
  fails := Call.FailsHonestly

/-- The deletion of the group leaves group and content at rest. -/
theorem Conditions.sole_reserved (driver name space : String) :
    (sole driver name space).Reserved (space ++ "/" ++ name) where
  during placed := by
    rintro ⟨_, rfl, rfl⟩
    exact .delete_group placed
  honest := id

/-- Over whole runs the group stays guarded. -/
theorem Conditions.sole_upholds (driver name space : String) :
    (sole driver name space).Upholds (Tends (space ++ "/" ++ name))
      (Guarded (space ++ "/" ++ name)) where
  -- A change by a user is a wait before which nothing is called.
  idle guarded change :=
    guarded.rests (guarded.waits (sole_reserved driver name space) ⟨rfl, .single change⟩)
  wait guarded change :=
    guarded.rests (guarded.waits (sole_reserved driver name space) ⟨rfl, .single change⟩)
  -- What a call tends to keeps the group guarded.
  call _ tends := tends.1
  -- A pass over the group begins where the group is guarded.
  pass {_ seen} guarded visited := by
    obtain ⟨inSpace, named⟩ := visited
    have place : seen.place = space ++ "/" ++ name := by
      rw [Group.place, inSpace, named]
      rfl
    rw [← place] at guarded ⊢
    exact (Attempt.honours_reconcileTended seen (place ▸ sole_reserved driver name space)
      guarded).mono fun _ _ _ => trivial

/-- Whenever a call takes the mark off the group, the handles that the driver made for it and that
were not deleted since are those that no content recorded since. -/
theorem undeleted_iff_unrecorded (driver name space : String) {start : Store}
    (contents : ∀ {key : String} {content : Content}, start.find? key = some content →
      Resource.key content = key)
    (groups : ∀ {key : String} {group : Group}, start.find? key = some group →
      Resource.key group = key)
    {now after : Scene} {request : Call}
    {next : request.Answer → Program (Except PassError Action)} {answer : request.Answer}
    (run : (Conditions.sole driver name space).Reaches ⟨⟨start, []⟩, none⟩
      ⟨now, some (.call request next)⟩)
    (answers : (Conditions.sole driver name space).Answers now request answer after)
    (unmarks : now.store.Unmarks (space ++ "/" ++ name) after.store) (handle : String) :
    Pending Exchange.drops? handle now.exchanges ↔
      Pending Exchange.records? handle now.exchanges := by
  -- Nothing was made before the run, so whatever content there is may be left as it is.
  have guarded : Guarded (space ++ "/" ++ name) ⟨start, []⟩ :=
    ⟨contents, fun found => ⟨groups found, .of_unmade _ (by simp [Unmade])⟩⟩
  exact ((Conditions.sole_upholds driver name space).promised guarded run answers).2 unmarks handle

/-- What has no effect concerns no handle, so the calls that have one tell which handles are
pending. -/
theorem pending_effects_iff {log : List Exchange} {handle : String} :
    (Pending Exchange.drops? handle (Rehearsal.effects log) ↔
      Pending Exchange.drops? handle log) ∧
    (Pending Exchange.records? handle (Rehearsal.effects log) ↔
      Pending Exchange.records? handle log) := by
  -- The three calls that concern handles all have an effect.
  have silent (exchange : Exchange) (dropped : exchange.request.method.isEffect = false) :
      exchange.IsSilent := by
    refine Exchange.isSilent _ exchange.answer ⟨?_, ?_, ?_⟩ <;> rintro same <;>
      simp [same, Method.isEffect] at dropped
  exact ⟨Pending.filter_iff (fun exchange dropped =>
      ⟨(silent exchange dropped).makes, (silent exchange dropped).drops⟩) log,
    Pending.filter_iff (fun exchange dropped =>
      ⟨(silent exchange dropped).makes, (silent exchange dropped).records⟩) log⟩

namespace Sample

/-- The cluster after a pass over the group that a disturbance may have met, and after the user has
deleted the group. -/
def deleted (disturbances : List (Disturbance Edit)) : Rehearsal :=
  { Rehearsal.pass { store := stocked, disturbances } "driver" group with
    store := (UserAction.deleteGroup "group" "space").on
      (Rehearsal.pass { store := stocked, disturbances } "driver" group).store
    disturbances := [] }

/-- The cluster refuses to store a content once. -/
def conflict : Disturbance Edit where
  method := .createContent
  fault := some .conflict

/-- Objects of the cluster lie under their keys. -/
theorem placed_stocked :
    (∀ {key : String} {content : Content}, stocked.find? key = some content →
      Resource.key content = key) ∧
    ∀ {key : String} {group : Group}, stocked.find? key = some group →
      Resource.key group = key := by
  -- Nobody has stored a content yet.
  have none : stocked.contents.values = [] := by decide +kernel
  refine ⟨fun found => ?_, fun found => regular_stocked.groups.placed found⟩
  have present := Table.mem_values.mpr ⟨_, found⟩
  simp [Stored.table, none] at present

/-- A refusal to store a content fits an operator whose calls fail honestly. -/
theorem fits_conflict : Rehearsal.Fits (.sole "driver" "group" "space") [conflict] := by
  intro disturbance known
  obtain rfl := List.mem_singleton.mp known
  refine ⟨rfl, ?_⟩
  rintro fault ⟨⟩ request answer failed
  -- A conflict says that an object changed, which is neither absence nor existence.
  refine Call.failsHonestly_of_failWith? failed ?_
  rintro kind name cause ⟨⟩
  exact ⟨rfl, rfl⟩

/-- The group is deleted in a run. -/
theorem reaches_deleted {disturbances : List (Disturbance Edit)}
    (fits : Rehearsal.Fits (.sole "driver" "group" "space") disturbances) :
    ∃ log, (Conditions.sole "driver" "group" "space").Reaches ⟨⟨stocked, []⟩, none⟩
        ⟨⟨(deleted disturbances).store, log⟩, none⟩ ∧
      Rehearsal.effects log = (deleted disturbances).exchanges := by
  -- Before the pass nothing has happened.
  have start : (Conditions.sole "driver" "group" "space").Reaches ⟨⟨stocked, []⟩, none⟩
    ⟨⟨stocked, []⟩, none⟩ := .refl
  obtain ⟨log, run, _, told⟩ := Rehearsal.reaches_pass (.sole "driver" "group" "space")
    { store := stocked, disturbances } group start ⟨rfl, rfl⟩ fits rfl
  exact ⟨log, run.tail (.idle ⟨.deleteGroup "group" "space", rfl, rfl⟩), told⟩

end Sample

/-- When the group loses its mark after a pass that stored its content, its handle has been
deleted. -/
theorem deleted_after_success : ∃ (now after : Scene) (request : Call)
    (next : request.Answer → Program (Except PassError Action)) (answer : request.Answer),
    (Conditions.sole "driver" "group" "space").Reaches ⟨⟨Sample.stocked, []⟩, none⟩
        ⟨now, some (.call request next)⟩ ∧
      (Conditions.sole "driver" "group" "space").Answers now request answer after ∧
      now.store.Unmarks "space/group" after.store ∧
      (∃ exchange ∈ now.exchanges, exchange.makes? = some "handle-volumegroup-uid") ∧
      ¬ Pending Exchange.drops? "handle-volumegroup-uid" now.exchanges := by
  obtain ⟨log, run, told⟩ := Sample.reaches_deleted (.nil _)
  -- The mark goes by the eleventh call of the pass.
  obtain ⟨now, after, request, next, answer, reaches, answers, before, later, kept⟩ :=
    Rehearsal.reaches_call (.sole "driver" "group" "space") 10 (Sample.deleted []) Sample.group run
      ⟨rfl, rfl⟩ (.nil _) told (by decide +kernel)
  have unmarks : now.store.Unmarks "space/group" after.store := by
    rw [before, later]
    decide +kernel
  have made : ∃ exchange ∈ Rehearsal.effects now.exchanges,
      exchange.makes? = some "handle-volumegroup-uid" := by
    rw [kept]
    decide +kernel
  have recorded : ¬ Pending Exchange.records? "handle-volumegroup-uid"
      (Rehearsal.effects now.exchanges) := by
    rw [kept]
    decide +kernel
  -- What is known of the effects is known of the whole log.
  obtain ⟨exchange, known, makes⟩ := made
  refine ⟨now, after, request, next, answer, reaches, answers, unmarks,
    ⟨exchange, (List.mem_filter.mp known).1, makes⟩, fun pending => recorded ?_⟩
  exact pending_effects_iff.2.mpr ((undeleted_iff_unrecorded "driver" "group" "space"
    Sample.placed_stocked.1 Sample.placed_stocked.2 reaches answers unmarks _).mp pending)

/-- When the cluster refuses to store the content of a new group of the driver, the group's mark goes
after its deletion although nobody deleted the handle. -/
theorem lost_after_conflict : ∃ (now after : Scene) (request : Call)
    (next : request.Answer → Program (Except PassError Action)) (answer : request.Answer),
    (Conditions.sole "driver" "group" "space").Reaches ⟨⟨Sample.stocked, []⟩, none⟩
        ⟨now, some (.call request next)⟩ ∧
      (Conditions.sole "driver" "group" "space").Answers now request answer after ∧
      now.store.Unmarks "space/group" after.store ∧
      Pending Exchange.drops? "handle-volumegroup-uid" now.exchanges := by
  -- The store refuses the content in the pass before the group is deleted.
  obtain ⟨log, run, told⟩ := Sample.reaches_deleted Sample.fits_conflict
  -- The mark goes by the seventh call of the pass.
  obtain ⟨now, after, request, next, answer, reaches, answers, before, later, kept⟩ :=
    Rehearsal.reaches_call (.sole "driver" "group" "space") 6 (Sample.deleted [Sample.conflict])
      Sample.group run ⟨rfl, rfl⟩ (.nil _) told (by decide +kernel)
  have unmarks : now.store.Unmarks "space/group" after.store := by
    rw [before, later]
    decide +kernel
  -- The theorem cannot help here: no content has recorded the handle since.
  have pending : Pending Exchange.drops? "handle-volumegroup-uid"
      (Rehearsal.effects now.exchanges) := by
    rw [kept]
    decide +kernel
  exact ⟨now, after, request, next, answer, reaches, answers, unmarks,
    pending_effects_iff.1.mp pending⟩

end VolumeGroups
