import VolumeGroups.Proofs.Handles.Tending
import VolumeGroups.Proofs.Operator.Parts

/-! The quiet parts of a pass, which leave handles, content and mark of a group alone. -/

namespace VolumeGroups

/-- Telling a failure is quiet. -/
theorem Call.IsTelling.isQuiet {group : Group} {request : Call} (tells : request.IsTelling group) :
    request.IsQuiet group := by
  -- What is told is a state of the group, or an event.
  cases request with
  | replaceGroupStatus later =>
    obtain ⟨message, ready, rfl⟩ := tells
    rfl
  | getClass | getSecret | getVolume | getStorageClass | record | readClock => trivial
  | _ => exact tells.elim

/-- What writes nothing is quiet. -/
theorem Call.IsInert.isQuiet {request : Call} (inert : request.IsInert) (group : Group) :
    request.IsQuiet group := by
  cases request <;> first | exact inert | exact inert.elim

section Rules

variable {conditions : Conditions} {place : String} {group : Group} {scene : Scene} {α ε : Type}

/-- A quiet program is a rest. -/
theorem Program.honours_quiet {gives : α → Prop} {program : Program α}
    (reserved : conditions.Reserved place) (tended : Tended place group scene)
    (asks : program.Asks (Call.IsQuiet group) gives) :
    program.Honours conditions (Tends place)
      (fun value after => gives value ∧ scene.Rests place after) scene := by
  -- Every call meets the scene at rest and leaves it so.
  refine asks.honours (fun after => scene.Rests place after) ?_ ?_ (.refl scene)
  · intro before met rests waits
    exact rests.trans (reserved.waits (tended.rests rests) waits)
  · intro met request answer after quiet rests answers
    have now := tended.rests rests
    have step := now.answers_quiet reserved quiet answers
    exact ⟨(now.rests step).tends step, rests.trans step⟩

namespace Attempt

/-- A quiet attempt is a rest. -/
theorem honours_quiet {gives : α → Prop} {attempt : Attempt ε α}
    (reserved : conditions.Reserved place) (tended : Tended place group scene)
    (asks : Asks (Call.IsQuiet group) gives attempt) :
    Honours conditions (Tends place)
      (fun result after => Gives gives result ∧ scene.Rests place after) attempt scene :=
  Program.honours_quiet reserved tended asks

/-- An attempt that leaves a group tended when it fails succeeds as it does by itself if its failure
is told on the group. -/
theorem honours_tellingQuietly {goal : α → Scene → Prop} {attempt : Attempt PassError α}
    {reason : Reason} {ready : Option Bool} (reserved : conditions.Reserved place)
    (honours : Honours conditions (Tends place)
      (fun result after => Tended place group after ∧ Ends goal result after) attempt scene) :
    Honours conditions (Tends place) (Ends fun value after => Tended place group after ∧
      goal value after) (tellingOn group reason ready attempt) scene := by
  -- What is told on the group is a state and an event, which are quiet.
  refine honours.tellingOn (fun _ _ reached => reached) ?_
  intro error after ⟨tended, _⟩
  have quiet := (group.asks_tell reason ready error).mono (fun _ tells => tells.isQuiet)
    fun _ => id
  exact (Program.honours_quiet reserved tended quiet).mono fun _ _ _ => trivial

/-- A quiet attempt whose failure is told on the group is quiet. -/
theorem Asks.tellingQuietly {gives : α → Prop} {reason : Reason} {ready : Option Bool}
    {attempt : Attempt PassError α} (asks : Asks (Call.IsQuiet group) gives attempt) :
    Asks (Call.IsQuiet group) gives (Attempt.tellingOn group reason ready attempt) :=
  asks.telling fun _ tells => tells.isQuiet

/-- An idle attempt is quiet. -/
theorem Asks.quietly {gives : α → Prop} {attempt : Attempt ε α}
    (asks : Asks Call.IsIdle gives attempt) : Asks (Call.IsQuiet group) gives attempt :=
  asks.mono (fun _ idle => idle.isInert.isQuiet group) fun _ => id

/-- The class of a group is only read. -/
theorem asks_resolveClass (group : Group) :
    Asks Call.IsIdle (fun _ => True) group.resolveClass := by
  unfold Group.resolveClass
  split
  · exact .throw
  · exact .within (.only ⟨trivial, fun _ => trivial⟩)

/-- A plan is only read. -/
theorem asks_plan (group : Group) (groups : List Group) :
    Asks Call.IsInert (fun _ => True) (group.plan groups) := by
  -- Claims are listed first, and then what each of them is bound to is read.
  unfold Group.plan
  refine .bind (.within (.known (gives_any _))) fun space _ => ?_
  refine .bind (.within (.only ⟨trivial, fun _ => trivial⟩)) fun claims _ => ?_
  exact (asks_planFor group groups (sortedByName claims)).mono (fun _ peeks => peeks.isIdle.isInert)
    fun _ _ => trivial

/-- The first stage of a live group is quiet. -/
theorem asks_prepare (group : Group) :
    Asks (Call.IsQuiet group) (fun _ => True) group.prepare := by
  -- Only claims are written, after everything that the plan needs has been read.
  unfold Group.prepare
  refine .bind (.within (.known (gives_any _))) fun space _ => ?_
  refine .bind (.within (.only ⟨trivial, fun _ => trivial⟩)) fun groups _ => ?_
  refine .bind (.tellingQuietly (.within ((asks_plan group groups).mono
    (fun _ inert => inert.isQuiet _) fun _ => id))) fun plan _ => ?_
  refine .bind (.forM fun _ _ => .lift ⟨trivial, fun _ => trivial⟩) fun _ _ => ?_
  refine .bind (.forM fun member _ => .within (asks_protectClaim member.claim fun _ => trivial))
    fun _ _ => ?_
  exact .pure trivial

/-- Reading a content is a rest, and tells what is stored. -/
theorem honours_getContent {name space : String} (reserved : conditions.Reserved place)
    (tended : Tended place group scene) :
    Honours conditions (Tends place)
      (fun result after => scene.Rests place after ∧ Ends (fun answer after =>
        (∀ content, answer = .ok content → after.store.find? (space ++ "/" ++ name) = some content) ∧
        ∀ cause, answer = .error cause → cause.isNotFound = true →
          after.store.find? (α := Content) (space ++ "/" ++ name) = none) result after)
      (outcome (of (.ask (.getContent name space))) : Attempt ε (Except ClusterError Content))
      scene := by
  -- The answer comes after a while in which the store was at rest.
  refine .outcome (.of (Program.Honours.ask ?_))
  intro met waits answer after answers
  have rested := reserved.waits tended waits
  have now := tended.rests rested
  have inert : (Call.getContent name space).IsInert := trivial
  have rests := now.answers_quiet reserved (inert.isQuiet group) answers
  refine ⟨(now.rests rests).tends rests, rested.trans rests, ?_, ?_⟩
  · -- What was read is what is stored.
    rintro content rfl
    rcases answers.2 with ⟨read, same⟩ | ⟨failing, _⟩
    · rw [same]
      exact Store.get_eq_ok.mp read.symm
    · cases (reserved.honest failing).1
  · -- That nothing is there is told by the store only.
    rintro cause rfl absent
    rcases answers.2 with ⟨read, same⟩ | ⟨failing, _⟩
    · rw [same]
      exact Store.find?_of_get_eq_error read.symm
    · -- An honest failure does not tell of an absent object.
      have present := ((reserved.honest failing).2 cause rfl).1
      simp [absent] at present

/-- Looking a content up is a rest, and finds what is stored. -/
theorem honours_lookup (reserved : conditions.Reserved place)
    (tended : Tended place group scene) :
    Honours conditions (Tends place)
      (fun result after => scene.Rests place after ∧
        Ends (fun found after => after.store.find? group.contentKey = found) result after)
      group.lookupContent scene := by
  unfold Group.lookupContent
  -- The name under which the group looks is its content key.
  refine .bind (honours_namespace group) ?_ ?_
  · rintro _ _ ⟨rfl, _⟩
    exact ⟨.refl _, trivial⟩
  rintro space scene ⟨rfl, inSpace⟩
  have key : space ++ "/" ++ group.contentName = group.contentKey := by
    rw [Group.contentKey, (inSpace : group.metadata.namespace = some space)]
    rfl
  refine .bind (honours_getContent reserved tended) (fun _ _ reached => ⟨reached.1, trivial⟩) ?_
  rintro answer after ⟨rests, found, absent⟩
  rw [key] at found absent
  -- There is a content, there is none, or the lookup failed.
  split
  · rename_i content
    -- What is found is given only to the group that it was made for.
    cases group.uid with
    | error cause => exact ⟨rests, trivial⟩
    | ok uid =>
      have identified : (within ContentError.object (known (.ok uid)) :
          Attempt ContentError String) = pure uid := rfl
      rw [identified, pure_bind]
      unfold Content.boundTo
      split
      · exact ⟨rests, found content rfl⟩
      · exact ⟨rests, trivial⟩
  · rename_i cause
    split
    · rename_i missing
      exact .pure ⟨rests, absent cause rfl missing⟩
    · exact .throw ⟨rests, trivial⟩

/-- Marking a group is a rest, and the marked group matches. -/
theorem honours_markGroup (reserved : conditions.Reserved place)
    (tended : Tended place group scene) :
    Honours conditions (Tends place)
      (Ends fun own after => scene.Rests place after ∧ group.Matches own ∧ own.isMarked = true)
      group.protect scene := by
  unfold Group.protect
  split
  · -- The group that was read carries its mark already.
    rename_i present
    exact .pure ⟨.refl scene, .refl group, Metadata.addFinalizer?_eq_none present⟩
  -- The mark is written over the form that was read.
  · rename_i metadata added
    obtain ⟨continues, _, marked⟩ := Metadata.addFinalizer?_eq_some added
    refine .of (Program.Honours.ask ?_)
    intro met waits answer after answers
    have rested := reserved.waits tended waits
    have now := tended.rests rested
    have marks : Group.isMarked { group with metadata } = true := marked
    obtain ⟨rests, stored⟩ := now.replaceGroup reserved answers (.metadata continues) marks
    refine ⟨(now.rests rests).tends rests, ?_⟩
    cases answer with
    | error cause => trivial
    | ok own => exact ⟨rested.trans rests, stored own rfl⟩

/-- Forgetting the members of a group is a rest, and the group without them matches. -/
theorem honours_clearMembers (reserved : conditions.Reserved place)
    (tended : Tended place group scene) :
    Honours conditions (Tends place)
      (Ends fun own after => scene.Rests place after ∧ group.Matches own)
      group.forgetMembers scene := by
  unfold Group.forgetMembers
  -- A group that lists nobody is not written.
  split
  · exact .pure ⟨.refl scene, .refl group⟩
  · split
    · exact .pure ⟨.refl scene, .refl group⟩
    · -- Only the state is written, which neither content nor mark depend on.
      refine .told (.of (Program.Honours.ask ?_))
      intro met waits answer after answers
      have rested := reserved.waits tended waits
      have now := tended.rests rested
      obtain ⟨rests, stored⟩ := now.replaceGroupStatus reserved answers rfl
      refine ⟨(now.rests rests).tends rests, ?_⟩
      cases answer with
      | error cause => trivial
      | ok own => exact ⟨rested.trans rests, stored own rfl⟩

/-- A terminating group is disbanded in a rest, and the group without members matches. -/
theorem honours_disbandQuietly (reserved : conditions.Reserved place)
    (tended : Tended place group scene) (space : String) (content : Option Content) :
    Honours conditions (Tends place)
      (Ends fun own after => scene.Rests place after ∧ group.Matches own)
      (group.disband space content) scene := by
  -- Apart from the group's own state only claims are written.
  unfold Group.disband
  have listing : Asks (Call.IsQuiet group) (fun _ => True)
      (Attempt.within PassError.cluster (.of (.ask (.listClaims space)))) :=
    .within (.only ⟨trivial, fun _ => trivial⟩)
  -- The stages are taken one by one, each of them a rest.
  refine .then (honours_quiet reserved tended listing) ?_
  rintro claims listed ⟨_, lists⟩
  refine .then (honours_clearMembers reserved (tended.rests lists)) ?_
  rintro own cleared ⟨clears, same⟩
  have rested := lists.trans clears
  have looking : Asks (Call.IsQuiet group) (fun _ => True)
      (Attempt.within PassError.cluster (.of (.ask (.listGroups space)))) :=
    .within (.only ⟨trivial, fun _ => trivial⟩)
  refine .then (honours_quiet reserved (tended.rests rested) looking) ?_
  rintro groups looked ⟨_, looks⟩
  have rested := rested.trans looks
  refine .then (honours_quiet reserved (tended.rests rested)
    (asks_releaseClaims _ _ fun _ => trivial)) ?_
  rintro _ released ⟨_, releases⟩
  -- All rests together are one.
  exact .pure ⟨rested.trans releases, same⟩

end Attempt

end Rules

end VolumeGroups
