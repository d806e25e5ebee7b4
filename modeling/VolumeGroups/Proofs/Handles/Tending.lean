import VolumeGroups.Proofs.Handles.Custody
import VolumeGroups.Proofs.Operator.Calm

/-! Passes over one group, which keep the ledger of handles and the group's content in step. -/

namespace VolumeGroups

/-- A content goes by the name that the group goes by, and all it records was recorded after the
driver last made it. -/
structure Content.Vouched (content : Content) (group : Group) (log : List Exchange) : Prop where
  name : Unmade log ∨ content.metadata.name = some group.contentName
  recorded : ∀ {handle : String}, content.handle? = some handle →
    ¬ Pending Exchange.records? handle log

/-- The content of a group is vouched for, and tells of each handle that was recorded but not
deleted. -/
structure Custody (group : Group) (scene : Scene) : Prop where
  -- The content knows the group or was named after it.
  vouched : ∀ {content : Content}, scene.store.find? group.contentKey = some content →
    content.Vouched group scene.exchanges
  -- A handle that is not deleted is not recorded yet, or the content has it.
  kept : ∀ {handle : String}, Pending Exchange.drops? handle scene.exchanges →
    Pending Exchange.records? handle scene.exchanges ∨ scene.store.Holds group.contentKey handle
  /-- Only what was recorded is deleted. -/
  dropped : ∀ {handle : String}, Pending Exchange.records? handle scene.exchanges →
    Pending Exchange.drops? handle scene.exchanges

/-- A stretch in which the group and its content rest and nothing happens to handles. -/
structure Scene.Rests (place : String) (before after : Scene) : Prop where
  store : before.store.Rests place after.store
  log : Quiescent before.exchanges after.exchanges

namespace Scene.Rests

variable {place : String} {first second third : Scene}

/-- A scene in which nothing happens rests. -/
theorem refl (scene : Scene) : scene.Rests place scene := ⟨.refl _, .refl _⟩

/-- What rests twice rests over both. -/
theorem trans (before : first.Rests place second) (after : second.Rests place third) :
    first.Rests place third :=
  ⟨before.store.trans after.store, before.log.trans after.log⟩

/-- A call that concerns no handle rests if the store does. -/
theorem of_silent {exchange : Exchange} (silent : exchange.IsSilent)
    (told : second.exchanges = exchange :: first.exchanges)
    (store : first.store.Rests place second.store) : first.Rests place second :=
  ⟨store, .of_silent silent told⟩

end Scene.Rests

/-- What a content records is vouched for as long as nothing happens to handles. -/
theorem Content.Vouched.later {content : Content} {group : Group} {before after : List Exchange}
    (vouched : content.Vouched group before) (log : Quiescent before after) :
    content.Vouched group after where
  name := vouched.name.imp_left log.unmade
  recorded has pending := vouched.recorded has (log.records.mp pending)

/-- What a content records is vouched for also after a call that makes and records nothing. -/
theorem Content.Vouched.cons {content : Content} {group : Group} {exchange : Exchange}
    {log : List Exchange} (vouched : content.Vouched group log) (makes : exchange.makes? = none)
    (records : exchange.records? = none) : content.Vouched group (exchange :: log) where
  name := vouched.name.imp_left fun unmade => unmade.cons makes
  recorded has pending := vouched.recorded has ((Pending.cons_iff makes records).mp pending)

/-- A content that matches a vouched one is vouched for by every matching group. -/
theorem Content.Vouched.matching {content now : Content} {group own : Group} {log : List Exchange}
    (vouched : content.Vouched group log) (same : content.Matches now)
    (known : group.Matches own) : now.Vouched own log where
  name := vouched.name.imp_right fun has =>
    (same.name.trans has).trans (congrArg _ known.contentName.symm)
  recorded has := vouched.recorded (same.handle?.symm.trans has)

namespace Custody

variable {group : Group} {scene : Scene}

/-- Matching groups have one content. -/
theorem matching {own : Group} (custody : Custody group scene) (same : group.Matches own) :
    Custody own scene where
  vouched found := (custody.vouched (same.contentKey ▸ found)).matching (.refl _) same
  kept pending := same.contentKey ▸ custody.kept pending
  dropped := custody.dropped

/-- Nothing has to be kept where the driver made no group. -/
theorem of_unmade (group : Group) (unmade : Unmade scene.exchanges) : Custody group scene where
  vouched _ := ⟨Or.inl unmade, fun _ => unmade.not_pending _ _⟩
  kept pending := absurd pending (unmade.not_pending _ _)
  dropped pending := absurd pending (unmade.not_pending _ _)

/-- What rests stays in custody. -/
theorem rests {place : String} {after : Scene} (custody : Custody group scene)
    (rests : scene.Rests place after) : Custody group after where
  vouched found := by
    obtain ⟨before, foundBefore, same⟩ := rests.store.origin found
    exact ((custody.vouched foundBefore).later rests.log).matching same (.refl _)
  -- A content that holds a handle is not being deleted, so it is still there.
  kept pending := by
    rcases custody.kept (rests.log.drops.mp pending) with unrecorded | ⟨content, found, has, live⟩
    · exact Or.inl (rests.log.records.mpr unrecorded)
    · obtain ⟨now, foundNow, same, liveNow⟩ := rests.store.stays found live
      exact Or.inr ⟨now, foundNow, same.handle?.trans has, liveNow⟩
  dropped pending := rests.log.drops.mpr (custody.dropped (rests.log.records.mp pending))

end Custody

/-- Contents lie under their own keys, and the group under a key has its content in custody. -/
structure Guarded (place : String) (scene : Scene) : Prop where
  contents : ∀ {key : String} {content : Content}, scene.store.find? key = some content →
    Resource.key content = key
  group : ∀ {own : Group}, scene.store.find? place = some own →
    Resource.key own = place ∧ Custody own scene

/-- A pass that knows a group knows that the content of the stored group is in custody, as long as
the group is stored. -/
structure Tended (place : String) (group : Group) (scene : Scene) : Prop where
  key : Resource.key group = place
  contents : ∀ {key : String} {content : Content}, scene.store.find? key = some content →
    Resource.key content = key
  own : ∀ {own : Group}, scene.store.find? place = some own →
    group.Matches own ∧ Custody group scene

/-- A stored group that is guarded may be tended. -/
theorem Guarded.tended {place : String} {scene : Scene} {group : Group}
    (guarded : Guarded place scene) (found : scene.store.find? place = some group) :
    Tended place group scene := by
  -- Whoever is stored under the key is the group itself.
  refine ⟨(guarded.group found).1, guarded.contents, ?_⟩
  intro own there
  obtain rfl : group = own := by simpa [found] using there
  exact ⟨.refl _, (guarded.group found).2⟩

/-- What rests stays guarded. -/
theorem Guarded.rests {place : String} {before after : Scene} (guarded : Guarded place before)
    (rests : before.Rests place after) : Guarded place after := by
  -- All that is there after a rest matches something that was there before.
  refine ⟨?_, ?_⟩
  · intro key content found
    obtain ⟨former, there, same⟩ := rests.store.origin found
    exact same.key.trans (guarded.contents there)
  · intro own found
    obtain ⟨former, there, same⟩ := rests.store.group found
    obtain ⟨key, custody⟩ := guarded.group there
    exact ⟨same.key.trans key, (custody.rests rests).matching same⟩

namespace Tended

variable {place : String} {group own : Group} {scene after : Scene}

/-- What is tended is guarded. -/
theorem guarded (tended : Tended place group scene) : Guarded place scene := by
  refine ⟨tended.contents, ?_⟩
  intro own found
  obtain ⟨same, custody⟩ := tended.own found
  exact ⟨same.key.trans tended.key, custody.matching same⟩

/-- A matching group is tended as well. -/
theorem matching (tended : Tended place group scene) (same : group.Matches own) :
    Tended place own scene := by
  refine ⟨same.key.trans tended.key, tended.contents, ?_⟩
  intro stored found
  obtain ⟨known, custody⟩ := tended.own found
  exact ⟨same.symm.trans known, custody.matching same⟩

/-- What rests stays tended. -/
theorem rests (tended : Tended place group scene) (rests : scene.Rests place after) :
    Tended place group after := by
  -- Rests keep what the group and its content depend on.
  refine ⟨tended.key, ?_, ?_⟩
  · exact (tended.guarded.rests rests).contents
  · intro own found
    obtain ⟨before, foundBefore, same⟩ := rests.store.group found
    obtain ⟨known, custody⟩ := tended.own foundBefore
    exact ⟨known.trans same, custody.rests rests⟩

end Tended

/-- The group under a key loses its mark. -/
def Store.Unmarks (place : String) (earlier later : Store) : Prop :=
  ∃ own : Group, earlier.find? place = some own ∧ own.isMarked = true ∧
    ∀ now : Group, later.find? place = some now → now.isMarked = false

/-- Whether the group loses its mark can be read off both stores. -/
instance (place : String) (earlier later : Store) : Decidable (Store.Unmarks place earlier later) :=
  inferInstanceAs (Decidable (∃ own ∈ (earlier.find? place : Option Group), own.isMarked = true ∧
    ∀ now ∈ (later.find? place : Option Group), now.isMarked = false))

/-- A call leaves the group under a key guarded, and takes the group's mark off only when the ledger
is balanced. -/
def Tends (place : String) : Promise := fun met _ _ after =>
  Guarded place after ∧ (met.store.Unmarks place after.store → Balanced met.exchanges)

/-- A call that leaves the mark on only has to leave the group guarded. -/
theorem Guarded.tends {place : String} {met after : Scene} {request : Call}
    {answer : request.Answer} (guarded : Guarded place after)
    (marked : ∀ {own : Group}, met.store.find? place = some own → own.isMarked = true →
      ∃ now : Group, after.store.find? place = some now ∧ now.isMarked = true) :
    Tends place met request answer after := by
  -- There is nothing to show about the ledger, since no mark is lost.
  refine ⟨guarded, ?_⟩
  rintro ⟨own, found, held, lost⟩
  obtain ⟨now, foundNow, still⟩ := marked found held
  simp [lost now foundNow] at still

/-- A call that leaves the group as it is leaves the mark on. -/
theorem Guarded.tends_of_find? {place : String} {met after : Scene} {request : Call}
    {answer : request.Answer} (guarded : Guarded place after)
    (same : after.store.find? place = (met.store.find? place : Option Group)) :
    Tends place met request answer after :=
  guarded.tends fun found marked => ⟨_, same.trans found, marked⟩

/-- A call during a rest leaves the mark on. -/
theorem Tended.tends {place : String} {group : Group} {met after : Scene} {request : Call}
    {answer : request.Answer} (tended : Tended place group after)
    (rests : met.Rests place after) : Tends place met request answer after :=
  tended.guarded.tends rests.store.marked

/-- Others leave the group under a key and its content at rest between two calls, and calls that fail
tell the truth. -/
structure Conditions.Reserved (conditions : Conditions) (place : String) : Prop where
  during : ∀ {earlier later : Store}, (∀ {own : Group}, earlier.find? place = some own →
    Resource.key own = place) → conditions.during earlier later → earlier.Rests place later
  honest : ∀ {request : Call} {answer : request.Answer}, conditions.fails request answer →
    request.FailsHonestly answer

/-- Waiting is a rest. -/
theorem Guarded.waits {conditions : Conditions} {place : String} {scene met : Scene}
    (guarded : Guarded place scene) (reserved : conditions.Reserved place)
    (waits : conditions.Waits scene met) : scene.Rests place met := by
  obtain ⟨silent, edits⟩ := waits
  obtain ⟨store, exchanges⟩ := met
  obtain rfl : exchanges = scene.exchanges := silent
  replace edits : Relation.ReflTransGen conditions.during scene.store store := edits
  -- The induction goes along the edits, and the group stays guarded up to each of them.
  induction edits with
  | refl => exact .refl scene
  | tail _ edit ih =>
    have placed {own : Group} (found : _ = some own) := ((guarded.rests ih).group found).1
    exact ih.trans ⟨reserved.during placed edit, .refl _⟩

/-- Waiting is a rest also for a group that a pass knows. -/
theorem Conditions.Reserved.waits {conditions : Conditions} {place : String}
    (reserved : conditions.Reserved place) {group : Group} {scene met : Scene}
    (tended : Tended place group scene) (waits : conditions.Waits scene met) :
    scene.Rests place met :=
  tended.guarded.waits reserved waits

/-- A call that writes nothing leaves the store as it was. -/
theorem Conditions.Answers.unchanged {conditions : Conditions} {met after : Scene} {request : Call}
    {answer : request.Answer} (inert : request.IsInert)
    (answers : conditions.Answers met request answer after) : after.store = met.store := by
  -- Writes are the only calls that change the store.
  obtain ⟨_, serves | ⟨_, same⟩⟩ := answers
  · cases request with
    | replaceGroup | replaceGroupStatus | createContent | replaceContent | replaceContentStatus
    | deleteContent | replaceClaim | createDriverGroup | deleteDriverGroup => exact inert.elim
    | readClock => exact serves
    | _ => exact serves.2
  · exact same

namespace Conditions.Reserved

variable {conditions : Conditions} {place : String} {later : Group} {met after : Scene}

/-- Writing a group fails without effect, or overwrites the group under its key. -/
theorem replaceGroup (reserved : conditions.Reserved place)
    {answer : (Call.replaceGroup later).Answer}
    (answers : conditions.Answers met (.replaceGroup later) answer after) :
    (∃ error, answer = .error error ∧ after.store = met.store) ∨
      ∃ own : Group, met.store.find? (Resource.key later) = some own ∧
        answer = .ok (met.store.stamped (Stored.withStatusOf later own)) ∧
        after.store = (met.store.overwrite (Stored.withStatusOf later own)).2 := by
  -- The store answers, or the call fails honestly.
  obtain ⟨_, serves | ⟨failing, unchanged⟩⟩ := answers
  · rcases Store.replace_answers serves with failed | ⟨own, found, _, done⟩
    · exact Or.inl failed
    · exact Or.inr ⟨own, found, done⟩
  · cases answer with
    | error cause => exact Or.inl ⟨cause, rfl, unchanged⟩
    | ok stored => cases (reserved.honest failing).1

/-- Writing the state of a group fails without effect, or overwrites the group under its key. -/
theorem replaceGroupStatus (reserved : conditions.Reserved place)
    {answer : (Call.replaceGroupStatus later).Answer}
    (answers : conditions.Answers met (.replaceGroupStatus later) answer after) :
    (∃ error, answer = .error error ∧ after.store = met.store) ∨
      ∃ own : Group, met.store.find? (Resource.key later) = some own ∧
        answer = .ok (met.store.stamped (Stored.withStatusOf own later)) ∧
        after.store = (met.store.overwrite (Stored.withStatusOf own later)).2 := by
  -- The store answers, or the call fails honestly.
  obtain ⟨_, serves | ⟨failing, unchanged⟩⟩ := answers
  · rcases Store.replaceStatus_answers serves with failed | ⟨own, found, _, done⟩
    · exact Or.inl failed
    · exact Or.inr ⟨own, found, done⟩
  · cases answer with
    | error cause => exact Or.inl ⟨cause, rfl, unchanged⟩
    | ok stored => cases (reserved.honest failing).1

end Conditions.Reserved

namespace Tended

variable {conditions : Conditions} {place : String} {group later : Group} {met after : Scene}

/-- Writing a later form of a group with its mark is a rest, and the stored form matches. -/
theorem replaceGroup (tended : Tended place group met) (reserved : conditions.Reserved place)
    {answer : (Call.replaceGroup later).Answer}
    (answers : conditions.Answers met (.replaceGroup later) answer after)
    (same : group.Matches later) (marked : later.isMarked = true) :
    met.Rests place after ∧
      ∀ stored, answer = .ok stored → group.Matches stored ∧ stored.isMarked = true := by
  have silent := Exchange.isSilent (.replaceGroup later) answer (by simp [Call.method])
  -- A failed write has no effect, and one that succeeds goes over the stored group.
  rcases reserved.replaceGroup answers with ⟨error, rfl, unchanged⟩ | ⟨own, found, rfl, wrote⟩
  · exact ⟨.of_silent silent answers.1 (unchanged ▸ .refl _), fun _ never => by cases never⟩
  · rw [same.key.trans tended.key] at found
    obtain ⟨known, _⟩ := tended.own found
    -- What is written keeps the state that is stored, which matches do not look at.
    have written : group.Matches (Stored.withStatusOf later own) := same.trans (.status later _)
    have rests : met.store.Rests place after.store := by
      rw [wrote]
      exact .overwrite_group found (known.key.trans tended.key) (known.symm.trans written)
        fun _ => marked
    refine ⟨.of_silent silent answers.1 rests, ?_⟩
    rintro stored ⟨⟩
    exact ⟨written.trans (.stamped _ _), marked⟩

/-- Writing a state of the group is a rest, and the stored form matches. -/
theorem replaceGroupStatus (tended : Tended place group met) (reserved : conditions.Reserved place)
    {answer : (Call.replaceGroupStatus later).Answer}
    (answers : conditions.Answers met (.replaceGroupStatus later) answer after)
    (key : Resource.key later = Resource.key group) :
    met.Rests place after ∧ ∀ stored, answer = .ok stored → group.Matches stored := by
  have silent := Exchange.isSilent (.replaceGroupStatus later) answer (by simp [Call.method])
  -- A failed write has no effect, and one that succeeds goes over the stored group.
  rcases reserved.replaceGroupStatus answers with ⟨error, rfl, unchanged⟩ | ⟨own, found, rfl, wrote⟩
  · exact ⟨.of_silent silent answers.1 (unchanged ▸ .refl _), fun _ never => by cases never⟩
  · rw [key.trans tended.key] at found
    obtain ⟨known, _⟩ := tended.own found
    -- What is written is what is stored but for the state, so the mark stays where it was.
    have kept : own.Matches (Stored.withStatusOf own later) := .status own _
    have rests : met.store.Rests place after.store := by
      rw [wrote]
      exact .overwrite_group found (known.key.trans tended.key) kept id
    refine ⟨.of_silent silent answers.1 rests, ?_⟩
    rintro stored ⟨⟩
    exact (known.trans kept).trans (.stamped _ _)

end Tended

/-- A call that leaves a group its content and its mark, and concerns no handle. -/
def Call.IsQuiet (group : Group) : Call → Prop
  | .replaceGroup later => group.Matches later ∧ later.isMarked = true
  | .replaceGroupStatus later => Resource.key later = Resource.key group
  | .replaceContentStatus _ | .replaceClaim _ => True
  | request => request.IsInert

/-- A quiet call is a rest. -/
theorem Tended.answers_quiet {conditions : Conditions} {place : String} {group : Group}
    {met after : Scene} {request : Call} {answer : request.Answer} (tended : Tended place group met)
    (reserved : conditions.Reserved place) (quiet : request.IsQuiet group)
    (answers : conditions.Answers met request answer after) : met.Rests place after := by
  -- None of the quiet calls makes, records or drops a handle.
  have silent : (Exchange.mk request answer).IsSilent := by
    refine Exchange.isSilent _ answer ?_
    cases request <;> first | exact quiet.elim | simp [Call.method]
  -- A call that writes nothing is a rest at once, and the writes are looked at one by one.
  by_cases inert : request.IsInert
  · exact .of_silent silent answers.1 (answers.unchanged inert ▸ .refl _)
  · cases request with
    | replaceGroup later => exact (tended.replaceGroup reserved answers quiet.1 quiet.2).1
    | replaceGroupStatus later => exact (tended.replaceGroupStatus reserved answers quiet).1
    -- Contents keep what they record, whatever their state.
    | replaceContentStatus content =>
      refine .of_silent silent answers.1 ?_
      obtain ⟨_, serves | ⟨_, same⟩⟩ := answers
      · rw [(Prod.mk.inj serves).2]
        exact .replaceStatus_content tended.contents content
      · exact same ▸ .refl _
    -- Claims are another table.
    | replaceClaim claim =>
      refine .of_silent silent answers.1 ?_
      obtain ⟨_, serves | ⟨_, same⟩⟩ := answers
      · rw [(Prod.mk.inj serves).2]
        exact .replace_claim met.store claim
      · exact same ▸ .refl _
    | _ => exact absurd quiet inert

end VolumeGroups
