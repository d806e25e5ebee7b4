import VolumeGroups.Proofs.Membership.Plan
import VolumeGroups.Proofs.Operator.Move

/-! The calm stretches of a pass, in which it records no member and takes off no mark, and what
becomes of a store during them while users may edit it. -/

namespace VolumeGroups

/-- A call that tells a failure on a group, or is idle. -/
def Call.IsTelling (group : Group) : Call → Prop
  | .replaceGroupStatus later => ∃ message ready,
    later = { group with status := some (GroupStatus.failed group.status message ready) }
  | request => request.IsIdle

/-- A call that tells a failure on a group, or writes neither groups nor claims. -/
def Call.IsCalm (group : Group) : Call → Prop
  | .replaceGroupStatus later => ∃ message ready,
    later = { group with status := some (GroupStatus.failed group.status message ready) }
  | request => request.IsPlain

/-- Telling a failure is calm. -/
theorem Call.IsTelling.isCalm {group : Group} {request : Call} (tells : request.IsTelling group) :
    request.IsCalm group := by
  cases request <;> first | exact tells | exact tells.elim

/-- A call that writes neither groups nor claims leaves their tables and that of the classes alone. -/
theorem Store.Serves.tables {store after : Store} {request : Call} {answer : request.Answer}
    (serves : store.Serves request answer after) (plain : request.IsPlain) :
    store.revision ≤ after.revision ∧
      (after.groups, after.claims, after.classes) = (store.groups, store.claims, store.classes) := by
  -- Contents lie apart from groups, claims and classes.
  have apart : Untouched Content fun store => (store.groups, store.claims, store.classes) :=
    fun _ _ _ => rfl
  cases request with
  -- The writes of groups and of claims are the calls that are not plain.
  | replaceGroup | replaceGroupStatus | replaceClaim => exact plain.elim
  -- The four calls about contents are all that a plain call may write.
  | createContent content =>
    rw [(Prod.mk.inj serves).2]
    exact ⟨(precedes_create _ _).revision, apart.create _ _⟩
  | replaceContent content =>
    rw [(Prod.mk.inj serves).2]
    exact ⟨(precedes_replace _ _).revision, apart.replace _ _⟩
  | replaceContentStatus content =>
    rw [(Prod.mk.inj serves).2]
    exact ⟨(precedes_replaceStatus _ _).revision, apart.replaceStatus _ _⟩
  | deleteContent name space =>
    rw [(Prod.mk.inj serves).2]
    exact ⟨(precedes_delete (α := Content) _ _ _).revision, apart.delete _ _ _⟩
  -- Looks and events leave the store what it was.
  | readClock => exact (serves : after = store) ▸ ⟨Nat.le_refl _, rfl⟩
  | _ => exact serves.2 ▸ ⟨Nat.le_refl _, rfl⟩

namespace Conditions

variable (conditions : Conditions)

/-- Nobody changes the store between two calls of a pass. -/
def Still : Prop := ∀ earlier later : Store, ¬ conditions.during earlier later

/-- What others do between two calls records no member and takes off no mark, and a call that fails
tells so. -/
structure Harmless : Prop where
  during : ∀ {earlier later : Store}, earlier.Regular → conditions.during earlier later →
    earlier.Spares later
  fails : ∀ {request : Call} {answer : request.Answer}, conditions.fails request answer →
    request.FailsWith answer

/-- What may become of a store while a pass records no member. -/
structure RecordsNoMember (earlier later : Store) : Prop where
  regular : later.Regular
  since : earlier.Since later
  classes : later.classes = earlier.classes
  /-- Only users change anything but marks. -/
  sameUpToMarks : conditions.Still → earlier.SameUpToMarks later

/-- What may become of a store while a pass records no member and takes no mark off a claim. -/
structure KeepsMarks (earlier later : Store) : Prop
    extends conditions.RecordsNoMember earlier later where
  keepsClaimMarks : earlier.KeepsClaimMarks later

/-- Each call of a pass over the group under a key does what such a call may do. -/
def Moves (key : String) : Promise := fun met _ _ after =>
  Store.Move conditions.driver key met.store after.store

variable {conditions} {key : String}

/-- A store stays what it is. -/
theorem RecordsNoMember.refl {store : Store} (regular : store.Regular) :
    conditions.RecordsNoMember store store :=
  ⟨regular, .refl _, rfl, fun _ => .refl _⟩

/-- What two stretches leave alone is left alone over both. -/
theorem RecordsNoMember.trans {first second third : Store}
    (before : conditions.RecordsNoMember first second)
    (after : conditions.RecordsNoMember second third) : conditions.RecordsNoMember first third :=
  ⟨after.regular, before.since.trans after.since, after.classes.trans before.classes,
    fun still => (before.sameUpToMarks still).trans (after.sameUpToMarks still)⟩

/-- A store stays what it is. -/
theorem KeepsMarks.refl {store : Store} (regular : store.Regular) :
    conditions.KeepsMarks store store :=
  ⟨.refl regular, id⟩

/-- What two stretches leave alone is left alone over both. -/
theorem KeepsMarks.trans {first second third : Store} (before : conditions.KeepsMarks first second)
    (after : conditions.KeepsMarks second third) : conditions.KeepsMarks first third :=
  ⟨before.toRecordsNoMember.trans after.toRecordsNoMember,
    fun held => after.keepsClaimMarks (before.keepsClaimMarks held)⟩

/-- A write that keeps everything is part of a calm stretch. -/
theorem KeepsMarks.of_keeps {earlier later : Store} (regular : earlier.Regular)
    (keeps : earlier.Keeps later) : conditions.KeepsMarks earlier later :=
  ⟨⟨keeps.regular regular, keeps.since, keeps.classes, fun _ => keeps.sameUpToMarks⟩,
    keeps.keepsClaimMarks⟩

/-- Letting a claim go records no member. -/
theorem RecordsNoMember.of_frees {earlier later : Store} (regular : earlier.Regular)
    (frees : earlier.Frees later) : conditions.RecordsNoMember earlier later :=
  ⟨frees.regular regular, frees.since, frees.tables.2, fun _ => frees.sameUpToMarks regular⟩

/-- Waiting is calm. -/
theorem Harmless.waits (harmless : conditions.Harmless) {scene met : Scene}
    (regular : scene.store.Regular) (waits : conditions.Waits scene met) :
    conditions.KeepsMarks scene.store met.store := by
  obtain ⟨_, edits⟩ := waits
  -- The induction goes along the edits.
  generalize met.store = last at edits
  induction edits with
  | refl => exact .refl regular
  | tail _ edit ih =>
    have spares := harmless.during ih.regular edit
    -- An edit may change more than marks, but then somebody edits.
    refine ih.trans ⟨⟨spares.regular, spares.since, spares.classes, ?_⟩, spares.keepsClaimMarks⟩
    exact fun still => absurd edit (still _ _)

/-- A call that writes neither groups nor claims keeps them. -/
theorem Answers.keeps {met after : Scene} {request : Call} {answer : request.Answer}
    (plain : request.IsPlain) (answers : conditions.Answers met request answer after) :
    met.store.Keeps after.store := by
  -- A call that is carried out leaves the tables alone, and one that fails leaves all alone.
  obtain ⟨_, serves | ⟨_, same⟩⟩ := answers
  · obtain ⟨revision, tables⟩ := serves.tables plain
    exact .of_tables revision (congrArg (·.1) tables) (congrArg (·.2.1) tables)
      (congrArg (·.2.2) tables)
  · rw [same]
    exact .refl _

/-- Telling a failure on a group that is recalled keeps groups and claims, since the state is only
written over that very group. -/
theorem Answers.keeps_of_calm {met after : Scene} {request : Call} {answer : request.Answer}
    {group : Group} (regular : met.store.Regular) (recalls : met.store.Recalls group)
    (calm : request.IsCalm group) (answers : conditions.Answers met request answer after) :
    met.store.Keeps after.store := by
  -- The only calm call that is not plain tells a failure on the group.
  by_cases plain : request.IsPlain
  · exact answers.keeps plain
  · cases request with
    | replaceGroupStatus later =>
      obtain ⟨message, ready, same⟩ := calm
      obtain ⟨_, serves | ⟨_, unchanged⟩⟩ := answers
      · rcases recalls.replaceStatus (by rw [same]; rfl) (by rw [same]; rfl) serves with
          ⟨error, _, unchanged⟩ | ⟨found, _, wrote⟩
        · rw [unchanged]
          exact .refl _
        · rw [wrote, same]
          refine .overwrite_group regular found ⟨rfl, rfl, rfl⟩ ?_ id
          -- The members are those of the earlier state, none if there was no state.
          cases status : group.status <;> simp [Group.members, Stored.withStatusOf,
            GroupStatus.failed, status]
      · rw [unchanged]
        exact .refl _
    | replaceGroup | replaceClaim => exact calm.elim
    | _ => exact absurd trivial plain

end Conditions

section Rules

variable {conditions : Conditions} {key : String} {scene : Scene} {α ε : Type}

/-- A program is calm if each of its calls keeps groups and claims while calm lasts. -/
theorem Program.honours_keeping {calls : Call → Prop} {gives : α → Prop} {program : Program α}
    (harmless : conditions.Harmless) (regular : scene.store.Regular)
    (asks : program.Asks calls gives)
    (keeps : ∀ {met after : Scene} {request : Call} {answer : request.Answer}, calls request →
      conditions.KeepsMarks scene.store met.store → conditions.Answers met request answer after →
        met.store.Keeps after.store) :
    program.Honours conditions (conditions.Moves key)
      (fun value after => gives value ∧ conditions.KeepsMarks scene.store after.store) scene := by
  -- Calm is carried along the calls: others may act before each of them, and the call itself keeps
  -- what it finds.
  refine asks.honours (fun after => conditions.KeepsMarks scene.store after.store) ?_ ?_
    (.refl regular)
  · intro before met keepsMarks waits
    exact keepsMarks.trans (harmless.waits keepsMarks.regular waits)
  · intro met request answer after called keepsMarks answers
    have kept := keeps called keepsMarks answers
    exact ⟨.keep kept, keepsMarks.trans (.of_keeps keepsMarks.regular kept)⟩

/-- A program that only tells failures on a recalled group is calm. -/
theorem Program.honours_calm {gives : α → Prop} {program : Program α} {group : Group}
    (harmless : conditions.Harmless) (regular : scene.store.Regular)
    (recalls : scene.store.Recalls group) (asks : program.Asks (Call.IsCalm group) gives) :
    program.Honours conditions (conditions.Moves key)
      (fun value after => gives value ∧ conditions.KeepsMarks scene.store after.store) scene := by
  refine honours_keeping harmless regular asks ?_
  -- A group that was recalled at the start is recalled for as long as calm lasts.
  intro met after request answer calm keepsMarks answers
  exact answers.keeps_of_calm keepsMarks.regular (recalls.later keepsMarks.since.groups) calm

/-- A program that writes neither groups nor claims is calm. -/
theorem Program.honours_plain {gives : α → Prop} {program : Program α}
    (harmless : conditions.Harmless) (regular : scene.store.Regular)
    (asks : program.Asks Call.IsPlain gives) :
    program.Honours conditions (conditions.Moves key)
      (fun value after => gives value ∧ conditions.KeepsMarks scene.store after.store) scene :=
  honours_keeping harmless regular asks fun plain _ answers => answers.keeps plain

/-- A single call that writes neither groups nor claims is calm, and tells what its answer tells. -/
theorem Program.honours_look {request : Call} {goal : request.Answer → Scene → Prop}
    (harmless : conditions.Harmless) (regular : scene.store.Regular) (plain : request.IsPlain)
    (told : ∀ {met after : Scene} {answer : request.Answer}, conditions.Waits scene met →
      conditions.Answers met request answer after → goal answer after) :
    (Program.ask request).Honours conditions (conditions.Moves key)
      (fun answer after => conditions.KeepsMarks scene.store after.store ∧ goal answer after)
      scene := by
  -- One call has one moment of waiting before it, which is calm by itself.
  refine .ask ?_
  intro met waits answer after answers
  have calm := harmless.waits regular waits
  have keeps := answers.keeps plain
  exact ⟨.keep keeps, calm.trans (.of_keeps calm.regular keeps), told waits answers⟩

/-- Telling a failure on a group writes nothing but its state. -/
theorem Group.asks_tell (group : Group) (reason : Reason) (ready : Option Bool)
    (error : PassError) :
    (group.tell reason ready error).Asks (Call.IsTelling group) fun _ => True :=
  asks_tell_of ⟨_, _, rfl⟩ (fun _ => trivial) reason

namespace Attempt

/-- An attempt that only tells failures on a recalled group is calm. -/
theorem honours_calm {gives : α → Prop} {attempt : Attempt ε α} {group : Group}
    (harmless : conditions.Harmless) (regular : scene.store.Regular)
    (recalls : scene.store.Recalls group) (asks : Asks (Call.IsCalm group) gives attempt) :
    Honours conditions (conditions.Moves key)
      (fun result after => Gives gives result ∧ conditions.KeepsMarks scene.store after.store)
      attempt scene :=
  Program.honours_calm harmless regular recalls asks

/-- An attempt that writes neither groups nor claims is calm. -/
theorem honours_plain {gives : α → Prop} {attempt : Attempt ε α}
    (harmless : conditions.Harmless) (regular : scene.store.Regular)
    (asks : Asks Call.IsPlain gives attempt) :
    Honours conditions (conditions.Moves key)
      (fun result after => Gives gives result ∧ conditions.KeepsMarks scene.store after.store)
      attempt scene :=
  Program.honours_plain harmless regular asks

/-- An attempt whose failure is told on a recalled group succeeds as it does by itself. -/
theorem honours_tellingOn {goal : α → Scene → Prop} {attempt : Attempt PassError α} {group : Group}
    {reason : Reason} {ready : Option Bool} (harmless : conditions.Harmless)
    (recalls : scene.store.Recalls group)
    (honours : Honours conditions (conditions.Moves key)
      (fun result after => conditions.KeepsMarks scene.store after.store ∧ Ends goal result after)
      attempt scene) :
    Honours conditions (conditions.Moves key)
      (Ends fun value after => conditions.KeepsMarks scene.store after.store ∧ goal value after)
      (tellingOn group reason ready attempt) scene := by
  -- A success passes through the telling untouched.
  refine honours.tellingOn ?_ ?_
  · exact fun _ _ reached => reached
  · -- The failure is told on the group as it was recalled before the attempt.
    intro error after ⟨keepsMarks, _⟩
    have calm := (group.asks_tell reason ready error).mono (fun _ tells => tells.isCalm) fun _ => id
    exact (Program.honours_calm harmless keepsMarks.regular (recalls.later keepsMarks.since.groups)
      calm).mono fun _ _ _ => trivial

end Attempt

end Rules

end VolumeGroups
