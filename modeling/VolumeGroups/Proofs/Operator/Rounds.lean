import VolumeGroups.Proofs.Membership.Accounts
import VolumeGroups.Proofs.Operator.Passes
import VolumeGroups.Proofs.Operator.Plays

/-! Rounds of passes that nobody disturbs and that all succeed, and what they leave settled. -/

namespace VolumeGroups

/-- An operator that has the cluster to itself and whose calls never fail. -/
def Conditions.undisturbed (driver : String) : Conditions where
  driver := driver

/-- Nothing is harmed where nothing happens. -/
theorem Conditions.undisturbed_harmless (driver : String) : (undisturbed driver).Harmless where
  during _ never := never.elim
  fails never := never.elim

/-- Passes over groups, one after another, that nobody disturbs and that all succeed. -/
inductive Round (driver : String) : List Group → Scene → Scene → Prop
  /-- A round is over. -/
  | done {scene : Scene} : Round driver [] scene scene
  /-- A pass succeeds, and the round goes on. -/
  | pass {seen : Group} {rest : List Group} {scene next last : Scene} {action : Action}
    (plays : (seen.reconcile driver).run.Plays (.undisturbed driver) (.ok action) next scene)
    (later : Round driver rest next last) : Round driver (seen :: rest) scene last

namespace Store

/-- Groups and claims are what they were, up to marks and up to what the group under a key
records. -/
structure Follows (key : String) (earlier later : Store) : Prop where
  -- Nothing is there that was not there before, and only the group under the key records anything
  -- else.
  regular : later.Regular
  classes : later.classes = earlier.classes
  group : ∀ {place : String} {now : Group}, later.find? place = some now →
    ∃ before : Group, earlier.find? place = some before ∧ before.Continues now ∧
      (place ≠ key → now.members = before.members)
  claim : ∀ {place : String} {now : Claim}, later.find? place = some now →
    ∃ before : Claim, earlier.find? place = some before ∧ before.Continues now

variable {driver key : String}

/-- A store follows itself. -/
theorem Follows.refl {store : Store} (regular : store.Regular) : store.Follows key store where
  regular := regular
  classes := rfl
  group found := ⟨_, found, .refl _, fun _ => rfl⟩
  claim found := ⟨_, found, .refl _⟩

/-- What follows a store follows all that it follows. -/
theorem Follows.trans {first second third : Store} (before : first.Follows key second)
    (after : second.Follows key third) : first.Follows key third where
  regular := after.regular
  classes := after.classes.trans before.classes
  group found := by
    -- An object is traced back in two steps, from the last store over the middle one.
    obtain ⟨middle, foundMiddle, continues, members⟩ := after.group found
    obtain ⟨start, foundStart, continued, recorded⟩ := before.group foundMiddle
    exact ⟨start, foundStart, continued.trans continues,
      -- Members are the same over both steps, since both leave other groups alone.
      fun apart => (members apart).trans (recorded apart)⟩
  claim found := by
    obtain ⟨middle, foundMiddle, continues⟩ := after.claim found
    obtain ⟨start, foundStart, continued⟩ := before.claim foundMiddle
    exact ⟨start, foundStart, continued.trans continues⟩

/-- What is the same up to marks follows. -/
theorem Follows.of_sameUpToMarks {earlier later : Store} (regular : later.Regular)
    (classes : later.classes = earlier.classes) (sameUpToMarks : earlier.SameUpToMarks later) :
    earlier.Follows key later where
  regular := regular
  classes := classes
  -- A trace leaves the members of every group alone, the one under the key included.
  group found := by
    obtain ⟨before, foundBefore, continues, members⟩ := sameUpToMarks.group found
    exact ⟨before, foundBefore, continues, fun _ => members⟩
  claim := sameUpToMarks.claim

/-- Overwriting the group under a key by a later form of itself changes what that group records. -/
theorem Follows.overwrite_group {store : Store} (regular : store.Regular) {group next : Group}
    (found : store.find? key = some group) (continues : group.Continues next) :
    store.Follows key (store.overwrite next).2 := by
  -- Claims and classes are in other tables, so only the group that is written has to be looked at.
  obtain ⟨claims, classes⟩ := Prod.mk.inj (untouched_by_groups.overwrite store next)
  have place : Resource.key next = key :=
    continues.metadata.key.trans (regular.groups.placed found)
  refine ⟨regular.overwrite_group found continues.metadata, classes, ?_, ?_⟩
  · intro other now reading
    rcases find?_overwrite_eq_some reading with ⟨here, rfl⟩ | ⟨_, kept⟩
    · have written : group.Continues (store.stamped next) :=
        ⟨continues.metadata.trans rfl, continues.className, continues.selector⟩
      exact ⟨group, (here.trans place) ▸ found, written,
        fun apart => absurd (here.trans place) apart⟩
    · exact ⟨now, kept, .refl _, fun _ => rfl⟩
  · intro other now reading
    exact ⟨now, find?_of_claims claims other ▸ reading, .refl _⟩

/-- What a call of a pass over the group under a key leaves follows. -/
theorem Move.follows {earlier later : Store} (move : Move driver key earlier later)
    (regular : earlier.Regular) : earlier.Follows key later := by
  -- The first two kinds of moves change marks only; the others overwrite the group under the key.
  cases move with
  | keep keeps => exact .of_sameUpToMarks (keeps.regular regular) keeps.classes keeps.sameUpToMarks
  | free frees =>
    exact .of_sameUpToMarks (frees.regular regular) frees.tables.2 (frees.sameUpToMarks regular)
  | enlist found => exact .overwrite_group regular found ⟨rfl, rfl, rfl⟩
  | forget found => exact .overwrite_group regular found ⟨rfl, rfl, rfl⟩
  | close found _ _ freed =>
    exact .overwrite_group regular found ⟨(Metadata.removeFinalizer?_eq_some freed).1, rfl, rfl⟩

/-- A settled group stays settled while a pass is made over another one. -/
theorem Settled.follows {earlier later : Store} {place : String}
    (settled : earlier.Settled driver place) (follows : earlier.Follows key later)
    (apart : place ≠ key) : later.Settled driver place := by
  intro group found manages
  obtain ⟨before, foundBefore, continues, members⟩ := follows.group found
  -- Only the group under the key may record anything else, and that is another one.
  have recorded := members apart
  have managed : earlier.Manages driver before :=
    manages.of_className follows.classes.symm continues.className?.symm
  rcases settled foundBefore managed with ⟨terminating, nothing⟩ | ⟨live, decided⟩
  · exact Or.inl ⟨continues.isTerminating.trans terminating, recorded.trans nothing⟩
  · refine Or.inr ⟨continues.isTerminating.trans live, ?_⟩
    -- A claim changes by its marks only, which no group looks at.
    intro other claim reading inSpace bound
    obtain ⟨first, foundFirst, same⟩ := follows.claim reading
    have sameSpace : claim.metadata.namespace = first.metadata.namespace := by
      rw [same.metadata]
    have sameName : claim.metadata.name = first.metadata.name := by
      rw [same.metadata]
    have lists : group.lists claim = before.lists first := by
      simp only [Group.lists, recorded, sameSpace, sameName, continues.namespace]
    rw [continues.wants same, lists]
    refine decided foundFirst ?_ ?_
    · exact (sameSpace.symm.trans inSpace).trans continues.namespace
    · simpa only [Claim.volumeName?, same.spec] using bound

end Store

section Passing

variable {driver : String} {scene next : Scene}

/-- Where marks and members are accounted for, an undisturbed pass that succeeds settles its group
and leaves all other groups what they were. -/
theorem Program.Plays.settles {seen : Group} {action : Action}
    (plays : (seen.reconcile driver).run.Plays (.undisturbed driver) (.ok action) next scene)
    (regular : scene.store.Regular) (accounted : scene.store.Accounted driver) :
    next.store.Accounted driver ∧ scene.store.Follows seen.place next.store ∧
      next.store.Settled driver seen.place := by
  have still : (Conditions.undisturbed driver).Still := fun _ _ => id
  have honours := Attempt.honours_reconcile seen (Conditions.undisturbed_harmless driver) regular
  -- Nobody else edits anything, so all that happens are the calls of the pass.
  have along := plays.along
    (fun now => now.store.Accounted driver ∧ scene.store.Follows seen.place now.store) honours
  obtain ⟨kept, follows⟩ := by
    refine along ⟨accounted, .refl regular⟩ ?_ ?_
    · intro now met held waits
      rwa [still.waits waits]
    · intro met after request answer ⟨kept, follows⟩ moved
      exact ⟨kept.move follows.regular moved, follows.trans (moved.follows follows.regular)⟩
  refine ⟨kept, follows, plays.goal honours still (fun never => never.elim) ?_⟩
  intro own found unmarked
  -- A group with members would be marked.
  refine Classical.byContradiction fun some => ?_
  simp [accounted.marked found some] at unmarked

/-- After a round every group that it passed over is settled, and what is there was there before. -/
theorem Round.settles {groups : List Group} (round : Round driver groups scene next)
    (regular : scene.store.Regular) (accounted : scene.store.Accounted driver) :
    next.store.Regular ∧ next.store.Accounted driver ∧
      (∀ seen ∈ groups, next.store.Settled driver seen.place) ∧
      (∀ place, scene.store.Settled driver place → next.store.Settled driver place) ∧
      ∀ {place : String} {now : Group}, next.store.find? place = some now →
        ∃ before : Group, scene.store.find? place = some before ∧ before.Continues now := by
  -- The induction goes along the round, one pass at a time.
  induction round with
  | done => exact ⟨regular, accounted, by simp, fun _ => id, fun found => ⟨_, found, .refl _⟩⟩
  | @pass seen rest first middle last action plays later ih =>
    obtain ⟨kept, follows, settled⟩ := plays.settles regular accounted
    obtain ⟨ordered, keptLast, all, stays, origin⟩ := ih follows.regular kept
    refine ⟨ordered, keptLast, ?_, ?_, ?_⟩
    · intro other known
      rcases List.mem_cons.mp known with rfl | known
      · exact stays _ settled
      · exact all other known
    · intro place before
      -- The pass settles its own group, whatever became of it.
      by_cases own : place = seen.place
      · exact stays _ (own ▸ settled)
      · exact stays _ (before.follows follows own)
    · intro place now found
      obtain ⟨between, foundBetween, continues⟩ := origin found
      obtain ⟨before, foundBefore, continued, _⟩ := follows.group foundBetween
      exact ⟨before, foundBefore, continued.trans continues⟩

end Passing

end VolumeGroups
