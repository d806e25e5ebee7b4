import VolumeGroups.Proofs.Operator.Rule
import VolumeGroups.Proofs.Store.Succession

/-! What calls bring to a pass are copies of stored objects, whatever others write in the meantime, and
what a pass writes goes over the very object that it has a copy of. -/

namespace VolumeGroups

/-- Calls that a store carries out advance it. -/
theorem Store.Serves.advances {store after : Store} {request : Call} {answer : request.Answer}
    (serves : store.Serves request answer after) (ordered : store.Ordered) :
    store.Advances after := by
  -- Only the writes have an effect, each on the objects of one type.
  cases request with
  | replaceGroup group =>
    rw [(Prod.mk.inj serves).2]
    -- A written group is renewed under its own key, and the other tables are not touched.
    exact ordered.advances_of_group (ordered.groups.renews_replace _) (beside_groups.replace _ _)
  | replaceGroupStatus group =>
    rw [(Prod.mk.inj serves).2]
    exact ordered.advances_of_group (ordered.groups.renews_replaceStatus _)
      (beside_groups.replaceStatus _ _)
  -- The same goes for a claim.
  | replaceClaim claim =>
    rw [(Prod.mk.inj serves).2]
    exact ordered.advances_of_claim (ordered.claims.renews_replace _) (beside_claims.replace _ _)
  -- Contents are created, written and deleted, always one at a time.
  | createContent content =>
    rw [(Prod.mk.inj serves).2]
    exact ordered.advances_of_content (ordered.contents.renews_create _)
      (beside_contents.create _ _)
  | replaceContent content =>
    rw [(Prod.mk.inj serves).2]
    exact ordered.advances_of_content (ordered.contents.renews_replace _)
      (beside_contents.replace _ _)
  | replaceContentStatus content =>
    rw [(Prod.mk.inj serves).2]
    exact ordered.advances_of_content (ordered.contents.renews_replaceStatus _)
      (beside_contents.replaceStatus _ _)
  | deleteContent name space =>
    rw [(Prod.mk.inj serves).2]
    exact ordered.advances_of_content (ordered.contents.renews_delete _ _)
      (beside_contents.delete _ _ _)
  -- The clock and the looks leave the store alone.
  | readClock => exact (serves : after = store) ▸ ordered.advances
  | _ => exact serves.2 ▸ ordered.advances

/-- What a call brought was stored at some time before, where the call looked for it or put it. -/
def Exchange.IsCopied (store : Store) : Exchange → Prop
  -- A group that was read lies where it was looked for.
  | ⟨.getGroup name space, .ok group⟩ =>
    store.Recalls group ∧ Resource.key group = space ++ "/" ++ name
  -- A write gives back what it wrote, with the state that was there.
  | ⟨.replaceGroup later, .ok group⟩ =>
    store.Recalls group ∧ later.metadata.Continues group.metadata ∧ group.spec = later.spec
  | ⟨.replaceGroupStatus later, .ok group⟩ =>
    store.Recalls group ∧ Resource.key group = Resource.key later
  -- Claims of a list come from the namespace that was asked for.
  | ⟨.listClaims space, .ok claims⟩ =>
    ∀ claim ∈ claims, store.Recalls claim ∧ claim.metadata.namespace = some space
  | ⟨.getContent name space, .ok content⟩ =>
    store.Recalls content ∧ Resource.key content = space ++ "/" ++ name
  -- A content that is created or written comes back under its own key.
  | ⟨.createContent later, .ok content⟩ | ⟨.replaceContent later, .ok content⟩ =>
    store.Recalls content ∧ Resource.key content = Resource.key later ∧ content.spec = later.spec
  | _ => True

namespace Exchange

variable {store after : Store} {exchange : Exchange}

/-- What was copied was stored, also as seen from later on. -/
theorem IsCopied.later (copied : exchange.IsCopied store) (advances : store.Advances after) :
    exchange.IsCopied after := by
  obtain ⟨request, answer⟩ := exchange
  -- Later stores have seen all that earlier ones saw.
  cases request with
  | getGroup | replaceGroup | replaceGroupStatus =>
    cases answer with
    | error cause => trivial
    | ok group => exact ⟨copied.1.later advances.groups.toPrecedes, copied.2⟩
  | listClaims =>
    cases answer with
    | error cause => trivial
    | ok claims =>
      exact fun claim known =>
        ⟨(copied claim known).1.later advances.claims.toPrecedes, (copied claim known).2⟩
  | getContent | createContent | replaceContent =>
    cases answer with
    | error cause => trivial
    | ok content => exact ⟨copied.1.later advances.contents.toPrecedes, copied.2⟩
  | _ => trivial

/-- A failure brings nothing. -/
theorem IsCopied.of_failure (failed : exchange.failure?.isSome) : exchange.IsCopied store := by
  -- There is nothing to copy without an answer.
  obtain ⟨request, answer⟩ := exchange
  cases request with
  | getGroup | replaceGroup | replaceGroupStatus | listClaims | getContent | createContent
  | replaceContent =>
    cases answer with
    | error cause => trivial
    | ok value => cases failed
  | _ => trivial

end Exchange

/-- A store gives copies of what it has, and of what it is made to store. -/
theorem Store.Serves.isCopied {store after : Store} {request : Call} {answer : request.Answer}
    (serves : store.Serves request answer after) (ordered : store.Ordered) :
    (Exchange.mk request answer).IsCopied after := by
  -- A failure brings no copy, whatever the call was.
  cases answered : (Exchange.mk request answer).failure? with
  | some failure => exact .of_failure (by simp [answered])
  | none =>
    -- What is read is stored now, and what is written is stored from now on.
    cases request with
    | getGroup name space =>
      obtain ⟨rfl, rfl⟩ := serves
      cases read : after.get (α := Group) name space with
      | error cause => trivial
      | ok group =>
        have found := get_eq_ok.mp read
        exact ⟨ordered.groups.recalls found, ordered.groups.placed found⟩
    | getContent name space =>
      obtain ⟨rfl, rfl⟩ := serves
      cases read : after.get (α := Content) name space with
      | error cause => trivial
      | ok content =>
        have found := get_eq_ok.mp read
        exact ⟨ordered.contents.recalls found, ordered.contents.placed found⟩
    -- Each claim of the list is found under its key.
    | listClaims space =>
      obtain ⟨rfl, rfl⟩ := serves
      intro claim known
      exact ⟨ordered.claims.recalls (ordered.claims.found_of_mem_list known), (mem_list.mp known).2⟩
    | replaceGroup group =>
      rcases replace_answers serves with ⟨_, rfl, _⟩ | ⟨stored, _, _, rfl, rfl⟩
      · trivial
      · exact ⟨ordered.groups.recalls_overwrite _, rfl, rfl⟩
    | replaceGroupStatus group =>
      rcases replaceStatus_answers serves with ⟨_, rfl, _⟩ | ⟨stored, found, _, rfl, rfl⟩
      · trivial
      · -- Only the state is that of the group that was written.
        have key : Resource.key stored = Resource.key group := ordered.groups.placed found
        exact ⟨ordered.groups.recalls_overwrite _, (key_stamped _ _).trans key⟩
    | replaceContent content =>
      rcases replace_answers serves with ⟨_, rfl, _⟩ | ⟨stored, _, _, rfl, rfl⟩
      · trivial
      · exact ⟨ordered.contents.recalls_overwrite _, key_stamped _ _, rfl⟩
    -- A new content lies under its own key with the version that the store just gave out.
    | createContent content =>
      rcases create_cases store content with ⟨error, failed⟩ | ⟨_, done⟩
      · rw [(Prod.mk.inj (serves.trans failed)).1]
        trivial
      · obtain ⟨rfl, rfl⟩ := Prod.mk.inj (serves.trans done)
        have saved : (store.save (identified content)).2.find? (Resource.key (identified content)) =
            some (store.stamped (identified content)) := by
          rw [find?_save, if_pos rfl]
        exact ⟨(ordered.contents.save _).recalls saved, key_stamped _ _, rfl⟩
    | _ => trivial

/-- A call that is carried out and fails changes nothing. -/
theorem Store.Serves.of_failure {store after : Store} {request : Call} {answer : request.Answer}
    (serves : store.Serves request answer after)
    (failed : (Exchange.mk request answer).failure?.isSome) : after = store := by
  -- A write that fails is refused before anything is stored.
  cases request with
  | replaceGroup | replaceClaim | replaceContent =>
    rcases Store.replace_answers serves with ⟨_, rfl, same⟩ | ⟨_, _, _, rfl, _⟩
    · exact same
    · cases failed
  | replaceGroupStatus | replaceContentStatus =>
    rcases Store.replaceStatus_answers serves with ⟨_, rfl, same⟩ | ⟨_, _, _, rfl, _⟩
    · exact same
    · cases failed
  | createContent record =>
    rcases Store.create_cases store record with ⟨_, refused⟩ | ⟨_, made⟩
    · exact (Prod.mk.inj (serves.trans refused)).2
    · obtain ⟨rfl, _⟩ := Prod.mk.inj (serves.trans made)
      cases failed
  -- Of the ways in which a deletion ends, only the refusal is a failure.
  | deleteContent name space =>
    rcases Store.delete_cases (α := Content) store name space with
      ⟨_, refused⟩ | ⟨_, _, ⟨_, gone⟩ | kept | ⟨_, ends⟩⟩
    · exact (Prod.mk.inj (serves.trans refused)).2
    · obtain ⟨rfl, _⟩ := Prod.mk.inj (serves.trans gone)
      cases failed
    · exact (Prod.mk.inj (serves.trans kept)).2
    · obtain ⟨rfl, _⟩ := Prod.mk.inj (serves.trans ends)
      cases failed
  | readClock => cases failed
  | _ => exact serves.2

/-- A store in order, with calls so far that brought copies of stored objects. -/
structure Scene.IsFaithful (scene : Scene) : Prop where
  ordered : scene.store.Ordered
  copied : ∀ exchange ∈ scene.exchanges, exchange.IsCopied scene.store

/-- Before any call there is nothing to be a copy of. -/
theorem Scene.IsFaithful.outset {start : Store} (ordered : start.Ordered) :
    Scene.IsFaithful ⟨start, []⟩ where
  ordered := ordered
  copied _ known := absurd known List.not_mem_nil

/-- Copies are still copies after others have written. -/
theorem Scene.IsFaithful.later {scene : Scene} {store : Store} (faithful : scene.IsFaithful)
    (advances : scene.store.Advances store) : Scene.IsFaithful { scene with store } where
  ordered := faithful.ordered.later advances
  copied exchange known := (faithful.copied exchange known).later advances

namespace Conditions

/-- Others write as anybody may, and a call that fails tells so. -/
structure IsVersioned (conditions : Conditions) : Prop where
  between : ∀ {store later : Store}, store.Ordered → conditions.between store later →
    store.Advances later
  during : ∀ {store later : Store}, store.Ordered → conditions.during store later →
    store.Advances later
  fails : ∀ {request : Call} {answer : request.Answer}, conditions.fails request answer →
    request.FailsWith answer

variable {conditions : Conditions}

namespace IsVersioned

variable (versioned : conditions.IsVersioned)
include versioned

/-- The copies of a pass are still copies after another call, and its answer is one of them. -/
theorem answers {met after : Scene} {request : Call} {answer : request.Answer}
    (faithful : met.IsFaithful) (answers : conditions.Answers met request answer after) :
    after.IsFaithful := by
  obtain ⟨told, done⟩ := answers
  -- The store advances in either case, and by nothing if the call failed.
  have advances : met.store.Advances after.store := by
    rcases done with serves | ⟨_, unchanged⟩
    · exact serves.advances faithful.ordered
    · exact unchanged ▸ faithful.ordered.advances
  refine ⟨faithful.ordered.later advances, fun exchange known => ?_⟩
  rw [told] at known
  -- The new entry is a copy by itself, and the older ones stay copies.
  rcases List.mem_cons.mp known with rfl | known
  · rcases done with serves | ⟨failing, _⟩
    · exact serves.isCopied faithful.ordered
    · exact .of_failure (versioned.fails failing)
  · exact (faithful.copied exchange known).later advances

/-- All along a run, what calls brought are copies of stored objects. -/
theorem reaches {start moment : Moment} (faithful : start.IsFaithful)
    (run : conditions.Reaches start moment) : moment.IsFaithful := by
  -- The induction goes along the run, one step at a time.
  induction run with
  | refl => exact faithful
  | tail _ step ih =>
    cases step with
    | idle change => exact ih.later (versioned.between ih.ordered change)
    | wait change => exact ih.later (versioned.during ih.ordered change)
    | start _ _ => exact ih
    | call answers => exact versioned.answers ih answers
    | stop => exact ih

end IsVersioned

/-- A single pass under the same conditions. -/
def alone (conditions : Conditions) : Conditions :=
  { conditions with visits := fun _ => False, between := fun _ _ => False }

/-- A single pass, between whose calls others write as anybody may, and whose calls may fail in any
way. -/
def crowded (driver : String) : Conditions where
  driver := driver
  visits _ := False
  during := Store.Advances
  fails := Call.FailsWith

/-- Others keep to versions. -/
theorem crowded_isVersioned (driver : String) : (crowded driver).IsVersioned where
  between _ := False.elim
  during _ := id
  fails := id

/-- A single pass under conditions that keep to versions is one of the unruly passes. -/
theorem IsVersioned.unruly {start moment : Moment} (versioned : conditions.IsVersioned)
    (run : conditions.alone.Reaches start moment) :
    (Conditions.unruly conditions.driver).Reaches start moment := by
  -- Each step is matched by the same step among the unruly ones.
  have steps {first second : Moment} (step : conditions.alone.Step first second) :
      (Conditions.unruly conditions.driver).Step first second := by
    cases step with
    | idle change => exact change.elim
    | wait change => exact .wait trivial
    | start _ visited => exact visited.elim
    | call answers =>
      -- A failure is a failure there too, as the answers show it.
      exact .call ⟨answers.1, answers.2.imp_right (.imp_left versioned.fails)⟩
    | stop => exact .stop
  exact Relation.ReflTransGen.mono (fun _ _ => steps) _ _ run

/-- Whatever an operator did before, the pass that it is making is by itself a single pass from the
store that it found. -/
theorem Reaches.within {scene : Scene} {moment : Moment}
    (run : conditions.Reaches ⟨scene, none⟩ moment) {rest : Program (Except PassError Action)}
    (running : moment.pass = some rest) :
    ∃ (middle : Scene) (seen : Group) (made : List Exchange),
      conditions.Reaches ⟨scene, none⟩ ⟨middle, none⟩ ∧
        moment.exchanges = made ++ middle.exchanges ∧
        conditions.alone.Reaches ⟨⟨middle.store, []⟩, some (seen.reconcile conditions.driver).run⟩
          ⟨⟨moment.store, made⟩, some rest⟩ := by
  -- The induction goes along the run, back to where the pass began.
  induction run generalizing rest with
  | refl => cases running
  | tail before step ih =>
    cases step with
    | idle change => cases running
    -- Waiting belongs to the pass that is under way.
    | wait change =>
      cases running
      obtain ⟨middle, seen, made, reached, log, alone⟩ := ih rfl
      exact ⟨middle, seen, made, reached, log, alone.tail (.wait change)⟩
    -- The pass that begins here is the one in question.
    | start seen visited =>
      cases running
      exact ⟨_, seen, [], before, rfl, .refl⟩
    | call answers =>
      cases running
      obtain ⟨middle, seen, made, reached, log, alone⟩ := ih rfl
      exact ⟨middle, seen, _ :: made, reached, answers.1.trans (congrArg (List.cons _) log),
        alone.tail (.call ⟨rfl, answers.2⟩)⟩
    | stop => cases running

end Conditions

end VolumeGroups
