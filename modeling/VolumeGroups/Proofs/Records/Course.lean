import VolumeGroups.Proofs.Operator.Acted
import VolumeGroups.Proofs.Records.Copies
import VolumeGroups.Proofs.Records.Retired

/-! What a pass has in hand when it writes: copies of stored objects, so that a write that succeeds goes
over the very object that the copy was taken of. -/

namespace VolumeGroups

/-- A group whose state was written comes back with nothing else changed. -/
def Exchange.IsEchoed : Exchange → Prop
  | ⟨.replaceGroupStatus later, .ok group⟩ =>
    later.metadata.Continues group.metadata ∧ group.spec = later.spec
  | _ => True

/-- A pass over the group under a key has made the calls that it may make, and what they brought it are
copies of stored objects. -/
structure Scene.InCourse (place : String) (scene : Scene) : Prop extends scene.IsFaithful where
  kept : (Upkeep place).Kept scene.exchanges
  echoed : ∀ exchange ∈ scene.exchanges, exchange.IsEchoed

/-- One object lies over another one that was stored under its key until then. -/
structure Store.Overwrites {α : Type} [Stored α] (store : Store) (stored written answer : α)
    (after : Store) : Prop where
  found : store.find? (Resource.key stored) = some stored
  key : Resource.key written = Resource.key stored
  answered : answer = store.stamped written
  wrote : after = (store.overwrite written).2

section Writes

variable {α : Type} [Stored α] [LawfulStored α] {store after : Store} {object later answer : α}

/-- A copy that is written back over its own version goes over the object it was taken of. -/
theorem Store.Recalls.overwrites (recalls : store.Recalls object)
    (done : (Except.ok answer, after) = store.replace later)
    (key : Resource.key later = Resource.key object)
    (version : Resource.version later = Resource.version object) :
    store.Overwrites object (Stored.withStatusOf later object) answer after := by
  -- The version pins the stored object down to the one that was copied.
  rcases recalls.replace key version done with ⟨_, wrong, _⟩ | ⟨found, answered, wrote⟩
  · cases wrong
  · refine ⟨found, ?_, Except.ok.inj answered, wrote⟩
    rw [← key, Resource.key, Resource.key, LawfulStored.metadata_withStatusOf]

/-- A state that is written over the version of a copy goes to the object that the copy was taken
of. -/
theorem Store.Recalls.overwritesStatus (recalls : store.Recalls object)
    (done : (Except.ok answer, after) = store.replaceStatus later)
    (key : Resource.key later = Resource.key object)
    (version : Resource.version later = Resource.version object) :
    store.Overwrites object (Stored.withStatusOf object later) answer after := by
  -- As for a whole object, the version pins down what is overwritten.
  rcases recalls.replaceStatus key version done with ⟨_, wrong, _⟩ | ⟨found, answered, wrote⟩
  · cases wrong
  · refine ⟨found, ?_, Except.ok.inj answered, wrote⟩
    rw [Resource.key, Resource.key, LawfulStored.metadata_withStatusOf]

/-- A group whose state is written over the version of a copy comes back as the copy with that
state. -/
theorem Store.Recalls.relays {store after : Store} {held group : Group}
    {status : Option GroupStatus} (recalls : store.Recalls held)
    (done : (Except.ok group, after) = store.replaceStatus { held with status }) :
    held.metadata.Continues group.metadata ∧ group.spec = held.spec := by
  have wrote : store.Overwrites held { held with status } group after :=
    recalls.overwritesStatus done rfl rfl
  -- What comes back is the copy but for its version and its state.
  rw [wrote.answered]
  exact ⟨rfl, rfl⟩

end Writes

/-- The calls that were made stay made. -/
theorem Conditions.Reaches.extends {conditions : Conditions} {start moment : Moment}
    (run : conditions.Reaches start moment) : ∃ made, moment.exchanges = made ++ start.exchanges := by
  -- The induction goes along the run, of which only calls add to the log.
  induction run with
  | refl => exact ⟨[], rfl⟩
  | tail _ step ih =>
    obtain ⟨made, log⟩ := ih
    cases step with
    | call answers => exact ⟨_ :: made, answers.1.trans (congrArg (List.cons _) log)⟩
    | _ => exact ⟨made, log⟩

/-- A form of a group that a pass was given: it is the same group at a later time, and a terminating one
asks for the same. -/
structure Group.Carries (origin held : Group) : Prop extends origin.Continues held where
  spec : origin.isTerminating = true → held.spec = origin.spec

/-- A group that is written is a copy with other marks or another content. -/
theorem Group.Permits.replaceGroup {group later : Group} {log : List Exchange}
    (permits : group.Permits log (.replaceGroup later)) :
    ∃ held, latest? log = some held ∧ held.Continues later ∧
      (group.isTerminating = true → later.spec = held.spec) := by
  obtain ⟨held, latest, edited⟩ := permits
  refine ⟨held, latest, ?_⟩
  -- The three edits are the mark that is added, the content that is named, and the mark that is
  -- taken off.
  rcases edited with ⟨metadata, _, added, rfl⟩ | ⟨content, live, _, rfl⟩ | ⟨metadata, _, _, removed, rfl⟩
  · exact ⟨⟨(Metadata.addFinalizer?_eq_some added).1, rfl, rfl⟩, fun _ => rfl⟩
  · exact ⟨⟨rfl, rfl, rfl⟩, fun terminating => by simp [live] at terminating⟩
  · exact ⟨⟨(Metadata.removeFinalizer?_eq_some removed).1, rfl, rfl⟩, fun _ => rfl⟩

/-- A call that a pass with a group may make is one that the group permits. -/
theorem Upkeep.permits {place : String} {log : List Exchange} {request : Call}
    (allowed : Upkeep place log request) (brought : ∀ name space, request ≠ .getGroup name space) :
    ∃ origin, origin? log = some origin ∧ origin.Permits log request := by
  rcases allowed with ⟨_, name, space, same, _⟩ | permitted
  · exact absurd same (brought name space)
  · exact permitted

/-- A call that a pass has made, other than to read the group, was permitted by the group that it began
with, given the calls before it. -/
theorem Upkeep.permitted {place : String} {log : List Exchange} (kept : (Upkeep place).Kept log)
    {exchange : Exchange} (known : exchange ∈ log)
    (other : ∀ name space, exchange.request ≠ .getGroup name space) :
    ∃ origin before, origin? log = some origin ∧ origin.Permits before exchange.request ∧
      Extends (fun _ => True) before log := by
  -- The call is one of the log, and what lies behind it is the log at its time.
  obtain ⟨following, before, rfl⟩ := List.append_of_mem known
  obtain ⟨origin, began, permits⟩ := Upkeep.permits kept.allows other
  have goes : Extends (fun _ => True) before (following ++ exchange :: before) :=
    ⟨following ++ [exchange], by simp, fun _ _ => trivial⟩
  exact ⟨origin, before, goes.origin? began, permits, goes⟩

/-- The group that a pass has in hand was brought by some call. -/
theorem exists_of_latest? {log : List Exchange} {held : Group} (latest : latest? log = some held) :
    ∃ exchange ∈ log, exchange.group? = some held :=
  List.exists_of_findSome?_eq_some latest

/-- Every group that a pass was given is the one that it began with, at a later time. -/
theorem Upkeep.carries {place : String} {store : Store} {log : List Exchange}
    (kept : (Upkeep place).Kept log) (copied : ∀ exchange ∈ log, exchange.IsCopied store)
    (echoed : ∀ exchange ∈ log, exchange.IsEchoed) {exchange : Exchange} (known : exchange ∈ log)
    {held : Group} (brings : exchange.group? = some held) :
    Resource.key held = place ∧ ∃ origin, origin? log = some origin ∧ origin.Carries held := by
  -- The induction goes along the log: what a write brings continues what was in hand before it.
  induction log generalizing exchange held with
  | nil => cases known
  | cons latest log ih =>
    obtain ⟨allowed, kept⟩ := kept
    replace ih := fun {exchange} known {held} brings =>
      @ih kept (fun other more => copied other (List.mem_cons_of_mem _ more))
        (fun other more => echoed other (List.mem_cons_of_mem _ more)) exchange known held brings
    have begun {origin : Group} (before : origin? log = some origin) :
        origin? (latest :: log) = some origin := (Extends.cons latest log).origin? before
    -- A group that is written continues the one in hand.
    have goes {origin held group : Group} (began : origin? log = some origin)
        (hand : latest? log = some held) (continues : held.Continues group)
        (spec : origin.isTerminating = true → group.spec = held.spec) :
        Resource.key group = place ∧
          ∃ origin, origin? (latest :: log) = some origin ∧ origin.Carries group := by
      obtain ⟨exchange, known, brings⟩ := exists_of_latest? hand
      obtain ⟨key, first, before, carries⟩ := ih known brings
      obtain rfl := Option.some.inj (before.symm.trans began)
      exact ⟨continues.metadata.key.trans key, first, begun before,
        carries.toContinues.trans continues, fun going => (spec going).trans (carries.spec going)⟩
    rcases List.mem_cons.mp known with rfl | known
    -- The entry in question is the latest one, or an older one for which it is known already.
    · have copy := copied _ (List.mem_cons_self ..)
      have echo := echoed _ (List.mem_cons_self ..)
      obtain ⟨request, answer⟩ := exchange
      cases request with
      -- The first read begins the pass, and there is no second.
      | getGroup name space =>
        cases answer with
        | error cause => cases brings
        | ok group =>
          obtain rfl := Option.some.inj brings
          rcases allowed with ⟨rfl, _, _, ⟨⟩, there⟩ | ⟨_, _, permitted⟩
          · exact ⟨copy.2.trans there, group, rfl, .refl group, fun _ => rfl⟩
          · exact permitted.elim
      -- A written group continues the one in hand, and comes back as it was sent.
      | replaceGroup later =>
        cases answer with
        | error cause => cases brings
        | ok group =>
          obtain rfl := Option.some.inj brings
          obtain ⟨origin, began, permitted⟩ := Upkeep.permits allowed (by simp)
          obtain ⟨held, hand, edited, same⟩ := permitted.replaceGroup
          obtain ⟨_, continues, spec⟩ := copy
          exact goes began hand (edited.trans ⟨continues, by rw [spec], by rw [spec]⟩)
            fun going => spec.trans (same going)
      -- A written state changes no part that is carried on.
      | replaceGroupStatus later =>
        cases answer with
        | error cause => cases brings
        | ok group =>
          obtain rfl := Option.some.inj brings
          obtain ⟨origin, began, held, status, hand, rfl, _⟩ := Upkeep.permits allowed (by simp)
          obtain ⟨continues, spec⟩ := echo
          exact goes began hand ⟨continues, by rw [spec], by rw [spec]⟩ fun _ => spec
      | _ => cases brings
    · obtain ⟨key, origin, before, same⟩ := ih known brings
      exact ⟨key, origin, begun before, same⟩

namespace Scene.InCourse

/-- A pass that has made no call yet is in its course. -/
theorem outset {place : String} {start : Store} (ordered : start.Ordered) :
    InCourse place ⟨start, []⟩ where
  toIsFaithful := .outset ordered
  kept := trivial
  echoed _ known := absurd known List.not_mem_nil

variable {place : String} {scene : Scene} (course : scene.InCourse place)
include course

/-- The group in hand is a copy of the pass's own group. -/
theorem latest {held : Group} (latest : latest? scene.exchanges = some held) :
    scene.store.Recalls held ∧ Resource.key held = place ∧
      ∃ origin, origin? scene.exchanges = some origin ∧ origin.Carries held := by
  obtain ⟨⟨request, answer⟩, known, brings⟩ := exists_of_latest? latest
  -- The group in hand was brought by some call, and all that is brought is copied.
  refine ⟨?_, Upkeep.carries course.kept course.copied course.echoed known brings⟩
  have copied := course.copied _ known
  cases request with
  | getGroup | replaceGroup | replaceGroupStatus =>
    cases answer with
    | error cause => cases brings
    | ok group =>
      obtain rfl := Option.some.inj brings
      exact copied.1
  | _ => cases brings

/-- The content in use is a copy of one that was stored under the name that the group goes by. -/
theorem inUse {group : Group} {content : Content} (inUse : InUse group content scene.exchanges) :
    scene.store.Recalls content ∧ Resource.key content = group.contentKey := by
  -- A content in use was found or made, each time under the name that the group goes by.
  obtain ⟨⟨request, answer⟩, known, brings⟩ := inUse.brought
  have copied := course.copied _ known
  cases request with
  | getContent name space =>
    cases answer with
    | error cause => cases brings
    | ok found =>
      obtain ⟨there, rfl⟩ := Prod.mk.inj (Option.some.inj brings)
      exact ⟨copied.1, copied.2.trans there⟩
  | createContent record =>
    cases answer with
    | error cause => cases brings
    | ok made =>
      obtain ⟨there, rfl⟩ := Prod.mk.inj (Option.some.inj brings)
      exact ⟨copied.1, copied.2.1.trans there⟩
  | _ => cases brings

/-- A content that is written lies over the one in use. -/
theorem overwrites_replaceContent {group : Group} {after : Store} {later content : Content}
    (permits : group.Permits scene.exchanges (.replaceContent later))
    (done : (Except.ok content, after) = scene.store.replace later) :
    ∃ stored metadata, InUse group stored scene.exchanges ∧
      stored.metadata.removeFinalizer? contentFinalizer = some metadata ∧
      scene.store.Overwrites stored { stored with metadata } content after := by
  obtain ⟨stored, metadata, _, inUse, removed, rfl⟩ := permits
  -- The content in use is the one that loses its mark.
  obtain ⟨recalls, _⟩ := course.inUse inUse
  obtain ⟨continues, version, _⟩ := Metadata.removeFinalizer?_eq_some removed
  exact ⟨stored, metadata, inUse, removed, recalls.overwrites done continues.key version⟩

/-- A state of a content that is written goes to the content of an acknowledged plan. -/
theorem overwrites_replaceContentStatus {group : Group} {after : Store} {later content : Content}
    (permits : group.Permits scene.exchanges (.replaceContentStatus later))
    (done : (Except.ok content, after) = scene.store.replaceStatus later) :
    ∃ stored plan status, Acknowledged group stored plan scene.exchanges ∧
      stored.Readies plan status ∧
      scene.store.Overwrites stored { stored with status := some status } content after := by
  obtain ⟨_, stored, plan, status, acknowledged, readies, rfl⟩ := permits
  -- The state goes to the content whose plan was acknowledged.
  obtain ⟨recalls, _⟩ := course.inUse acknowledged.inUse
  exact ⟨stored, plan, status, acknowledged, readies, recalls.overwritesStatus done rfl rfl⟩

/-- A pass stays in its course while others write. -/
theorem later {store : Store} (advances : scene.store.Advances store) :
    InCourse place { scene with store } where
  toIsFaithful := course.toIsFaithful.later advances
  kept := course.kept
  echoed := course.echoed

end Scene.InCourse

namespace Conditions.IsVersioned

variable {conditions : Conditions} (versioned : conditions.IsVersioned) {place : String}
  {met after : Scene} {request : Call} {answer : request.Answer}
include versioned

/-- A call that does not fail is carried out. -/
theorem serves (answers : conditions.Answers met request answer after)
    (done : (Exchange.mk request answer).failure? = none) :
    met.store.Serves request answer after.store := by
  refine answers.2.resolve_right fun failing => ?_
  have failed : (Exchange.mk request answer).failure?.isSome := versioned.fails failing.1
  simp [done] at failed

/-- A call reads the group at first, and from then on it fails without effect or is carried out as the
group that the pass began with permits. -/
theorem turn (allowed : Upkeep place met.exchanges request)
    (answers : conditions.Answers met request answer after) :
    (met.exchanges = [] ∧ (∃ name space, request = .getGroup name space) ∧
        after.store = met.store) ∨
      ∃ origin, origin? met.exchanges = some origin ∧ origin.Permits met.exchanges request ∧
        ((Exchange.mk request answer).failure?.isSome ∧ after.store = met.store ∨
          (Exchange.mk request answer).failure? = none ∧
            met.store.Serves request answer after.store) := by
  rcases allowed with ⟨none, name, space, rfl, _⟩ | ⟨origin, began, permits⟩
  -- Reading has no effect, whether it fails or not.
  · exact .inl ⟨none, ⟨name, space, rfl⟩, answers.2.elim And.right And.right⟩
  -- A call with a failure for an answer had no effect either, be it carried out or not.
  · refine .inr ⟨origin, began, permits, ?_⟩
    cases told : (Exchange.mk request answer).failure? with
    | none => exact .inr ⟨rfl, versioned.serves answers told⟩
    | some failure =>
      refine .inl ⟨rfl, answers.2.elim (fun serves => serves.of_failure ?_) And.right⟩
      simp [told]

/-- A pass stays in its course as it makes a call that it may make. -/
theorem inCourse_answers (course : met.InCourse place)
    (allowed : Upkeep place met.exchanges request)
    (answers : conditions.Answers met request answer after) : after.InCourse place := by
  have faithful : after.IsFaithful := versioned.answers course.toIsFaithful answers
  -- Copies and permissions go on with the log.
  refine ⟨faithful, ?_, ?_⟩
  · rw [answers.1]
    exact ⟨allowed, course.kept⟩
  rw [answers.1]
  intro exchange known
  rcases List.mem_cons.mp known with rfl | known
  · cases request with
    | replaceGroupStatus later =>
      cases answer with
      | error cause => trivial
      | ok group =>
        -- The state goes to the very group that the pass has a copy of.
        obtain ⟨origin, _, held, status, hand, rfl, _⟩ := Upkeep.permits allowed (by simp)
        obtain ⟨recalls, _⟩ := course.latest hand
        exact recalls.relays (versioned.serves answers rfl)
    | _ => trivial
  -- Other calls bring no copies of states that were written.
  · exact course.echoed exchange known

/-- At every moment of a pass, it is in its course, and its next call is one that it may make. -/
theorem inCourse {seen : Group} {start : Store} (ordered : start.Ordered) {moment : Moment}
    (run : conditions.alone.Reaches ⟨⟨start, []⟩, some (seen.reconcile conditions.driver).run⟩
      moment) :
    moment.InCourse seen.place ∧ ∀ (request : Call)
      (next : request.Answer → Program (Except PassError Action)),
      moment.pass = some (.call request next) → Upkeep seen.place moment.exchanges request := by
  have allows {moment : Moment} (run : conditions.alone.Reaches
      ⟨⟨start, []⟩, some (seen.reconcile conditions.driver).run⟩ moment) (request : Call)
      (next : request.Answer → Program (Except PassError Action))
      (left : moment.pass = some (.call request next)) :
      Upkeep seen.place moment.exchanges request := by
    have honours : (seen.reconcile conditions.driver).run.Honours (.unruly conditions.driver)
        (Upkeep seen.place).promise (fun _ _ => True) ⟨start, []⟩ :=
      (Upkeep.honours_reconciling seen start).mono fun _ _ _ => trivial
    exact allows_next ((kept_of_reaches honours trivial (versioned.unruly run)).2 _ left)
  -- Whatever was allowed at any moment is the rule for the next call.
  refine ⟨?_, allows run⟩
  -- The induction goes along the run, one step at a time.
  induction run with
  | refl => exact .outset ordered
  | tail before step ih =>
    cases step with
    | idle change => exact change.elim
    -- Others write between the calls, which takes no copy away.
    | wait change => exact ih.later (versioned.during ih.ordered change)
    | start _ visited => exact visited.elim
    | call answers =>
      have allowed := allows before _ _ rfl
      exact versioned.inCourse_answers ih allowed ⟨answers.1, answers.2⟩
    | stop => exact ih

/-- A call of an operator is one of a single pass from a store in order. -/
theorem inPass {start : Store} (ordered : start.Ordered) {now : Scene} {request : Call}
    {next : request.Answer → Program (Except PassError Action)}
    (run : conditions.Reaches ⟨⟨start, []⟩, none⟩ ⟨now, some (.call request next)⟩) :
    ∃ (middle : Scene) (seen : Group) (made : List Exchange), middle.store.Ordered ∧
      now.exchanges = made ++ middle.exchanges ∧
      conditions.alone.Reaches ⟨⟨middle.store, []⟩, some (seen.reconcile conditions.driver).run⟩
        ⟨⟨now.store, made⟩, some (.call request next)⟩ := by
  -- The pass under way began at some moment of the run, and is looked at from there.
  obtain ⟨middle, seen, made, reached, log, alone⟩ := Conditions.Reaches.within run rfl
  exact ⟨middle, seen, made, (versioned.reaches (.outset ordered) reached).ordered, log, alone⟩

end Conditions.IsVersioned

/-- Users write as anybody may. -/
theorem UserAction.advances {store : Store} (action : UserAction) (ordered : store.Ordered) :
    store.Advances (action.on store) := by
  -- A change of an object replaces it or has no effect.
  have claims (name space : String) (change : Claim → Claim) :
      store.Advances (store.modify name space change) := by
    rcases store.modify_cases name space change with none | ⟨claim, _, wrote⟩
    · rw [none]
      exact ordered.advances
    · rw [wrote]
      exact ordered.advances_of_claim (ordered.claims.renews_replace _)
        (Store.beside_claims.replace _ _)
  have groups (name space : String) (change : Group → Group) :
      store.Advances (store.modify name space change) := by
    rcases store.modify_cases name space change with none | ⟨group, _, wrote⟩
    · rw [none]
      exact ordered.advances
    · rw [wrote]
      exact ordered.advances_of_group (ordered.groups.renews_replace _)
        (Store.beside_groups.replace _ _)
  -- Every action is a creation, a deletion or such a change of one object.
  cases action with
  | createClaim claim =>
    exact ordered.advances_of_claim (ordered.claims.renews_create _)
      (Store.beside_claims.create _ _)
  | relabelClaim name space labels => exact claims name space _
  | deleteClaim name space =>
    exact ordered.advances_of_claim (ordered.claims.renews_delete _ _)
      (Store.beside_claims.delete _ _ _)
  | createGroup group =>
    exact ordered.advances_of_group (ordered.groups.renews_create _)
      (Store.beside_groups.create _ _)
  | editGroup name space change => exact groups name space _
  | deleteGroup name space =>
    exact ordered.advances_of_group (ordered.groups.renews_delete _ _)
      (Store.beside_groups.delete _ _ _)

/-- A write that succeeds leaves an answer beside the store after it. -/
theorem exists_ok_of_isOk {ε α : Type} {outcome : Except ε α × Store}
    (succeeds : outcome.1.isOk = true) : ∃ value, outcome = (.ok value, outcome.2) := by
  obtain ⟨answer, store⟩ := outcome
  cases answer with
  | error cause => cases succeeds
  | ok value => exact ⟨value, rfl⟩

/-- A moment after some cues belongs to a run of a crowded pass. -/
theorem Moment.reaches_crowded {driver : String} (cues : List Cue) {moment : Moment}
    (faithful : moment.IsFaithful) :
    (Conditions.crowded driver).Reaches moment (cues.foldl follow moment) := by
  -- The induction goes along the cues, which leave the store in order.
  induction cues generalizing moment with
  | nil => exact .refl
  | cons cue rest ih =>
    have step : (Conditions.crowded driver).Reaches moment (moment.follow cue) :=
      moment.reaches_cue cue fun action _ => action.advances faithful.ordered
    exact .trans step (ih ((Conditions.crowded_isVersioned driver).reaches faithful step))

/-- The cluster with the claim and the group is in order. -/
theorem Sample.ordered_stocked : Sample.stocked.Ordered where
  groups := Sample.regular_stocked.groups
  claims := Sample.regular_stocked.claims
  contents := .of_entries (by decide +kernel)

/-- The pass over the group after some calls. -/
def Sample.underway (calls : Nat) (scene : Scene) : Moment :=
  (List.replicate calls Cue.call).foldl Moment.follow
    ⟨scene, some (group.reconcile "driver").run⟩

/-- The pass over the group after five calls and some more, between which another group turned up. -/
def Sample.crowded (calls : Nat) : Moment :=
  (List.replicate 5 Cue.call ++ Cue.act (.createGroup rival) :: List.replicate calls Cue.call).foldl
    Moment.follow ⟨⟨stocked, []⟩, some (group.reconcile "driver").run⟩

/-- A call of the pass over the group belongs to a run. -/
theorem Sample.reaches_crowded {calls : Nat} {request : Call}
    (waiting : (Sample.crowded calls).request? = some request) :
    ∃ next, (Conditions.crowded "driver").Reaches
      ⟨⟨Sample.stocked, []⟩, some (Sample.group.reconcile "driver").run⟩
      ⟨(Sample.crowded calls).toScene, some (.call request next)⟩ := by
  obtain ⟨next, same⟩ := Moment.eq_of_request? waiting
  exact ⟨next, same ▸ Moment.reaches_crowded _ (.outset Sample.ordered_stocked)⟩

end VolumeGroups
