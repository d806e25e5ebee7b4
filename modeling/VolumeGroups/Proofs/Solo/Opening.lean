import VolumeGroups.Proofs.Solo.Writing

/-! How a pass begins when nobody else writes: it reads its group, the group's class and the
credentials before it touches anything. -/

namespace VolumeGroups

/-- A group's class is one of the driver, with parameters that make sense and credentials that can
be read. -/
structure Store.Provides (store : Store) (driver : String) (group : Group)
    (groupClass : GroupClass) (parameters : ClassParameters) (secrets : KeyMap String) : Prop where
  -- The class is the one that the group names.
  found : ∃ name, group.className? = some name ∧ store.get name "" = .ok groupClass
  served : groupClass.spec.driver = driver
  resolved : ClassParameters.resolve groupClass.spec.parameters = .ok parameters
  -- Credentials are needed only where a secret is named.
  readable : match parameters.secret.both with
    | none => secrets = ∅
    | some (name, space) => ∃ secret : Secret, store.get name space = .ok secret ∧
      secret.texts name space = .ok secrets

/-- A group has a class of the driver, with all that a pass needs of it. -/
def Store.Equips (store : Store) (driver : String) (group : Group) : Prop :=
  ∃ groupClass parameters secrets, store.Provides driver group groupClass parameters secrets

/-- The pass ends because of claims that were refused. -/
def PassError.IsRefusal : PassError → Prop
  | .claimsRejected _ => True
  | _ => False

/-- Credentials are learnt exactly if they can be read. -/
theorem Store.learns_credentials {store : Store} {location : SecretLocation}
    {secrets : KeyMap String} :
    store.learns location.credentials = .ok secrets ↔ match location.both with
      | none => secrets = ∅
      | some (name, space) => ∃ secret : Secret, store.get name space = .ok secret ∧
        secret.texts name space = .ok secrets := by
  unfold SecretLocation.credentials
  -- Only a class that names a secret has credentials to be read.
  cases location.both with
  | none => simp [eq_comm]
  | some pair =>
    obtain ⟨name, space⟩ := pair
    have told : store.learns (.of (.ask (.getSecret name space))) = store.get name space := rfl
    simp only [learns_bind, learns_within, learns_known, told]
    cases store.get (α := Secret) name space with
    | error cause => simp [Except.bind]
    | ok secret => simp [Except.bind]

namespace Store.Provides

variable {store : Store} {driver : String} {group : Group} {groupClass : GroupClass}
  {parameters : ClassParameters} {secrets : KeyMap String}

/-- All of it comes from tables that a pass only reads, and depends on the group's class only. -/
theorem later (provides : store.Provides driver group groupClass parameters secrets)
    {after : Store} (grounds : after.grounds = store.grounds) {own : Group}
    (className : own.className? = group.className?) :
    after.Provides driver own groupClass parameters secrets := by
  -- Classes and secrets are in tables that nobody writes.
  obtain ⟨classes, rest⟩ := Prod.mk.inj grounds
  have read := (Prod.mk.inj (Prod.mk.inj rest).2).1
  obtain ⟨name, named, found⟩ := provides.found
  refine ⟨⟨name, className.trans named, ?_⟩, provides.served, provides.resolved, ?_⟩
  · simpa only [get, find?, Stored.table, classes] using found
  · simpa only [get, find?, Stored.table, read] using provides.readable

/-- The group's class is one of the driver. -/
theorem manages (provides : store.Provides driver group groupClass parameters secrets) :
    store.Manages driver group := by
  obtain ⟨name, named, found⟩ := provides.found
  exact ⟨name, groupClass, named, get_eq_ok.mp found, provides.served⟩

end Store.Provides

/-- A group of another class has what a pass needs if its class is the same and stays. -/
theorem Store.Equips.later {store after : Store} {driver : String} {group own : Group}
    (equips : store.Equips driver group) (grounds : after.grounds = store.grounds)
    (className : own.className? = group.className?) : after.Equips driver own := by
  obtain ⟨groupClass, parameters, secrets, provides⟩ := equips
  exact ⟨groupClass, parameters, secrets, provides.later grounds className⟩

/-- What is only read, and told on a stored group if it fails, is learnt, or the telling is all that
happens. -/
theorem Attempt.Reads.told {conditions : Conditions} (solo : conditions.Solo) {scene : Scene}
    {ε α : Type} {blames : ε → Prop} {attempt : Attempt ε α} {wider : ε → PassError}
    (reads : Reads conditions blames attempt) {group : Group}
    (found : scene.store.find? (Resource.key group) = some group) {reason : Reason}
    (other : reason ≠ .membershipRejected) (ready : Option Bool) :
    Ensures conditions
      (EndsEither
        (fun value after => scene.store.learns attempt = .ok value ∧ after.store = scene.store ∧
          Extends Call.IsLook scene.exchanges after.exchanges)
        (fun error after => (∃ cause, error = wider cause ∧
            ((∃ value, scene.store.learns attempt = .ok value) → conditions.LetsCallsFail)) ∧
          group.Tells scene.store after.store ∧
          Extends Call.IsSilent scene.exchanges after.exchanges))
      ((Attempt.within wider attempt).tellingOn group reason ready) scene := by
  -- The result is what the store alone decides, or a failing call is behind it.
  have reading : Ensures conditions (fun result after => after.store = scene.store ∧
      Extends Call.IsLook scene.exchanges after.exchanges ∧ ∃ inner, result = inner.mapError wider ∧
        (inner = scene.store.learns attempt ∨
          conditions.LetsCallsFail ∧ ∃ cause, inner = .error cause))
      (Attempt.within wider attempt) scene := by
    refine .within ((reads scene).mono ?_)
    rintro result after ⟨same, log, learnt⟩
    exact ⟨same, log, result, rfl, learnt.imp_right fun ⟨letsFail, cause, told, _⟩ =>
      ⟨letsFail, cause, told⟩⟩
  refine Ensures.telling solo reading other ?_ ?_ ?_
  · -- A success is what the store alone decides, since a failing call gives none.
    rintro value after ⟨same, log, inner, told, learnt⟩
    cases inner with
    | error cause => cases told
    | ok value =>
      cases told
      rcases learnt with learnt | ⟨_, _, wrong⟩
      · exact ⟨learnt.symm, same, log⟩
      · cases wrong
  · -- The group is stored, so a failure can be told on it.
    rintro error after ⟨same, _⟩
    exact same ▸ found
  · -- The failure is told, and the store alone did not decide it if a call failed.
    rintro error after last ⟨same, log, inner, told, learnt⟩ tells more
    cases inner with
    | ok value => cases told
    | error cause =>
      cases told
      refine ⟨⟨cause, rfl, ?_⟩, same ▸ tells, log.quiet.trans more⟩
      rintro ⟨value, ok⟩
      rcases learnt with learnt | ⟨letsFail, _⟩
      · simp [ok] at learnt
      · exact letsFail

/-- The content of a group is absent or was made for the group. -/
def Store.OwnsContent (store : Store) (group : Group) : Prop :=
  ∀ content : Content, store.find? group.contentKey = some content →
    ∃ uid, group.metadata.uid = some uid ∧ content.ownerUid? = some uid

/-- The content of a group is learnt exactly if it is absent or was made for the group. -/
theorem Store.learns_lookupContent {store : Store} {group : Group} {space : String}
    (inSpace : group.metadata.namespace = some space) {content : Option Content} :
    store.learns group.lookupContent = .ok content ↔
      content = store.find? group.contentKey ∧ store.OwnsContent group := by
  -- The group looks under its content key.
  have room : space ++ "/" ++ group.contentName = group.contentKey := by
    rw [Group.contentKey, inSpace]
    rfl
  have told : store.learns (.of (.ask (.getContent group.contentName space))) =
      store.get group.contentName space := rfl
  unfold Group.lookupContent OwnsContent
  rw [Attempt.space_bind inSpace]
  simp only [learns_bind, learns_outcome, told, Except.bind, get, room]
  -- There is no content, or it was made for the group, or for another one.
  cases store.find? (α := Content) group.contentKey with
  | none => simp [ClusterError.isNotFound, eq_comm]
  | some found =>
    cases uid : group.metadata.uid with
    | none => simp [Group.uid, uid, Except.bind]
    | some own =>
      simp only [learns_bind, learns_within, learns_known, learns_map, Group.uid, uid,
        mapError_ok, Except.bind, Content.boundTo]
      by_cases same : found.ownerUid? = some own
      · simp [same, Except.map, eq_comm]
      · simp [same, Except.map]

section Opening

variable {conditions : Conditions} (solo : conditions.Solo) {scene : Scene}
include solo

/-- A pass over a stored group of the driver reads what it needs and goes on with it, or it fails with
nothing more than the telling. -/
theorem Group.ensures_advance {group : Group} {driver : String}
    {goal : Except PassError Action → Scene → Prop}
    (found : scene.store.find? (Resource.key group) = some group)
    (managed : scene.store.Manages driver group)
    (failed : ∀ error after, ¬ error.IsRefusal →
      (scene.store.Equips driver group → conditions.LetsCallsFail) →
      group.Tells scene.store after.store → Extends Call.IsSilent scene.exchanges after.exchanges →
      goal (.error error) after)
    (goes : ∀ groupClass parameters secrets middle,
      scene.store.Provides driver group groupClass parameters secrets →
      middle.store = scene.store → Extends Call.IsLook scene.exchanges middle.exchanges →
      Attempt.Ensures conditions goal
        (if group.isTerminating then group.finalize secrets
        else do
          let group ← Attempt.within .cluster group.protect
          group.sync groupClass parameters secrets) middle) :
    (group.advance driver).Ensures conditions goal scene := by
  obtain ⟨name, stored, named, there, served⟩ := managed
  -- The class that is read is the one that manages the group.
  have reading : scene.store.get name "" = .ok stored := Store.get_eq_ok.mpr there
  have same {groupClass parameters secrets}
      (provides : scene.store.Provides driver group groupClass parameters secrets) :
      groupClass = stored := by
    obtain ⟨other, goes, read⟩ := provides.found
    obtain rfl := Option.some.inj (goes.symm.trans named)
    exact Except.ok.inj (read.symm.trans reading)
  -- The class is read, then its parameters, then the credentials, and each failure is told on the group.
  unfold Group.advance Group.resolveClass
  simp only [named]
  refine .bind (Attempt.Reads.told solo
    (Attempt.reads_look solo (.getClass name) trivial id fun _ => rfl) found (by decide) none) ?_ ?_
  · rintro error after ⟨⟨cause, rfl, letsFail⟩, tells, log⟩
    refine failed _ after ?_ (fun _ => letsFail ⟨stored, reading⟩) tells log
    split <;> exact id
  rintro groupClass first ⟨learnt, kept, log⟩
  obtain rfl : stored = groupClass := Except.ok.inj (reading.symm.trans learnt)
  -- It is a class of the driver, so the pass goes on.
  rw [if_neg (by simpa using served)]
  have known : Attempt.Reads conditions (fun _ => True)
      (.known (ClassParameters.resolve stored.spec.parameters)) := .known _
  refine .bind (Attempt.Reads.told solo known (kept ▸ found) (by decide) none) ?_ ?_
  · rintro error after ⟨⟨cause, rfl, letsFail⟩, tells, more⟩
    refine failed _ after id ?_ (kept ▸ tells) (log.quiet.trans more)
    rintro ⟨groupClass, parameters, secrets, provides⟩
    obtain rfl := same provides
    exact letsFail ⟨parameters, provides.resolved⟩
  rintro parameters second ⟨resolved, keptSecond, logSecond⟩
  have kept := keptSecond.trans kept
  have log := log.trans logSecond
  refine .bind (Attempt.Reads.told solo (Attempt.reads_credentials solo parameters.secret)
    (kept ▸ found) (by decide) none) ?_ ?_
  · rintro error after ⟨⟨cause, rfl, letsFail⟩, tells, more⟩
    refine failed _ after id ?_ (kept ▸ tells) (log.quiet.trans more)
    rintro ⟨groupClass, own, secrets, provides⟩
    obtain rfl := same provides
    obtain rfl := Except.ok.inj (provides.resolved.symm.trans resolved)
    exact letsFail ⟨secrets, kept ▸ Store.learns_credentials.mpr provides.readable⟩
  rintro secrets third ⟨readable, keptThird, logThird⟩
  -- All that was read is what the store provides.
  have provides : scene.store.Provides driver group stored parameters secrets :=
    ⟨⟨name, named, reading⟩, served, resolved, Store.learns_credentials.mp (kept ▸ readable)⟩
  exact goes stored parameters secrets third provides (keptThird.trans kept) (log.trans logThird)

/-- A pass reads the group that is stored under the name that was seen, and goes on with that one. -/
theorem Group.ensures_reconcile {seen : Group} {driver space : String}
    {goal : Except PassError Action → Scene → Prop}
    (inSpace : seen.metadata.namespace = some space)
    (absent : ∀ after, scene.store.find? (α := Group) seen.place = none →
      after.store = scene.store → Extends Call.IsLook scene.exchanges after.exchanges →
      goal (.ok .awaitChange) after)
    (unread : ∀ cause after, conditions.LetsCallsFail → after.store = scene.store →
      Extends Call.IsLook scene.exchanges after.exchanges → goal (.error (.cluster cause)) after)
    (found : ∀ (group : Group) (middle : Scene), scene.store.find? seen.place = some group →
      middle.store = scene.store → Extends Call.IsLook scene.exchanges middle.exchanges →
      (group.advance driver).Ensures conditions goal middle) :
    (seen.reconcile driver).Ensures conditions goal scene := by
  -- The pass looks under the name that was seen.
  have place : space ++ "/" ++ seen.name = seen.place := by
    rw [Group.place, inSpace]
    rfl
  -- The answer is the store's, or a failing call is behind it.
  have reading : Attempt.Ensures conditions (fun result after => after.store = scene.store ∧
      Extends Call.IsLook scene.exchanges after.exchanges ∧ ∃ answer, result = .ok answer ∧
        (answer = scene.store.get seen.name space ∨
          conditions.LetsCallsFail ∧ ∃ cause, answer = .error cause ∧ cause.IsPlain))
      (.outcome (.of (.ask (.getGroup seen.name space))) :
        Attempt PassError (Except ClusterError Group)) scene := by
    refine .outcome ((Attempt.reads_look solo (.getGroup seen.name space) trivial id
      (fun _ => rfl) scene).mono ?_)
    rintro answer after ⟨kept, log, told⟩
    exact ⟨kept, log, answer, rfl, told⟩
  unfold Group.reconcile
  rw [Attempt.space_bind inSpace]
  refine .bind reading ?_ ?_
  · rintro error after ⟨_, _, _, wrong, _⟩
    cases wrong
  rintro answer middle ⟨kept, log, _, ⟨⟩, told⟩
  -- A group that is there goes on, and any other answer ends the pass.
  cases answer with
  | ok group =>
    rcases told with read | ⟨_, _, wrong, _⟩
    · exact found group middle (place ▸ Store.get_eq_ok.mp read.symm) kept log
    · cases wrong
  | error cause =>
    -- Only a cluster that has no such group ends the pass without a failure.
    rcases told with read | ⟨letsFail, _, same, plain⟩
    · have none := Store.find?_of_get_eq_error read.symm
      have missing : cause.isNotFound = true := by
        simp only [Store.get, none] at read
        cases read
        rfl
      simp only [missing, if_true]
      exact .pure (absent middle (place ▸ none) kept log)
    · cases same
      simp only [Attempt.throws_of_isPlain plain]
      exact .throw (unread cause middle letsFail kept log)

end Opening

end VolumeGroups
