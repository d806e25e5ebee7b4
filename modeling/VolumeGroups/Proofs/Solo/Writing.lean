import VolumeGroups.Proofs.Duet.Effect
import VolumeGroups.Proofs.Handles.Custody
import VolumeGroups.Proofs.Solo.Reading

/-! What a pass writes to a store that nobody else writes to: an object that it has just read is
overwritten by what it wants, unless the call fails. -/

namespace VolumeGroups

/-- A call that leaves the driver alone and tells of no refusal. -/
def Call.IsSilent : Call → Prop
  | .createDriverGroup .. | .deleteDriverGroup .. | .modifyMembership .. => False
  | .record event => event.reason ≠ Reason.membershipRejected.name
  | _ => True

/-- A look is quiet. -/
theorem Call.IsLook.isSilent {request : Call} (look : request.IsLook) : request.IsSilent := by
  cases request <;> first | exact look.elim | trivial

/-- A log that goes on with looks goes on quietly. -/
theorem Extends.quiet {before after : List Exchange} (looks : Extends Call.IsLook before after) :
    Extends Call.IsSilent before after :=
  looks.mono fun _ => Call.IsLook.isSilent

namespace Store

/-- The tables that a pass only reads. -/
def grounds (store : Store) :
    Table GroupClass × Table Volume × Table Secret × Table StorageClass :=
  (store.classes, store.volumes, store.secrets, store.storageClasses)

/-- Writes of groups leave everything else alone. -/
theorem apart_of_groups : Untouched Group fun store =>
    (store.claims, store.contents, store.grounds) := fun _ _ _ => rfl

/-- Writes of contents leave everything else alone. -/
theorem apart_of_contents : Untouched Content fun store =>
    (store.groups, store.claims, store.grounds) := fun _ _ _ => rfl

/-- Writes of claims leave everything else alone. -/
theorem apart_of_claims : Untouched Claim fun store =>
    (store.groups, store.contents, store.grounds) := fun _ _ _ => rfl

/-- Groups, claims and contents lie under their own keys. -/
structure Tidy (store : Store) : Prop extends store.Regular where
  contents : store.Orderly Content

/-- A store is tidy if its entries lie under their own keys with versions that were given out, and
groups and claims have names. -/
theorem Tidy.of_entries {store : Store}
    (groups : ∀ entry ∈ store.groups.entries, (Resource.key entry.2 = entry.1 ∧
      ∃ number ∈ List.range (store.revision + 1),
        Resource.version entry.2 = some (toString number)) ∧ entry.2.metadata.name.isSome)
    (claims : ∀ entry ∈ store.claims.entries, (Resource.key entry.2 = entry.1 ∧
      ∃ number ∈ List.range (store.revision + 1),
        Resource.version entry.2 = some (toString number)) ∧ entry.2.metadata.name.isSome)
    (contents : ∀ entry ∈ store.contents.entries, Resource.key entry.2 = entry.1 ∧
      ∃ number ∈ List.range (store.revision + 1),
        Resource.version entry.2 = some (toString number)) : store.Tidy where
  -- Keys and versions are checked entry by entry.
  groups := .of_entries fun entry known => (groups entry known).1
  claims := .of_entries fun entry known => (claims entry known).1
  contents := .of_entries contents
  groupNamed found := (groups _ (Table.mem_of_get? found)).2
  claimNamed found := (claims _ (Table.mem_of_get? found)).2

section Exact

variable {α : Type} [Stored α] {store : Store} {stored later : α}

/-- An object that is still as it was read is replaced. -/
theorem replace_eq (found : store.find? (Resource.key later) = some stored)
    (same : Resource.version stored = Resource.version later) :
    store.replace later = store.overwrite (Stored.withStatusOf later stored) := by
  rw [Resource.version, Resource.version] at same
  simp [replace, current, found, same]

/-- The state of an object that is still as it was read is replaced. -/
theorem replaceStatus_eq (found : store.find? (Resource.key later) = some stored)
    (same : Resource.version stored = Resource.version later) :
    store.replaceStatus later = store.overwrite (Stored.withStatusOf stored later) := by
  rw [Resource.version, Resource.version] at same
  simp [replaceStatus, current, found, same]

/-- Overwriting an object that something holds sets it in its table. -/
theorem table_overwrite [LawfulStored α] (held : (Resource.metadata later).isForsaken = false) :
    Stored.table (store.overwrite later).2 =
      (Stored.table store).set (Resource.key later) (store.stamped later) := by
  -- The version is new, and all else that decides is as it was written.
  have place := key_stamped store later
  have same : ((Resource.metadata (store.stamped later)).isTerminating
      && ((Resource.metadata (store.stamped later)).finalizers.getD []).isEmpty) = false := by
    simp only [metadata_stamped]
    exact held
  simp only [stamped] at place same
  simp only [overwrite, save, same, Bool.false_eq_true, if_false, LawfulStored.table_withTable,
    place, stamped]

end Exact

/-- A group that is overwritten by a later form of itself leaves the store tidy. -/
theorem Tidy.overwrite_group {store : Store} (tidy : store.Tidy) {key : String}
    {group later : Group} (found : store.find? key = some group)
    (continues : group.metadata.Continues later.metadata) : (store.overwrite later).2.Tidy where
  toRegular := tidy.toRegular.overwrite_group found continues
  contents := tidy.contents.of_table (by simp) (contents_of_groups.overwrite store later)

/-- A claim that is overwritten by a later form of itself leaves the store tidy. -/
theorem Tidy.overwrite_claim {store : Store} (tidy : store.Tidy) {key : String}
    {claim later : Claim} (found : store.find? key = some claim)
    (continues : claim.metadata.Continues later.metadata) : (store.overwrite later).2.Tidy where
  -- The other tables stay as they are.
  toRegular := tidy.toRegular.overwrite_claim found continues
  contents := by
    obtain ⟨_, contents, _⟩ := (Prod.mk.inj (apart_of_claims.overwrite store later)).imp_right
      Prod.mk.inj
    exact tidy.contents.of_table (by simp) contents

/-- A store whose contents change in an orderly way, and nothing else of what has order, stays tidy. -/
theorem Tidy.of_contents {earlier later : Store} (tidy : earlier.Tidy)
    (revision : earlier.revision ≤ later.revision) (groups : later.groups = earlier.groups)
    (claims : later.claims = earlier.claims) (contents : later.Orderly Content) : later.Tidy :=
  ⟨tidy.toRegular.of_tables revision groups claims, contents⟩

end Store

namespace Program

/-- Where nobody else writes, a call meets the scene that is there. -/
theorem honours_ask {conditions : Conditions} (solo : conditions.Solo) (request : Call)
    (scene : Scene) : (Program.ask request).Honours conditions .any
      (fun answer after => conditions.Answers scene request answer after) scene := by
  refine .ask fun met waits answer after answers => ?_
  -- Nobody else writes, so what is met is what was there.
  obtain rfl := solo.waits waits
  exact ⟨trivial, answers⟩

end Program

namespace Attempt

variable {ε α : Type} {conditions : Conditions} {scene : Scene}

/-- A call of the cluster is carried out, or fails without effect and honestly. -/
theorem ensures_call (solo : conditions.Solo) (request : Call) (quiet : request.IsSilent)
    (view : request.Answer → Except ClusterError α)
    (same : ∀ answer, (Exchange.mk request answer).failure? = Exchange.clusterFailure? (view answer))
    {goal : Except ClusterError α → Scene → Prop}
    (served : ∀ answer after, scene.store.Serves request answer after.store →
      Extends Call.IsSilent scene.exchanges after.exchanges → goal (view answer) after)
    (failed : ∀ cause after, conditions.LetsCallsFail → cause.IsPlain →
      cause.isAlreadyExists = false →
      after.store = scene.store → Extends Call.IsSilent scene.exchanges after.exchanges →
      goal (.error cause) after) :
    Ensures conditions goal (of ((Program.ask request).bind fun answer => .done (view answer)))
      scene := by
  refine .of (Program.Honours.bind (Program.honours_ask solo request scene) ?_)
  -- The store answers, or the call fails.
  rintro answer after ⟨log, serves | ⟨failing, kept⟩⟩
  · exact served answer after serves (log ▸ .single quiet)
  · obtain ⟨tells, honest⟩ := solo.honest failing
    obtain ⟨cause, told, failure⟩ := Exchange.clusterFailure?_isSome
      ((congrArg Option.isSome (same answer)).symm.trans tells)
    obtain ⟨plain, absent⟩ := honest cause ((same answer).trans failure)
    -- A call of the cluster deletes nothing at the driver.
    have letsFail : conditions.LetsCallsFail := by
      refine ⟨request, answer, failing, ?_⟩
      cases request <;> first | rfl | exact quiet.elim
    exact told ▸ failed cause after letsFail plain absent kept (log ▸ .single quiet)

/-- How a write ends that stores an object: with the stored object, or by failing without effect. -/
def Writes {β : Type} [Stored β] (conditions : Conditions) (scene : Scene) (object : β) :
    Except ClusterError β → Scene → Prop :=
  -- A write that fails leaves the store, and the log grows either way.
  EndsEither
    (fun stored after => stored = scene.store.stamped object ∧
      after.store = (scene.store.overwrite object).2 ∧
      Extends Call.IsSilent scene.exchanges after.exchanges)
    (fun cause after => conditions.LetsCallsFail ∧ cause.IsPlain ∧ after.store = scene.store ∧
      Extends Call.IsSilent scene.exchanges after.exchanges)

/-- An object that the store writes over the stored one is what the write answers. -/
theorem Writes.served {β : Type} [Stored β] {object : β} {answer : Except ClusterError β}
    {after : Scene} (done : (answer, after.store) = scene.store.overwrite object)
    (log : Extends Call.IsSilent scene.exchanges after.exchanges) :
    Writes conditions scene object answer after := by
  -- The store gives back what it has stored.
  have answered : answer = .ok (scene.store.stamped object) :=
    (congrArg Prod.fst done).trans (Store.overwrite_fst _ _)
  rw [answered]
  exact ⟨rfl, congrArg Prod.snd done, log⟩

section Objects

variable (solo : conditions.Solo)
include solo

/-- A group that was just read is replaced. -/
theorem ensures_replaceGroup {group later : Group}
    (found : scene.store.find? (Resource.key later) = some group)
    (version : Resource.version group = Resource.version later)
    (status : later.status = group.status) :
    Ensures conditions (Writes conditions scene later) (of (.ask (.replaceGroup later))) scene := by
  -- The state that is stored is kept by the write, so nothing of the object differs.
  have same : Stored.withStatusOf later group = later := by
    simp only [Stored.withStatusOf, ← status]
  refine ensures_call solo (.replaceGroup later) trivial id (fun _ => rfl) ?_ ?_
  · intro answer after serves log
    exact .served (same ▸ serves.trans (Store.replace_eq found version)) log
  · exact fun cause after letsFail plain _ kept log => ⟨letsFail, plain, kept, log⟩

/-- The state of a group that was just read is replaced. -/
theorem ensures_replaceGroupStatus {group : Group} (status : Option GroupStatus)
    (found : scene.store.find? (Resource.key group) = some group) :
    Ensures conditions (Writes conditions scene { group with status })
      (of (.ask (.replaceGroupStatus { group with status }))) scene := by
  refine ensures_call solo (.replaceGroupStatus { group with status }) trivial id (fun _ => rfl) ?_ ?_
  · intro answer after serves log
    -- The state is no part of the key, so the group is found under it.
    have there : scene.store.find? (Resource.key { group with status }) = some group := found
    exact .served (serves.trans (Store.replaceStatus_eq there rfl)) log
  · exact fun cause after letsFail plain _ kept log => ⟨letsFail, plain, kept, log⟩

/-- A content that was just read is replaced. -/
theorem ensures_replaceContent {content later : Content}
    (found : scene.store.find? (Resource.key later) = some content)
    (version : Resource.version content = Resource.version later)
    (status : later.status = content.status) :
    Ensures conditions (Writes conditions scene later) (of (.ask (.replaceContent later)))
      scene := by
  -- The state that is stored is kept by the write, so nothing of the object differs.
  have same : Stored.withStatusOf later content = later := by
    simp only [Stored.withStatusOf, ← status]
  refine ensures_call solo (.replaceContent later) trivial id (fun _ => rfl) ?_ ?_
  · intro answer after serves log
    exact .served (same ▸ serves.trans (Store.replace_eq found version)) log
  · exact fun cause after letsFail plain _ kept log => ⟨letsFail, plain, kept, log⟩

/-- The state of a content that was just read is replaced. -/
theorem ensures_replaceContentStatus {content : Content} (status : Option ContentStatus)
    (found : scene.store.find? (Resource.key content) = some content) :
    Ensures conditions (Writes conditions scene { content with status })
      (of (.ask (.replaceContentStatus { content with status }))) scene := by
  refine ensures_call solo (.replaceContentStatus { content with status }) trivial id
    (fun _ => rfl) ?_ ?_
  · intro answer after serves log
    -- Nor is it for a content.
    have there : scene.store.find? (Resource.key { content with status }) = some content := found
    exact .served (serves.trans (Store.replaceStatus_eq there rfl)) log
  · exact fun cause after letsFail plain _ kept log => ⟨letsFail, plain, kept, log⟩

/-- A claim that was just read is replaced. -/
theorem ensures_replaceClaim {claim later : Claim}
    (found : scene.store.find? (Resource.key later) = some claim)
    (version : Resource.version claim = Resource.version later) :
    Ensures conditions (Writes conditions scene later) (of (.ask (.replaceClaim later))) scene := by
  refine ensures_call solo (.replaceClaim later) trivial id (fun _ => rfl) ?_ ?_
  · intro answer after serves log
    -- The version is the one that was read, so the write is not refused.
    exact .served (serves.trans (Store.replace_eq found version)) log
  · exact fun cause after letsFail plain _ kept log => ⟨letsFail, plain, kept, log⟩

end Objects

end Attempt

/-- What telling a failure on a stored group does to a store: nothing, or it writes the failure into
the group's state. -/
inductive Group.Tells (group : Group) (store : Store) : Store → Prop
  /-- The state said so already, or could not be written. -/
  | nothing : group.Tells store store
  /-- The state says so from now on. -/
  | state (message : String) (ready : Option Bool) : group.Tells store
      (store.overwrite { group with status := some (.failed group.status message ready) }).2

/-- Telling a failure leaves contents alone. -/
theorem Group.Tells.contents {group : Group} {store after : Store}
    (tells : group.Tells store after) : after.contents = store.contents := by
  cases tells with
  | nothing => rfl
  | state => exact Store.contents_of_groups.overwrite _ _

/-- Telling a failure leaves claims alone. -/
theorem Group.Tells.claims {group : Group} {store after : Store}
    (tells : group.Tells store after) : after.claims = store.claims := by
  cases tells with
  | nothing => rfl
  | state => exact (Prod.mk.inj (Store.apart_of_groups.overwrite _ _)).1

/-- A failure that is told leaves the list of members as it was. -/
theorem Group.members_failed (group : Group) (message : String) (ready : Option Bool) :
    Group.members { group with status := some (.failed group.status message ready) } =
      group.members := by
  rcases group with ⟨metadata, spec, status⟩
  cases status <;> rfl

/-- An event for any reason but a refusal is recorded quietly. -/
theorem honours_note {conditions : Conditions} (solo : conditions.Solo) {scene : Scene}
    (regarding : ObjectReference) (type : EventType) {reason : Reason} (message : String)
    (other : reason ≠ .membershipRejected) :
    (note regarding type reason message).Honours conditions .any
      (fun _ after => after.store = scene.store ∧
        Extends Call.IsSilent scene.exchanges after.exchanges) scene := by
  refine Program.Honours.bind (Program.honours_ask solo _ scene) ?_
  rintro answer after ⟨log, done⟩
  have kept : after.store = scene.store := done.elim (·.2) (·.2)
  -- Only a refusal is told aloud.
  have quiet : reason.name ≠ Reason.membershipRejected.name := by
    cases reason <;> first | exact (other rfl).elim | decide
  exact ⟨kept, log ▸ .single quiet⟩

/-- Telling a failure on a stored group quietly writes its state at most. -/
theorem Group.ensures_tell {conditions : Conditions} (solo : conditions.Solo) {scene : Scene}
    {group : Group} (found : scene.store.find? (Resource.key group) = some group)
    {reason : Reason} (other : reason ≠ .membershipRejected) (ready : Option Bool)
    (error : PassError) :
    (group.tell reason ready error).Honours conditions .any
      (fun _ after => group.Tells scene.store after.store ∧
        Extends Call.IsSilent scene.exchanges after.exchanges) scene := by
  unfold Group.tell
  extract_lets status
  -- Whatever became of the state, an event follows.
  have noted (between : Scene) (tells : group.Tells scene.store between.store)
      (log : Extends Call.IsSilent scene.exchanges between.exchanges) :
      (note (Resource.reference group) .warning reason error.statusMessage).Honours conditions .any
        (fun _ after => group.Tells scene.store after.store ∧
          Extends Call.IsSilent scene.exchanges after.exchanges) between := by
    refine (honours_note solo _ _ _ other).mono ?_
    rintro _ after ⟨kept, more⟩
    exact ⟨kept ▸ tells, log.trans more⟩
  -- The state is written if it differs, and the event follows in any case.
  split
  · refine Program.Honours.bind
      (Attempt.ensures_replaceGroupStatus solo (some status) found) ?_
    rintro (cause | stored) between ended
    · exact noted between (ended.2.2.1 ▸ .nothing) ended.2.2.2
    · exact noted between (ended.2.1 ▸ .state _ _) ended.2.2
  · exact noted scene .nothing (.refl _)

/-- An attempt whose failure is told on a stored group leaves what it would leave, up to the telling. -/
theorem Attempt.Ensures.telling {α : Type} {conditions : Conditions} (solo : conditions.Solo)
    {scene : Scene} {group : Group} {reason : Reason} {ready : Option Bool}
    {attempt : Attempt PassError α} {goal final : Except PassError α → Scene → Prop}
    (ensures : attempt.Ensures conditions goal scene) (other : reason ≠ .membershipRejected)
    (succeeded : ∀ value after, goal (.ok value) after → final (.ok value) after)
    (there : ∀ error after, goal (.error error) after →
      after.store.find? (Resource.key group) = some group)
    (told : ∀ error after last, goal (.error error) after → group.Tells after.store last.store →
      Extends Call.IsSilent after.exchanges last.exchanges → final (.error error) last) :
    (attempt.tellingOn group reason ready).Ensures conditions final scene := by
  -- A success needs no telling, and a failure is told on the stored group.
  refine .tellingOn ensures succeeded ?_
  intro error after failed
  refine (group.ensures_tell solo (there error after failed) other ready error).mono ?_
  rintro _ last ⟨tells, log⟩
  exact told error after last failed tells log

end VolumeGroups
