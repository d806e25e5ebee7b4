import VolumeGroups.Proofs.Operator.Calm
import VolumeGroups.Proofs.Operator.Stages

/-! The single reads and writes of a pass, and what a pass knows of the store after each. -/

namespace VolumeGroups

/-- The group under a key, if it is the driver's, lists the bound claims that it wants and no others,
or none at all if it is being deleted. -/
def Store.Settled (store : Store) (driver key : String) : Prop :=
  ∀ {group : Group}, store.find? key = some group → store.Manages driver group →
    group.isTerminating = true ∧ group.members = [] ∨
      group.isTerminating = false ∧ ∀ {place : String} {claim : Claim},
        store.find? place = some claim → claim.metadata.namespace = group.metadata.namespace →
          claim.volumeName?.isSome = true → (group.Wants claim ↔ group.lists claim = true)

namespace Conditions

variable (conditions : Conditions)

/-- A group was stored at some time before, lists no more than it did then, and is still there as it
was if nobody else edits it, up to marks. -/
structure Knows (group : Group) (store : Store) : Prop where
  recalls : store.Recalls group
  lists : ∀ {claim : String}, store.Lists group.metadata.namespace group.name claim →
    claim ∈ group.members
  current : conditions.Still → ∀ {own : Group},
    store.find? (Resource.key group) = some own → group.Continues own ∧ own.members = group.members

variable {conditions}

/-- A group that is found is known. -/
theorem Knows.of_found {store : Store} {key : String} {group : Group} (regular : store.Regular)
    (found : store.find? key = some group) : conditions.Knows group store := by
  refine ⟨regular.groups.recalls found, (regular.lists_iff found).mp, fun _ {own} reading => ?_⟩
  -- What lies under its key is the group itself.
  obtain rfl := regular.groups.placed found
  obtain rfl : group = own := by simpa [found] using reading
  exact ⟨.refl _, rfl⟩

/-- A known group stays known while no member is recorded. -/
theorem Knows.later {group : Group} {earlier later : Store} (knows : conditions.Knows group earlier)
    (recordsNone : conditions.RecordsNoMember earlier later) : conditions.Knows group later := by
  refine ⟨knows.recalls.later recordsNone.since.groups,
    fun listed => knows.lists (recordsNone.since.lists listed), fun still {own} reading => ?_⟩
  obtain ⟨before, found, continues, members⟩ := (recordsNone.sameUpToMarks still).group reading
  obtain ⟨continued, recorded⟩ := knows.current still found
  exact ⟨continued.trans continues, members.trans recorded⟩

/-- A known group was written back, if at all, while it was still there as it was, and its later
form is known. -/
structure Renews (conditions : Conditions) (group : Group) (earlier : Store) (stored : Group)
    (later : Store) : Prop where
  -- What may have happened to the store, and what is known of it now.
  keepsMarks : conditions.KeepsMarks earlier later
  knows : conditions.Knows stored later
  -- The written group is the known one, with at most its content or its mark added.
  continues : group.Continues stored
  members : stored.members = group.members
  marked : stored.isMarked = group.isMarked
  origin : stored = group ∨ earlier.find? (Resource.key group) = some group

/-- A calm stretch may follow. -/
theorem Renews.later {group stored : Group} {first second third : Store}
    (renews : conditions.Renews group first stored second)
    (keepsMarks : conditions.KeepsMarks second third) :
    conditions.Renews group first stored third :=
  { renews with
    keepsMarks := renews.keepsMarks.trans keepsMarks
    knows := renews.knows.later keepsMarks.toRecordsNoMember }

/-- A calm stretch may come before, after which a group that is still there has been there all the
time. -/
theorem Renews.earlier {group stored : Group} {first second third : Store}
    (recalls : first.Recalls group) (keepsMarks : conditions.KeepsMarks first second)
    (renews : conditions.Renews group second stored third) :
    conditions.Renews group first stored third :=
  -- What is known at the end is the same; only the stretch before it grows.
  { renews with
    keepsMarks := keepsMarks.trans renews.keepsMarks
    origin := renews.origin.imp_right fun found =>
      (recalls.unchanged keepsMarks.since.groups found rfl).2 }

/-- Writing a recalled group fails without effect, or overwrites that very group. -/
theorem Answers.replaceGroup (harmless : conditions.Harmless) {met after : Scene}
    {group later : Group} {answer : (Call.replaceGroup later).Answer}
    (answers : conditions.Answers met (.replaceGroup later) answer after)
    (recalls : met.store.Recalls group) (continues : group.metadata.Continues later.metadata)
    (version : later.metadata.resourceVersion = group.metadata.resourceVersion)
    (status : later.status = group.status) :
    (∃ error, answer = .error error ∧ after.store = met.store) ∨
      met.store.find? (Resource.key group) = some group ∧
        answer = .ok (met.store.stamped later) ∧ after.store = (met.store.overwrite later).2 := by
  -- The state is that of the stored group, which the written one has as well.
  have written : Stored.withStatusOf later group = later := by
    simp only [Stored.withStatusOf, ← status]
  -- A call that is carried out is a replacement over the version that was recalled.
  obtain ⟨_, serves | ⟨failing, unchanged⟩⟩ := answers
  · exact written ▸ recalls.replace continues.key version serves
  · cases answer with
    | error cause => exact Or.inl ⟨cause, rfl, unchanged⟩
    | ok stored => cases harmless.fails failing

/-- Writing the state of a recalled group fails without effect, or overwrites that very group. -/
theorem Answers.replaceGroupStatus (harmless : conditions.Harmless) {met after : Scene}
    {group : Group} {status : Option GroupStatus}
    {answer : (Call.replaceGroupStatus { group with status }).Answer}
    (answers : conditions.Answers met (.replaceGroupStatus { group with status }) answer after)
    (recalls : met.store.Recalls group) :
    (∃ error, answer = .error error ∧ after.store = met.store) ∨
      met.store.find? (Resource.key group) = some group ∧
        answer = .ok (met.store.stamped { group with status }) ∧
        after.store = (met.store.overwrite { group with status }).2 := by
  -- A call that fails tells so, hence a success is one of the store.
  obtain ⟨_, serves | ⟨failing, unchanged⟩⟩ := answers
  · exact recalls.replaceStatus (by rfl) (by rfl) serves
  · cases answer with
    | error cause => exact Or.inl ⟨cause, rfl, unchanged⟩
    | ok stored => cases harmless.fails failing

/-- Writing a recalled claim fails without effect, or overwrites that very claim. -/
theorem Answers.replaceClaim (harmless : conditions.Harmless) {met after : Scene}
    {claim later : Claim} {answer : (Call.replaceClaim later).Answer}
    (answers : conditions.Answers met (.replaceClaim later) answer after)
    (recalls : met.store.Recalls claim) (continues : claim.metadata.Continues later.metadata)
    (version : later.metadata.resourceVersion = claim.metadata.resourceVersion) :
    (∃ error, answer = .error error ∧ after.store = met.store) ∨
      met.store.find? (Resource.key claim) = some claim ∧
        answer = .ok (met.store.stamped later) ∧ after.store = (met.store.overwrite later).2 := by
  -- A claim has no state apart, so it is written as a whole.
  obtain ⟨_, serves | ⟨failing, unchanged⟩⟩ := answers
  · exact recalls.replace continues.key version serves
  · cases answer with
    | error cause => exact Or.inl ⟨cause, rfl, unchanged⟩
    | ok stored => cases harmless.fails failing

end Conditions

namespace Attempt

variable {conditions : Conditions} {key : String} {scene : Scene} {ε : Type}

/-- A list of groups is that of the store at the moment of the answer. -/
theorem honours_listGroups {wider : ClusterError → ε} (harmless : conditions.Harmless)
    (regular : scene.store.Regular) (space : String) :
    Honours conditions (conditions.Moves key)
      (fun result after => conditions.KeepsMarks scene.store after.store ∧
        Ends (fun groups after => groups = after.store.list space) result after)
      (within wider (of (.ask (.listGroups space)))) scene := by
  -- The list is read at the moment of the answer, after any waiting.
  refine .within (.of (Program.honours_look harmless regular trivial ?_))
  intro met after answer _ answers
  cases answer with
  | error cause => trivial
  | ok groups =>
    -- A call that failed would have told so, so the answer is the store's.
    rcases answers.2 with ⟨same, unchanged⟩ | ⟨failing, _⟩
    · have listed : groups = met.store.list space := Except.ok.inj same
      exact listed.trans (by rw [unchanged])
    · cases harmless.fails failing

/-- A list of claims is that of the store at the moment of the answer. -/
theorem honours_listClaims {wider : ClusterError → ε} (harmless : conditions.Harmless)
    (regular : scene.store.Regular) (space : String) :
    Honours conditions (conditions.Moves key)
      (fun result after => conditions.KeepsMarks scene.store after.store ∧
        Ends (fun claims after => claims = after.store.list space) result after)
      (within wider (of (.ask (.listClaims space)))) scene := by
  -- As with groups, the list is read at the moment of the answer.
  refine .within (.of (Program.honours_look harmless regular trivial ?_))
  intro met after answer _ answers
  cases answer with
  | error cause => trivial
  | ok claims =>
    -- A call that failed would have told so, so the answer is the store's.
    rcases answers.2 with ⟨same, unchanged⟩ | ⟨failing, _⟩
    · have listed : claims = met.store.list space := Except.ok.inj same
      exact listed.trans (by rw [unchanged])
    · cases harmless.fails failing

/-- Writing a known group back without taking its mark off is calm, and if it succeeds then the
group was still there as it was. -/
theorem honours_replaceGroup {group : Group} (later : Group) (harmless : conditions.Harmless)
    (regular : scene.store.Regular) (knows : conditions.Knows group scene.store)
    (continues : group.Continues later)
    (version : later.metadata.resourceVersion = group.metadata.resourceVersion)
    (status : later.status = group.status) (held : later.metadata.isForsaken = false)
    (marked : group.isMarked = true → later.isMarked = true) :
    Honours conditions (conditions.Moves key)
      (Ends fun stored after => conditions.KeepsMarks scene.store after.store ∧
        conditions.Knows stored after.store ∧ group.Continues stored ∧
        stored.members = group.members ∧ stored.isMarked = later.isMarked ∧
        scene.store.find? (Resource.key group) = some group)
      (of (.ask (.replaceGroup later)) : Attempt ClusterError Group) scene := by
  -- Others may act before the write, and what they change is calm.
  refine .of (Program.Honours.ask ?_)
  intro met waits answer after answers
  have calm := harmless.waits regular waits
  have members : later.members = group.members := by simp only [Group.members, status]
  rcases answers.replaceGroup harmless (knows.recalls.later calm.since.groups) continues.metadata
    version status with ⟨error, rfl, unchanged⟩ | ⟨found, rfl, wrote⟩
  · exact ⟨.keep (unchanged ▸ .refl _), trivial⟩
  · -- What succeeded wrote the group over itself, with the same members and no mark less.
    have keeps : met.store.Keeps after.store :=
      wrote ▸ .overwrite_group calm.regular found continues members marked
    have keepsMarks := calm.trans (.of_keeps calm.regular keeps)
    -- The write leaves the group there, since it is not being deleted or keeps a mark.
    have there : after.store.find? (Resource.key later) = some (met.store.stamped later) := by
      rw [wrote]
      exact Store.find?_overwrite_self held
    refine ⟨.keep keeps, keepsMarks, .of_found keepsMarks.regular there,
      continues.trans ⟨rfl, rfl, rfl⟩, members, rfl, ?_⟩
    exact (knows.recalls.unchanged calm.since.groups found rfl).2

/-- A group that gets its mark is known from then on. -/
theorem honours_protectGroup {group : Group} (harmless : conditions.Harmless)
    (regular : scene.store.Regular) (knows : conditions.Knows group scene.store) :
    Honours conditions (conditions.Moves key)
      (Ends fun stored after => conditions.KeepsMarks scene.store after.store ∧
        conditions.Knows stored after.store ∧ group.Continues stored ∧
        stored.members = group.members ∧ stored.isMarked = true)
      group.protect scene := by
  unfold Group.protect
  split
  -- A group with its mark needs no write.
  · rename_i none
    exact .pure ⟨.refl regular, knows, .refl _, rfl, Metadata.addFinalizer?_eq_none none⟩
  · rename_i metadata added
    -- The mark that is added holds the group, even if it is being deleted.
    obtain ⟨continues, version, marked⟩ := Metadata.addFinalizer?_eq_some added
    refine (honours_replaceGroup { group with metadata } harmless regular knows
      ⟨continues, rfl, rfl⟩ version rfl (Metadata.isForsaken_of_hasFinalizer marked)
      fun _ => marked).imp ?_
    rintro stored after ⟨keepsMarks, known, continued, members, held, _⟩
    exact ⟨keepsMarks, known, continued, members, held.trans marked⟩

/-- A live group with its content recorded is known from then on, and if that took a write then the
group was still there as it was. -/
theorem honours_rememberContent {group : Group} (contentName : String)
    (harmless : conditions.Harmless) (regular : scene.store.Regular)
    (knows : conditions.Knows group scene.store) (live : group.isTerminating = false) :
    Honours conditions (conditions.Moves key)
      (Ends fun stored after => conditions.Renews group scene.store stored after.store)
      (group.rememberContent contentName) scene := by
  unfold Group.rememberContent
  split
  -- A group that names its content already is not written.
  · exact .pure ⟨.refl regular, knows, .refl _, rfl, rfl, .inl rfl⟩
  · have alive : group.metadata.isTerminating = false := live
    have held : group.metadata.isForsaken = false := by simp [Metadata.isForsaken, alive]
    -- A live group is not removed by the write, whether it is marked or not.
    refine .told (.imp (honours_replaceGroup _ harmless regular knows ⟨rfl, rfl, rfl⟩ rfl rfl held id)
      ?_)
    rintro stored after ⟨keepsMarks, known, continues, members, same, found⟩
    exact ⟨keepsMarks, known, continues, members, same, .inr found⟩

/-- A bound claim that gets its mark is protected from then on. -/
theorem honours_protectClaim {counted : Store} {place : String} {claim : Claim}
    (harmless : conditions.Harmless) (ordered : counted.Regular)
    (found : counted.find? place = some claim) (bound : claim.volumeName?.isSome = true)
    (keepsMarks : conditions.KeepsMarks counted scene.store) :
    Honours conditions (conditions.Moves key)
      (Ends fun _ after => conditions.KeepsMarks scene.store after.store ∧
        ∀ {name : String}, claim.metadata.name = some name →
          after.store.Protects claim.metadata.namespace name)
      claim.protect scene := by
  unfold Claim.protect
  split
  · rename_i none
    -- The claim was marked when it was counted, and no mark has been lost since.
    refine .pure ⟨.refl keepsMarks.regular, fun named => keepsMarks.keepsClaimMarks ?_⟩
    exact ⟨place, claim, found, rfl, named, Metadata.addFinalizer?_eq_none none⟩
  · rename_i metadata added
    obtain ⟨continues, version, marked⟩ := Metadata.addFinalizer?_eq_some added
    -- Whatever the write answers is dropped, and only that the mark is there counts.
    refine .dropped (.of (Program.Honours.ask ?_))
    intro met waits answer after answers
    have calm := harmless.waits keepsMarks.regular waits
    -- The claim was counted before, and is written over the version that it had then.
    have recalls := (ordered.claims.recalls found).later (keepsMarks.trans calm).since.claims
    rcases answers.replaceClaim harmless recalls continues version with
      ⟨error, rfl, unchanged⟩ | ⟨there, rfl, wrote⟩
    · exact ⟨.keep (unchanged ▸ .refl _), trivial⟩
    · have keeps : met.store.Keeps after.store :=
        wrote ▸ .overwrite_claim calm.regular there ⟨continues, rfl⟩ marked bound
      refine ⟨.keep keeps, calm.trans (.of_keeps calm.regular keeps), fun named => ?_⟩
      -- The written claim is there, since its mark holds it.
      refine ⟨Resource.key (α := Claim) { claim with metadata },
        met.store.stamped { claim with metadata }, ?_, ?_, ?_, marked⟩
      · rw [wrote]
        exact Store.find?_overwrite_self (Metadata.isForsaken_of_hasFinalizer marked)
      · exact congrArg (·.namespace) continues
      · exact (congrArg (·.name) continues).trans named

/-- Bound claims that get their marks are protected from then on. -/
theorem honours_protectMembers {wider : ClusterError → ε} {counted : Store}
    {members : List Member} (harmless : conditions.Harmless) (ordered : counted.Regular)
    (found : ∀ member ∈ members, ∃ place, counted.find? place = some member.claim)
    (bound : ∀ member ∈ members, member.claim.volumeName?.isSome = true)
    (keepsMarks : conditions.KeepsMarks counted scene.store) :
    Honours conditions (conditions.Moves key)
      (Ends fun _ after => conditions.KeepsMarks scene.store after.store ∧
        ∀ member ∈ members, ∀ {name : String}, member.claim.metadata.name = some name →
          after.store.Protects member.claim.metadata.namespace name)
      (members.forM fun member => within wider member.claim.protect) scene := by
  -- The induction goes along the members, and a mark that was set stays while others are set.
  induction members generalizing scene with
  | nil => exact .pure ⟨.refl keepsMarks.regular, by simp⟩
  | cons member rest ih =>
    obtain ⟨place, foundMember⟩ := found member (List.mem_cons_self ..)
    refine .then (.told (honours_protectClaim harmless ordered foundMember
      (bound member (List.mem_cons_self ..)) keepsMarks)) ?_
    rintro _ middle ⟨calm, held⟩
    refine .imp (ih (fun other known => found other (List.mem_cons_of_mem _ known))
      (fun other known => bound other (List.mem_cons_of_mem _ known)) (keepsMarks.trans calm)) ?_
    rintro _ after ⟨later, covered⟩
    refine ⟨calm.trans later, fun other known {name} named => ?_⟩
    -- The first claim was marked before the others, and no mark is lost since.
    rcases List.mem_cons.mp known with rfl | known
    · exact later.keepsClaimMarks (held named)
    · exact covered other known named

/-- A recalled claim that no group lists may lose its mark. -/
theorem honours_releaseClaim {wider : ClusterError → ε} {claim : Claim} {others : List Group}
    (harmless : conditions.Harmless) (regular : scene.store.Regular)
    (recalls : scene.store.Recalls claim)
    (free : (others.any fun group => group.lists claim) = false → ∀ {group name : String},
      claim.metadata.name = some name → ¬ scene.store.Lists claim.metadata.namespace group name) :
    Honours conditions (conditions.Moves key)
      (Ends fun _ after => conditions.RecordsNoMember scene.store after.store)
      (within wider (claim.release others)) scene := by
  -- The result of the release itself does not matter.
  refine .told ?_
  unfold Claim.release
  split
  -- A claim that another group lists keeps its mark.
  · exact .pure (.refl regular)
  · rename_i unlisted
    split
    -- A claim without a mark has none to lose.
    · exact .pure (.refl regular)
    · rename_i metadata freed
      obtain ⟨continues, version, _⟩ := Metadata.removeFinalizer?_eq_some freed
      refine .dropped (.of (Program.Honours.ask ?_))
      intro met waits answer after answers
      have calm := harmless.waits regular waits
      rcases answers.replaceClaim harmless (recalls.later calm.since.claims) continues version with
        ⟨error, rfl, unchanged⟩ | ⟨there, rfl, wrote⟩
      · exact ⟨.keep (unchanged ▸ .refl _), trivial⟩
      · -- No group lists the claim by now, since nothing was listed anew while waiting.
        have frees : met.store.Frees after.store := by
          rw [wrote]
          exact .free there freed fun named listed =>
            free (by simpa using unlisted) named (calm.since.lists listed)
        exact ⟨.free frees, calm.toRecordsNoMember.trans (.of_frees calm.regular frees)⟩

/-- Recalled claims that no group lists may lose their marks. -/
theorem honours_releaseClaims {claims : List Claim} {others : List Group}
    (harmless : conditions.Harmless) (regular : scene.store.Regular)
    (recalls : ∀ claim ∈ claims, scene.store.Recalls claim)
    (free : ∀ claim ∈ claims, (others.any fun group => group.lists claim) = false →
      ∀ {group name : String}, claim.metadata.name = some name →
        ¬ scene.store.Lists claim.metadata.namespace group name) :
    Honours conditions (conditions.Moves key)
      (Ends fun _ after => conditions.RecordsNoMember scene.store after.store)
      (releaseClaims claims others) scene := by
  unfold releaseClaims
  -- The induction goes along the claims, each of which is free by itself.
  induction claims generalizing scene with
  | nil => exact .pure (.refl regular)
  | cons claim rest ih =>
    refine .then (honours_releaseClaim harmless regular (recalls claim (List.mem_cons_self ..))
      (free claim (List.mem_cons_self ..))) ?_
    intro _ middle recordsNone
    -- Nothing is listed anew, so the rest stays free to go.
    refine .imp (ih recordsNone.regular ?_ ?_) fun _ after later => recordsNone.trans later
    · exact fun other known =>
        (recalls other (List.mem_cons_of_mem _ known)).later recordsNone.since.claims
    · exact fun other known unlisted _ _ named listed =>
        free other (List.mem_cons_of_mem _ known) unlisted named (recordsNone.since.lists listed)

end Attempt

end VolumeGroups
