import VolumeGroups.Proofs.Operator.Parts
import VolumeGroups.Proofs.Operator.Steps

/-! The pass over a live group: it records only claims that are marked and that no other group has,
and lets only claims go that no group lists. -/

namespace VolumeGroups

/-- What a live group knows after its first stage, which saw all groups at one moment and counted
the claims at a later one. -/
structure Prepared (conditions : Conditions) (group : Group) (space : String)
    (plan : MembershipPlan) (seen counted now : Store) : Prop where
  -- What is known of the group itself.
  live : group.isTerminating = false
  inSpace : group.metadata.namespace = some space
  regular : seen.Regular
  -- The two looks, and what may have happened between them and since.
  recalls : seen.Recalls group
  between : conditions.KeepsMarks seen counted
  sorts : group.Sorts (seen.list space) (sortedByName (counted.list space)) plan
  since : conditions.KeepsMarks counted now
  covered : ∀ claim ∈ plan.claimNames, now.Protects (some space) claim

/-- A group lists the claims of its namespace whose names it records. -/
theorem Group.lists_iff {group : Group} {claim : Claim} :
    group.lists claim = true ↔ claim.metadata.namespace = group.metadata.namespace ∧
      ∃ name ∈ group.members, some name = claim.metadata.name := by
  simp only [lists, Bool.and_eq_true, beq_iff_eq, List.any_eq_true]

/-- A group would take a claim anew that it does not list, as long as it is live and its selector matches
the claim. -/
theorem Group.seeks_iff {group : Group} {claim : Claim} : group.seeks claim = true ↔
    group.lists claim = false ∧ group.isTerminating = false ∧ group.selects claim = .ok true := by
  simp only [seeks, Bool.and_eq_true, Bool.not_eq_true', and_assoc]
  refine and_congr_right fun _ => and_congr_right fun _ => ?_
  cases group.selects claim with
  | error error => simp
  | ok selected => cases selected <;> simp

/-- A claim that one group would take anew is free to join only if no group lists it. -/
theorem not_lists_of_checkExclusive {claim : Claim} {groups : List Group}
    (free : checkExclusive claim groups = .ok ()) {group : Group} (known : group ∈ groups)
    (seeks : group.seeks claim = true) {other : Group} (present : other ∈ groups) :
    other.lists claim = false := by
  cases lists : other.lists claim with
  | false => rfl
  | true =>
    -- Both the groups that list the claim and those that seek it have a name then.
    have existing : other.name ∈ groupsListing claim groups :=
      List.mem_map_of_mem (List.mem_filter.mpr ⟨present, lists⟩)
    have candidate : group.name ∈ groupsSeeking claim groups :=
      List.mem_map_of_mem (List.mem_filter.mpr ⟨known, seeks⟩)
    have occupied : (groupsListing claim groups).isEmpty = false := by
      simpa using List.ne_nil_of_mem existing
    have wanted : (groupsSeeking claim groups).isEmpty = false := by
      simpa using List.ne_nil_of_mem candidate
    simp [checkExclusive, occupied, wanted] at free

/-- Where two groups would take a claim, more than one name stands for them. -/
theorem one_lt_length_groupsSeeking {claim : Claim} {groups : List Group} {one other : Group}
    (known : one ∈ groups) (seeks : one.seeks claim = true) (present : other ∈ groups)
    (sought : other.seeks claim = true) (differ : one ≠ other) :
    1 < (groupsSeeking claim groups).length := by
  -- Both are among the groups that seek the claim, which would be one and the same if there were
  -- but one.
  have first : one ∈ groups.filter fun group => group.seeks claim :=
    List.mem_filter.mpr ⟨known, seeks⟩
  have second : other ∈ groups.filter fun group => group.seeks claim :=
    List.mem_filter.mpr ⟨present, sought⟩
  rw [groupsSeeking, List.length_map]
  cases candidates : groups.filter fun group => group.seeks claim with
  | nil => simp [candidates] at first
  | cons only rest =>
    cases rest with
    | nil =>
      rw [candidates, List.mem_singleton] at first second
      exact absurd (first.trans second.symm) differ
    | cons => simp

/-- Of all groups at most one would take a claim that may be taken. -/
theorem eq_of_checkExclusive {claim : Claim} {groups : List Group}
    (free : checkExclusive claim groups = .ok ()) {one other : Group} (known : one ∈ groups)
    (seeks : one.seeks claim = true) (present : other ∈ groups) (sought : other.seeks claim = true) :
    one = other := by
  -- Were there two of them, the check would have refused the claim.
  refine Classical.byContradiction fun differ => ?_
  have several := one_lt_length_groupsSeeking known seeks present sought differ
  simp only [checkExclusive, several, if_true] at free
  split at free <;> cases free

/-- A group that records a name in a namespace is among the groups of that namespace, and it lists
the claim of that name. -/
theorem Store.Lists.exists_mem {store : Store} {space group name : String} {claim : Claim}
    (listed : store.Lists (some space) group name)
    (inSpace : claim.metadata.namespace = some space) (named : claim.metadata.name = some name) :
    ∃ stored : Group, stored ∈ store.list space ∧ stored.name = group ∧
      stored.lists claim = true := by
  -- The key under which the group is stored plays no part in a listing of the namespace.
  obtain ⟨key, stored, found, sameSpace, goes, member⟩ := listed
  refine ⟨stored, Store.mem_list.mpr ⟨⟨key, found⟩, sameSpace⟩, goes, ?_⟩
  exact Group.lists_iff.mpr ⟨inSpace.trans sameSpace.symm, name, member, named.symm⟩

namespace Prepared

variable {conditions : Conditions} {group : Group} {space : String} {plan : MembershipPlan}
  {seen counted now : Store}

/-- A prepared group stays prepared as long as no mark is lost. -/
theorem later (prepared : Prepared conditions group space plan seen counted now) {after : Store}
    (keepsMarks : conditions.KeepsMarks now after) :
    Prepared conditions group space plan seen counted after :=
  { prepared with
    since := prepared.since.trans keepsMarks
    covered := fun claim planned => keepsMarks.keepsClaimMarks (prepared.covered claim planned) }

/-- A claim that the plan names was counted under its name. -/
theorem claim_of_name (prepared : Prepared conditions group space plan seen counted now)
    {name : String} (planned : name ∈ plan.claimNames) :
    ∃ member ∈ plan.members, member.claim.metadata.name = some name ∧
      member.claim.metadata.namespace = some space ∧
      ∃ place, counted.find? place = some member.claim := by
  obtain ⟨member, inPlan, rfl⟩ := List.mem_map.mp planned
  -- Counted claims have names, so the name that the plan shows is the claim's own.
  obtain ⟨listed, _⟩ := prepared.sorts.member member inPlan
  obtain ⟨⟨place, found⟩, inSpace⟩ := Store.mem_list.mp (mem_sortedByName.mp listed)
  obtain ⟨name, named⟩ := Option.isSome_iff_exists.mp (prepared.between.regular.claimNamed found)
  have goes : Resource.displayName member.claim = name := Metadata.displayName_of_name named
  exact ⟨member, inPlan, goes ▸ named, inSpace, place, found⟩

/-- A claim that was counted and carries a name of the plan is wanted. -/
theorem wants (prepared : Prepared conditions group space plan seen counted now) {claim : Claim}
    {place name : String} (found : counted.find? place = some claim)
    (inSpace : claim.metadata.namespace = some space) (named : claim.metadata.name = some name)
    (planned : name ∈ plan.claimNames) : group.Wants claim := by
  obtain ⟨member, inPlan, memberNamed, memberSpace, other, there⟩ := prepared.claim_of_name planned
  -- A namespace has one claim of that name.
  obtain rfl : member.claim = claim := prepared.between.regular.claim_eq there found
    (memberSpace.trans inSpace.symm) (memberNamed.trans named.symm)
  exact (prepared.sorts.member member inPlan).2.1

/-- If the group was still as it was when all groups were seen, then a planned member was one
already or no group lists it. -/
theorem joins (prepared : Prepared conditions group space plan seen counted now)
    (found : seen.find? (Resource.key group) = some group) {name : String}
    (planned : name ∈ plan.claimNames) :
    name ∈ group.members ∨ ∀ other, ¬ now.Lists (some space) other name := by
  obtain ⟨member, inPlan, named, inSpace, _⟩ := prepared.claim_of_name planned
  obtain ⟨_, ⟨_, selects⟩, _, listed | free⟩ := prepared.sorts.member member inPlan
  · obtain ⟨_, name', isMember, named'⟩ := Group.lists_iff.mp listed
    obtain rfl := Option.some.inj (named'.trans named)
    exact Or.inl isMember
  · -- A claim that the group does not list yet was checked against all groups that were seen.
    by_cases listed : group.lists member.claim = true
    · obtain ⟨_, name', isMember, named'⟩ := Group.lists_iff.mp listed
      obtain rfl := Option.some.inj (named'.trans named)
      exact Or.inl isMember
    · refine Or.inr fun other lists => ?_
      -- Whoever lists the claim now listed it when all groups were seen.
      have before := prepared.between.since.lists (prepared.since.since.lists lists)
      obtain ⟨stored, present, _, holds⟩ := before.exists_mem inSpace named
      have known : group ∈ seen.list space :=
        Store.mem_list.mpr ⟨⟨_, found⟩, prepared.inSpace⟩
      have seeks : group.seeks member.claim = true := by
        simp [Group.seeks, listed, prepared.live, selects]
      simp [not_lists_of_checkExclusive free known seeks present] at holds

end Prepared

/-- Later forms of a group and of a claim stand towards each other as the earlier ones do. -/
theorem Group.Continues.wants {group own : Group} {before claim : Claim}
    (continues : group.Continues own) (claimContinues : before.Continues claim) :
    own.Wants claim ↔ group.Wants before := by
  -- Neither what the claim is asked for nor what the group selects changes along the way.
  have terminating : claim.metadata.isTerminating = before.metadata.isTerminating := by
    rw [claimContinues.metadata]
    rfl
  have inSpace : claim.metadata.namespace = before.metadata.namespace := by
    rw [claimContinues.metadata]
  have labels : claim.labels = before.labels := by
    rw [Claim.labels, Claim.labels, claimContinues.metadata]
  simp only [Wants, selects, terminating, inSpace, labels, continues.namespace,
    continues.selector_eq, continues.name]

/-- What a live group knows after its state is written: its list is that of the plan, and other
groups list no more than they were seen to. -/
structure Enrolled (conditions : Conditions) (group : Group) (space : String)
    (plan : MembershipPlan) (seen counted now : Store) : Prop where
  regular : now.Regular
  claims : counted.Precedes Claim now
  lists : ∀ {name claim : String}, now.Lists (some space) name claim →
    name = group.name ∧ claim ∈ plan.claimNames ∨
      name ≠ group.name ∧ seen.Lists (some space) name claim
  current : conditions.Still → ∀ {own : Group}, now.find? (Resource.key group) = some own →
    group.Continues own ∧ own.members = plan.claimNames
  traced : conditions.Still → ∀ {place : String} {claim : Claim}, now.find? place = some claim →
    ∃ before : Claim, counted.find? place = some before ∧ before.Continues claim

namespace Enrolled

variable {conditions : Conditions} {group : Group} {space : String} {plan : MembershipPlan}
  {seen counted now : Store}

/-- A group stays enrolled while no member is recorded. -/
theorem later (enrolled : Enrolled conditions group space plan seen counted now) {after : Store}
    (recordsNone : conditions.RecordsNoMember now after) :
    Enrolled conditions group space plan seen counted after where
  -- All that is said of a store passes on to one that records nothing anew.
  regular := recordsNone.regular
  claims := enrolled.claims.trans recordsNone.since.claims
  lists listed := enrolled.lists (recordsNone.since.lists listed)
  current still {own} found := by
    obtain ⟨before, foundBefore, continues, members⟩ := (recordsNone.sameUpToMarks still).group found
    obtain ⟨continued, recorded⟩ := enrolled.current still foundBefore
    exact ⟨continued.trans continues, members.trans recorded⟩
  traced still {place claim} found := by
    obtain ⟨before, foundBefore, continues⟩ := (recordsNone.sameUpToMarks still).claim found
    obtain ⟨first, foundFirst, continued⟩ := enrolled.traced still foundBefore
    exact ⟨first, foundFirst, continued.trans continues⟩

/-- A claim that the plan lets go is listed by no group any more, unless another group was seen to
list it. -/
theorem free (enrolled : Enrolled conditions group space plan seen counted now) {before : Store}
    (prepared : Prepared conditions group space plan seen counted before) {later : Group}
    (same : later.name = group.name) {claim : Claim} (departed : claim ∈ plan.departed)
    (unlisted : ((later.others (seen.list space)).any fun other => other.lists claim) = false)
    {other name : String} (named : claim.metadata.name = some name) :
    ¬ now.Lists claim.metadata.namespace other name := by
  -- The claim that departs was counted, so it lies in the namespace.
  obtain ⟨counting, unwanted, _⟩ := prepared.sorts.departed claim departed
  obtain ⟨⟨place, found⟩, inSpace⟩ := Store.mem_list.mp (mem_sortedByName.mp counting)
  have inSpace : claim.metadata.namespace = some space := inSpace
  rw [inSpace]
  intro listed
  -- The group's own list is the plan's, and another group was seen to list the claim.
  rcases enrolled.lists listed with ⟨_, planned⟩ | ⟨apart, seenListed⟩
  · exact unwanted (prepared.wants found inSpace named planned)
  · obtain ⟨stored, present, goes, lists⟩ := seenListed.exists_mem inSpace named
    have another : stored ∈ later.others (seen.list space) := by
      refine List.mem_filter.mpr ⟨present, ?_⟩
      simpa [goes, same] using apart
    have none := List.any_eq_false.mp unlisted stored another
    exact none lists

/-- A claim that the plan lets go is recalled. -/
theorem recalls (enrolled : Enrolled conditions group space plan seen counted now) {before : Store}
    (prepared : Prepared conditions group space plan seen counted before) {claim : Claim}
    (departed : claim ∈ plan.departed) : now.Recalls claim := by
  obtain ⟨counting, _⟩ := prepared.sorts.departed claim departed
  obtain ⟨⟨place, found⟩, _⟩ := Store.mem_list.mp (mem_sortedByName.mp counting)
  exact (prepared.between.regular.claims.recalls found).later enrolled.claims

/-- An enrolled group that refused no claim is settled, as long as nobody else edits anything. -/
theorem settled (enrolled : Enrolled conditions group space plan seen counted now) {before : Store}
    (prepared : Prepared conditions group space plan seen counted before)
    (still : conditions.Still) (accepted : plan.rejected = []) (driver : String) :
    now.Settled driver (Resource.key group) := by
  intro own found _
  -- The group under the key is the one that was enrolled, up to marks.
  obtain ⟨continues, members⟩ := enrolled.current still found
  refine Or.inr ⟨continues.isTerminating.trans prepared.live, ?_⟩
  intro place claim foundClaim sameSpace bound
  -- Later forms of claims stand towards the group as those that were counted.
  obtain ⟨first, foundFirst, claimContinues⟩ := enrolled.traced still foundClaim
  have inSpace : first.metadata.namespace = some space := by
    have moved : claim.metadata.namespace = first.metadata.namespace := by
      rw [claimContinues.metadata]
    rw [← moved, sameSpace, continues.namespace, prepared.inSpace]
  have sameName : claim.metadata.name = first.metadata.name := by rw [claimContinues.metadata]
  rw [continues.wants claimContinues]
  constructor
  · -- What is wanted and bound was planned, since no claim was refused.
    intro wants
    have counting : first ∈ sortedByName (counted.list space) :=
      mem_sortedByName.mpr (Store.mem_list.mpr ⟨⟨place, foundFirst⟩, inSpace⟩)
    have boundFirst : first.volumeName?.isSome = true := by
      simpa only [Claim.volumeName?, claimContinues.spec] using bound
    rcases prepared.sorts.wanted first counting wants boundFirst with
      ⟨member, planned, rfl⟩ | ⟨cause, refused⟩
    · obtain ⟨name, named⟩ :=
        Option.isSome_iff_exists.mp (prepared.between.regular.claimNamed foundFirst)
      have goes : Resource.displayName member.claim = name := Metadata.displayName_of_name named
      refine Group.lists_iff.mpr ⟨sameSpace, name, ?_, (sameName.trans named).symm⟩
      rw [members, ← goes]
      exact List.mem_map_of_mem planned
    · simp [accepted] at refused
  · -- What is listed was planned, and only wanted claims are.
    intro listed
    obtain ⟨_, name, isMember, named⟩ := Group.lists_iff.mp listed
    exact prepared.wants foundFirst inSpace (sameName.symm.trans named.symm) (members ▸ isMember)

end Enrolled

namespace Attempt

variable {conditions : Conditions} {promise : Promise} {key : String} {scene : Scene} {ε : Type}

/-- A plan sorts the claims that the namespace has at some moment of its making. -/
theorem honours_plan {group : Group} {groups : List Group} (harmless : conditions.Harmless)
    (regular : scene.store.Regular) :
    Honours conditions (conditions.Moves key)
      (fun result after => conditions.KeepsMarks scene.store after.store ∧
        Ends (fun plan after => ∃ space, ∃ counted : Store, group.metadata.namespace = some space ∧
          conditions.KeepsMarks scene.store counted ∧ conditions.KeepsMarks counted after.store ∧
          group.Sorts groups (sortedByName (counted.list space)) plan) result after)
      (group.plan groups) scene := by
  -- The namespace is known and the claims are counted; what follows is only about volumes.
  unfold Group.plan
  refine .bind (honours_namespace group) ?_ ?_
  · rintro _ _ ⟨rfl, _⟩
    exact ⟨.refl regular, trivial⟩
  · rintro space _ ⟨rfl, inSpace⟩
    refine .bind (honours_listClaims harmless regular space) ?_ ?_
    · exact fun _ _ reached => ⟨reached.1, trivial⟩
    -- The store at the counting is the one of which the plan speaks.
    · rintro claims counted ⟨calm, rfl⟩
      have reads := (asks_planFor group groups (sortedByName (counted.store.list space))).mono
        (fun _ peeks => peeks.isIdle.isApart.isPlain) fun _ => id
      refine (honours_plain harmless calm.regular reads).mono ?_
      rintro result after ⟨given, keepsMarks⟩
      refine ⟨calm.trans keepsMarks, ?_⟩
      cases result with
      | error error => trivial
      | ok plan => exact ⟨space, counted.store, inSpace, calm, keepsMarks, given⟩

/-- After its first stage a live group knows what it does about claims, and its members are
marked. -/
theorem honours_prepare {group : Group} (harmless : conditions.Harmless)
    (regular : scene.store.Regular) (recalls : scene.store.Recalls group)
    (live : group.isTerminating = false) :
    Honours conditions (conditions.Moves key)
      (Ends fun prepared after => conditions.KeepsMarks scene.store after.store ∧
        ∃ space, ∃ seen counted : Store, prepared.1 = seen.list space ∧
          Prepared conditions group space prepared.2 seen counted after.store)
      group.prepare scene := by
  -- Two looks frame the plan: the groups are seen first, and the claims are counted while it is
  -- made.
  unfold Group.prepare
  refine .then (honours_namespace group) ?_
  rintro space _ ⟨rfl, inSpace⟩
  refine .then (honours_listGroups harmless regular space) ?_
  -- From the look at the groups on the store changes only in ways that record nothing.
  rintro groups seen ⟨looked, rfl⟩
  refine .then (honours_tellingOn harmless (recalls.later looked.since.groups)
    (.retold (honours_plan harmless looked.regular))) ?_
  rintro plan planned ⟨_, own, counted, same, counting, keepsMarks, sorts⟩
  obtain rfl : space = own := Option.some.inj (inSpace.symm.trans same)
  refine .then (honours_plain harmless keepsMarks.regular
    (.forM fun _ _ => .lift ⟨trivial, fun _ => trivial⟩)) ?_
  -- The events of refusals change neither groups nor claims.
  rintro _ noted ⟨_, noting⟩
  -- Members are claims that were counted, and they are bound.
  have member (member : Member) (planned : member ∈ plan.members) :
      (∃ place, counted.find? place = some member.claim) ∧
        member.claim.metadata.namespace = some space ∧ member.claim.volumeName?.isSome = true := by
    obtain ⟨listed, _, bound, _⟩ := sorts.member member planned
    obtain ⟨found, inSpace⟩ := Store.mem_list.mp (mem_sortedByName.mp listed)
    exact ⟨found, inSpace, by simp [bound]⟩
  refine .then (honours_protectMembers harmless counting.regular
    (fun other planned => (member other planned).1) (fun other planned => (member other planned).2.2)
    (keepsMarks.trans noting)) ?_
  rintro _ after ⟨marking, covered⟩
  -- Each moment is tied to the one before it.
  refine .pure ⟨?_, _, seen.store, counted, rfl, live, inSpace, looked.regular, ?_, ?_, sorts, ?_, ?_⟩
  · exact looked.trans (counting.trans (keepsMarks.trans (noting.trans marking)))
  · exact recalls.later looked.since.groups
  · exact counting
  · exact keepsMarks.trans (noting.trans marking)
  -- A planned name is that of a counted claim, which was marked a moment ago.
  · intro claim planned
    obtain ⟨other, inPlan, rfl⟩ := List.mem_map.mp planned
    obtain ⟨⟨place, found⟩, otherSpace, _⟩ := member other inPlan
    obtain ⟨name, named⟩ := Option.isSome_iff_exists.mp (counting.regular.claimNamed found)
    have goes : Resource.displayName other.claim = name := Metadata.displayName_of_name named
    rw [goes, ← otherSpace]
    exact covered other inPlan named

/-- After its second stage a live group is known, and if the stage wrote it then it was still there
as it was. -/
theorem honours_furnish {group : Group} {groupClass : GroupClass} {parameters : ClassParameters}
    {secrets : KeyMap String} {plan : MembershipPlan} (harmless : conditions.Harmless)
    (regular : scene.store.Regular) (knows : conditions.Knows group scene.store)
    (live : group.isTerminating = false) :
    Honours conditions (conditions.Moves key)
      (Ends fun furnished after =>
        conditions.Renews group scene.store furnished.group after.store)
      (group.furnish groupClass parameters secrets plan) scene := by
  -- The group itself is written at most once here, when it learns the name of its content.
  unfold Group.furnish
  refine .then (honours_calm harmless regular knows.recalls (asks_obtainContent ..)) ?_
  rintro ⟨content, created⟩ obtained ⟨_, obtaining⟩
  dsimp -zeta only
  extract_lets contentName
  split
  -- A content without a handle ends the stage.
  case h_2 => exact .throw trivial
  case h_1 handle _ =>
  refine .then (honours_rememberContent contentName harmless obtaining.regular
    (knows.later obtaining.toRecordsNoMember) live) ?_
  intro own remembered remembering
  have renews := remembering.earlier knows.recalls obtaining
  extract_lets rest
  -- Whether the driver is told or not, what follows writes to contents only.
  have furnishes (told : Scene) (telling : conditions.KeepsMarks remembered.store told.store) :
      Honours conditions (conditions.Moves key)
        (Ends fun furnished after =>
          conditions.Renews group scene.store furnished.group after.store) (rest ()) told := by
    refine .then (honours_plain harmless telling.regular (.lift
      (asks_readyStatus content plan.volumeNames trivial))) ?_
    rintro status read ⟨_, reading⟩
    refine .then (honours_plain harmless reading.regular (.within
      (asks_syncStatus _ _ trivial))) ?_
    rintro later written ⟨_, writing⟩
    exact .pure (renews.later (telling.trans (reading.trans writing)))
  split
  -- A failure of the driver is told on the group, which changes no list.
  · refine .then (honours_calm harmless renews.keepsMarks.regular renews.knows.recalls
      (.telling (.within (.only ⟨trivial, fun _ => trivial⟩)) fun _ tells => tells.isCalm)) ?_
    exact fun _ told reached => furnishes told reached.2
  · exact furnishes remembered (.refl renews.keepsMarks.regular)

/-- Writing the state of a live group that is in line with a plan enrols the planned members. -/
theorem honours_syncStatus {group own : Group} {space : String} {plan : MembershipPlan}
    {seen counted : Store} {status : GroupStatus} (harmless : conditions.Harmless)
    (prepared : Prepared conditions group space plan seen counted scene.store)
    (marked : group.isMarked = true) (managed : scene.store.Manages conditions.driver group)
    (renews : conditions.Renews group seen own scene.store)
    (names : status.claimNames = plan.claimNames) :
    Honours conditions (conditions.Moves (Resource.key group))
      (Ends fun later after => later.name = group.name ∧
        Enrolled conditions group space plan seen counted after.store)
      (own.syncStatus status) scene := by
  -- What the second stage made of the group is the same group in a later form.
  have continues := renews.continues
  have place : Resource.key own = Resource.key group := continues.metadata.key
  have name : own.name = group.name := continues.name
  have inSpace : own.metadata.namespace = some space := continues.namespace.trans prepared.inSpace
  unfold Group.syncStatus
  split
  · -- Nothing is written if the state is the group's already, so its list is the plan's.
    rename_i same
    have members : own.members = plan.claimNames := by simp [Group.members, same, names]
    refine .pure ⟨name, prepared.since.regular, prepared.since.since.claims, ?_, ?_, ?_⟩
    · intro other claim listed
      -- The group's own list is the plan's already, and others list what they did.
      by_cases here : other = group.name
      · refine Or.inl ⟨here, members ▸ renews.knows.lists ?_⟩
        rw [inSpace, name, ← here]
        exact listed
      · exact Or.inr ⟨here, prepared.between.since.lists (prepared.since.since.lists listed)⟩
    · intro still stored found
      obtain ⟨later, kept⟩ := renews.knows.current still (place ▸ found)
      exact ⟨continues.trans later, kept.trans members⟩
    · exact fun still => (prepared.since.sameUpToMarks still).claim
  · refine .told (.of (Program.Honours.ask ?_))
    -- Others may have acted once more before the write.
    intro met waits answer after answers
    have calm := harmless.waits prepared.since.regular waits
    have known := renews.later calm
    have ready := prepared.later calm
    rcases answers.replaceGroupStatus harmless known.knows.recalls with
      ⟨error, rfl, unchanged⟩ | ⟨found, rfl, wrote⟩
    · exact ⟨.keep (unchanged ▸ .refl _), trivial⟩
    · -- The group is still there as it was when all groups were seen.
      have seenThere : seen.find? (Resource.key group) = some group := by
        rcases known.origin with rfl | there
        · exact (prepared.recalls.unchanged known.keepsMarks.since.groups found rfl).2
        · exact there
      -- The write is an enlisting: the members carry their marks, and the new ones were free.
      have move : Store.Move conditions.driver (Resource.key group) met.store after.store := by
        rw [wrote]
        refine .enlist (place ▸ found) ?_ (renews.marked.trans marked) ?_ ?_ ?_
        · exact continues.isTerminating.trans prepared.live
        · exact managed.later calm.classes continues
        · rw [names, inSpace]
          exact ready.covered
        · rw [names, inSpace, renews.members]
          exact fun claim planned => ready.joins seenThere planned
      have claims : after.store.claims = met.store.claims := by
        rw [wrote]
        exact (Prod.mk.inj (Store.untouched_by_groups.overwrite _ _)).1
      refine ⟨move, name, move.regular calm.regular, ?_, ?_, ?_, ?_⟩
      · refine ready.since.since.claims.trans (.of_table ?_ claims)
        simp [wrote]
      · intro other claim listed
        rw [wrote] at listed
        -- After the write the group lists the plan, and every other group what it listed before.
        rcases Store.lists_overwrite calm.regular { own with status := some status } found rfl
          listed with ⟨_, here, member⟩ | ⟨apart, before⟩
        · exact Or.inl ⟨here.trans name, names ▸ member⟩
        · refine Or.inr ⟨fun here => apart ⟨inSpace.symm, here.trans name.symm⟩, ?_⟩
          exact ready.between.since.lists (ready.since.since.lists before)
      -- If nobody else writes, the group is what was written.
      · intro still stored there
        rw [wrote, ← place] at there
        rcases Store.find?_overwrite_eq_some there with ⟨_, rfl⟩ | ⟨apart, _⟩
        · exact ⟨continues.trans ⟨rfl, rfl, rfl⟩, names⟩
        · exact absurd rfl apart
      · intro still other claim there
        exact (ready.since.sameUpToMarks still).claim (Store.find?_of_claims claims other ▸ there)

/-- A pass over a live group keeps its promise, and settles the group if it succeeds while nobody
else edits anything. -/
theorem honours_sync {group : Group} {groupClass : GroupClass} {parameters : ClassParameters}
    {secrets : KeyMap String} (harmless : conditions.Harmless) (regular : scene.store.Regular)
    (knows : conditions.Knows group scene.store) (live : group.isTerminating = false)
    (marked : group.isMarked = true) (managed : scene.store.Manages conditions.driver group) :
    Honours conditions (conditions.Moves (Resource.key group))
      (Ends fun _ after => conditions.Still →
        after.store.Settled conditions.driver (Resource.key group))
      (group.sync groupClass parameters secrets) scene := by
  rw [Group.sync_eq]
  -- The first stage gives the two looks at the store and the plan.
  refine .then (honours_prepare harmless regular knows.recalls live) ?_
  rintro ⟨groups, plan⟩ ready ⟨looking, space, seen, counted, rfl, prepared⟩
  have sinceCounting := prepared.since
  refine .then (honours_furnish harmless looking.regular
    (knows.later looking.toRecordsNoMember) live) ?_
  intro furnished done renewing
  have prepared := prepared.later renewing.keepsMarks
  -- The group was not written since all groups were seen, except while it was still as it was.
  have renews := renewing.earlier prepared.recalls (prepared.between.trans sinceCounting)
  have manages := managed.later (looking.trans renewing.keepsMarks).classes (.refl group)
  refine .then (honours_syncStatus harmless prepared marked manages renews rfl) ?_
  rintro later written ⟨name, enrolled⟩
  -- A claim that departs is free by now, unless another group was seen to list it.
  refine .then (honours_releaseClaims harmless enrolled.regular
    (fun claim departed => enrolled.recalls prepared departed)
    (fun claim departed unlisted _ _ named =>
      enrolled.free prepared name departed unlisted named)) ?_
  intro _ released releasing
  -- Events change nothing, and a success means that no claim was refused.
  refine (honours_plain harmless releasing.regular ((asks_announce furnished plan later).mono
    (fun _ idle => idle.isApart.isPlain) fun _ => id)).mono ?_
  rintro result after ⟨given, announcing⟩
  cases result with
  | error error => trivial
  | ok action =>
    intro still
    exact ((enrolled.later releasing).later announcing.toRecordsNoMember).settled prepared
      still given _

end Attempt

end VolumeGroups
