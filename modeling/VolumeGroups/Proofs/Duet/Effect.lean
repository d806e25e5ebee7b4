import VolumeGroups.Proofs.Operator.Conduct
import VolumeGroups.Proofs.Operator.Passes

/-! What a single call of a conducted pass does to groups and claims, whoever else is at work. -/

namespace VolumeGroups

/-- A group goes on from the one that a store had under a key, with the members that a pass recorded. -/
def Group.StemsFrom (group : Group) (start : Store) (place : String) (log : List Exchange) : Prop :=
  ∃ before : Group, start.find? place = some before ∧ before.Continues group ∧
    group.members = (recorded? log).getD before.members

/-- Groups that stem from the same one differ in marks, content and state only. -/
theorem Group.StemsFrom.same {one other : Group} {start : Store} {place : String}
    {before after : List Exchange} (stems : one.StemsFrom start place before)
    (stemmed : other.StemsFrom start place after) :
    one.name = other.name ∧ one.metadata.namespace = other.metadata.namespace ∧
      one.isTerminating = other.isTerminating ∧ one.selector = other.selector := by
  -- Both groups go on from what was stored under the key at first.
  obtain ⟨origin, began, continues, _⟩ := stems
  obtain ⟨same, also, continued, _⟩ := stemmed
  obtain rfl : origin = same := Option.some.inj (began.symm.trans also)
  exact ⟨continues.name.trans continued.name.symm,
    continues.namespace.trans continued.namespace.symm,
    continues.isTerminating.trans continued.isTerminating.symm,
    continues.selector_eq.trans continued.selector_eq.symm⟩

/-- A group under a key, and the group as the pass over that key has it, go on from the same group. -/
structure Holds (start : Store) (place : String) (log : List Exchange) (store : Store) : Prop where
  stored : ∀ {group : Group}, store.find? place = some group → group.StemsFrom start place log
  held : ∀ {group : Group}, latest? log = some group → group.StemsFrom start place log
  /-- The group is stored as the pass has it, or its deletion is complete. -/
  current : ∀ {group : Group}, latest? log = some group → store.find? place = some group ∨
    store.find? (α := Group) place = none ∧ group.isTerminating = true

/-- What a call of a pass over the group under a key does to groups and claims. -/
inductive Effect (place : String) (store : Store) : Exchange → Store → Prop where
  /-- The call writes neither groups nor claims, and what it shows of them is true. -/
  | look {exchange : Exchange} {after : Store} (revision : store.revision ≤ after.revision)
    (groups : after.groups = store.groups) (claims : after.claims = store.claims)
    (reads : ∀ group, exchange.group? = some group → store.find? place = some group)
    (counts : exchange.request.method = .listClaims →
      ∃ space, exchange = ⟨.listClaims space, .ok (store.list space)⟩)
    (members : exchange.members? = none) (marks : ∀ key, exchange.marks? key = none) :
    Effect place store exchange after
  /-- The call overwrites the group. -/
  | group {exchange : Exchange} {held next : Group} (found : store.find? place = some held)
    (continues : held.Continues next)
    (members : next.members = exchange.members?.getD held.members)
    (brings : exchange.group? = some (store.stamped next)) :
    Effect place store exchange (store.overwrite next).2
  /-- The call overwrites a claim as the pass had counted it. -/
  | claim {claim later : Claim} (found : store.find? (Resource.key claim) = some claim)
    (continues : claim.Continues later) :
    Effect place store ⟨.replaceClaim later, .ok (store.stamped later)⟩ (store.overwrite later).2

/-- As long as the group under the key stays, it goes on from the same group. -/
theorem Holds.of_find? {start store after : Store} {place : String} {log : List Exchange}
    (holds : Holds start place log store)
    (same : after.find? place = (store.find? place : Option Group)) :
    Holds start place log after :=
  ⟨fun found => holds.stored (same ▸ found), holds.held,
    fun latest => same ▸ holds.current latest⟩

/-- A call that writes neither groups nor claims and shows none of them has no effect on them. -/
theorem Effect.silent {place : String} {store after : Store} {exchange : Exchange}
    (revision : store.revision ≤ after.revision) (groups : after.groups = store.groups)
    (claims : after.claims = store.claims) (brings : exchange.group? = none)
    (apart : exchange.request.method ≠ .listClaims) (members : exchange.members? = none)
    (marks : ∀ key, exchange.marks? key = none) : Effect place store exchange after :=
  .look revision groups claims (by simp [brings]) (fun counts => absurd counts apart) members marks

/-- What is found under the key of the group that a pass has is that group, found under its place. -/
theorem Holds.found_eq {start store : Store} {place : String} {log : List Exchange}
    {held stored : Group} (holds : Holds start place log store) (ordered : start.Orderly Group)
    (latest : latest? log = some held) (found : store.find? (Resource.key held) = some stored) :
    stored = held ∧ store.find? place = some held := by
  -- The group in hand lies under the key that it had at first.
  obtain ⟨before, there, continues, _⟩ := holds.held latest
  have here : Resource.key held = place := continues.metadata.key.trans (ordered.placed there)
  rw [here] at found
  rcases holds.current latest with current | ⟨gone, _⟩
  · exact ⟨Option.some.inj (found.symm.trans current), current⟩
  · rw [gone] at found
    cases found

/-- A conducted call has such an effect, where the pass has its group and its claims from the store. -/
theorem Effect.of_serves {place : String} {log : List Exchange} {start store after : Store}
    {request : Call} {answer : request.Answer} (ordered : start.Orderly Group)
    (conduct : Conduct place log request) (serves : store.Serves request answer after)
    (holds : Holds start place log store)
    (recalls : ∀ space claims, ⟨.listClaims space, .ok claims⟩ ∈ log → ∀ claim ∈ claims,
      store.Recalls claim) :
    Effect place store ⟨request, answer⟩ after := by
  -- A call that writes is conducted on what the pass has read, and every other call writes neither.
  cases request with
  | replaceGroup later =>
    obtain ⟨held, latest, continues, version⟩ := conduct
    rcases Store.replace_answers serves with ⟨error, rfl, rfl⟩ | ⟨stored, found, _, rfl, rfl⟩
    · -- A write that fails changes nothing.
      exact .silent (Nat.le_refl _) rfl rfl rfl (by simp [Call.method]) rfl fun _ => rfl
    · -- The group that is overwritten is the one in hand.
      have key : Resource.key later = Resource.key held := continues.metadata.key
      obtain ⟨rfl, current⟩ := holds.found_eq ordered latest (key ▸ found)
      exact .group current ⟨continues.metadata, continues.className, continues.selector⟩ rfl rfl
  | replaceGroupStatus later =>
    obtain ⟨_, held, latest, same, _⟩ := conduct
    rcases Store.replaceStatus_answers serves with ⟨error, rfl, rfl⟩ | ⟨stored, found, _, rfl, rfl⟩
    · exact .silent (Nat.le_refl _) rfl rfl rfl (by simp [Call.method]) rfl fun _ => rfl
    · have key : Resource.key later = Resource.key held := by
        rw [same]
        rfl
      obtain ⟨rfl, current⟩ := holds.found_eq ordered latest (key ▸ found)
      exact .group current ⟨rfl, rfl, rfl⟩ rfl rfl
  | replaceClaim later =>
    obtain ⟨space, claims, claim, counted, known, continues, version, _⟩ := conduct
    have key : Resource.key later = Resource.key claim := continues.metadata.key
    rcases (recalls space claims counted claim known).replace key version serves with
      ⟨error, rfl, rfl⟩ | ⟨found, rfl, rfl⟩
    · exact .silent (Nat.le_refl _) rfl rfl rfl (by simp [Call.method]) rfl fun _ => rfl
    · -- The claim has stayed as it was counted, or the write had failed.
      exact .claim found continues
  | getGroup name space =>
    obtain ⟨answered, rfl⟩ := serves
    refine .look (Nat.le_refl _) rfl rfl ?_ (by simp [Call.method]) rfl fun _ => rfl
    intro group shown
    cases answer with
    | error cause => cases shown
    | ok stored =>
      obtain rfl := Option.some.inj shown
      have here : space ++ "/" ++ name = place := conduct
      -- The answer is what is stored.
      exact here ▸ Store.get_eq_ok.mp answered.symm
  | listClaims space =>
    obtain ⟨rfl, rfl⟩ := serves
    exact .look (Nat.le_refl _) rfl rfl (by simp [Exchange.group?]) (fun _ => ⟨space, rfl⟩) rfl
      fun _ => rfl
  | _ =>
    -- The call may change contents, and it may move the clock.
    obtain ⟨revision, tables⟩ := serves.tables trivial
    exact .silent revision (congrArg (·.1) tables) (congrArg (·.2.1) tables) rfl
      (by simp [Call.method]) rfl fun _ => rfl

/-- A call that brings a group neither counts claims nor writes one. -/
theorem Exchange.apart_of_group? {exchange : Exchange} {group : Group}
    (brings : exchange.group? = some group) :
    exchange.request.method ≠ .listClaims ∧ ∀ key, exchange.marks? key = none := by
  obtain ⟨request, answer⟩ := exchange
  cases request <;> first | cases brings | exact ⟨by simp [Call.method], fun _ => rfl⟩

namespace Store

variable {earlier later store : Store}

/-- A store whose groups and claims stay is still in order. -/
theorem Regular.of_tables (regular : earlier.Regular) (revision : earlier.revision ≤ later.revision)
    (groups : later.groups = earlier.groups) (claims : later.claims = earlier.claims) :
    later.Regular where
  groups := regular.groups.of_table revision groups
  claims := regular.claims.of_table revision claims
  groupNamed {key _} found := regular.groupNamed (find?_of_groups groups key ▸ found)
  claimNamed {key _} found := regular.claimNamed (find?_of_claims claims key ▸ found)

/-- A store stays in order when a claim is overwritten by a later form of itself. -/
theorem Regular.overwrite_claim (regular : store.Regular) {key : String} {claim next : Claim}
    (found : store.find? key = some claim) (continues : claim.metadata.Continues next.metadata) :
    (store.overwrite next).2.Regular := by
  -- Only claims are written, so groups are in order as they were.
  obtain ⟨groups, _⟩ := Prod.mk.inj (untouched_by_claims.overwrite store next)
  refine ⟨regular.groups.of_table (by simp) groups, regular.claims.overwrite next, ?_, ?_⟩
  · intro other now reading
    exact regular.groupNamed (find?_of_groups groups other ▸ reading)
  · intro other now reading
    rcases find?_overwrite_eq_some reading with ⟨_, rfl⟩ | ⟨_, kept⟩
    · have name : next.metadata.name = claim.metadata.name := by rw [continues]
      exact name ▸ regular.claimNamed found
    · exact regular.claimNamed kept

end Store

namespace Effect

variable {place : String} {store after : Store} {exchange : Exchange}

/-- A call writes claims only by newer versions. -/
theorem precedes (effect : Effect place store exchange after) : store.Precedes Claim after := by
  cases effect with
  | look revision _ claims => exact .of_table revision claims
  | @group _ _ next =>
    obtain ⟨claims, _⟩ := Prod.mk.inj (Store.untouched_by_groups.overwrite store next)
    exact .of_table (by simp) claims
  | claim => exact Store.precedes_overwrite _ _

/-- A call leaves a store in order. -/
theorem regular (effect : Effect place store exchange after) (ordered : store.Regular) :
    after.Regular := by
  cases effect with
  | look revision groups claims => exact ordered.of_tables revision groups claims
  | group found continues => exact ordered.overwrite_group found continues.metadata
  | claim found continues => exact ordered.overwrite_claim found continues.metadata

/-- A claim that is there after a call was there before, with its mark unless the call wrote it. -/
theorem claim_before (effect : Effect place store exchange after) {key : String} {now : Claim}
    (found : after.find? key = some now) :
    ∃ before : Claim, store.find? key = some before ∧
      before.metadata.Continues now.metadata ∧
      now.isMarked = (exchange.marks? key).getD before.isMarked := by
  -- The effect tells which table the call has written.
  cases effect with
  | look _ _ claims _ _ _ marks =>
    exact ⟨now, Store.find?_of_claims claims key ▸ found, rfl, by simp [marks]⟩
  | @group _ held next there continues members brings =>
    obtain ⟨claims, _⟩ := Prod.mk.inj (Store.untouched_by_groups.overwrite store next)
    refine ⟨now, Store.find?_of_claims claims key ▸ found, rfl, ?_⟩
    simp [(Exchange.apart_of_group? brings).2]
  | @claim claim later there continues =>
    rcases Store.find?_overwrite_eq_some found with ⟨rfl, rfl⟩ | ⟨apart, kept⟩
    -- The claim is the one that was written.
    · have here : Resource.key later = Resource.key claim := continues.metadata.key
      refine ⟨claim, here ▸ there, continues.metadata.trans rfl, ?_⟩
      simp only [Exchange.marks?, if_true, Option.getD_some]
      rfl
    · -- Another claim was written.
      refine ⟨now, kept, rfl, ?_⟩
      simp [Exchange.marks?, Ne.symm apart]

/-- Claims that are counted are those of the store. -/
theorem counted {space : String} {claims : List Claim}
    (effect : Effect place store ⟨.listClaims space, .ok claims⟩ after) :
    claims = store.list space := by
  -- Only a look counts claims.
  cases effect with
  | look _ _ _ _ counts =>
    obtain ⟨_, same⟩ := counts rfl
    cases same
    rfl
  | group _ _ _ brings => cases brings

/-- The group of a pass goes on from where it began after a call of the pass. -/
theorem holds {start : Store} {log : List Exchange} (effect : Effect place store exchange after)
    (ordered : store.Orderly Group) (holds : Holds start place log store) :
    Holds start place (exchange :: log) after := by
  -- A look shows the pass what is stored, and a write gives it what it wrote.
  cases effect with
  | look _ groups _ reads _ members =>
    have same : recorded? (exchange :: log) = recorded? log := by simp [recorded?, members]
    have reading : after.find? place = (store.find? place : Option Group) :=
      Store.find?_of_groups groups place
    have stems {group : Group} (stored : group.StemsFrom start place log) :
        group.StemsFrom start place (exchange :: log) := by
      rwa [Group.StemsFrom, same]
    refine ⟨fun found => stems (holds.stored (reading ▸ found)), fun {group} latest => ?_,
      fun {group} latest => ?_⟩
    · -- What the pass has in hand is what the look has shown, or what it had before.
      cases brings : exchange.group? with
      | none => exact stems (holds.held (by simpa [latest?, brings] using latest))
      | some shown =>
        obtain rfl : shown = group := by simpa [latest?, brings] using latest
        exact stems (holds.stored (reads shown brings))
    · rw [reading]
      cases brings : exchange.group? with
      | none => exact holds.current (by simpa [latest?, brings] using latest)
      | some shown =>
        obtain rfl : shown = group := by simpa [latest?, brings] using latest
        exact .inl (reads shown brings)
  -- The group that was written is the one that the pass has in hand from now on.
  | @group _ held next found continues members brings =>
    have key : Resource.key next = place := continues.metadata.key.trans (ordered.placed found)
    have stems : (store.stamped next).StemsFrom start place (exchange :: log) := by
      obtain ⟨before, there, continued, recorded⟩ := holds.stored found
      have stamped : next.Continues (store.stamped next) := ⟨rfl, rfl, rfl⟩
      refine ⟨before, there, continued.trans (continues.trans stamped), ?_⟩
      rw [show (store.stamped next).members = next.members from rfl, members, recorded]
      cases written : exchange.members? <;> simp [recorded?, written]
    have latest {group : Group} (had : latest? (exchange :: log) = some group) :
        group = store.stamped next := by
      simpa [latest?, brings, eq_comm] using had
    refine ⟨fun {group} reading => ?_, fun had => latest had ▸ stems, fun {group} had => ?_⟩
    · rcases Store.find?_overwrite_eq_some reading with ⟨_, rfl⟩ | ⟨apart, _⟩
      · exact stems
      · exact absurd key.symm apart
    · obtain rfl := latest had
      rw [Store.find?_overwrite, if_pos key.symm]
      split
      · -- Nothing holds the group any more, so the write has removed it.
        rename_i forsaken
        exact .inr ⟨rfl, (Bool.and_eq_true_iff.mp forsaken).1⟩
      · exact .inl rfl
  -- Claims are none of the groups.
  | @claim claim later found continues =>
    obtain ⟨groups, _⟩ := Prod.mk.inj (Store.untouched_by_claims.overwrite store later)
    have reading (key : String) :
        (store.overwrite later).2.find? key = (store.find? key : Option Group) :=
      Store.find?_of_groups groups key
    exact ⟨fun found => holds.stored (reading place ▸ found), holds.held,
      fun latest => reading place ▸ holds.current latest⟩

/-- A group that is there after a call was there before. -/
theorem group_before (effect : Effect place store exchange after) (ordered : store.Orderly Group)
    {key : String} {now : Group} (found : after.find? key = some now) :
    ∃ before : Group, store.find? key = some before := by
  cases effect with
  | look _ groups => exact ⟨now, Store.find?_of_groups groups key ▸ found⟩
  | @group _ held next there continues =>
    -- A group is overwritten under its own key.
    have here : Resource.key next = place := continues.metadata.key.trans (ordered.placed there)
    rcases Store.find?_overwrite_eq_some found with ⟨rfl, _⟩ | ⟨_, kept⟩
    · exact ⟨held, here ▸ there⟩
    · exact ⟨now, kept⟩
  | @claim claim later =>
    obtain ⟨groups, _⟩ := Prod.mk.inj (Store.untouched_by_claims.overwrite store later)
    exact ⟨now, Store.find?_of_groups groups key ▸ found⟩

/-- The group of the other pass stays as it is. -/
theorem holds_apart {start : Store} {log : List Exchange} {other : String}
    (effect : Effect place store exchange after) (ordered : store.Orderly Group)
    (apart : other ≠ place) (holds : Holds start other log store) : Holds start other log after := by
  -- No call of this pass writes the group of the other one.
  have reading : after.find? other = (store.find? other : Option Group) := by
    cases effect with
    | look _ groups => exact Store.find?_of_groups groups other
    | @group _ held next found continues =>
      have key : Resource.key next = place := continues.metadata.key.trans (ordered.placed found)
      rw [Store.find?_overwrite, if_neg (key ▸ apart)]
    | @claim claim later =>
      obtain ⟨groups, _⟩ := Prod.mk.inj (Store.untouched_by_claims.overwrite store later)
      exact Store.find?_of_groups groups other
  exact holds.of_find? reading

end Effect

end VolumeGroups
