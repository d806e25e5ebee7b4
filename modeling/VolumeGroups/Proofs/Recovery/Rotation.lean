import VolumeGroups.Proofs.Recovery.Tenure

/-! What passes over the groups of a namespace, in whatever order, make of a store: a group that was
passed over lists no claim but those that are its own in the end, and the others list what they listed. -/

namespace VolumeGroups

/-- A group that awaits its pass: it lists what it listed, and has its marks if it is being deleted. -/
structure Group.Awaits (group own : Group) : Prop where
  continues : group.Continues own
  members : own.members = group.members
  finalizers : group.isTerminating = true → own.metadata.finalizers = group.metadata.finalizers

namespace Group.Awaits

/-- A group awaits its pass as it is. -/
theorem refl (group : Group) : group.Awaits group := ⟨.refl group, rfl, fun _ => rfl⟩

variable {group own : Group} (awaits : group.Awaits own)
include awaits

/-- A group that awaits its pass lists what it listed. -/
theorem lists {claim later : Claim} (continues : claim.Continues later) :
    own.lists later = group.lists claim := by
  rw [continues.lists, Group.lists, Group.lists, awaits.members, awaits.continues.namespace]

/-- A group that awaits its pass while it is being deleted is marked if it was. -/
theorem isMarked (terminating : group.isTerminating = true) : own.isMarked = group.isMarked := by
  rw [Group.isMarked, Group.isMarked, Metadata.hasFinalizer, awaits.finalizers terminating]
  rfl

end Group.Awaits

/-- A live group lists no claim but those that are its own in the end, and has lost none that it
held. -/
structure Store.ListsOnlyAwarded (start : Store) (group own : Group) : Prop where
  -- The group is the one that it was, but for marks, state and the name of its content.
  continues : group.Continues own
  ordered : own.members.Pairwise fun left right => left < right
  -- It lists nothing that it should not.
  awarded : ∀ name ∈ own.members, ∃ key, ∃ claim : Claim, start.find? key = some claim ∧
    claim.metadata.namespace = group.metadata.namespace ∧ claim.metadata.name = some name ∧
      start.Awards group claim
  -- It has not lost anything that it should keep.
  held : ∀ {key : String} {claim : Claim}, start.find? key = some claim → group.Holds claim →
    own.lists claim = true

/-- A claim that such a group lists is its own in the end. -/
theorem Store.ListsOnlyAwarded.awards {start : Store} {group own : Group}
    (listsOnly : start.ListsOnlyAwarded group own)
    (tidy : start.Tidy) {key : String} {claim later : Claim} (found : start.find? key = some claim)
    (continues : claim.Continues later) (lists : own.lists later = true) :
    start.Awards group claim := by
  obtain ⟨room, name, recorded, named⟩ := Group.lists_iff.mp lists
  obtain ⟨_, first, foundFirst, near, goes, awards⟩ := listsOnly.awarded name recorded
  -- The claim of that name in the namespace is the one that is listed.
  have itself : first = claim := by
    apply tidy.claim_eq foundFirst found
    · exact near.trans (listsOnly.continues.namespace.symm.trans
        (room.symm.trans continues.namespace))
    · exact goes.trans (named.trans continues.name)
  exact itself ▸ awards

/-- A live group lists exactly the claims that are its own in the end. -/
structure Store.ListsAllAwarded (start : Store) (group own : Group) : Prop extends
    start.ListsOnlyAwarded group own where
  full : ∀ {key : String} {claim : Claim}, start.find? key = some claim →
    start.Awards group claim → own.lists claim = true

/-- Two groups that list exactly the claims that are a group's own list the same. -/
theorem Store.ListsAllAwarded.members_eq {start : Store} {group own other : Group}
    (listsAll : start.ListsAllAwarded group own) (its : start.ListsAllAwarded group other) :
    own.members = other.members := by
  -- A claim on one list is the group's own, so it is on the other.
  have lists {one two : Group} (first : start.ListsAllAwarded group one)
      (second : start.ListsAllAwarded group two)
      {name : String} (known : name ∈ one.members) : name ∈ two.members := by
    obtain ⟨key, claim, found, _, named, awards⟩ := first.awarded name known
    obtain ⟨_, recorded, member, same⟩ := Group.lists_iff.mp (second.full found awards)
    rw [named] at same
    exact Option.some.inj same ▸ member
  -- Both lists are in order, so they are the same.
  exact eq_of_named id listsAll.ordered its.ordered fun name =>
    ⟨lists listsAll its, lists its listsAll⟩

/-- What becomes of a group when it is passed over, where a live group reaches some later form. -/
inductive Group.Fate (reaches : Group → Group → Prop) (group : Group) : Option Group → Prop
  /-- A live group stays. -/
  | live {own : Group} (live : group.isTerminating = false) (reached : reaches group own) :
    Fate reaches group (some own)
  /-- A marked group that is being deleted goes if nothing else holds it. -/
  | gone (terminating : group.isTerminating = true) (marked : group.isMarked = true)
    (free : (group.metadata.finalizers.getD []).filter (· != groupFinalizer) = []) :
    Fate reaches group none
  /-- A marked group that is being deleted and that something else holds loses its mark and its
  members. -/
  | held {own : Group} (terminating : group.isTerminating = true) (marked : group.isMarked = true)
    (held : (group.metadata.finalizers.getD []).filter (· != groupFinalizer) ≠ [])
    (continues : group.Continues own) (unmarked : own.isMarked = false)
    (nothing : own.members = []) : Fate reaches group (some own)
  /-- A group that is being deleted without a mark is left to itself. -/
  | idle {own : Group} (terminating : group.isTerminating = true) (unmarked : group.isMarked = false)
    (awaits : group.Awaits own) : Fate reaches group (some own)

namespace Group.Fate

variable {group : Group} {now : Option Group}

/-- What reaches one form reaches another that it implies. -/
theorem mono {reaches others : Group → Group → Prop} (fate : group.Fate reaches now)
    (weaker : ∀ own, reaches group own → others group own) : group.Fate others now := by
  -- Only the first of the outcomes speaks of a form that is reached.
  cases fate with
  | live live reached => exact .live live (weaker _ reached)
  | gone terminating marked free => exact .gone terminating marked free
  | held terminating marked held continues unmarked nothing =>
    exact .held terminating marked held continues unmarked nothing
  | idle terminating unmarked awaits => exact .idle terminating unmarked awaits

/-- A group that was passed over and is still there is the group that it was. -/
theorem continues {start : Store} {own : Group}
    (fate : group.Fate start.ListsOnlyAwarded (some own)) : group.Continues own := by
  cases fate with
  | live _ reached => exact reached.continues
  | held _ _ _ continues => exact continues
  | idle _ _ awaits => exact awaits.continues

/-- Two outcomes for a group are the same as far as the group is there and lists claims, once a live
group lists exactly its own claims. -/
theorem members_eq {start : Store} {other : Option Group}
    (fate : group.Fate start.ListsAllAwarded now) (its : group.Fate start.ListsAllAwarded other) :
    now.map Group.members = other.map Group.members := by
  -- The group itself tells which of the outcomes it has.
  cases fate with
  | live live reached =>
    cases its with
    | live _ reachedToo => exact congrArg some (reached.members_eq reachedToo)
    | gone terminating | held terminating | idle terminating => simp [live] at terminating
  | gone terminating marked free =>
    cases its with
    | live live => simp [live] at terminating
    | gone => rfl
    | held _ _ held => exact absurd free held
    | idle _ unmarked => simp [marked] at unmarked
  | held terminating marked held _ _ nothing =>
    cases its with
    | live live => simp [live] at terminating
    | gone _ _ free => exact absurd free held
    | held _ _ _ _ _ nothingToo => exact congrArg some (nothing.trans nothingToo.symm)
    | idle _ unmarked => simp [marked] at unmarked
  | idle terminating unmarked awaits =>
    cases its with
    | live live => simp [live] at terminating
    | gone _ marked | held _ marked => simp [unmarked] at marked
    | idle _ _ awaitsToo => exact congrArg some (awaits.members.trans awaitsToo.members.symm)

end Group.Fate

/-- A group with the members of a plan lists a claim that is planned to be one. -/
theorem Store.Intends.lists_of_member {now : Store} {own last : Group} {space : String}
    {plan : MembershipPlan} (intends : now.Intends own space plan)
    (inSpace : last.metadata.namespace = some space) (members : last.members = plan.claimNames)
    {place : String} {claim : Claim} (stored : now.find? place = some claim)
    (room : claim.metadata.namespace = some space)
    (member : ∃ volumeName volumeId,
      now.learns (own.standing (now.list space) claim) = .ok (.member volumeName volumeId)) :
    last.lists claim = true := by
  -- The members of the plan are the claims that stand as members.
  obtain ⟨name, planned, named⟩ := (intends.mem_claimNames stored room).mpr member
  exact Group.lists_iff.mpr ⟨room.trans inSpace.symm, name, members ▸ planned, named⟩

/-- What a store looks like after some passes over groups of a namespace. -/
structure Store.Proceeds (space : String) (start now : Store) : Prop where
  -- Classes and volumes are as they were.
  grounds : now.grounds = start.grounds
  -- Claims are those of the start, with more or fewer marks.
  origin : ∀ {key : String} {claim : Claim}, now.find? key = some claim →
    ∃ first : Claim, start.find? key = some first ∧ first.Continues claim
  -- Only a claim that ends may go.
  stays : ∀ {key : String} {claim : Claim}, start.find? key = some claim →
    claim.metadata.isTerminating = false → ∃ later : Claim, now.find? key = some later
  -- Groups of other namespaces are as they were.
  elsewhere : ∀ key : String, (∀ group : Group, start.find? key = some group →
    group.metadata.namespace ≠ some space) → now.find? key = (start.find? key : Option Group)
  -- Each group of the namespace awaits its pass or has met its fate.
  fates : ∀ {key : String} {group : Group}, start.find? key = some group →
    group.metadata.namespace = some space →
      (∃ own, now.find? key = some own ∧ group.Awaits own) ∨
        group.Fate start.ListsOnlyAwarded (now.find? key)

/-- All groups of a namespace have been passed over, and the live ones have reached some later form. -/
def Store.Meets (start : Store) (reaches : Group → Group → Prop) (space : String) (now : Store) :
    Prop :=
  ∀ {key : String} {group : Group}, start.find? key = some group →
    group.metadata.namespace = some space → group.Fate reaches (now.find? key)

namespace Store.Proceeds

variable {space : String} {start now : Store}

/-- Nothing has been passed over yet. -/
theorem refl (space : String) (store : Store) : store.Proceeds space store where
  grounds := rfl
  origin found := ⟨_, found, .refl _⟩
  stays found _ := ⟨_, found⟩
  elsewhere _ _ := rfl
  fates found _ := .inl ⟨_, found, .refl _⟩

variable (proceeds : start.Proceeds space now)
include proceeds

/-- A group that is still there is the group that it was. -/
theorem continues {key : String} {group own : Group} (found : start.find? key = some group)
    (inSpace : group.metadata.namespace = some space) (there : now.find? key = some own) :
    group.Continues own := by
  -- A group that awaits its pass is unchanged, and one with a fate is continued by it.
  rcases proceeds.fates found inSpace with ⟨other, present, awaits⟩ | fate
  · obtain rfl := Option.some.inj (there.symm.trans present)
    exact awaits.continues
  · rw [there] at fate
    exact fate.continues

/-- A group that is gone has met its fate. -/
theorem gone {reaches : Group → Group → Prop} {key : String} {group : Group}
    (found : start.find? key = some group) (inSpace : group.metadata.namespace = some space)
    (absent : now.find? key = (none : Option Group)) : group.Fate reaches (now.find? key) := by
  -- A group that awaits its pass is there.
  rcases proceeds.fates found inSpace with ⟨own, present, _⟩ | fate
  · rw [absent] at present
    cases present
  · rw [absent] at fate ⊢
    cases fate with
    | gone terminating marked free => exact .gone terminating marked free

/-- Every group of the namespace was there at the start. -/
theorem group_origin {key : String} {own : Group} (found : now.find? key = some own)
    (inSpace : own.metadata.namespace = some space) : ∃ group : Group,
      start.find? key = some group ∧ group.metadata.namespace = some space ∧ group.Continues own := by
  by_cases known : ∃ group : Group, start.find? key = some group ∧
      group.metadata.namespace = some space
  · obtain ⟨group, there, room⟩ := known
    exact ⟨group, there, room, proceeds.continues there room found⟩
  · -- What is under another key is what was there, so it was in the namespace after all.
    have same := proceeds.elsewhere key fun group there room => known ⟨group, there, room⟩
    exact absurd ⟨own, same.symm.trans found, inSpace⟩ known

/-- A live group is still there, and either awaits its pass or has been passed over. -/
theorem live {key : String} {group : Group} (found : start.find? key = some group)
    (inSpace : group.metadata.namespace = some space) (live : group.isTerminating = false) :
    ∃ own, now.find? key = some own ∧ group.Continues own ∧
      (group.Awaits own ∨ start.ListsOnlyAwarded group own) := by
  -- A live group can only have the fate of a live one.
  rcases proceeds.fates found inSpace with ⟨own, there, awaits⟩ | fate
  · exact ⟨own, there, awaits.continues, .inl awaits⟩
  · generalize there : (now.find? key : Option Group) = state at fate
    cases fate with
    | live _ reached => exact ⟨_, rfl, reached.continues, .inr reached⟩
    | gone terminating | held terminating | idle terminating => simp [live] at terminating

/-- A claim that a group holds is listed by it all the time. -/
theorem lists_of_holds {key place : String} {group own : Group} {claim : Claim}
    (found : start.find? key = some group) (there : now.find? key = some own)
    (stored : start.find? place = some claim) (inSpace : group.metadata.namespace = some space)
    (holds : group.Holds claim) : own.lists claim = true := by
  -- Before its pass the group's list is the old one, and no pass lets go what the group holds.
  obtain ⟨other, foundOther, _, awaits | listsOnly⟩ := proceeds.live found inSpace holds.live
  · obtain rfl := Option.some.inj (there.symm.trans foundOther)
    exact (awaits.lists (.refl claim)).trans holds.listed
  · obtain rfl := Option.some.inj (there.symm.trans foundOther)
    exact listsOnly.held stored holds

section Members

variable (tidyStart : start.Tidy) (tidy : now.Tidy) (backs : now.Backs space)
  {key place : String} {group own : Group} {claim later : Claim}
  (found : start.find? key = some group) (there : now.find? key = some own)
  (inSpace : group.metadata.namespace = some space) (live : group.isTerminating = false)
  (stored : start.find? place = some claim) (storedNow : now.find? place = some later)
  (continues : claim.Continues later)
include tidyStart tidy backs found there inSpace live stored storedNow continues

/-- Whoever is planned to be a member is the group's own in the end. -/
theorem awards_of_member (member : ∃ volumeName volumeId,
      now.learns (own.standing (now.list space) later) = .ok (.member volumeName volumeId)) :
    start.Awards group claim := by
  -- The group is still there, as it was or passed over.
  obtain ⟨other, foundOther, same, reached⟩ := proceeds.live found inSpace live
  obtain rfl := Option.some.inj (there.symm.trans foundOther)
  have ownSpace := same.namespace.trans inSpace
  have wanted : own.Wants later := by
    obtain ⟨_, _, learnt⟩ := member
    exact (gives_of_learns (Attempt.asks_standing own _ later) learnt).1
  have room := wanted.namespace.trans ownSpace
  -- What a member needs is a bound claim that the group lists or may take.
  obtain ⟨_, boundNow, joins⟩ :=
    (learns_standing_member_iff fun name bound => backs storedNow room bound).mp member
  have wants : group.Wants claim := (same.wants continues).mp wanted
  have bound : claim.volumeName?.isSome = true := continues.volumeName? ▸ boundNow
  cases listed : own.lists later with
  | true =>
    -- What the group lists by now it held at the start, or it was awarded to it since.
    rcases reached with awaits | listsOnly
    · exact .inl ⟨live, (awaits.lists continues).symm.trans listed, wants, bound⟩
    · exact listsOnly.awards tidyStart stored continues listed
  | false =>
    -- The group takes the claim anew, so nobody else lists or wants it by now.
    obtain ⟨free, guarded⟩ := joins.resolve_left (by simp [listed])
    have ownPlace : Resource.key own = key := tidy.groups.placed there
    obtain ⟨unlisted, alone⟩ := (checkExclusive_iff tidy (ownPlace.symm ▸ there) ownSpace
      (same.isTerminating.trans live) wanted listed).mp free
    -- What is true of the groups by now is carried back to their first forms.
    refine .inr ⟨wants, bound, ?_, ?_, ?_⟩
    · intro site lister foundLister lists
      have near : lister.metadata.namespace = some space :=
        (Group.lists_iff.mp lists).1.symm.trans (wants.namespace.trans inSpace)
      -- Whoever still listed the claim would keep it from joining.
      have gone {left : Group} (left' : now.find? site = some left)
          (stillLists : left.lists later = true) : False := by
        rw [unlisted left'] at stillLists
        cases stillLists
      rcases proceeds.fates foundLister near with ⟨left, foundLeft, awaits⟩ | fate
      · exact (gone foundLeft ((awaits.lists continues).trans lists)).elim
      · generalize foundLeft : (now.find? site : Option Group) = state at fate
        cases fate with
        | @live left alive reached =>
          refine ⟨fun holds => gone foundLeft ?_, by simp [alive]⟩
          exact (continues.lists left).trans (reached.held stored holds)
        | gone terminating marked | held terminating marked =>
          exact ⟨fun holds => by simp [holds.live] at terminating, fun _ => marked⟩
        | idle _ _ awaits => exact (gone foundLeft ((awaits.lists continues).trans lists)).elim
    · -- A rival at the start is a rival by now, so it is the group itself.
      intro site rival foundRival alive wanting
      obtain ⟨_, foundNow, sameRival, _⟩ := proceeds.live foundRival
        (wanting.namespace.symm.trans (wants.namespace.trans inSpace)) alive
      have site' := alone foundNow (sameRival.isTerminating.trans alive)
        ((sameRival.wants continues).mpr wanting)
      exact site'.trans (ownPlace.trans (tidyStart.groups.placed found).symm)
    · exact (guard_of_continues proceeds.grounds continues).symm.trans guarded

omit tidyStart tidy in
/-- A claim that a group holds is planned to be a member. -/
theorem member_of_holds (holds : group.Holds claim) : ∃ volumeName volumeId,
    now.learns (own.standing (now.list space) later) = .ok (.member volumeName volumeId) := by
  -- A claim that is held stays on the list, and a listed claim that is wanted is a member.
  obtain ⟨other, foundOther, same, _⟩ := proceeds.live found inSpace live
  obtain rfl := Option.some.inj (there.symm.trans foundOther)
  have wants := (same.wants continues).mpr holds.wants
  have room := wants.namespace.trans (same.namespace.trans inSpace)
  refine (learns_standing_member_iff fun name bound => backs storedNow room bound).mpr
    ⟨wants, continues.volumeName?.symm ▸ holds.bound, .inl ?_⟩
  exact (continues.lists own).trans (proceeds.lists_of_holds found there stored inSpace holds)

/-- Once all groups were passed over, a claim that is a group's own in the end is planned to be a
member. -/
theorem member_of_awards (visited : start.Meets start.ListsOnlyAwarded space now)
    (awards : start.Awards group claim) : ∃ volumeName volumeId,
    now.learns (own.standing (now.list space) later) = .ok (.member volumeName volumeId) := by
  -- A held claim stays a member; one that is gained has to pass the guards now.
  rcases awards with holds | gains
  · exact proceeds.member_of_holds backs found there inSpace live stored storedNow
      continues holds
  obtain ⟨other, foundOther, same, _⟩ := proceeds.live found inSpace live
  obtain rfl := Option.some.inj (there.symm.trans foundOther)
  have ownSpace := same.namespace.trans inSpace
  have wants := (same.wants continues).mpr gains.wants
  have room := wants.namespace.trans ownSpace
  refine (learns_standing_member_iff fun name bound => backs storedNow room bound).mpr
    ⟨wants, continues.volumeName?.symm ▸ gains.bound, ?_⟩
  cases listed : own.lists later with
  | true => exact .inl rfl
  | false =>
    refine .inr ⟨?_, (guard_of_continues proceeds.grounds continues).trans gains.admitted⟩
    have ownPlace : Resource.key own = key := tidy.groups.placed there
    have firstPlace : Resource.key group = key := tidyStart.groups.placed found
    -- No other live group wants the claim, so whichever lists it by now is the group itself.
    have alone {site : String} {rival : Group} (foundRival : now.find? site = some rival)
        (alive : rival.isTerminating = false) (wanting : rival.Wants later) : site = key := by
      have near := wanting.namespace.symm.trans room
      obtain ⟨first, foundFirst, _, sameFirst⟩ := proceeds.group_origin foundRival near
      exact (gains.alone foundFirst (sameFirst.isTerminating.symm.trans alive)
        ((sameFirst.wants continues).mp wanting)).trans firstPlace
    -- The guard is that no group lists the claim and no other one wants it.
    refine (checkExclusive_iff tidy (ownPlace.symm ▸ there) ownSpace
      (same.isTerminating.trans live) wants listed).mpr ⟨?_, ?_⟩
    · intro site lister foundLister
      cases lists : lister.lists later with
      | false => rfl
      | true =>
        have near := (Group.lists_iff.mp lists).1.symm.trans room
        obtain ⟨first, foundFirst, inSpaceFirst, sameFirst⟩ :=
          proceeds.group_origin foundLister near
        have fate := visited foundFirst inSpaceFirst
        rw [foundLister] at fate
        -- Whoever lists the claim by now has been passed over.
        cases fate with
        | live alive reached =>
          have wanting := (reached.awards tidyStart stored continues lists).wants.1
          obtain rfl := alone foundLister (sameFirst.isTerminating.trans alive)
            ((sameFirst.wants continues).mpr wanting)
          obtain rfl := Option.some.inj (there.symm.trans foundLister)
          exact lists.symm.trans listed
        | held _ _ _ _ _ nothing => simp [Group.lists, nothing] at lists
        | idle terminating unmarked awaits =>
          -- A group without a mark that still lists the claim would never let it go.
          have listedFirst := (awaits.lists continues).symm.trans lists
          have marked := (gains.yields foundFirst listedFirst).2 terminating
          simp [unmarked] at marked
    · -- Whoever wants the claim is the group itself.
      intro site rival foundRival alive wanting
      exact (alone foundRival alive wanting).trans ownPlace.symm

end Members

section Planned

variable (tidyStart : start.Tidy) (backs : now.Backs space) {key : String} {group own last : Group}
  {plan : MembershipPlan} (intends : now.Intends own space plan)
  (found : start.find? key = some group) (there : now.find? key = some own)
  (inSpace : group.metadata.namespace = some space) (live : group.isTerminating = false)
  (same : group.Continues last) (members : last.members = plan.claimNames)
include tidyStart backs intends found there inSpace live same members

/-- A group with the members of a plan lists no claim but those that are its own in the end, among them
all that it held. -/
theorem listsOnlyAwarded_of_planned : start.ListsOnlyAwarded group last where
  continues := same
  -- The plan is sorted by name.
  ordered := by
    have ordered := intends.entries_ordered
    rw [List.pairwise_map] at ordered
    rw [members, MembershipPlan.claimNames, List.pairwise_map]
    exact ordered
  awarded := by
    -- A member of the plan stands as one, so the claim is awarded.
    intro name known
    rw [members] at known
    obtain ⟨member, planned, goes⟩ := List.mem_map.mp known
    obtain ⟨⟨⟨place, storedNow⟩, room⟩, learnt⟩ := intends.mem_members.mp planned
    obtain ⟨claim, stored, continues⟩ := proceeds.origin storedNow
    refine ⟨place, claim, stored, ?_, ?_, ?_⟩
    · exact continues.namespace.symm.trans (room.trans inSpace.symm)
    · exact continues.name.symm.trans (intends.tidy.claim_name storedNow goes)
    · exact proceeds.awards_of_member tidyStart intends.tidy backs found there inSpace live stored
        storedNow continues ⟨_, _, learnt⟩
  held := by
    -- A claim that is held at the start is not gone, and the plan has it.
    intro place claim stored holds
    obtain ⟨later, storedNow⟩ := proceeds.stays stored holds.wants.1
    obtain ⟨first, storedFirst, continues⟩ := proceeds.origin storedNow
    obtain rfl := Option.some.inj (stored.symm.trans storedFirst)
    have room := continues.namespace.trans (holds.wants.namespace.trans inSpace)
    exact (continues.lists last).symm.trans
      (intends.lists_of_member (same.namespace.trans inSpace) members storedNow room
        (proceeds.member_of_holds backs found there inSpace live stored storedNow continues holds))

/-- Once all groups were passed over, a group with the members of a plan lists exactly the claims that are
its own in the end. -/
theorem listsAllAwarded_of_planned (visited : start.Meets start.ListsOnlyAwarded space now) :
    start.ListsAllAwarded group last where
  toListsOnlyAwarded := proceeds.listsOnlyAwarded_of_planned tidyStart backs intends found there
    inSpace live same members
  full := by
    -- An awarded claim is wanted and does not end, so it is still there to be planned.
    intro place claim stored awards
    obtain ⟨wants, _⟩ := awards.wants
    obtain ⟨later, storedNow⟩ := proceeds.stays stored wants.1
    obtain ⟨first, storedFirst, continues⟩ := proceeds.origin storedNow
    obtain rfl := Option.some.inj (stored.symm.trans storedFirst)
    have room := continues.namespace.trans (wants.namespace.trans inSpace)
    exact (continues.lists last).symm.trans
      (intends.lists_of_member (same.namespace.trans inSpace) members storedNow room
        (proceeds.member_of_awards tidyStart intends.tidy backs found there inSpace live stored
          storedNow continues visited awards))

end Planned

omit proceeds in
/-- Two stores list the same claims once all live groups list exactly the claims that are their own. -/
theorem members_eq {other : Store} (proceeds : start.Proceeds space now)
    (proceedsToo : start.Proceeds space other)
    (listsAll : start.Meets start.ListsAllAwarded space now)
    (listsAllToo : start.Meets start.ListsAllAwarded space other) (key : String) :
    (now.find? key : Option Group).map Group.members =
      (other.find? key : Option Group).map Group.members := by
  -- Groups of the namespace have been passed over, in both stores.
  by_cases known : ∃ group : Group, start.find? key = some group ∧
      group.metadata.namespace = some space
  · obtain ⟨group, found, inSpace⟩ := known
    exact (listsAll found inSpace).members_eq (listsAllToo found inSpace)
  · -- Groups of other namespaces are not passed over.
    have strange : ∀ group : Group, start.find? key = some group →
        group.metadata.namespace ≠ some space := fun group found inSpace =>
      known ⟨group, found, inSpace⟩
    rw [proceeds.elsewhere key strange, proceedsToo.elsewhere key strange]

end Store.Proceeds

end VolumeGroups
