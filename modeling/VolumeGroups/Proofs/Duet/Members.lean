import VolumeGroups.Proofs.Duet.Moments

/-! How a claim comes to be on the list of a group while another pass works on another group, and that
the group's own pass does not let it go. -/

namespace VolumeGroups

namespace Duet

/-- A pass took a claim: it saw the groups, counted the claims, found that the claim may be taken, saw
to its mark, and then recorded it. -/
structure Joins (turns : List Turn) (side : Side) (own : Group) (space : String)
    (groups : List Group) (claims : List Claim) (claim : Claim) (middle earlier : List Turn) :
    Prop where
  recorded : ∃ later status stored, turns = later ++ (side, ⟨.replaceGroupStatus status, .ok stored⟩) ::
    (middle ++ (side, ⟨.listClaims space, .ok claims⟩) :: earlier)
  looked : ∃ first, callsOf side earlier = ⟨.listGroups space, .ok groups⟩ :: first ∧
    latest? first = some own ∧ recorded? first = none
  live : own.isTerminating = false
  inSpace : own.metadata.namespace = some space
  counted : claim ∈ claims
  wants : own.Wants claim
  free : own.lists claim = true ∨ checkExclusive claim groups = .ok ()
  marked : claim.isMarked = true ∨
    ∃ exchange ∈ callsOf side middle, exchange.marks? (Resource.key claim) = some true

/-- A pass counted the claims before it took one. -/
theorem Joins.counts {turns : List Turn} {side : Side} {own : Group} {space : String}
    {groups : List Group} {claims : List Claim} {claim : Claim} {middle earlier : List Turn}
    (joins : Joins turns side own space groups claims claim middle earlier) :
    ∃ later, turns = later ++ (side, ⟨.listClaims space, .ok claims⟩) :: earlier := by
  obtain ⟨later, status, stored, split⟩ := joins.recorded
  exact ⟨later ++ (side, ⟨.replaceGroupStatus status, .ok stored⟩) :: middle, by simp [split]⟩

/-- A pass that took a claim without its mark had given it the mark. -/
theorem Joins.gave_mark {turns : List Turn} {side : Side} {own : Group} {space : String}
    {groups : List Group} {claims : List Claim} {claim : Claim} {middle earlier : List Turn}
    (joins : Joins turns side own space groups claims claim middle earlier)
    (unmarked : claim.isMarked = false) : ∃ later exchange before,
      turns = later ++ (side, exchange) :: before ∧
        exchange.marks? (Resource.key claim) = some true ∧
        (side, ⟨.listClaims space, .ok claims⟩) ∈ before := by
  -- The mark was given by a turn after the count.
  obtain ⟨later, status, stored, split⟩ := joins.recorded
  obtain ⟨exchange, known, marks⟩ := joins.marked.resolve_left (by simp [unmarked])
  obtain ⟨first, second, rfl⟩ := List.append_of_mem (mem_callsOf.mp known)
  exact ⟨later ++ (side, ⟨.replaceGroupStatus status, .ok stored⟩) :: first, exchange,
    second ++ (side, ⟨.listClaims space, .ok claims⟩) :: earlier, by simp [split], marks, by simp⟩

namespace Played

variable {allowed : UserAction → Prop} {driver : String} {seen : Side → Group} {start : Store}
  {duet : Duet} (played : duet.Played allowed driver seen start)
include played

/-- Whatever a group lists it listed from the start, or its pass took it. -/
theorem member_cases {side : Side} {group : Group} {name : String}
    (found : duet.store.find? (seen side).place = some group) (member : name ∈ group.members) :
    (∃ before : Group, start.find? (seen side).place = some before ∧ name ∈ before.members) ∨
      ∃ own space groups claims claim middle earlier,
        Joins duet.turns side own space groups claims claim middle earlier ∧
          Resource.displayName claim = name := by
  -- What the group lists is what its pass recorded, if it has recorded anything.
  obtain ⟨before, began, continues, members⟩ := (played.sound.holds side).stored found
  cases recorded : recorded? (callsOf side duet.turns) with
  | none => exact .inl ⟨before, began, by simpa [members, recorded] using member⟩
  | some names =>
    have known : name ∈ names := by simpa [members, recorded] using member
    obtain ⟨later, exchange, earlier, split, written, _⟩ := List.findSome?_eq_some_iff.mp recorded
    obtain ⟨after, before', turns, _, rfl⟩ := callsOf_eq_append_cons split
    obtain ⟨wrote, _, rfl, took⟩ := played.took turns
    obtain ⟨unsettled, held, latest, recordable⟩ := took.conduct.of_members? written
    rcases recordable with rfl | rfl | ⟨own, space, groups, claims, plan, surveyed, rfl⟩
    · -- Nothing was recorded before, so the members are still those of the start.
      obtain ⟨first, started, _, same⟩ := (took.earlier.sound.holds side).held latest
      exact .inl ⟨first, started, by simpa [same, unsettled.recorded] using known⟩
    · cases known
    · obtain ⟨entry, planned, named⟩ := List.mem_map.mp known
      obtain ⟨listed, wants, _, free⟩ := surveyed.sorts.member entry planned
      obtain ⟨between, first, log, had, marked⟩ := surveyed.asked
      obtain ⟨middle, rest, parts, rfl, looked⟩ := callsOf_eq_append_cons log
      obtain ⟨status, stored, rfl, _⟩ := Exchange.members?_eq_some written
      have fresh : recorded? first = none := by
        have whole := unsettled
        rw [log, List.append_cons, List.append_cons] at whole
        exact whole.earlier.recorded
      -- What the plan recorded is what it surveyed, so the claim was taken.
      exact .inr ⟨own, space, groups, claims, entry.claim, middle, rest,
        ⟨⟨after, status, stored, parts ▸ turns⟩, ⟨first, looked, had, fresh⟩, surveyed.live,
          surveyed.inSpace, mem_sortedByName.mp listed, wants, free, marked entry planned⟩, named⟩

/-- A claim that a pass took was stored when it was counted. -/
theorem counting {side : Side} {own : Group} {space name : String} {groups : List Group}
    {claims : List Claim} {claim : Claim} {middle earlier : List Turn}
    (joins : Joins duet.turns side own space groups claims claim middle earlier)
    (goes : Resource.displayName claim = name) :
    ∃ before : Duet, before.Played allowed driver seen start ∧ before.turns = earlier ∧
      Reaches allowed before duet ∧ claims = before.store.list space ∧
      before.store.find? (Resource.key claim) = some claim ∧
      claim.metadata.name = some name ∧ claim.metadata.namespace = some space := by
  -- The count is a turn, so there was a moment right before it.
  obtain ⟨later, split⟩ := joins.counts
  obtain ⟨before, after, rfl, took⟩ := played.took split
  obtain rfl := Except.ok.inj took.serves.1
  have regular := took.earlier.sound.regular
  have found := regular.claims.found_of_mem_list joins.counted
  exact ⟨before, took.earlier, rfl, took.reaches, rfl, found,
    regular.claim_name found goes, (Store.mem_list.mp joins.counted).2⟩

/-- The group that took a claim was among the groups that its pass listed, and had its first members. -/
theorem looking {side : Side} {own : Group} {space : String} {groups : List Group}
    {claims : List Claim} {claim : Claim} {middle earlier : List Turn}
    (joins : Joins duet.turns side own space groups claims claim middle earlier) :
    ∃ before : Duet, before.Played allowed driver seen start ∧ Reaches allowed before duet ∧
      groups = before.store.list space ∧ own ∈ groups ∧
      before.store.find? (seen side).place = some own ∧
      ∃ first : Group, start.find? (seen side).place = some first ∧ first.Continues own ∧
        own.members = first.members := by
  -- The list of groups was read by a turn as well.
  obtain ⟨later, split⟩ := joins.counts
  obtain ⟨log, looked, latest, unrecorded⟩ := joins.looked
  obtain ⟨between, rest, rfl, _, rfl⟩ := callsOf_eq_append_cons (looked.trans (List.nil_append _).symm)
  rw [List.append_cons, ← List.append_assoc] at split
  obtain ⟨before, after, rfl, took⟩ := played.took split
  obtain rfl := Except.ok.inj took.serves.1
  -- The group is live, so it was stored as the pass had it.
  have found : before.store.find? (seen side).place = some own := by
    rcases (took.earlier.sound.holds side).current latest with found | ⟨_, terminating⟩
    · exact found
    · simp [joins.live] at terminating
  obtain ⟨first, began, continues, members⟩ := (took.earlier.sound.holds side).held latest
  exact ⟨before, took.earlier, took.reaches, rfl,
    Store.mem_list.mpr ⟨⟨_, found⟩, joins.inSpace⟩, found, first, began, continues,
    by simpa [unrecorded] using members⟩

/-- A claim that a pass took is in the namespace of the pass's group. -/
theorem space_of_joins {side : Side} {own group : Group} {space : String} {groups : List Group}
    {claims : List Claim} {claim : Claim} {middle earlier : List Turn}
    (joins : Joins duet.turns side own space groups claims claim middle earlier)
    (stored : duet.store.find? (seen side).place = some group) :
    group.metadata.namespace = some space := by
  -- The group keeps its namespace from one moment to the other.
  obtain ⟨before, playing, _, _, _, found, _⟩ := played.looking joins
  have same := ((playing.sound.holds side).stored found).same ((played.sound.holds side).stored stored)
  exact same.2.1.symm.trans joins.inSpace

/-- What a group lists at some moment it listed at every earlier one, unless it did not list it at the
start. -/
theorem lists_before {before : Duet} (present : before.Played allowed driver seen start)
    (goes : Reaches allowed before duet) {side : Side} {group : Group} {name : String}
    (found : duet.store.find? (seen side).place = some group) (member : name ∈ group.members) :
    ∃ earlier : Group, before.store.find? (seen side).place = some earlier ∧
      (name ∈ earlier.members ∨
        ∀ first : Group, start.find? (seen side).place = some first → name ∉ first.members) := by
  -- The group was there at every earlier moment.
  obtain ⟨earlier, there⟩ := present.group_before goes found
  refine ⟨earlier, there, ?_⟩
  obtain ⟨first, began, _, members⟩ := (present.sound.holds side).stored there
  obtain ⟨same, also, _, now⟩ := (played.sound.holds side).stored found
  obtain rfl : first = same := Option.some.inj (began.symm.trans also)
  cases recorded : recorded? (callsOf side before.turns) with
  -- Nothing was recorded by then, so the group had its first members.
  | none =>
    by_cases known : name ∈ first.members
    · exact .inl (by simpa [members, recorded] using known)
    · refine .inr fun other started => ?_
      obtain rfl : first = other := Option.some.inj (began.symm.trans started)
      exact known
  | some names =>
    -- What was recorded by then is what is recorded still.
    obtain ⟨later, turns⟩ := goes.turns
    have kept := played.sound.kept side
    rw [turns, callsOf_append] at kept
    have stays := Conduct.recorded?_stays kept fun unsettled => by
      simp [unsettled.recorded] at recorded
    rw [turns, callsOf_append, stays, recorded] at now
    exact .inl (by simpa [members, recorded, now] using member)

/-- As long as a group lists a claim, its own pass has not taken the mark off the claim. -/
theorem unreleased {side : Side} {group : Group} {name key : String} {anchor : Claim}
    (found : duet.store.find? (seen side).place = some group) (member : name ∈ group.members)
    (anchored : start.find? key = some anchor) (named : anchor.metadata.name = some name)
    {exchange : Exchange} (known : (side, exchange) ∈ duet.turns) :
    exchange.marks? key ≠ some false := by
  intro freed
  -- The claim was let go by a turn, before which it was as the pass had counted it.
  obtain ⟨later, earlier, split⟩ := List.append_of_mem known
  obtain ⟨wrote, _, rfl, took⟩ := played.took split
  obtain ⟨space, claims, claim, counted, listed, stayed, _, released⟩ := took.wrote freed
  obtain ⟨_, held, groups, latest, _, names, _⟩ := released rfl
  have there := stayed wrote took.earlier .refl counted
  -- Nothing is recorded after a release, so the group has had these members since then.
  have stays : recorded? (callsOf side duet.turns) = recorded? (callsOf side wrote.turns) := by
    have kept := played.sound.kept side
    rw [split, callsOf_append, callsOf_cons_self] at kept ⊢
    rw [Conduct.recorded?_stays kept fun unsettled =>
      unsettled.held exchange (List.mem_cons_self ..) key freed]
    obtain ⟨_, _, rfl, _⟩ := Exchange.marks?_eq_some freed
    rfl
  obtain ⟨before, began, _, members⟩ := (played.sound.holds side).stored found
  obtain ⟨same, also, _, had⟩ := (took.earlier.sound.holds side).held latest
  obtain rfl : before = same := Option.some.inj (began.symm.trans also)
  rw [members, stays, ← had] at member
  -- Of all counted claims only the released one goes by that name.
  obtain ⟨other, present, apart, goes⟩ := names name member
  obtain ⟨_, playing, _, rfl⟩ := took.earlier.counted counted
  obtain ⟨⟨here, stored⟩, inSpace⟩ := Store.mem_list.mp listed
  obtain ⟨⟨place, kept⟩, sameSpace⟩ := Store.mem_list.mp present
  refine apart (playing.sound.regular.claim_eq kept stored (sameSpace.trans inSpace.symm) ?_)
  obtain ⟨first, started, called, _⟩ := took.earlier.sound.claims there
  obtain rfl : anchor = first := Option.some.inj (anchored.symm.trans started)
  exact (playing.sound.regular.claim_name kept goes).trans (called.trans named).symm

end Played

end Duet

end VolumeGroups
