import Mathlib.Tactic.Choose
import VolumeGroups.Proofs.Duet.Members
import VolumeGroups.Proofs.Membership.Exclusivity

/-! When two passes over different groups both take a claim that belonged to neither group. -/

namespace VolumeGroups

namespace Duet

variable {allowed : UserAction → Prop} {driver : String} {seen : Side → Group} {start : Store}
  {duet : Duet}

/-- The groups of two passes are in one namespace and both list a claim of some name. -/
structure Shared (seen : Side → Group) (duet : Duet) (group : Side → Group) (name : String) : Prop where
  stored : ∀ side, duet.store.find? (seen side).place = some (group side)
  space : (group .left).metadata.namespace = (group .right).metadata.namespace
  listed : ∀ side, name ∈ (group side).members

/-- A store's group of a pass lists a claim of some name. -/
def ListsFirst (start : Store) (seen : Side → Group) (name : String) (side : Side) : Prop :=
  ∃ first : Group, start.find? (seen side).place = some first ∧ name ∈ first.members

/-- The two groups are in the same namespace, whichever is which. -/
theorem Shared.space_eq {group : Side → Group} {name : String} (shared : Shared seen duet group name)
    (side one : Side) : (group side).metadata.namespace = (group one).metadata.namespace := by
  cases side <;> cases one <;> simp [shared.space]

/-- A group that takes a claim anew seeks it. -/
theorem Joins.seeks {turns : List Turn} {side : Side} {own : Group} {space : String}
    {groups : List Group} {claims : List Claim} {claim : Claim} {middle earlier : List Turn}
    (joins : Joins turns side own space groups claims claim middle earlier)
    (anew : own.lists claim = false) : own.seeks claim = true := by
  simp [Group.seeks, anew, joins.live, joins.wants.2]

namespace Played

variable (played : duet.Played allowed driver seen start) {group : Side → Group} {name : String}
include played

/-- At most one of the two groups listed a claim at the start. -/
theorem not_both_listsFirst (exclusive : start.Exclusive) (shared : Shared seen duet group name)
    (side : Side) (one : ListsFirst start seen name side) :
    ¬ ListsFirst start seen name side.other := by
  rintro ⟨second, began, listed⟩
  obtain ⟨first, started, member⟩ := one
  -- The group keeps its namespace, as it has gone on from the first one.
  have stems (one : Side) {first : Group} (started : start.find? (seen one).place = some first) :
      (group one).metadata.namespace = first.metadata.namespace := by
    obtain ⟨before, also, continues, _⟩ := (played.sound.holds one).stored (shared.stored one)
    obtain rfl : first = before := Option.some.inj (started.symm.trans also)
    exact continues.namespace
  have space : first.metadata.namespace = second.metadata.namespace :=
    (stems side started).symm.trans ((shared.space_eq side side.other).trans (stems _ began))
  -- Groups of one namespace and one name lie under one key.
  have names : first.name = second.name :=
    exclusive _ name _ _ ⟨_, first, started, rfl, rfl, member⟩
      ⟨_, second, began, space.symm, rfl, listed⟩
  exact played.places_ne side (played.regular.group_key began started space.symm names.symm)

/-- The other group was among the groups that a pass listed before it took a claim, and it listed the
claim then if it had listed it from the start. -/
theorem rival (shared : Shared seen duet group name) {side : Side} {own : Group} {space : String}
    {groups : List Group} {claims : List Claim} {claim : Claim} {middle earlier : List Turn}
    (joins : Joins duet.turns side own space groups claims claim middle earlier)
    (goes : Resource.displayName claim = name) :
    ∃ other ∈ groups, (∃ before : Duet, before.Played allowed driver seen start ∧
        before.store.find? (seen side.other).place = some other ∧
        before.store.find? (seen side).place = some own) ∧
      (ListsFirst start seen name side.other → other.lists claim = true) := by
  obtain ⟨_, _, _, _, _, _, named, inSpace⟩ := played.counting joins goes
  -- The pass listed the groups at a moment when the other one was stored.
  obtain ⟨before, playing, reached, rfl, known, found, _⟩ := played.looking joins
  obtain ⟨other, there, lists⟩ :=
    played.lists_before playing reached (shared.stored side.other) (shared.listed side.other)
  -- The other group keeps its namespace, which is that of the claim.
  have otherSpace := ((playing.sound.holds side.other).stored there).same
    ((played.sound.holds side.other).stored (shared.stored side.other)) |>.2.1
  have here : other.metadata.namespace = some space :=
    otherSpace.trans ((shared.space_eq _ _).trans (played.space_of_joins joins (shared.stored side)))
  refine ⟨other, Store.mem_list.mpr ⟨⟨_, there⟩, here⟩, ⟨before, playing, there, found⟩, ?_⟩
  rintro ⟨first, began, member⟩
  -- What the other group listed first it still listed by then.
  refine Group.lists_iff.mpr ⟨inSpace.trans here.symm, name, ?_, named.symm⟩
  exact lists.resolve_right fun never => never first began member

/-- A group that listed a claim when its pass listed the groups had listed it from the start. -/
theorem listsFirst_of_lists {side : Side} {own : Group} {space : String} {groups : List Group}
    {claims : List Claim} {claim : Claim} {middle earlier : List Turn}
    (joins : Joins duet.turns side own space groups claims claim middle earlier)
    (goes : Resource.displayName claim = name) (lists : own.lists claim = true) :
    ListsFirst start seen name side := by
  obtain ⟨_, _, _, _, _, _, named, _⟩ := played.counting joins goes
  obtain ⟨_, _, _, _, _, _, first, began, _, members⟩ := played.looking joins
  -- The claim is the one of that name, and the group had its first members still.
  obtain ⟨_, own, member, same⟩ := Group.lists_iff.mp lists
  obtain rfl := Option.some.inj (same.trans named)
  exact ⟨first, began, members ▸ member⟩

/-- A claim that both groups list was taken by both passes, and listed by neither group at the start. -/
theorem joins_of_shared (exclusive : start.Exclusive) (shared : Shared seen duet group name)
    (side : Side) : ∃ own space groups claims claim middle earlier,
      Joins duet.turns side own space groups claims claim middle earlier ∧
        Resource.displayName claim = name ∧ own.lists claim = false := by
  have unlisted (side : Side) : ¬ ListsFirst start seen name side := by
    intro one
    have apart := played.not_both_listsFirst exclusive shared side one
    -- The other pass would have seen the claim on the list of this group.
    rcases played.member_cases (shared.stored side.other) (shared.listed side.other) with
      listed | ⟨own, space, groups, claims, claim, middle, earlier, joins, goes⟩
    · -- The other group had it first, while this one had it too.
      exact apart listed
    · rcases joins.free with lists | free
      · exact apart (played.listsFirst_of_lists joins goes lists)
      · have anew : own.lists claim = false := Bool.eq_false_iff.mpr fun lists =>
          apart (played.listsFirst_of_lists joins goes lists)
        obtain ⟨_, _, _, _, present, _⟩ := played.looking joins
        obtain ⟨other, known, _, lists⟩ := played.rival shared joins goes
        have listed := lists (side.other_other.symm ▸ one)
        simp [not_lists_of_checkExclusive free present (joins.seeks anew) known] at listed
  -- So both passes must have taken it.
  rcases played.member_cases (shared.stored side) (shared.listed side) with
    listed | ⟨own, space, groups, claims, claim, middle, earlier, joins, goes⟩
  · exact absurd listed (unlisted side)
  · refine ⟨own, space, groups, claims, claim, middle, earlier, joins, goes, ?_⟩
    refine Bool.eq_false_iff.mpr fun lists => ?_
    exact unlisted side (played.listsFirst_of_lists joins goes lists)

/-- The two passes took the claim under different labels. -/
theorem labels_ne (shared : Shared seen duet group name) {side : Side} {own rival : Group}
    {space place : String} {groups known : List Group} {claims counted : List Claim}
    {claim copy : Claim} {middle earlier between before : List Turn}
    (joins : Joins duet.turns side own space groups claims claim middle earlier)
    (goes : Resource.displayName claim = name) (anew : own.lists claim = false)
    (joined : Joins duet.turns side.other rival place known counted copy between before) :
    claim.labels ≠ copy.labels := by
  intro same
  have free := joins.free.resolve_left (by simp [anew])
  obtain ⟨_, _, _, rfl, present, _⟩ := played.looking joins
  obtain ⟨other, seenToo, ⟨moment, playing, there, here⟩, _⟩ := played.rival shared joins goes
  obtain ⟨_, looking, _, _, _, found, _⟩ := played.looking joined
  -- The other group is what it was when its own pass found that it wants the claim.
  obtain ⟨called, spaces, alive, selector⟩ := ((playing.sound.holds side.other).stored there).same
    ((looking.sound.holds side.other).stored found)
  have wanted : other.selects claim = .ok true := by
    have otherSpace : other.metadata.namespace = some space := (Store.mem_list.mp seenToo).2
    have inSpace := joins.wants.namespace.trans (joins.inSpace.trans otherSpace.symm)
    rw [← joined.wants.2]
    simp [Group.selects, inSpace, joined.wants.namespace, called, selector, same]
  have sought : other.seeks claim = true := by
    have unlisted := not_lists_of_checkExclusive free present (joins.seeks anew) seenToo
    simp [Group.seeks, unlisted, alive, joined.live, wanted]
  -- Both groups would have sought the claim, which the check for other takers refuses.
  obtain rfl := eq_of_checkExclusive free present (joins.seeks anew) seenToo sought
  have regular := playing.sound.regular.groups
  exact played.places_ne side ((regular.placed there).symm.trans (regular.placed here))

/-- A claim that both groups come to list and that has no mark was neither marked nor let go before. -/
theorem silent_of_unmarked (shared : Shared seen duet group name) {moment : Duet}
    (playing : moment.Played allowed driver seen start) (reached : Reaches allowed moment duet)
    {key : String} {claim : Claim} (found : moment.store.find? key = some claim)
    (named : claim.metadata.name = some name) (unmarked : claim.isMarked = false) :
    ∀ turn ∈ moment.turns, turn.2.marks? key = none := by
  obtain ⟨first, began, same, _, mark⟩ := playing.sound.claims found
  -- The claim has no mark, so either nobody wrote it or the last write took the mark off.
  cases written : lastMark? key moment.turns with
  | none => exact lastMark?_eq_none_iff.mp written
  | some marked =>
    -- The last write left the claim without its mark, which neither pass does.
    obtain ⟨_, turn, _, cut, marks, _⟩ := lastMark?_eq_some_iff.mp written
    have known : turn ∈ moment.turns := by simp [cut]
    obtain ⟨later, turns⟩ := reached.turns
    have freed : turn.2.marks? key = some false := by
      rw [marks, ← unmarked, mark, written, Option.getD_some]
    exact absurd freed (played.unreleased (shared.stored turn.1) (shared.listed turn.1) began
      (same.symm.trans named) (turns ▸ List.mem_append_right later known))

/-- Of two passes that took one claim, the one that counted it later found it marked. -/
theorem marked_of_later (shared : Shared seen duet group name) {side : Side} {own rival : Group}
    {space place : String} {groups known : List Group} {claims counted : List Claim}
    {claim copy : Claim} {middle earlier between before : List Turn}
    (joins : Joins duet.turns side own space groups claims claim middle earlier)
    (goes : Resource.displayName claim = name) (anew : own.lists claim = false)
    (joined : Joins duet.turns side.other rival place known counted copy between before)
    (went : Resource.displayName copy = name)
    (after : (side.other, ⟨.listClaims place, .ok counted⟩) ∈ earlier) : claim.isMarked = true := by
  by_contra marked
  have unmarked : claim.isMarked = false := Bool.eq_false_iff.mpr marked
  -- Both counts are moments of the run, at which the claim was stored as it was counted.
  obtain ⟨late, playing, rfl, reached, rfl, found, named, inSpace⟩ := played.counting joins goes
  obtain ⟨early, began, rfl, _, rfl, there, called, within⟩ := played.counting joined went
  obtain ⟨_, split⟩ := joins.counts
  obtain ⟨_, parted⟩ := joined.counts
  have key : Resource.key copy = Resource.key claim := by
    have space := (played.space_of_joins joined (shared.stored _)).symm.trans
      ((shared.space_eq _ _).trans (played.space_of_joins joins (shared.stored _)))
    exact Metadata.key_eq (within.trans (space.trans inSpace.symm)) (called.trans named.symm)
  rw [key] at there
  -- Nobody had marked the claim by the later count, nor by the earlier one.
  have silent := played.silent_of_unmarked shared playing reached found named unmarked
  obtain ⟨first, started, _⟩ := playing.sound.claims found
  have unmarkedThen : copy.isMarked = false := by
    have before := played.before_count reached parted rfl after
    rw [began.sound.mark_of_silent there started fun turn known => silent turn (before turn known),
      ← playing.sound.mark_of_silent found started silent]
    exact unmarked
  obtain ⟨_, exchange, _, cut, marks, _⟩ := joined.gave_mark unmarkedThen
  rw [key] at marks
  -- So the other pass marked it after the later count, and had counted it alike.
  obtain ⟨wrote, _, rfl, took⟩ := played.took cut
  rcases before_or_before split cut (by simp [side.other_ne.symm]) with
    ⟨_, _, since⟩ | ⟨_, _, since⟩
  · -- The other pass had counted the claim, so the labels would agree.
    have present := took.counted_alike marks since after joins.counted rfl
    have same := began.sound.regular.claims.found_of_mem_list present
    obtain rfl : copy = claim := Option.some.inj (there.symm.trans same)
    exact played.labels_ne shared joins goes anew joined rfl
  · -- The other pass had marked it before the later count.
    simp [silent (side.other, exchange) (by simp [since])] at marks

end Played

end Duet

/-- When two passes over different groups leave both groups listing a claim, one of them counted the
claim after the other had counted it, found it marked, and found it with other labels. -/
theorem joined_after_relabelling {driver : String} {seen : Side → Group} {start : Store} {duet : Duet}
    {group : Side → Group} {name : String} (regular : start.Regular) (exclusive : start.Exclusive)
    (apart : (seen .left).place ≠ (seen .right).place)
    (run : Duet.Reaches UserAction.IsRelabelling (.opening driver seen start) duet)
    (shared : Duet.Shared seen duet group name) :
    ∃ side later earlier space claims counted,
      duet.turns = later ++ (side, ⟨.listClaims space, .ok claims⟩) :: earlier ∧
        (side.other, ⟨.listClaims space, .ok counted⟩) ∈ earlier ∧
          ∃ claim ∈ claims, ∃ before ∈ counted, claim.metadata.name = some name ∧
            before.metadata.name = some name ∧ claim.isMarked = true ∧
              claim.labels ≠ before.labels := by
  have played : duet.Played UserAction.IsRelabelling driver seen start :=
    ⟨fun _ relabels => relabels, apart, regular, run⟩
  -- Each of the two passes has taken the claim.
  obtain ⟨own, space, groups, claims, claim, middle, earlier, joins, goes, anew⟩ :=
    played.joins_of_shared exclusive shared .left
  obtain ⟨rival, place, known, counted, copy, between, before, joined, went, unlisted⟩ :=
    played.joins_of_shared exclusive shared .right
  obtain rfl : space = place := Option.some.inj <|
    (played.space_of_joins joins (shared.stored _)).symm.trans
      (shared.space.trans (played.space_of_joins joined (shared.stored _)))
  obtain ⟨_, _, _, _, _, _, named, _⟩ := played.counting joins goes
  obtain ⟨_, _, _, _, _, _, called, _⟩ := played.counting joined went
  have labels := played.labels_ne shared joins goes anew joined
  obtain ⟨later, split⟩ := joins.counts
  obtain ⟨last, parted⟩ := joined.counts
  -- One of the two passes counted the claims later than the other.
  rcases before_or_before split parted (by simp) with ⟨_, _, since⟩ | ⟨_, _, since⟩
  · -- The right one counted later.
    have after : (Side.left, ⟨.listClaims space, .ok claims⟩) ∈ before := by simp [since]
    exact ⟨.right, last, before, space, counted, claims, parted, after, copy, joined.counted, claim,
      joins.counted, called, named,
      played.marked_of_later shared joined went unlisted joins goes after, labels.symm⟩
  · -- The left one counted later.
    have after : (Side.right, ⟨.listClaims space, .ok counted⟩) ∈ earlier := by simp [since]
    exact ⟨.left, later, earlier, space, claims, counted, split, after, claim, joins.counted, copy,
      joined.counted, named, called,
      played.marked_of_later shared joins goes anew joined went after, labels⟩

namespace Sample

/-- The first pass marks the claim, a user gives the claim the labels of the other group, the second
pass runs as a whole, and then the first one goes on to its end. -/
def takenTwice : Duet :=
  (Duet.opening "driver" sides disputed).play
    (List.replicate 7 (.call .left) ++ .act (.relabelClaim "claim" "space" rivalLabels) ::
      List.replicate 16 (.call .right) ++ List.replicate 10 (.call .left))

/-- Nothing is listed yet in the cluster with both groups. -/
theorem exclusive_disputed : disputed.Exclusive := by
  have empty : ∀ stored ∈ disputed.groups.values, stored.members = [] := by decide +kernel
  rintro space claim first second ⟨key, stored, found, _, _, member⟩
  rw [empty stored (Table.mem_values.mpr ⟨key, found⟩)] at member
  cases member

/-- The two passes may go that way. -/
theorem reaches_takenTwice :
    Duet.Reaches UserAction.IsRelabelling (.opening "driver" sides disputed) takenTwice := by
  refine Duet.reaches_play _ _ fun action known => ?_
  have relabels : action = .relabelClaim "claim" "space" rivalLabels := by simpa using known
  exact relabels ▸ trivial

/-- In the end both groups list the claim. -/
theorem shared_takenTwice : ∃ group, Duet.Shared sides takenTwice group "claim" := by
  have listing (side : Side) : ∃ stored ∈ takenTwice.store.find? (α := Group) (sides side).place,
      stored.metadata.namespace = some "space" ∧ "claim" ∈ stored.members := by
    cases side <;> decide +kernel
  choose group found space member using listing
  exact ⟨group, found, (space .left).trans (space .right).symm, member⟩

end Sample

/-- When a user relabels a claim after one pass has marked it and before another pass counts it, both
groups come to list it, and the other pass found it marked and relabelled. -/
theorem joined_when_relabelled : ∃ duet : Duet, ∃ group : Side → Group,
    Duet.Reaches UserAction.IsRelabelling (.opening "driver" Sample.sides Sample.disputed) duet ∧
      Duet.Shared Sample.sides duet group "claim" ∧
      ∃ side later earlier space claims counted,
        duet.turns = later ++ (side, ⟨.listClaims space, .ok claims⟩) :: earlier ∧
          (side.other, ⟨.listClaims space, .ok counted⟩) ∈ earlier ∧
            ∃ claim ∈ claims, ∃ before ∈ counted, claim.metadata.name = some "claim" ∧
              before.metadata.name = some "claim" ∧ claim.isMarked = true ∧
                claim.labels ≠ before.labels := by
  -- The cues of the sample make up such a run.
  obtain ⟨group, shared⟩ := Sample.shared_takenTwice
  exact ⟨_, group, Sample.reaches_takenTwice, shared, joined_after_relabelling Sample.regular_disputed
    Sample.exclusive_disputed (by decide) Sample.reaches_takenTwice shared⟩

/-- Two passes whose calls all succeed, but for the look at contents that are not there yet, may end
with both groups listing a claim, although no claim was listed when they began. -/
theorem joined_by_both : Sample.disputed.Exclusive ∧
    Sample.group.metadata.namespace = Sample.rival.metadata.namespace ∧
    (Sample.sides .left).place ≠ (Sample.sides .right).place ∧
    ∃ duet : Duet,
      Duet.Reaches UserAction.IsRelabelling (.opening "driver" Sample.sides Sample.disputed) duet ∧
        (∀ side, (duet.rest side).isDone = true) ∧
        (∀ turn ∈ duet.turns, turn.2.request.method ≠ .getContent → turn.2.failure? = none) ∧
        ∀ side, ∃ stored : Group, duet.store.find? (Sample.sides side).place = some stored ∧
          "claim" ∈ stored.members := by
  obtain ⟨group, shared⟩ := Sample.shared_takenTwice
  refine ⟨Sample.exclusive_disputed, rfl, by decide, _, Sample.reaches_takenTwice, ?_, ?_, ?_⟩
  · -- Both passes are over.
    intro side
    cases side <;> decide +kernel
  · -- No call has failed but the looks at contents.
    decide +kernel
  · exact fun side => ⟨group side, shared.stored side, shared.listed side⟩

end VolumeGroups
