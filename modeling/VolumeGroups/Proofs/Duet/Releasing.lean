import VolumeGroups.Proofs.Duet.Members
import VolumeGroups.Proofs.Membership.Exclusivity
import VolumeGroups.Proofs.Membership.Protection

/-! When one of two passes lets a claim go that the group of the other lists. -/

namespace VolumeGroups

namespace Duet

/-- The group of a pass lists the claim that is stored under a key. -/
structure Member (seen : Side → Group) (duet : Duet) (side : Side) (group : Group) (key name : String)
    (claim : Claim) : Prop where
  stored : duet.store.find? (seen side).place = some group
  found : duet.store.find? key = some claim
  space : claim.metadata.namespace = group.metadata.namespace
  listed : name ∈ group.members
  named : claim.metadata.name = some name

namespace Played

variable {allowed : UserAction → Prop} {driver : String} {seen : Side → Group} {start : Store}
  {duet : Duet} (played : duet.Played allowed driver seen start) {side : Side} {group : Group}
  {key name : String} {claim : Claim}
include played

section Belonging

variable (belongs : Member seen duet side group key name claim)
include belongs

/-- A claim that a group lists, and that the other pass let go, was not listed by the group at first. -/
theorem unlisted_of_release {later earlier : List Turn} {exchange : Exchange}
    (split : duet.turns = later ++ (side.other, exchange) :: earlier)
    (freed : exchange.marks? key = some false) {first : Group}
    (began : start.find? (seen side).place = some first) : name ∉ first.members := by
  intro listed
  -- The claim was let go by a turn of the other pass.
  obtain ⟨wrote, _, rfl, took⟩ := played.took split
  obtain ⟨place, claims, copy, counted, known, stayed, _, released⟩ := took.wrote freed
  obtain ⟨_, held, groups, latest, looked, _, others⟩ := released rfl
  have inPlace := took.earlier.counted_space counted latest
  obtain ⟨sameName, sameSpace⟩ :=
    played.claim_same took.earlier belongs.found (stayed wrote took.earlier .refl counted)
  obtain ⟨_, _, _, rfl⟩ := took.earlier.counted counted
  have here : copy.metadata.namespace = some place := (Store.mem_list.mp known).2
  -- When the other pass listed the groups, this group listed the claim as it did at first.
  obtain ⟨moment, playing, reached, rfl⟩ := took.earlier.looked (mem_callsOf.mp looked)
  obtain ⟨before, there, lists⟩ := played.lists_before playing
    (reached.trans took.reaches) belongs.stored belongs.listed
  have stems := (playing.sound.holds side).stored there
  have inSpace : before.metadata.namespace = some place :=
    (stems.same ((played.sound.holds side).stored belongs.stored)).2.1.trans
      (belongs.space.symm.trans (sameSpace.trans here))
  have apart := played.names_ne stems ((took.earlier.sound.holds side.other).held latest)
    (inSpace.trans inPlace.symm)
  have unlisted := others before (Store.mem_list.mpr ⟨⟨_, there⟩, inSpace⟩) apart
  have shown : before.lists copy = true := Group.lists_iff.mpr
    ⟨here.trans inSpace.symm, name, lists.resolve_right fun never => never first began listed,
      belongs.named.symm.trans sameName⟩
  -- A claim that another group lists is not let go.
  simp [shown] at unlisted

/-- A claim that a group listed at first had its mark at first. -/
theorem marked_at_first (covered : start.Covered) {before : Group}
    (listed : start.find? (seen side).place = some before) (member : name ∈ before.members)
    {first : Claim} (began : start.find? key = some first) : first.isMarked = true := by
  -- The group and the claim of now are those of the start, up to what may change of them.
  obtain ⟨same, there, continues, _⟩ := (played.sound.holds side).stored belongs.stored
  obtain rfl : before = same := Option.some.inj (listed.symm.trans there)
  obtain ⟨_, guarded, kept, inSpace, called, marked⟩ :=
    covered _ before.name name ⟨_, before, listed, rfl, rfl, member⟩
  obtain ⟨origin, also, sameName, sameSpace, _⟩ := played.sound.claims belongs.found
  obtain rfl : first = origin := Option.some.inj (began.symm.trans also)
  obtain rfl := played.regular.claim_eq began kept
    (sameSpace.symm.trans (belongs.space.trans (continues.namespace.trans inSpace.symm)))
    (sameName.symm.trans (belongs.named.trans called.symm))
  exact marked

/-- A claim that a group lists without its mark never had it, or lost it to the other pass. -/
theorem unmarked_cases (unmarked : claim.isMarked = false) :
    (∃ first : Claim, start.find? key = some first ∧ first.isMarked = false ∧
        ∀ turn ∈ duet.turns, turn.2.marks? key = none) ∨
      ∃ later exchange earlier, duet.turns = later ++ (side.other, exchange) :: earlier ∧
        exchange.marks? key = some false ∧ ∀ turn ∈ later, turn.2.marks? key = none := by
  -- The mark is what the last write has left, or what there was at first.
  obtain ⟨first, began, sameName, _, mark⟩ := played.sound.claims belongs.found
  cases last : lastMark? key duet.turns with
  | none => exact .inl ⟨first, began, by simpa [last, unmarked] using mark.symm,
      lastMark?_eq_none_iff.mp last⟩
  | some marked =>
    obtain rfl : marked = false := by simpa [last, unmarked] using mark.symm
    obtain ⟨later, ⟨one, exchange⟩, earlier, cut, freed, silent⟩ := lastMark?_eq_some_iff.mp last
    -- The group's own pass lets no claim go that the group lists.
    rcases side.eq_or_eq_other one with rfl | rfl
    · exact absurd freed (played.unreleased belongs.stored belongs.listed began
        (sameName.symm.trans belongs.named) (by simp [cut]))
    · exact .inr ⟨later, exchange, earlier, cut, freed, silent⟩

/-- A claim that a pass took and that its group lists without its mark was let go by the other pass
after it had been counted. -/
theorem released_of_joins (unmarked : claim.isMarked = false) {own : Group} {space : String}
    {groups : List Group} {claims : List Claim} {copy : Claim} {middle before : List Turn}
    (joins : Joins duet.turns side own space groups claims copy middle before)
    (goes : Resource.displayName copy = name) : ∃ later exchange earlier,
      duet.turns = later ++ (side.other, exchange) :: earlier ∧
        exchange.marks? key = some false ∧ (side, ⟨.listClaims space, .ok claims⟩) ∈ earlier := by
  obtain ⟨count, playing, rfl, _, rfl, there, called, inSpace⟩ := played.counting joins goes
  obtain ⟨_, split⟩ := joins.counts
  have here : Resource.key copy = key := by
    have same := belongs.space.trans (played.space_of_joins joins belongs.stored)
    rw [← played.sound.regular.claims.placed belongs.found]
    exact Metadata.key_eq (inSpace.trans same.symm) (called.trans belongs.named.symm)
  rw [here] at there
  rcases played.unmarked_cases belongs unmarked with
    ⟨first, began, bare, silent⟩ | ⟨later, exchange, earlier, cut, freed, silent⟩
  · -- Then the pass would have counted the claim without its mark, and marked it.
    have quiet : ∀ turn ∈ count.turns, turn.2.marks? key = none :=
      fun turn known => silent turn (by simp [split, known])
    have unmarkedThen : copy.isMarked = false :=
      (playing.sound.mark_of_silent there began quiet).trans bare
    obtain ⟨_, given, _, made, marks, _⟩ := joins.gave_mark unmarkedThen
    rw [here, silent (side, given) (by simp [made])] at marks
    cases marks
  · refine ⟨later, exchange, earlier, cut, freed, ?_⟩
    have apart {one : Exchange} : (side, one) ≠ (side.other, exchange) := by
      simp [side.other_ne.symm]
    rcases before_or_before split cut apart with ⟨_, _, since⟩ | ⟨between, longer, since⟩
    · simp [since]
    · -- Counted after it had been let go, the claim had no mark, so the pass gave it one.
      have unmarkedThen : copy.isMarked = false := by
        obtain ⟨_, _, _, _, mark⟩ := playing.sound.claims there
        have last : lastMark? key count.turns = some false := lastMark?_eq_some_iff.mpr
          ⟨between, _, earlier, since, freed, fun turn known => silent turn (by simp [longer, known])⟩
        simpa [last] using mark
      obtain ⟨_, given, _, made, marks, counts⟩ := joins.gave_mark unmarkedThen
      -- Nobody wrote the claim after it was let go, so that was before, and the count was too.
      rcases before_or_before made cut apart with ⟨_, _, recent⟩ | ⟨_, late, _⟩
      · simp [recent, counts]
      · rw [here, silent (side, given) (by simp [late])] at marks
        cases marks

/-- A claim that a group lists without its mark was let go by the other pass after the group's own pass
had counted it. -/
theorem released_of_unmarked (covered : start.Covered) (unmarked : claim.isMarked = false) :
    ∃ later exchange earlier space claims,
      duet.turns = later ++ (side.other, exchange) :: earlier ∧
        exchange.marks? key = some false ∧
          (side, ⟨.listClaims space, .ok claims⟩) ∈ earlier := by
  -- The claim was listed at first, or the group's own pass has taken it.
  rcases played.member_cases belongs.stored belongs.listed with
    ⟨before, listed, member⟩ | ⟨own, space, groups, claims, copy, middle, earlier, joins, goes⟩
  · -- Then the claim had its mark, and the other pass saw it on the list and would not have let it go.
    rcases played.unmarked_cases belongs unmarked with
      ⟨first, began, bare, _⟩ | ⟨later, exchange, earlier, cut, freed, _⟩
    · simp [played.marked_at_first belongs covered listed member began] at bare
    · exact absurd member (played.unlisted_of_release belongs cut freed listed)
  · obtain ⟨later, exchange, before, released⟩ :=
      played.released_of_joins belongs unmarked joins goes
    exact ⟨later, exchange, before, space, claims, released⟩

end Belonging

/-- Once the other pass has let a claim go, a pass that counted the claim before does not mark it. -/
theorem not_marks_of_release {last between earlier : List Turn} {exchange written : Exchange}
    {space : String} {claims : List Claim}
    (split : duet.turns = last ++ (side, written) :: (between ++ (side.other, exchange) :: earlier))
    (freed : exchange.marks? key = some false)
    (counted : (side, ⟨.listClaims space, .ok claims⟩) ∈ earlier) :
    written.marks? key ≠ some true := by
  intro marks
  -- The mark would be written by a turn on what was counted.
  obtain ⟨wrote, _, turns, took⟩ := played.took split
  obtain ⟨place, counting, copy, listed, _, stayed, _⟩ := took.wrote marks
  obtain ⟨before, after, rfl, frees⟩ := took.earlier.took turns
  have known : (side, ⟨.listClaims space, .ok claims⟩) ∈ wrote.turns := by simp [turns, counted]
  obtain ⟨rfl, rfl⟩ := took.earlier.counted_same listed known
  -- The claim would be the same right before and right after it was let go.
  have there := stayed before frees.earlier frees.reaches counted
  have still := stayed after frees.later frees.goes (by simp [frees.turns, counted])
  obtain ⟨_, _, _, mark⟩ := frees.effect.claim_before still
  obtain ⟨_, _, released, recounted, _, found, _, freeing⟩ := frees.wrote freed
  obtain rfl : released = copy :=
    Option.some.inj ((found before frees.earlier .refl recounted).symm.trans there)
  -- The write that lets the claim go takes its mark.
  simp [freed, (freeing rfl).1] at mark

/-- A claim that the other pass let go after a pass had counted it has no mark from then on. -/
theorem unmarked_of_release (found : duet.store.find? key = some claim) {later earlier : List Turn}
    {exchange : Exchange} {space : String} {claims : List Claim}
    (split : duet.turns = later ++ (side.other, exchange) :: earlier)
    (freed : exchange.marks? key = some false)
    (counted : (side, ⟨.listClaims space, .ok claims⟩) ∈ earlier) : claim.isMarked = false := by
  obtain ⟨first, began, _, _, mark⟩ := played.sound.claims found
  cases last : lastMark? key duet.turns with
  | none =>
    simp [lastMark?_eq_none_iff.mp last (side.other, exchange) (by simp [split])] at freed
  | some marked =>
    cases marked with
    | false => simpa [last] using mark
    | true =>
      obtain ⟨after, ⟨one, written⟩, before, cut, marks, silent⟩ := lastMark?_eq_some_iff.mp last
      -- The claim was given its mark again after it had been let go.
      have twice : (one, written) ≠ (side.other, exchange) := by
        rintro same
        obtain ⟨rfl, rfl⟩ := Prod.mk.inj same
        simp [freed] at marks
      rcases before_or_before cut split twice with ⟨between, longer, _⟩ | ⟨between, _, rfl⟩
      · simp [silent (side.other, exchange) (by simp [longer])] at freed
      rcases side.eq_or_eq_other one with rfl | rfl
      · exact absurd marks (played.not_marks_of_release cut freed counted)
      · -- The other pass marks no claim any more once it has let one go.
        obtain ⟨_, _, turns, took⟩ := played.took cut
        obtain ⟨_, _, _, _, _, _, unsettled, _⟩ := took.wrote marks
        exact absurd freed ((unsettled rfl).held exchange (mem_callsOf.mpr (by simp [turns])) key)

end Played

end Duet

/-- As long as users at most relabel claims, a claim that a group lists has no mark exactly if the
pass of the other group let the claim go after the group's own pass had counted it. -/
theorem unmarked_iff_released {allowed : UserAction → Prop} {driver : String} {seen : Side → Group}
    {start : Store} {duet : Duet} (relabels : ∀ action, allowed action → action.IsRelabelling)
    (regular : start.Regular) (covered : start.Covered)
    (apart : (seen .left).place ≠ (seen .right).place)
    (run : Duet.Reaches allowed (.opening driver seen start) duet) {side : Side} {group : Group}
    {key name : String} {claim : Claim} (belongs : Duet.Member seen duet side group key name claim) :
    claim.isMarked = false ↔ ∃ later exchange earlier space claims,
      duet.turns = later ++ (side.other, exchange) :: earlier ∧
        exchange.marks? key = some false ∧
          (side, ⟨.listClaims space, .ok claims⟩) ∈ earlier := by
  have played : duet.Played allowed driver seen start := ⟨relabels, apart, regular, run⟩
  constructor
  · -- The claim was marked when its group took it, so somebody let it go, and only passes do.
    exact played.released_of_unmarked belongs covered
  · -- Neither pass marks it again: its own has an older copy of it, the other is past its marks.
    rintro ⟨later, exchange, earlier, space, claims, split, freed, counted⟩
    exact played.unmarked_of_release belongs.found split freed counted

namespace Sample

/-- The first pass takes the claim off its list, the second pass runs as a whole and lists it, and
then the first one lets it go. -/
def letGo : Duet :=
  (Duet.opening "driver" sides contested).play
    (List.replicate 8 (.call .left) ++ List.replicate 10 (.call .right) ++
      List.replicate 2 (.call .left))

/-- The cluster in which the groups compete is in order. -/
theorem regular_contested : contested.Regular := by
  -- The cluster is reached by passes and by users who act properly.
  have upholds := (Conditions.shared_harmless "driver").upholds (fun _ => True)
    (fun ordered _ change => by
      obtain ⟨action, proper, rfl⟩ := change
      exact ⟨(proper.spares ordered).regular, trivial⟩)
    (fun _ _ _ => trivial) (fun _ _ _ => trivial)
  have start : (Conditions.shared "driver").Reaches ⟨⟨disputed, []⟩, none⟩
    ⟨⟨disputed, []⟩, none⟩ := .refl
  obtain ⟨_, run, fits, kept⟩ := Rehearsal.reaches_pass (.shared "driver") { store := disputed }
    group start trivial (.nil _) rfl
  obtain ⟨_, run, _⟩ := Rehearsal.reaches_pass (.shared "driver")
    (Rehearsal.pass { store := disputed } "driver" group) rival run trivial fits kept
  have relabels : (UserAction.relabelClaim "claim" "space" rivalLabels).IsProper := trivial
  exact (relabels.spares (upholds.reaches ⟨regular_disputed, trivial⟩ run).1.1).regular

/-- The one listed claim of that cluster is marked. -/
theorem covered_contested : contested.Covered := by
  -- Few objects are stored, so all of them can be looked at.
  have only : ∀ stored ∈ contested.groups.values, stored.metadata.namespace = some "space" ∧
      ∀ name ∈ stored.members, name = "claim" := by
    decide +kernel
  obtain ⟨claim, found, inSpace, named, marked⟩ :
      ∃ claim ∈ contested.find? (α := Claim) "space/claim",
        claim.metadata.namespace = some "space" ∧ claim.metadata.name = some "claim" ∧
          claim.isMarked = true := by
    decide +kernel
  rintro space group name ⟨key, stored, there, rfl, _, member⟩
  obtain ⟨within, names⟩ := only stored (Table.mem_values.mpr ⟨key, there⟩)
  exact ⟨"space/claim", claim, found, inSpace.trans within.symm, names name member ▸ named, marked⟩

/-- The two passes may go that way with nobody else at work. -/
theorem reaches_letGo :
    Duet.Reaches (fun _ => False) (.opening "driver" sides contested) letGo := by
  refine Duet.reaches_play _ _ fun action known => ?_
  simp at known

/-- In the end the second group lists the claim, which has no mark. -/
theorem member_letGo : ∃ group claim,
    Duet.Member sides letGo .right group "space/claim" "claim" claim ∧ claim.isMarked = false := by
  -- What is stored in the end is computed.
  obtain ⟨group, stored, inSpace, listed⟩ :
      ∃ group ∈ letGo.store.find? (α := Group) (sides .right).place,
        group.metadata.namespace = some "space" ∧ "claim" ∈ group.members := by
    decide +kernel
  obtain ⟨claim, found, space, named, unmarked⟩ :
      ∃ claim ∈ letGo.store.find? (α := Claim) "space/claim",
        claim.metadata.namespace = some "space" ∧ claim.metadata.name = some "claim" ∧
          claim.isMarked = false := by
    decide +kernel
  exact ⟨group, claim, ⟨stored, found, space.trans inSpace.symm, listed, named⟩, unmarked⟩

end Sample

/-- When a pass records its members before it lets a claim go and another pass takes the claim in
between, the other group lists a claim without its mark, which was let go after the other pass had
counted it. -/
theorem released_after_count : ∃ duet : Duet, ∃ group claim,
    Duet.Reaches (fun _ => False) (.opening "driver" Sample.sides Sample.contested) duet ∧
      Duet.Member Sample.sides duet .right group "space/claim" "claim" claim ∧
      ∃ later exchange earlier space claims,
        duet.turns = later ++ (.left, exchange) :: earlier ∧
          exchange.marks? "space/claim" = some false ∧
            (.right, ⟨.listClaims space, .ok claims⟩) ∈ earlier := by
  -- The cues of the sample make up such a run.
  obtain ⟨group, claim, belongs, unmarked⟩ := Sample.member_letGo
  exact ⟨_, group, claim, Sample.reaches_letGo, belongs,
    (unmarked_iff_released (fun _ never => never.elim) Sample.regular_contested
      Sample.covered_contested (by decide) Sample.reaches_letGo belongs).mp unmarked⟩

/-- Two passes whose calls all succeed may end with a group that lists a claim without its mark,
although at first the listed claims were marked and none was listed twice, and nobody else did
anything. -/
theorem listed_without_mark : Sample.contested.Exclusive ∧ Sample.contested.Covered ∧
    Sample.group.metadata.namespace = Sample.rival.metadata.namespace ∧
    (Sample.sides .left).place ≠ (Sample.sides .right).place ∧
    ∃ duet : Duet,
      Duet.Reaches (fun _ => False) (.opening "driver" Sample.sides Sample.contested) duet ∧
        (∀ side, (duet.rest side).isDone = true) ∧
        (∀ turn ∈ duet.turns, turn.2.failure? = none) ∧
        ∃ group claim, Duet.Member Sample.sides duet .right group "space/claim" "claim" claim ∧
          claim.isMarked = false := by
  refine ⟨?_, Sample.covered_contested, rfl, by decide, _, Sample.reaches_letGo, ?_, ?_,
    Sample.member_letGo⟩
  · -- Only one group lists anything.
    have only : ∀ stored ∈ Sample.contested.groups.values,
        stored.members = [] ∨ stored.name = "group" := by
      decide +kernel
    have listing {space : Option String} {group claim : String}
        (lists : Sample.contested.Lists space group claim) : group = "group" := by
      obtain ⟨key, stored, found, _, rfl, member⟩ := lists
      rcases only stored (Table.mem_values.mpr ⟨key, found⟩) with none | named
      · simp [none] at member
      · exact named
    exact fun _ _ _ _ one other => (listing one).trans (listing other).symm
  · -- Both passes are over.
    intro side
    cases side <;> decide +kernel
  · -- No call has failed.
    decide +kernel

end VolumeGroups
