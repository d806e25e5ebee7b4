import Mathlib.Data.List.Nodup
import Mathlib.Data.List.Perm.Subperm
import VolumeGroups.Proofs.Solo.Replanning

/-! Whom a claim belongs to in the end: the group that lists it, if that group keeps it, or else the
only group that wants it. -/

namespace VolumeGroups

/-- A claim may join a live group of a namespace that wants it anew exactly if no group lists it and no
other live group wants it. -/
theorem Store.checkExclusive_iff {store : Store} (tidy : store.Tidy) {space : String} {group : Group}
    (found : store.find? (Resource.key group) = some group)
    (inSpace : group.metadata.namespace = some space) (live : group.isTerminating = false)
    {claim : Claim} (wants : group.Wants claim) (anew : group.lists claim = false) :
    checkExclusive claim (store.list space) = .ok () ↔
      (∀ {key : String} {other : Group}, store.find? key = some other → other.lists claim = false) ∧
      ∀ {key : String} {other : Group}, store.find? key = some other →
        other.isTerminating = false → other.Wants claim → key = Resource.key group := by
  have known : group ∈ store.list space := mem_list.mpr ⟨⟨_, found⟩, inSpace⟩
  have seeks : group.seeks claim = true := Group.seeks_iff.mpr ⟨anew, live, wants.2⟩
  have room : claim.metadata.namespace = some space := wants.namespace.trans inSpace
  -- Seeking and listing are told by the store, one group at a time.
  constructor
  · intro free
    -- A group of another namespace neither lists nor wants a claim of this one.
    have near {key : String} {other : Group} (there : store.find? key = some other)
        (same : claim.metadata.namespace = other.metadata.namespace) : other ∈ store.list space :=
      mem_list.mpr ⟨⟨_, there⟩, same.symm.trans room⟩
    have unlisted {key : String} {other : Group} (there : store.find? key = some other) :
        other.lists claim = false := by
      cases lists : Group.lists other claim with
      | false => rfl
      | true =>
        have present := near there (Group.lists_iff.mp lists).1
        exact lists.symm.trans (not_lists_of_checkExclusive free known seeks present)
    -- Two groups that seek the claim would be two in the list that is checked.
    refine ⟨unlisted, ?_⟩
    intro key other there alive wanted
    have sought : other.seeks claim = true :=
      Group.seeks_iff.mpr ⟨unlisted there, alive, wanted.2⟩
    obtain rfl := eq_of_checkExclusive free known seeks (near there wanted.namespace) sought
    exact (tidy.groups.placed there).symm
  · rintro ⟨unlisted, alone⟩
    -- Nobody lists the claim.
    have nobody : groupsListing claim (store.list space) = [] := by
      have none : ∀ other ∈ store.list space, ¬ Group.lists other claim = true := by
        intro other present lists
        obtain ⟨⟨key, there⟩, _⟩ := mem_list.mp present
        simp [unlisted there] at lists
      simp [groupsListing, List.filter_eq_nil_iff.mpr none]
    -- Whoever would take the claim is the group, and the group occurs only once.
    have only : ((store.list space).filter fun other : Group => other.seeks claim) ⊆ [group] := by
      intro other present
      obtain ⟨present, sought⟩ := List.mem_filter.mp present
      obtain ⟨⟨key, there⟩, _⟩ := mem_list.mp present
      obtain ⟨_, alive, selects⟩ := Group.seeks_iff.mp sought
      rw [alone there alive ⟨wants.1, selects⟩, found] at there
      exact List.mem_singleton.mpr (Option.some.inj there).symm
    -- A group occurs only once in a list of the store.
    have distinct : (store.list space : List Group).Nodup :=
      List.Nodup.of_map Resource.key (tidy.groups.nodup_list space)
    have few : (groupsSeeking claim (store.list space)).length ≤ 1 := by
      rw [groupsSeeking, List.length_map]
      exact (List.subperm_of_subset (distinct.filter _) only).length_le
    simp [checkExclusive, nobody, Nat.not_lt.mpr few]

namespace Store

variable {store : Store} {group : Group} {groups : List Group} {claim : Claim}

/-- A claim that is bound settles as a member if the driver serves its volume. -/
theorem exists_settles_member (backed : ∀ name, claim.volumeName? = some name →
      ∃ volume : Volume, store.get name "" = .ok volume ∧ volume.handle?.isSome = true)
    (bound : claim.volumeName?.isSome = true) :
    ∃ volumeName volumeId, store.settles claim = .ok (.member volumeName volumeId) := by
  obtain ⟨standing, settled⟩ := exists_settles backed
  -- The only way not to settle as a member is to have no volume.
  unfold settles at settled
  unfold settles
  cases learnt : store.learns (boundVolume claim) with
  | error error =>
    rw [learnt] at settled
    cases settled
  | ok found =>
    -- What is found is the volume that the claim is bound to, so there is one.
    have named := gives_of_learns (Attempt.asks_boundVolume claim) learnt
    cases found with
    | none =>
      rw [← named] at bound
      cases bound
    | some pair => exact ⟨pair.1, pair.2, rfl⟩

/-- A group has a claim that it wants and that is bound, if it lists the claim, or if the claim may join
and its class of volumes does not speak against that. -/
theorem learns_standing_member_iff (backed : ∀ name, claim.volumeName? = some name →
      ∃ volume : Volume, store.get name "" = .ok volume ∧ volume.handle?.isSome = true) :
    (∃ volumeName volumeId,
        store.learns (group.standing groups claim) = .ok (.member volumeName volumeId)) ↔
      group.Wants claim ∧ claim.volumeName?.isSome = true ∧ (group.lists claim = true ∨
        checkExclusive claim groups = .ok () ∧
          store.learns (storageClassGuard claim) = .ok none) := by
  -- What is learnt of a member tells how it came to be one, and the other way the steps are
  -- retraced.
  constructor
  · rintro ⟨volumeName, volumeId, learnt⟩
    obtain ⟨wants, bound, free⟩ :=
      gives_of_learns (Attempt.asks_standing group groups claim) learnt
    refine ⟨wants, by rw [bound]; rfl, ?_⟩
    cases listed : group.lists claim with
    | true => exact .inl rfl
    | false =>
      -- A newcomer has passed both guards.
      have exclusive := free.resolve_left (by simp [listed])
      refine .inr ⟨exclusive, ?_⟩
      rw [learns_standing_of_wants wants, listed] at learnt
      simp only [Bool.false_eq_true, if_false, admits, exclusive] at learnt
      cases guarded : store.learns (storageClassGuard claim) with
      | error error => simp [guarded, Except.bind] at learnt
      | ok refusal =>
        cases refusal with
        | some cause => simp [guarded, Except.bind] at learnt
        | none => rfl
  · rintro ⟨wants, bound, free⟩
    -- The volume is served, so the claim settles.
    obtain ⟨volumeName, volumeId, settled⟩ := exists_settles_member backed bound
    refine ⟨volumeName, volumeId, ?_⟩
    rw [learns_standing_of_wants wants]
    -- Whether the claim is listed decides which way it has to go.
    cases listed : group.lists claim with
    | true => exact settled
    | false =>
      obtain ⟨exclusive, guarded⟩ := free.resolve_left (by simp [listed])
      simp only [Bool.false_eq_true, if_false, admits, exclusive, guarded]
      exact settled

end Store

/-- A live group lists a claim that is bound, and has no reason to let it go. -/
structure Group.Holds (group : Group) (claim : Claim) : Prop where
  live : group.isTerminating = false
  listed : group.lists claim = true
  wants : group.Wants claim
  bound : claim.volumeName?.isSome = true

namespace Store

/-- Whoever lists a claim lets it go, sooner or later. -/
def Yields (store : Store) (claim : Claim) : Prop :=
  ∀ {key : String} {lister : Group}, store.find? key = some lister → lister.lists claim = true →
    ¬ lister.Holds claim ∧ (lister.isTerminating = true → lister.isMarked = true)

/-- A group comes by a claim, sooner or later, since no other group wants it. -/
structure Gains (store : Store) (group : Group) (claim : Claim) : Prop where
  wants : group.Wants claim
  bound : claim.volumeName?.isSome = true
  yields : store.Yields claim
  alone : ∀ {key : String} {other : Group}, store.find? key = some other →
    other.isTerminating = false → other.Wants claim → key = Resource.key group
  admitted : store.learns (storageClassGuard claim) = .ok none

/-- A claim is a group's in the end, whichever groups are passed over first. -/
def Awards (store : Store) (group : Group) (claim : Claim) : Prop :=
  group.Holds claim ∨ store.Gains group claim

/-- A claim that is a group's in the end is wanted and bound. -/
theorem Awards.wants {store : Store} {group : Group} {claim : Claim}
    (awards : store.Awards group claim) :
    group.Wants claim ∧ claim.volumeName?.isSome = true := by
  rcases awards with holds | gains
  · exact ⟨holds.wants, holds.bound⟩
  · exact ⟨gains.wants, gains.bound⟩

end Store

end VolumeGroups
