import Mathlib.Data.List.Forall2
import VolumeGroups.Proofs.Operator.Acted
import VolumeGroups.Proofs.Solo.Idling
import VolumeGroups.Proofs.Solo.Outset

/-! A pass that ends well leaves nothing for another one to do. -/

namespace VolumeGroups

/-- The claim of some name in a namespace is stored and bound to a volume, for which the driver has a
name. -/
def Store.Binds (store : Store) (space claimName volumeId : String) : Prop :=
  ∃ (claim : Claim) (volumeName : String) (volume : Volume),
    store.find? (space ++ "/" ++ claimName) = some claim ∧ claim.volumeName? = some volumeName ∧
      store.get volumeName "" = .ok volume ∧ volume.handle? = some volumeId

namespace Store

variable {store : Store} {group : Group} {claim : Claim} {volumeName volumeId : String}

/-- A claim that is settled as a member is bound to a volume, by the driver's name for that. -/
theorem exists_volume_of_settles
    (settled : store.settles claim = .ok (.member volumeName volumeId)) :
    ∃ volume : Volume, claim.volumeName? = some volumeName ∧
      store.get volumeName "" = .ok volume ∧ volume.handle? = some volumeId := by
  unfold settles boundVolume at settled
  -- A claim without a volume is none of the members.
  cases bound : claim.volumeName? with
  | none => simp [bound, Except.map] at settled
  | some name =>
    have told : store.learns (.of (.ask (.getVolume name))) =
        (store.get name "" : Except ClusterError Volume) := rfl
    simp only [bound, learns_bind, learns_within, told] at settled
    -- The volume is read, or the pass would have stopped.
    cases found : (store.get name "" : Except ClusterError Volume) with
    | error cause => simp [found, Except.mapError, Except.bind, Except.map] at settled
    | ok volume =>
      -- The volume was read, and the driver's name for it is what makes the claim a member.
      simp only [found, mapError_ok, Except.bind] at settled
      cases handled : volume.handle? with
      | none => simp [handled, Except.map] at settled
      | some handle =>
        simp only [handled] at settled
        cases Except.ok.inj settled
        exact ⟨volume, rfl, found, handled⟩

/-- What a plan hands to the driver are the volumes of its members, in the order of their names. -/
theorem Intends.forall_binds {space : String} {plan : MembershipPlan}
    (intends : store.Intends group space plan) :
    List.Forall₂ (store.Binds space) plan.claimNames plan.volumeIds := by
  -- It is enough to look at each member by itself.
  rw [MembershipPlan.claimNames, MembershipPlan.volumeIds, List.forall₂_map_left_iff,
    List.forall₂_map_right_iff, List.forall₂_same]
  intro member planned
  have stands := intends.mem_members.mp planned
  have found := intends.found_of_stands stands
  have wants := (gives_of_learns (Attempt.asks_standing group _ member.claim) stands.2).1
  -- Listed or not, what makes a claim a member in the end is what it is bound to.
  have settled : store.settles member.claim = .ok (.member member.volumeName member.volumeId) := by
    have learnt := stands.2
    rw [learns_standing_of_wants wants] at learnt
    split at learnt
    · exact learnt
    · exact settles_of_admits learnt
  obtain ⟨volume, bound, there, handled⟩ := exists_volume_of_settles settled
  -- The claim lies under its own name in the namespace.
  have place : Resource.key member.claim = space ++ "/" ++ Resource.displayName member.claim := by
    have named := intends.tidy.claim_name found rfl
    show member.claim.metadata.namespace.getD "" ++ "/" ++ member.claim.metadata.name.getD "" = _
    rw [stands.1.2, named]
    rfl
  exact ⟨member.claim, member.volumeName, volume, place ▸ found, bound, there, handled⟩

end Store

/-- A group without a namespace is not passed over. -/
theorem Group.ensures_reconcile_of_spaceless {conditions : Conditions} {scene : Scene} {seen : Group}
    (spaceless : seen.metadata.namespace = none) (driver : String) :
    (seen.reconcile driver).Ensures conditions
      (fun result _ => ∃ error, result = .error error ∧ ¬ error.IsRefusal) scene := by
  unfold Group.reconcile
  rw [Group.namespace, spaceless, Attempt.known_error_bind]
  exact .throw ⟨_, rfl, id⟩

/-- After a pass over a live group that succeeds, or whose only trouble is that claims were refused, and
whose listed claims were bound as far as they stay, another pass ends in the same way: it looks, tells of
the same refusals, hands the same volumes to the driver again, which are those of the members that the
group lists by then, and does nothing else. -/
theorem quiet_after_pass {driver : String} {store : Store} {group seen again : Group}
    {middle final : Scene} {result next : Except PassError Action} (tidy : store.Tidy)
    (found : store.find? (Resource.key group) = some group) (live : group.isTerminating = false)
    (managed : store.Manages driver group)
    (shelved : ∀ content : Content, store.find? group.contentKey = some content →
      content.IsShelved group.contentName)
    (bound : ∀ {key : String} {claim : Claim}, store.find? key = some claim →
      group.lists claim = true → group.Wants claim → claim.volumeName?.isSome = true)
    (sights : group.Sights seen) (sightsAgain : group.Sights again)
    (plays : (seen.reconcile driver).run.Plays (.undisturbed driver) result middle ⟨store, []⟩)
    (ended : ∀ error, result = .error error → error.IsRefusal)
    (playsAgain : (again.reconcile driver).run.Plays (.undisturbed driver) next final middle) :
    next = result ∧ final.store = middle.store ∧ ∃ (space : String) (own : Group) (content : Content)
      (handle : String) (volumeIds : List String) (secrets : KeyMap String),
      group.metadata.namespace = some space ∧
        middle.store.find? (Resource.key group) = some own ∧
        middle.store.find? group.contentKey = some content ∧ content.handle? = some handle ∧
        List.Forall₂ (middle.store.Binds space) own.members volumeIds ∧
        membersAt? handle middle.exchanges = some volumeIds ∧
        GrowsByDoings (.modifyMembership handle volumeIds secrets ::
          (refusals middle.exchanges).map .record) middle.exchanges final.exchanges := by
  have solo := Conditions.undisturbed_solo driver
  -- A pass over a group without a namespace ends in another mistake.
  obtain ⟨space, inSpace⟩ : ∃ space, group.metadata.namespace = some space := by
    refine Option.ne_none_iff_exists'.mp fun none => ?_
    obtain ⟨error, rfl, other⟩ := plays.goal
      (Group.ensures_reconcile_of_spaceless (sights.namespace.trans none) driver)
    exact other (ended error rfl)
  -- The first pass brings the group in line, or fails for a reason that is no refusal.
  rcases plays.goal (Group.ensures_outset solo tidy found inSpace live managed shelved sights) with
    ⟨error, rfl, other, _⟩ |
    ⟨venture, _, readies, rfl, own, content, handle, time, calls, concluded⟩
  · exact absurd (ended error rfl) other
  have inLine := concluded.inLine
  -- What the group has to let go or may keep is the same once it is marked.
  have boundThen : ∀ {key : String} {claim : Claim}, venture.start.find? key = some claim →
      venture.group.lists claim = true → venture.group.Wants claim →
        claim.volumeName?.isSome = true := by
    intro key claim there lists wants
    refine bound ((readies.claim key).symm.trans there) ?_
      ((readies.continues.wants (.refl claim)).mp wants)
    rwa [Group.lists, readies.members, readies.continues.namespace] at lists
  have sightsThen : venture.group.Sights again :=
    ⟨sightsAgain.name.trans readies.continues.name.symm,
      sightsAgain.namespace.trans readies.continues.namespace.symm⟩
  -- The second pass finds everything in line and has nothing to write.
  obtain ⟨rfl, same, does⟩ := playsAgain.goal (Attempt.ensures_reconcileAgain solo inLine
    (Conditions.undisturbed_not_letsCallsFail driver) sightsThen boundThen)
  have told : refusals middle.exchanges = venture.plan.notices.reverse := by
    simpa [refusals] using concluded.goes.refusals
  -- What the group lists by now it would take again, and each claim with the volume that it had.
  have binds : List.Forall₂ (middle.store.Binds space) own.members venture.plan.volumeIds := by
    obtain ⟨again, intends⟩ := inLine.exists_intends venture.intends boundThen
    have agrees := inLine.agrees venture.intends boundThen intends
    have room : venture.space = space := by
      refine Option.some.inj (venture.intends.inSpace.symm.trans ?_)
      exact readies.continues.namespace.trans inSpace
    -- The list of the group and the volumes are those of the plan that the second pass makes.
    rw [inLine.members_eq, ← agrees.claimNames, ← agrees.volumeIds, ← room]
    exact intends.forall_binds
  have place : Resource.key venture.group = Resource.key group := readies.continues.metadata.key
  exact ⟨rfl, same, space, own, content, handle, _, venture.secrets, inSpace, place ▸ inLine.found,
    readies.contentKey ▸ inLine.there, inLine.handled, binds, concluded.membersAt, told ▸ does⟩

namespace Sample

/-- The message of claims that were refused. -/
def refusalIn? : Except PassError Action → Option String
  | .error (.claimsRejected message) => some message
  | _ => none

/-- Claims were refused exactly if there is a message of it. -/
theorem eq_of_refusalIn? {result : Except PassError Action} {message : String}
    (refused : refusalIn? result = some message) : result = .error (.claimsRejected message) := by
  unfold refusalIn? at refused
  split at refused
  · rw [Option.some.inj refused]
  · cases refused

/-- The other group, which selects a claim that it may not take. -/
def wanting : Group := (contested.find? "space/rival").getD rival

/-- A pass over the other group. -/
def refused : Rehearsal := Rehearsal.pass { store := contested } "driver" rival

end Sample

/-- A pass over a group that may not take the claim it selects ends with the refusal, and so does the
next pass, which tells of the same refusal, hands the driver's group the same volumes once more, and
writes nothing. -/
theorem quiet_after_refusal : ∃ (middle final : Scene) (message : String),
    (Sample.rival.reconcile "driver").run.Plays (.undisturbed "driver")
        (.error (.claimsRejected message)) middle ⟨Sample.contested, []⟩ ∧
      (Sample.rival.reconcile "driver").run.Plays (.undisturbed "driver")
        (.error (.claimsRejected message)) final middle ∧
      final.store = middle.store ∧ ∃ (own : Group) (handle : String) (volumeIds : List String)
        (secrets : KeyMap String),
        middle.store.find? (Resource.key Sample.wanting) = some own ∧
        List.Forall₂ (middle.store.Binds "space") own.members volumeIds ∧
        membersAt? handle middle.exchanges = some volumeIds ∧
        GrowsByDoings (.modifyMembership handle volumeIds secrets ::
          (refusals middle.exchanges).map .record) middle.exchanges final.exchanges := by
  -- The rehearsal tells with which message the claim is refused.
  obtain ⟨message, told⟩ := Option.isSome_iff_exists.mp
    (by decide +kernel : (Sample.refusalIn? (Rehearsal.verdict { store := Sample.contested } "driver"
      Sample.rival)).isSome = true)
  have refuses := Sample.eq_of_refusalIn? told
  -- Both passes are played one after the other.
  obtain ⟨log, first, told⟩ := Rehearsal.plays_pass (.undisturbed "driver")
    { store := Sample.contested } Sample.rival [] (.nil _) rfl
  have calm : Sample.refused.disturbances = [] := by decide +kernel
  obtain ⟨full, second, _⟩ := Rehearsal.plays_pass (.undisturbed "driver") Sample.refused
    Sample.rival log (calm ▸ .nil _) told
  -- The conditions of the theorem are read off the tables of the store.
  have tidy : Sample.contested.Tidy :=
    .of_entries (by decide +kernel) (by decide +kernel) (by decide +kernel)
  obtain ⟨_, _, _, provides⟩ : Sample.contested.Equips "driver" Sample.wanting :=
    Sample.equips (by decide +kernel) (by decide +kernel)
  have shelved : ∀ content ∈ (Sample.contested.find? Sample.wanting.contentKey : Option Content),
      content.metadata.name = some Sample.wanting.contentName ∧
        content.metadata.isForsaken = false := by
    decide +kernel
  have bound : ∀ entry ∈ Sample.contested.claims.entries, Sample.wanting.lists entry.2 = true →
      entry.2.volumeName?.isSome = true := by
    decide +kernel
  have sights : Sample.wanting.Sights Sample.rival := by
    constructor <;> decide +kernel
  simp only [Conditions.undisturbed, refuses] at first
  obtain ⟨same, kept, space, own, _, handle, volumeIds, secrets, inSpace, found, _, _, binds, members,
    does⟩ :=
    quiet_after_pass tidy (by decide +kernel) (by decide +kernel) provides.manages
      (fun content there => ⟨(shelved content there).1, (shelved content there).2⟩)
      (fun there listed _ => bound _ (Table.mem_of_get? there) listed) sights sights first
      (fun error same => Except.error.inj same ▸ trivial) second
  -- The namespace of the group is known.
  obtain rfl : space = "space" := Option.some.inj (inSpace.symm.trans (by decide +kernel))
  exact ⟨_, _, message, first, same ▸ second, kept, own, handle, volumeIds, secrets, found, binds,
    members, does⟩

end VolumeGroups
