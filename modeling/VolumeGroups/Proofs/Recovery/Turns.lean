import VolumeGroups.Proofs.Recovery.Rotation
import VolumeGroups.Proofs.Solo.Ending
import VolumeGroups.Proofs.Solo.Outset

/-! One pass over a group of a namespace all of whose groups are in order: it settles that group, leaves
the others as they are, and all of them in order. -/

namespace VolumeGroups

/-- A group that passes still care for: it is live or marked. -/
def Group.IsActive (group : Group) : Prop := group.isTerminating = false ∨ group.isMarked = true

/-- Every group of a namespace has a class of the driver, and those that passes still care for have all
that a pass needs, and contents of their own. -/
structure Store.Governs (store : Store) (driver space : String) : Prop where
  tidy : store.Tidy
  -- Every group has a class that the pass can read.
  equips : ∀ {key : String} {group : Group}, store.find? key = some group →
    group.metadata.namespace = some space → store.Equips driver group
  -- Groups that passes care for have what a plan needs, or what a deletion needs.
  suits : ∀ {key : String} {group : Group}, store.find? key = some group →
    group.metadata.namespace = some space → group.IsActive → store.Suits driver group space
  shelved : ∀ {key : String} {group : Group}, store.find? key = some group →
    group.metadata.namespace = some space → group.IsActive →
      ∀ content : Content, store.find? group.contentKey = some content →
        content.IsShelved group.contentName
  -- No two of them go by one content.
  apart : ∀ {one other : String} {first second : Group}, store.find? one = some first →
    store.find? other = some second → first.metadata.namespace = some space →
      second.metadata.namespace = some space → first.IsActive → second.IsActive →
        first.contentKey = second.contentKey → one = other

namespace Store

variable {driver space : String}

/-- A namespace stays in order if nothing differs but one group with its content, and that group is in
order as long as passes care for it. -/
theorem Governs.turn {before after : Store} (governs : before.Governs driver space) {key : String}
    {group : Group} (found : before.find? key = some group)
    (inSpace : group.metadata.namespace = some space) (active : group.IsActive)
    (beside : before.Beside key group.contentKey after)
    (own : ∀ {own : Group}, after.find? key = some own → group.Continues own ∧
      (own.IsActive → own.contentKey = group.contentKey ∧ after.Suits driver own space ∧
        ∀ content : Content, after.find? own.contentKey = some content →
          content.IsShelved own.contentName)) : after.Governs driver space := by
  -- Every other group was there before, with the content that it has.
  have other {place : String} {other : Group} (there : after.find? place = some other)
      (elsewhere : place ≠ key) : before.find? place = some other :=
    (beside.groups place elsewhere).symm.trans there
  have content {place : String} {other : Group} (there : before.find? place = some other)
      (room : other.metadata.namespace = some space) (cared : other.IsActive)
      (elsewhere : place ≠ key) :
      after.find? other.contentKey = (before.find? other.contentKey : Option Content) :=
    beside.contents _ fun same =>
      elsewhere (governs.apart there found room inSpace cared active same)
  -- So each group that passes care for goes by the content that its first form went by.
  have origin {place : String} {later : Group} (there : after.find? place = some later)
      (room : later.metadata.namespace = some space) (cared : later.IsActive) :
      ∃ first : Group, before.find? place = some first ∧ first.metadata.namespace = some space ∧
        first.IsActive ∧ later.contentKey = first.contentKey := by
    by_cases here : place = key
    · subst here
      exact ⟨group, found, inSpace, active, ((own there).2 cared).1⟩
    · exact ⟨later, other there here, room, cared, rfl⟩
  -- The conditions are checked for the group that was passed over and for each other one.
  refine ⟨beside.tidy, ?_, ?_, ?_, ?_⟩
  · intro place later there room
    by_cases here : place = key
    · subst here
      exact (governs.equips found inSpace).later beside.grounds (own there).1.className?
    · exact (governs.equips (other there here) room).later beside.grounds rfl
  · intro place later there room cared
    by_cases here : place = key
    · subst here
      exact ((own there).2 cared).2.1
    · have before := other there here
      have same := content before room cared here
      have suits := governs.suits before room cared
      refine suits.later beside.grounds beside.origin (.refl later) ?_ ?_
      · exact fun content known => suits.owns content (same.symm.trans known)
      · exact fun content known => suits.handle content (same.symm.trans known)
  · intro place later there room cared stored known
    by_cases here : place = key
    · subst here
      exact ((own there).2 cared).2.2 stored known
    · have before := other there here
      exact governs.shelved before room cared stored
        ((content before room cared here).symm.trans known)
  · -- Two groups with one content had one content before as well.
    intro one two first second foundOne foundTwo roomOne roomTwo caredOne caredTwo same
    obtain ⟨firstBefore, thereOne, spaceOne, activeOne, sameOne⟩ := origin foundOne roomOne caredOne
    obtain ⟨secondBefore, thereTwo, spaceTwo, activeTwo, sameTwo⟩ := origin foundTwo roomTwo caredTwo
    exact governs.apart thereOne thereTwo spaceOne spaceTwo activeOne activeTwo
      (sameOne.symm.trans (same.trans sameTwo))

variable {start before after : Store}

/-- A group that lists what it listed is as near to its claims. -/
theorem ListsOnlyAwarded.later {group own later : Group}
    (listsOnly : start.ListsOnlyAwarded group own)
    (continues : own.Continues later) (members : later.members = own.members) :
    start.ListsOnlyAwarded group later where
  continues := listsOnly.continues.trans continues
  -- The members are the same, so the lists are.
  ordered := members ▸ listsOnly.ordered
  awarded := members ▸ listsOnly.awarded
  held found holds := by
    rw [Group.lists, members, continues.namespace]
    exact listsOnly.held found holds

/-- One more group may have been passed over. -/
theorem Proceeds.turn (proceeds : start.Proceeds space before) {key room : String} {group : Group}
    (found : start.find? key = some group) (inSpace : group.metadata.namespace = some space)
    (beside : before.Beside key room after)
    (fate : (∃ own, after.find? key = some own ∧ group.Awaits own) ∨
      group.Fate start.ListsOnlyAwarded (after.find? key)) : start.Proceeds space after where
  -- What lies beside the group is as it was after the passes before.
  grounds := beside.grounds.trans proceeds.grounds
  origin there := by
    obtain ⟨middle, foundMiddle, continues⟩ := beside.origin there
    obtain ⟨first, foundFirst, continued⟩ := proceeds.origin foundMiddle
    exact ⟨first, foundFirst, continued.trans continues⟩
  stays there live := by
    obtain ⟨middle, foundMiddle⟩ := proceeds.stays there live
    obtain ⟨first, foundFirst, continues⟩ := proceeds.origin foundMiddle
    obtain rfl : _ = first := Option.some.inj (there.symm.trans foundFirst)
    refine beside.stays foundMiddle ?_
    rw [continues.metadata]
    exact live
  elsewhere other strange := by
    -- The group that may have been passed over is in the namespace.
    have apart : other ≠ key := fun same => strange group (same ▸ found) inSpace
    exact (beside.groups other apart).trans (proceeds.elsewhere other strange)
  -- The group that was passed over has its new fate, and any other has the one that it had.
  fates {other own} there room := by
    by_cases here : other = key
    · subst here
      obtain rfl := Option.some.inj (found.symm.trans there)
      exact fate
    · rw [beside.groups other here]
      exact proceeds.fates there room

/-- Where all groups have been passed over, that stays so while one of them is passed over again. -/
theorem Meets.turn {reaches : Group → Group → Prop} (meets : start.Meets reaches space before)
    {key : String} {group : Group} (found : start.find? key = some group)
    (groups : ∀ other : String, other ≠ key → after.find? other = (before.find? other : Option Group))
    (fate : group.Fate reaches (after.find? key)) : start.Meets reaches space after := by
  -- All other groups are as they were.
  intro other own there room
  by_cases here : other = key
  · subst here
    obtain rfl := Option.some.inj (found.symm.trans there)
    exact fate
  · rw [groups other here]
    exact meets there room

section Marking

variable {group own marked : Group} (found : start.find? (Resource.key own) = some group)
  (inSpace : group.metadata.namespace = some space) (live : group.isTerminating = false)
  (there : before.find? (Resource.key own) = some own)
  (readies : before.Readies own after marked)
include found inSpace live there readies

/-- A live group that is marked has got no further. -/
theorem Proceeds.of_readies (proceeds : start.Proceeds space before) : start.Proceeds space after := by
  -- The group awaits its pass with one more mark, or lists what it listed.
  obtain ⟨other, foundOther, continues, reached⟩ := proceeds.live found inSpace live
  obtain rfl := Option.some.inj (there.symm.trans foundOther)
  refine proceeds.turn found inSpace readies.beside ?_
  rcases reached with awaits | listsOnly
  · exact .inl ⟨marked, readies.found, continues.trans readies.continues,
      readies.members.trans awaits.members, by simp [live]⟩
  · rw [readies.found]
    exact .inr (.live live (listsOnly.later readies.continues readies.members))

/-- Where all groups have been passed over, that stays so when a live one is marked. -/
theorem Meets.of_readies (meets : start.Meets start.ListsOnlyAwarded space before) :
    start.Meets start.ListsOnlyAwarded space after := by
  refine meets.turn found readies.beside.groups ?_
  -- A live group has the fate of a live one, and its list is the same.
  have fate := meets found inSpace
  rw [there] at fate
  rw [readies.found]
  cases fate with
  | live _ listsOnly => exact .live live (listsOnly.later readies.continues readies.members)
  | held terminating | idle terminating => simp [live] at terminating

end Marking

section Lining

variable {venture : Venture driver} {own last : Group} {log : List Exchange} {content : Content}
  {handle : String} {time : Time} (readies : before.Readies own venture.start venture.group)
  (inLine : venture.InLine after log last content handle time)
include readies inLine

/-- A group that is marked and then brought in line with its plan leaves all else as it was. -/
theorem Readies.beside_of_inLine : before.Beside (Resource.key own) own.contentKey after := by
  have beside := inLine.beside
  rw [readies.key, readies.contentKey] at beside
  exact readies.beside.trans beside

/-- A namespace stays in order while a live group is brought in line with its plan. -/
theorem Governs.of_inLine (governs : before.Governs driver space)
    (there : before.find? (Resource.key own) = some own)
    (room : own.metadata.namespace = some space) (live : own.isTerminating = false) :
    after.Governs driver space := by
  -- Marking and bringing in line together change one group and its content.
  have beside := readies.beside_of_inLine inLine
  have continues := readies.continues.trans inLine.continues
  have suits := governs.suits there room (.inl live)
  have foundLast : after.find? (Resource.key own) = some last :=
    readies.key ▸ inLine.found
  refine governs.turn there room (.inl live) beside fun {later} found => ?_
  obtain rfl := Option.some.inj (foundLast.symm.trans found)
  -- The content that the group has then is the one that was brought in line.
  have only (stored : Content) (known : after.find? last.contentKey = some stored) :
      stored = content := by
    rw [inLine.contentKey, inLine.there] at known
    exact (Option.some.inj known).symm
  refine ⟨continues, fun _ => ⟨inLine.contentKey.trans readies.contentKey, ?_, ?_⟩⟩
  · -- The content belongs to the group and has a handle.
    refine suits.later beside.grounds beside.origin continues ?_ ?_
    · intro stored known
      obtain rfl := only stored known
      obtain ⟨uid, identified, owned⟩ := inLine.owned
      refine ⟨uid, ?_, owned⟩
      rw [inLine.continues.metadata]
      exact identified
    · intro stored known
      rw [only stored known, inLine.handled]
      rfl
  · -- It lies under the name that the group goes by.
    intro stored known
    rw [inLine.contentName, only stored known]
    exact inLine.isShelved inLine.there

end Lining

/-- What a pass over a group that was there at the start makes of a namespace in order. -/
structure PassedOver (driver space : String) (start : Store) (group : Group)
    (before after : Store) : Prop where
  -- The namespace can be passed over again.
  governs : after.Governs driver space
  proceeds : start.Proceeds space after
  -- No other group has changed.
  groups : ∀ key : String, key ≠ Resource.key group →
    after.find? key = (before.find? key : Option Group)
  -- The group has met its fate, the better one if all were passed over before.
  listsOnly : group.Fate start.ListsOnlyAwarded (after.find? (Resource.key group))
  listsAll : start.Meets start.ListsOnlyAwarded space before →
    group.Fate start.ListsAllAwarded (after.find? (Resource.key group))

/-- A pass that has nothing to do leaves all as it is. -/
theorem PassedOver.idle (governs : before.Governs driver space)
    (proceeds : start.Proceeds space before)
    {group : Group} (fate : ∀ reaches, group.Fate reaches (before.find? (Resource.key group))) :
    PassedOver driver space start group before before :=
  ⟨governs, proceeds, fun _ _ => rfl, fate _, fun _ => fate _⟩

section Turning

variable (governs : before.Governs driver space) (proceeds : start.Proceeds space before)
  {group own : Group} (found : start.find? (Resource.key group) = some group)
  (inSpace : group.metadata.namespace = some space)
  (there : before.find? (Resource.key group) = some own)
include governs proceeds found inSpace there

/-- A marked group that is being deleted goes, or it loses its mark and its members. -/
theorem PassedOver.of_finalized (terminating : group.isTerminating = true)
    (marked : group.isMarked = true)
    (awaits : group.Awaits own) (finalized : before.Finalized own after) :
    PassedOver driver space start group before after := by
  -- The group keeps its key, and awaiting its pass it keeps its marks.
  have place : Resource.key own = Resource.key group := awaits.continues.metadata.key
  have room := awaits.continues.namespace.trans inSpace
  have marks := awaits.finalizers terminating
  have beside : before.Beside (Resource.key group) own.contentKey after := place ▸ finalized.beside
  -- Whether something else holds the group decides what becomes of it.
  have fate (reaches : Group → Group → Prop) :
      group.Fate reaches (after.find? (Resource.key group)) := by
    rw [← place]
    by_cases free : (group.metadata.finalizers.getD []).filter (· != groupFinalizer) = []
    · rw [finalized.gone (marks ▸ free)]
      exact .gone terminating marked free
    · obtain ⟨last, left⟩ := finalized.held (marks ▸ free)
      obtain ⟨continues, unmarked, nothing, _⟩ := finalized.left left
      rw [left]
      exact .held terminating marked free (awaits.continues.trans continues) unmarked nothing
  have active : own.IsActive := .inr ((awaits.isMarked terminating).trans marked)
  -- The namespace stays in order, since the group is not cared for any more.
  refine ⟨?_, ?_, beside.groups, fate _, fun _ => fate _⟩
  · refine governs.turn there room active beside ?_
    intro last left
    obtain ⟨continues, unmarked, _⟩ := finalized.left (place.symm ▸ left)
    refine ⟨continues, ?_⟩
    rintro (live | held)
    · have ends := (awaits.continues.trans continues).isTerminating.trans terminating
      simp [live] at ends
    · simp [unmarked] at held
  · exact proceeds.turn found inSpace beside (.inr (fate _))

/-- A live group is brought in line with a plan for the claims that are its own in the end, as far as no
group that still has to be passed over keeps it from them. -/
theorem PassedOver.of_inLine (tidy : start.Tidy) (live : group.isTerminating = false)
    {venture : Venture driver} (same : venture.space = space)
    (readies : before.Readies own venture.start venture.group) {log : List Exchange} {last : Group}
    {content : Content} {handle : String} {time : Time}
    (inLine : venture.InLine after log last content handle time) :
    PassedOver driver space start group before after := by
  -- The group in the store is a later form of the one at the start.
  subst same
  obtain ⟨other, foundOther, continues, _⟩ := proceeds.live found inSpace live
  obtain rfl := Option.some.inj (there.symm.trans foundOther)
  have place : Resource.key own = Resource.key group := continues.metadata.key
  have room := continues.namespace.trans inSpace
  have alive := continues.isTerminating.trans live
  have suits := governs.suits there room (.inl alive)
  rw [← place] at found there
  -- First the group is marked.
  have prepared := proceeds.of_readies found inSpace live there readies
  have backs : venture.start.Backs venture.space :=
    Backs.later suits.backs readies.beside.grounds readies.beside.origin
  -- Then everything is brought in line with the plan that is made then.
  have lastContinues := continues.trans (readies.continues.trans inLine.continues)
  have members : last.members = venture.plan.claimNames := by
    rw [Group.members, inLine.state]
    rfl
  have listsOnly : start.ListsOnlyAwarded group last :=
    prepared.listsOnlyAwarded_of_planned tidy backs venture.intends found readies.found inSpace live
      lastContinues members
  have beside := readies.beside_of_inLine inLine
  have foundLast : after.find? (Resource.key own) = some last :=
    readies.key ▸ inLine.found
  -- Once all were passed over before, the plan has all claims that are the group's own.
  refine ⟨governs.of_inLine readies inLine there room alive,
    proceeds.turn found inSpace beside (.inr (foundLast ▸ .live live listsOnly)),
    place ▸ beside.groups, place ▸ foundLast ▸ .live live listsOnly, fun visited => ?_⟩
  have listsAll : start.ListsAllAwarded group last :=
    prepared.listsAllAwarded_of_planned tidy backs venture.intends found readies.found inSpace live
      lastContinues members (visited.of_readies found inSpace live there readies)
  exact place ▸ foundLast ▸ .live live listsAll

end Turning

end Store

section Passing

variable {conditions : Conditions} (solo : conditions.Solo) {driver space : String} {scene : Scene}
include solo

/-- A pass over a group that is being deleted takes it down if it is marked, and leaves all as it is if
not, unless it fails. -/
theorem Group.ensures_closing {group seen : Group} (tidy : scene.store.Tidy)
    (found : scene.store.find? (Resource.key group) = some group)
    (inSpace : group.metadata.namespace = some space) (terminating : group.isTerminating = true)
    (equips : scene.store.Equips driver group) (sights : group.Sights seen) :
    (seen.reconcile driver).Ensures conditions
      (fun result after =>
        (∃ error, result = .error error ∧
          ((group.isMarked = true → scene.store.OwnsContent group) → conditions.LetsCallsFail)) ∨
        result = .ok .awaitChange ∧
          if group.isMarked then scene.store.Finalized group after.store
          else after.store = scene.store)
      scene := by
  have place : seen.place = Resource.key group := sights.place (tidy.groupNamed found)
  -- The pass reads the group first, which is there.
  refine Group.ensures_reconcile solo (sights.namespace.trans inSpace) ?_ ?_ ?_
  · intro after absent
    rw [place, found] at absent
    cases absent
  · exact fun cause after letsFail _ _ => .inl ⟨_, rfl, fun _ => letsFail⟩
  intro own first there same _
  rw [place, found] at there
  obtain rfl := Option.some.inj there
  rw [← same] at tidy found equips ⊢
  obtain ⟨_, _, _, provides⟩ := id equips
  -- The class is checked next, and may only stop a pass that fails.
  refine Group.ensures_advance solo found provides.manages ?_ ?_
  · exact fun error after _ letsFail _ _ => .inl ⟨error, rfl, fun _ => letsFail equips⟩
  intro _ _ secrets second _ kept _
  -- What is left is the way of a terminating group.
  rw [if_pos terminating]
  rw [← kept] at tidy found ⊢
  cases marked : group.isMarked with
  | true =>
    -- Only a marked group has its content looked at, so only then it has to be its own.
    refine (Attempt.ensures_finalize solo tidy found terminating marked inSpace secrets).mono ?_
    rintro (error | action) after ended
    · exact .inl ⟨error, rfl, fun owns => ended.1 (owns rfl)⟩
    · obtain ⟨rfl, finalized, _⟩ := ended
      exact .inr ⟨rfl, finalized⟩
  | false =>
    rw [Group.finalize_eq, if_neg (by simp [marked])]
    exact .pure (.inr ⟨rfl, rfl⟩)

/-- A pass over a group that was there at the start settles it, unless a call fails. -/
theorem Group.ensures_turn {start : Store} {group seen : Group} (tidy : start.Tidy)
    (governs : scene.store.Governs driver space) (proceeds : start.Proceeds space scene.store)
    (found : start.find? (Resource.key group) = some group)
    (inSpace : group.metadata.namespace = some space) (sights : group.Sights seen) :
    (seen.reconcile driver).Ensures conditions
      (fun _ after => Handles after.exchanges → ¬ conditions.LetsCallsFail →
        Store.PassedOver driver space start group scene.store after.store) scene := by
  have place : seen.place = Resource.key group := sights.place (tidy.groupNamed found)
  -- The group is gone, or it is live, or it is being deleted.
  cases there : scene.store.find? (α := Group) (Resource.key group) with
  | none =>
    -- The group is gone, so there is nothing to do.
    refine Group.ensures_reconcile solo (sights.namespace.trans inSpace) ?_ ?_ ?_
    · intro after _ same _ _ _
      rw [same]
      exact .idle governs proceeds fun _ => proceeds.gone found inSpace there
    · exact fun _ _ letsFail _ _ _ never => absurd letsFail never
    · intro own middle present
      rw [place, there] at present
      cases present
  | some own =>
    have continues := proceeds.continues found inSpace there
    have ownPlace : Resource.key own = Resource.key group := continues.metadata.key
    have room := continues.namespace.trans inSpace
    have sightsOwn : own.Sights seen :=
      ⟨sights.name.trans continues.name.symm, sights.namespace.trans continues.namespace.symm⟩
    have equips := governs.equips there room
    cases live : group.isTerminating with
    | false =>
      -- A live group is brought in line with the plan that is made of its claims.
      have active : own.IsActive := .inl (continues.isTerminating.trans live)
      obtain ⟨_, _, _, provides⟩ := id equips
      refine (Group.ensures_outset solo governs.tidy (ownPlace.symm ▸ there) room
        (continues.isTerminating.trans live) provides.manages (governs.shelved there room active)
        sightsOwn).mono ?_
      rintro result after (⟨_, _, _, letsFail⟩ | ⟨venture, same, readies, _, last, content, handle,
        time, calls, concluded⟩) handles never
      · exact absurd (letsFail (governs.suits there room active) handles) never
      · exact .of_inLine governs proceeds found inSpace there tidy live same readies
          concluded.inLine
    | true =>
      -- A group that is being deleted is taken down or left.
      refine (Group.ensures_closing solo governs.tidy (ownPlace.symm ▸ there) room
        (continues.isTerminating.trans live) equips sightsOwn).mono ?_
      rintro result after (⟨_, _, letsFail⟩ | ⟨_, left⟩) _ never
      · exact absurd (letsFail fun marked => (governs.suits there room (.inr marked)).owns) never
      -- A group without a mark was left as it was, whether a pass has taken its mark or not.
      have still (unmarked : own.isMarked = false)
          (fate : ∀ reaches, group.Fate reaches (some own)) :
          Store.PassedOver driver space start group scene.store after.store := by
        rw [if_neg (by simp [unmarked])] at left
        rw [left]
        exact .idle governs proceeds fun reaches => there ▸ fate reaches
      -- What happened to it so far tells whether it still has its mark.
      rcases proceeds.fates found inSpace with ⟨other, present, awaits⟩ | fate
      · obtain rfl := Option.some.inj (there.symm.trans present)
        cases marked : group.isMarked with
        | true =>
          rw [if_pos ((awaits.isMarked live).trans marked)] at left
          exact .of_finalized governs proceeds found inSpace there live marked awaits left
        | false =>
          exact still ((awaits.isMarked live).trans marked) fun _ => .idle live marked awaits
      · rw [there] at fate
        cases fate with
        | live alive => simp [live] at alive
        | held terminating marked held continues unmarked nothing =>
          exact still unmarked fun _ => .held terminating marked held continues unmarked nothing
        | idle terminating unmarked awaits =>
          exact still ((awaits.isMarked live).trans unmarked) fun _ =>
            .idle terminating unmarked awaits

end Passing

end VolumeGroups
