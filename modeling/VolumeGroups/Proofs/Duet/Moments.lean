import VolumeGroups.Proofs.Duet.Sound

/-! What a turn in the log of two passes tells of the moment at which it was taken. -/

namespace VolumeGroups

namespace Duet

variable {allowed : UserAction → Prop} {driver : String} {seen : Side → Group} {start : Store}
  {duet : Duet}

/-- A turn was taken between two moments of a run. -/
structure TurnTaken (allowed : UserAction → Prop) (driver : String) (seen : Side → Group)
    (start : Store)
    (duet : Duet) (turn : Turn) (before after : Duet) : Prop where
  earlier : before.Played allowed driver seen start
  later : after.Played allowed driver seen start
  turns : after.turns = turn :: before.turns
  through : Reaches allowed before after
  goes : Reaches allowed after duet
  conduct : Conduct (seen turn.1).place (callsOf turn.1 before.turns) turn.2.request
  serves : before.store.Serves turn.2.request turn.2.answer after.store

namespace TurnTaken

variable {turn : Turn} {before after : Duet}
  (took : TurnTaken allowed driver seen start duet turn before after)
include took

/-- What a turn did to groups and claims. -/
theorem effect : Effect (seen turn.1).place before.store turn.2 after.store :=
  took.earlier.sound.effect took.earlier.regular.groups took.conduct took.serves

/-- The moment before a turn comes before the moment that knows of the turn. -/
theorem reaches : Reaches allowed before duet := took.through.trans took.goes

/-- A claim that a turn marked or let go had stayed as it was since its pass counted it. -/
theorem wrote {key : String} {marked : Bool} (marks : turn.2.marks? key = some marked) :
    ∃ space claims claim, (turn.1, ⟨.listClaims space, .ok claims⟩) ∈ before.turns ∧
      claim ∈ claims ∧
      (∀ middle : Duet, middle.Played allowed driver seen start → Reaches allowed middle before →
        (turn.1, ⟨.listClaims space, .ok claims⟩) ∈ middle.turns →
          middle.store.find? key = some claim) ∧
      (marked = true → Unsettled (callsOf turn.1 before.turns)) ∧
      (marked = false → claim.isMarked = true ∧
        Releasable (callsOf turn.1 before.turns) space claims claim) := by
  -- The claim is written as it was counted, which pins it down.
  obtain ⟨side, exchange⟩ := turn
  obtain ⟨written, stored, space, claims, claim, rfl, counted, known, continues, version, rfl, _,
    how⟩ := took.conduct.of_marks? marks
  refine ⟨space, claims, claim, mem_callsOf.mp counted, known, ?_,
    by cases marked <;> simpa using how⟩
  intro middle playing reached recounted
  -- The write went through, so the claim was there with the version it was counted with.
  have recalls := took.earlier.sound.recalls side space claims (mem_callsOf.mp counted) claim known
  rcases recalls.replace continues.metadata.key version took.serves with
    ⟨_, wrong, _⟩ | ⟨found, _, _⟩
  · cases wrong
  · exact ((playing.sound.recalls side space claims recounted claim known).unchanged
      (playing.precedes reached) found rfl).2

end TurnTaken

namespace Played

variable (played : duet.Played allowed driver seen start)
include played

/-- Every turn of a run was taken between two moments of it. -/
theorem took {later earlier : List Turn} {turn : Turn} (split : duet.turns = later ++ turn :: earlier) :
    ∃ before after : Duet, before.turns = earlier ∧
      TurnTaken allowed driver seen start duet turn before after := by
  obtain ⟨relabels, apart, regular, run⟩ := played
  obtain ⟨before, after, reached, rfl, step, log, goes, serves⟩ := run.at_turn rfl split
  have earlier : before.Played allowed driver seen start := ⟨relabels, apart, regular, reached⟩
  have later := earlier.later (.single step)
  refine ⟨before, after, rfl, earlier, later, log, .single step, goes, ?_, serves⟩
  -- The pass has kept its rule up to the turn.
  obtain ⟨side, exchange⟩ := turn
  have kept := later.sound.kept side
  rw [log, callsOf_cons_self] at kept
  exact kept.1

/-- Every turn that a moment knows of was taken between two earlier ones. -/
theorem turnTaken_of_mem {turn : Turn} (known : turn ∈ duet.turns) :
    ∃ before after : Duet, TurnTaken allowed driver seen start duet turn before after := by
  obtain ⟨_, _, split⟩ := List.append_of_mem known
  obtain ⟨before, after, _, took⟩ := played.took split
  exact ⟨before, after, took⟩

/-- Claims that a pass counted are those that were stored at some moment. -/
theorem counted {side : Side} {space : String} {claims : List Claim}
    (known : (side, ⟨.listClaims space, .ok claims⟩) ∈ duet.turns) :
    ∃ before : Duet, before.Played allowed driver seen start ∧ Reaches allowed before duet ∧
      claims = before.store.list space := by
  obtain ⟨before, after, took⟩ := played.turnTaken_of_mem known
  exact ⟨before, took.earlier, took.reaches, Except.ok.inj took.serves.1⟩

/-- A pass counts claims only once, so what came before that is certain. -/
theorem counted_once {first second before after : List Turn} {side : Side} {one other : Exchange}
    (split : duet.turns = first ++ (side, one) :: before)
    (parted : duet.turns = second ++ (side, other) :: after)
    (counts : one.request.method = .listClaims) (recounts : other.request.method = .listClaims) :
    one = other ∧ before = after := by
  -- The rule that a pass keeps forbids a second count, so neither turn comes before the other.
  have alone {later earlier : List Turn} {exchange : Exchange}
      (turns : duet.turns = later ++ (side, exchange) :: earlier)
      (counts : exchange.request.method = .listClaims) :
      ∀ turn ∈ earlier, turn.1 = side → turn.2.request.method ≠ .listClaims := by
    rintro ⟨_, other⟩ known rfl recounts
    obtain ⟨_, _, rfl, took⟩ := played.took turns
    exact took.conduct.uncounted counts other (mem_callsOf.mpr known) recounts
  rcases List.append_eq_append_iff.mp (split.symm.trans parted) with
    ⟨between, _, rest⟩ | ⟨between, _, rest⟩
  · -- The first count is not later than the second one.
    cases between with
    | nil => exact ⟨congrArg Prod.snd (List.cons.inj rest).1, (List.cons.inj rest).2⟩
    | cons turn between =>
      exact absurd recounts (alone split counts (side, other) (by simp [(List.cons.inj rest).2]) rfl)
  · -- Nor is it earlier.
    cases between with
    | nil => exact ⟨congrArg Prod.snd (List.cons.inj rest).1.symm, (List.cons.inj rest).2.symm⟩
    | cons turn between =>
      exact absurd counts (alone parted recounts (side, one) (by simp [(List.cons.inj rest).2]) rfl)

/-- Claims that a pass counted are the only ones that it counted. -/
theorem counted_same {side : Side} {space place : String} {claims counted : List Claim}
    (known : (side, ⟨.listClaims space, .ok claims⟩) ∈ duet.turns)
    (also : (side, ⟨.listClaims place, .ok counted⟩) ∈ duet.turns) :
    space = place ∧ claims = counted := by
  -- Each of them was counted by a turn.
  obtain ⟨_, _, split⟩ := List.append_of_mem known
  obtain ⟨_, _, parted⟩ := List.append_of_mem also
  obtain ⟨same, _⟩ := played.counted_once split parted rfl rfl
  cases same
  exact ⟨rfl, rfl⟩

/-- A pass counts the claims of the namespace that its group is in. -/
theorem counted_space {side : Side} {space : String} {claims : List Claim} {held : Group}
    (known : (side, ⟨.listClaims space, .ok claims⟩) ∈ duet.turns)
    (latest : latest? (callsOf side duet.turns) = some held) :
    held.metadata.namespace = some space := by
  obtain ⟨before, _, took⟩ := played.turnTaken_of_mem known
  obtain ⟨_, own, had, inSpace⟩ := took.conduct
  -- The group that the pass has by now is still in the namespace that it was in.
  have same := ((played.sound.holds side).held latest).same ((took.earlier.sound.holds side).held had)
  exact same.2.1.trans inSpace

/-- What came before a pass counted claims came before any moment that knows of the count. -/
theorem before_count {moment : Duet} (reached : Reaches allowed moment duet)
    {later earlier : List Turn} {side : Side} {exchange : Exchange}
    (split : duet.turns = later ++ (side, exchange) :: earlier)
    (counts : exchange.request.method = .listClaims) (known : (side, exchange) ∈ moment.turns) :
    ∀ turn ∈ earlier, turn ∈ moment.turns := by
  -- The count is known by then, so the moment comes after it.
  obtain ⟨after, turns⟩ := reached.turns
  obtain ⟨first, before, cut⟩ := List.append_of_mem known
  rw [cut, ← List.append_assoc] at turns
  obtain ⟨_, rfl⟩ := played.counted_once turns split counts counts
  exact fun turn within => by simp [cut, within]

/-- Groups that a pass listed are those that were stored at some moment. -/
theorem looked {side : Side} {space : String} {groups : List Group}
    (known : (side, ⟨.listGroups space, .ok groups⟩) ∈ duet.turns) :
    ∃ before : Duet, before.Played allowed driver seen start ∧ Reaches allowed before duet ∧
      groups = before.store.list space := by
  obtain ⟨before, after, took⟩ := played.turnTaken_of_mem known
  exact ⟨before, took.earlier, took.reaches, Except.ok.inj took.serves.1⟩

/-- Claims that two moments have under one key go by one name in one namespace. -/
theorem claim_same {other : Duet} (present : other.Played allowed driver seen start) {key : String}
    {one two : Claim} (found : duet.store.find? key = some one)
    (there : other.store.find? key = some two) :
    one.metadata.name = two.metadata.name ∧ one.metadata.namespace = two.metadata.namespace := by
  -- Both claims go on from the first one under the key.
  obtain ⟨before, began, name, space, _⟩ := played.sound.claims found
  obtain ⟨same, also, named, inSpace, _⟩ := present.sound.claims there
  obtain rfl : before = same := Option.some.inj (began.symm.trans also)
  exact ⟨name.trans named.symm, space.trans inSpace.symm⟩

/-- Groups of one namespace that two passes are over go by different names. -/
theorem names_ne {side : Side} {one other : Group} {before after : List Exchange}
    (stems : one.StemsFrom start (seen side).place before)
    (stemmed : other.StemsFrom start (seen side.other).place after)
    (space : one.metadata.namespace = other.metadata.namespace) : one.name ≠ other.name := by
  intro names
  -- Names and namespaces never change, so the groups would have had one key from the start.
  obtain ⟨first, began, continues, _⟩ := stems
  obtain ⟨second, started, continued, _⟩ := stemmed
  refine played.places_ne side (played.regular.group_key started began ?_ ?_)
  · exact continued.namespace.symm.trans (space.symm.trans continues.namespace)
  · exact continued.name.symm.trans (names.symm.trans continues.name)

end Played

/-- A claim that a turn marked or let go is one that its pass had counted just as another pass did in
between. -/
theorem TurnTaken.counted_alike {turn : Turn} {before after : Duet}
    (took : TurnTaken allowed driver seen start duet turn before after)
    {key : String} {marked : Bool}
    (marks : turn.2.marks? key = some marked) {side : Side} {space place : String}
    {claims counted : List Claim} {later earlier : List Turn}
    (split : before.turns = later ++ (side, ⟨.listClaims space, .ok claims⟩) :: earlier)
    (recounted : (turn.1, ⟨.listClaims place, .ok counted⟩) ∈ earlier) {claim : Claim}
    (known : claim ∈ claims) (here : Resource.key claim = key) : claim ∈ counted := by
  obtain ⟨_, _, written, counting, present, stayed, _⟩ := took.wrote marks
  obtain ⟨middle, _, rfl, count⟩ := took.earlier.took split
  obtain rfl := Except.ok.inj count.serves.1
  -- The pass had counted before the other one did.
  have recounting : (turn.1, ⟨.listClaims place, .ok counted⟩) ∈ before.turns := by
    simp [split, recounted]
  obtain ⟨rfl, rfl⟩ := took.earlier.counted_same counting recounting
  -- The claim was the same when the other pass counted it.
  have kept := stayed middle count.earlier count.reaches recounted
  have found := count.earlier.sound.regular.claims.found_of_mem_list known
  rw [here] at found
  obtain rfl : written = claim := Option.some.inj (kept.symm.trans found)
  exact present

end Duet

end VolumeGroups
