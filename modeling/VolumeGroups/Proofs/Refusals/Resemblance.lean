import VolumeGroups.Proofs.Refusals.Outset

/-! Objects and stores that are the same but for versions, for moments and for what is reported on a
group, and the writes that keep them so. -/

namespace VolumeGroups

/-- The same metadata but for the version. -/
def Metadata.Resembles (one other : Metadata) : Prop :=
  other = { one with resourceVersion := other.resourceVersion }

/-- The same claim but for its version. -/
structure Claim.Resembles (one other : Claim) : Prop where
  metadata : one.metadata.Resembles other.metadata
  spec : other.spec = one.spec

/-- The same state of a content, with some moment on both sides or on none. -/
structure ContentStatus.Resembles (one other : ContentStatus) : Prop where
  rest : other = { one with creationTime := other.creationTime }
  dated : other.creationTime.isSome = one.creationTime.isSome

/-- The same content but for its version and its moment. -/
structure Content.Resembles (one other : Content) : Prop where
  metadata : one.metadata.Resembles other.metadata
  spec : other.spec = one.spec
  status : Option.Rel ContentStatus.Resembles one.status other.status

/-- The same state of a group but for its error, with some moment on both sides or on none. -/
structure GroupStatus.Resembles (one other : GroupStatus) : Prop where
  rest : other = { one with creationTime := other.creationTime, error := other.error }
  dated : other.creationTime.isSome = one.creationTime.isSome

/-- The same group but for its version, its moment and its error. -/
structure Group.Resembles (one other : Group) : Prop where
  metadata : one.metadata.Resembles other.metadata
  spec : other.spec = one.spec
  status : Option.Rel GroupStatus.Resembles one.status other.status

/-- What may be missing is related to itself where everything else is. -/
theorem rel_self {α : Type} {related : α → α → Prop} (same : ∀ value, related value value)
    (value : Option α) : Option.Rel related value value := by
  cases value with
  | none => exact .none
  | some value => exact .some (same value)

/-- A claim resembles itself. -/
theorem Claim.Resembles.refl (claim : Claim) : claim.Resembles claim := ⟨rfl, rfl⟩

/-- A content resembles itself. -/
theorem Content.Resembles.refl (content : Content) : content.Resembles content :=
  ⟨rfl, rfl, rel_self (fun _ => ⟨rfl, rfl⟩) _⟩

/-- A group resembles itself. -/
theorem Group.Resembles.refl (group : Group) : group.Resembles group :=
  ⟨rfl, rfl, rel_self (fun _ => ⟨rfl, rfl⟩) _⟩

/-- Contents that resemble each other show some moment on both sides or on none. -/
theorem Content.Resembles.dated {one other : Content} (resembles : one.Resembles other) :
    (other.status.bind ContentStatus.creationTime).isSome =
      (one.status.bind ContentStatus.creationTime).isSome := by
  -- Both states are there, or neither is.
  have status := resembles.status
  generalize one.status = first at status ⊢
  generalize other.status = second at status ⊢
  cases status with
  | none => rfl
  | some alike => exact alike.dated

namespace Store

/-- Two stores are the same but for claims under some keys, which the second does not have and which are
in the first as they were at the start, for what is reported on one group, and for versions and moments. -/
structure Resembles (start : Store) (gone : List String) (place : String) (one other : Store) : Prop where
  grounds : other.grounds = one.grounds
  own : Option.Rel Group.Resembles (one.find? place) (other.find? place)
  groups : ∀ key ≠ place, other.find? key = (one.find? key : Option Group)
  contents : ∀ key, Option.Rel Content.Resembles (one.find? key) (other.find? key)
  claims : ∀ key ∉ gone, Option.Rel Claim.Resembles (one.find? key) (other.find? key)
  absent : ∀ key ∈ gone, other.find? key = (none : Option Claim)
  kept : ∀ key ∈ gone, one.find? key = (start.find? key : Option Claim)

/-- Two stores hold a live group as a pass has it in hand, and are the same but for claims under some keys
and for versions and moments of contents. -/
structure BothHoldAlike (start : Store) (gone : List String) (group : Group) (one other : Store) :
    Prop where
  grounds : other.grounds = one.grounds
  groups : other.groups = one.groups
  contents : ∀ key, Option.Rel Content.Resembles (one.find? key) (other.find? key)
  claims : ∀ key ∉ gone, other.find? key = (one.find? key : Option Claim)
  absent : ∀ key ∈ gone, other.find? key = (none : Option Claim)
  kept : ∀ key ∈ gone, one.find? key = (start.find? key : Option Claim)
  held : one.find? (Resource.key group) = some group
  live : group.isTerminating = false

variable {start one other : Store} {gone : List String} {place : String} {clock later : Time}
  {make : String → KeyMap String → KeyMap String → CreatedGroup}

/-- Stores that differ in claims only resemble each other. -/
theorem SameButForClaims.resembles (sameRest : start.SameButForClaims gone one other)
    (place : String) :
    start.Resembles gone place one other := by
  -- The second store is the first without the claims that are gone.
  obtain ⟨rfl, kept⟩ := sameRest
  refine ⟨rfl, rel_self .refl _, fun _ _ => rfl, fun _ => rel_self .refl _, ?_, ?_, kept⟩
  · intro key stays
    rw [find?_withoutClaims, if_neg stays]
    exact rel_self .refl _
  · intro key removed
    rw [find?_withoutClaims, if_pos removed]

/-- Stores that differ in claims only are abreast of each other. -/
theorem BothHold.bothHoldAlike {group : Group} (bothHold : start.BothHold gone group one other) :
    start.BothHoldAlike gone group one other := by
  -- Nothing but claims is missing, so all else is the same.
  obtain ⟨⟨rfl, kept⟩, held, live⟩ := bothHold
  refine ⟨rfl, rfl, fun _ => rel_self .refl _, ?_, ?_, kept, held, live⟩
  · intro key stays
    rw [find?_withoutClaims, if_neg stays]
  · intro key removed
    rw [find?_withoutClaims, if_pos removed]

/-- A claim that is stored alike on both sides is written alike on both sides. -/
theorem Resembles.overwrite_claim (resembles : start.Resembles gone place one other) {claim : Claim}
    (stays : Resource.key claim ∉ gone) :
    start.Resembles gone place (one.overwrite claim).2 (other.overwrite claim).2 := by
  -- No other table is touched, and neither is a claim under another key.
  have apart (store : Store) := apart_of_claims.overwrite store claim
  have groups (store : Store) (key : String) :
      (store.overwrite claim).2.find? key = (store.find? key : Option Group) :=
    find?_of_groups (Prod.mk.inj (apart store)).1 key
  have contents (store : Store) (key : String) :
      (store.overwrite claim).2.find? key = (store.find? key : Option Content) :=
    find?_of_contents (Prod.mk.inj (Prod.mk.inj (apart store)).2).1 key
  have grounds (store : Store) : (store.overwrite claim).2.grounds = store.grounds :=
    (Prod.mk.inj (Prod.mk.inj (apart store)).2).2
  have elsewhere (store : Store) {key : String} (removed : key ∈ gone) :
      (store.overwrite claim).2.find? key = (store.find? key : Option Claim) := by
    rw [find?_overwrite, if_neg (ne_of_mem_of_not_mem removed stays)]
  -- The tables are compared one by one.
  refine ⟨?_, ?_, ?_, ?_, ?_, ?_, ?_⟩
  · rw [grounds, grounds, resembles.grounds]
  · rw [groups, groups]
    exact resembles.own
  · intro key apart
    rw [groups, groups, resembles.groups key apart]
  · intro key
    rw [contents, contents]
    exact resembles.contents key
  · intro key left
    -- The written claim may get another version in each store.
    rw [find?_overwrite, find?_overwrite]
    by_cases here : key = Resource.key claim
    · rw [if_pos here, if_pos here]
      split
      · exact .none
      · exact .some ⟨rfl, rfl⟩
    · rw [if_neg here, if_neg here]
      exact resembles.claims key left
  · -- A key that is gone is not the one of the claim.
    intro key removed
    rw [elsewhere other removed, resembles.absent key removed]
  · intro key removed
    rw [elsewhere one removed, resembles.kept key removed]

/-- Contents that differ in their moments only are written over the same stored one. -/
theorem BothHold.overwrite_content {group : Group} (bothHold : start.BothHold gone group one other)
    {content given : Content}
    (alike : content.Resembles given) (same : given.metadata = content.metadata) :
    start.BothHoldAlike gone group (one.overwrite content).2 (other.overwrite given).2 := by
  obtain ⟨grounds, -, -, claims, absent, kept, held, live⟩ := bothHold.bothHoldAlike
  have apart (store : Store) (object : Content) := apart_of_contents.overwrite store object
  -- No other table is touched by a write of contents.
  have groups (store : Store) (object : Content) : (store.overwrite object).2.groups = store.groups :=
    (Prod.mk.inj (apart store object)).1
  have unclaimed (store : Store) (object : Content) (key : String) :
      (store.overwrite object).2.find? key = (store.find? key : Option Claim) :=
    find?_of_claims (Prod.mk.inj (Prod.mk.inj (apart store object)).2).1 key
  have grounded (store : Store) (object : Content) : (store.overwrite object).2.grounds = store.grounds :=
    (Prod.mk.inj (Prod.mk.inj (apart store object)).2).2
  obtain rfl := bothHold.rest
  refine ⟨by rw [grounded, grounded, grounds], by rw [groups, groups]; rfl, fun key => ?_,
    fun key stays => ?_, fun key removed => ?_, fun key removed => ?_, ?_, live⟩
  · -- Both get the same version, since both stores have seen the same number of writes.
    have place : Resource.key given = Resource.key content := congrArg Metadata.key same
    have forsaken : (Resource.metadata given).isForsaken = (Resource.metadata content).isForsaken :=
      congrArg Metadata.isForsaken same
    rw [find?_overwrite, find?_overwrite, place, forsaken]
    split
    · split
      · exact .none
      · refine .some ⟨?_, alike.spec, alike.status⟩
        show ({ given.metadata with resourceVersion := _ } : Metadata) = _
        rw [same]
        rfl
    · exact rel_self .refl _
  · -- Claims are as they were.
    rw [unclaimed, unclaimed, claims key stays]
  · rw [unclaimed, absent key removed]
  · rw [unclaimed, kept key removed]
  · exact (find?_of_groups (groups ..) _).trans held

end Store

namespace Attempt

variable {start one other : Store} {gone : List String} {place : String} {clock later : Time}
  {make : String → KeyMap String → KeyMap String → CreatedGroup}

/-- A claim that is the same in two stores gets its marks in both. -/
theorem alongside_mark {marking : Marking} (lawful : marking.Lawful) {claim : Claim}
    (stays : Resource.key claim ∉ gone)
    (same : other.find? (Resource.key claim) = (one.find? (Resource.key claim) : Option Claim))
    (resembles : start.Resembles gone place one other) {leaves : Store → Store → Prop}
    (left : ∀ after there, start.Resembles gone place after there → after.groups = one.groups →
      (∀ key ≠ Resource.key claim, after.find? key = (one.find? key : Option Claim) ∧
        there.find? key = (other.find? key : Option Claim)) → leaves after there) :
    Alongside make clock later gone (Agree (fun _ after _ there => leaves after there) leaves)
      (claim.mark marking) one (claim.mark marking) other := by
  -- Where nothing is written, nothing changes.
  have idle : leaves one other := left one other resembles rfl fun _ _ => ⟨rfl, rfl⟩
  unfold Claim.mark
  split
  · exact Program.Pairs.done (.ok idle)
  · rename_i metadata changed
    have key : Resource.key ({ claim with metadata } : Claim) = Resource.key claim :=
      (lawful.continues changed).key
    -- Both writes start from the same stored version, so both are carried out or neither is.
    have current : other.current { claim with metadata } = one.current { claim with metadata } := by
      simp only [Store.current, key, same]
    have writes : Alongside make clock later gone
        (Agree (fun _ after _ there => leaves after there) leaves)
        (.of (.ask (.replaceClaim { claim with metadata }))) one
        (.of (.ask (.replaceClaim { claim with metadata }))) other := by
      -- The write is the only call, and its key stays.
      refine Program.Pairs.ask (.replaceClaim _) (fun _ _ same => ?_) ?_
      · cases same
        rwa [key]
      show Agree _ _ (one.replace _).1 (one.replace _).2 (other.replace _).1 (other.replace _).2
      simp only [Store.replace, current]
      cases one.current { claim with metadata } with
      | error cause => exact .error idle
      | ok stored =>
        simp only [Store.overwrite_fst]
        -- The write goes through on both sides.
        refine .ok (left _ _ (resembles.overwrite_claim (key ▸ stays)) ?_ ?_)
        · exact (Prod.mk.inj (Store.apart_of_claims.overwrite one _)).1
        · intro name apart
          have elsewhere (store : Store) :
              (store.overwrite { claim with metadata }).2.find? name = (store.find? name : Option Claim) := by
            rw [Store.find?_overwrite, if_neg (key ▸ apart)]
          exact ⟨elsewhere one, elsewhere other⟩
    exact Pairs.bind writes (fun _ _ _ left => .error left) fun _ _ _ _ left =>
      Program.Pairs.done (.ok left)

/-- Claims that are the same in two stores are released in both. -/
theorem alongside_releases {claims : List Claim} (others : List Group)
    (distinct : (claims.map Resource.key).Nodup)
    (stays : ∀ claim ∈ claims, Resource.key claim ∉ gone)
    (same : ∀ claim ∈ claims,
      other.find? (Resource.key claim) = (one.find? (Resource.key claim) : Option Claim))
    (resembles : start.Resembles gone place one other) {groups : Table Group}
    (kept : one.groups = groups) :
    Alongside make clock later gone
      (Agree (fun _ after _ there => start.Resembles gone place after there ∧ after.groups = groups)
        fun after there => start.Resembles gone place after there)
      (releaseClaims claims others) one (releaseClaims claims others) other := by
  unfold releaseClaims
  -- The induction goes along the claims, where no write touches a claim that is still to come.
  induction claims generalizing one other with
  | nil => exact Program.Pairs.done (.ok ⟨resembles, kept⟩)
  | cons claim rest ih =>
    obtain ⟨apart, distinct⟩ := List.nodup_cons.mp distinct
    have first : Alongside make clock later gone
        (Agree (fun _ after _ there => start.Resembles gone place after there ∧
          after.groups = groups ∧ ∀ claim ∈ rest,
            there.find? (Resource.key claim) = (after.find? (Resource.key claim) : Option Claim))
          fun after there => start.Resembles gone place after there)
        (within PassError.cluster (claim.release others)) one
        (within PassError.cluster (claim.release others)) other := by
      -- Release is one way of changing marks.
      rw [← Marking.mark_releasing]
      refine .within (Pairs.imp (alongside_mark (Marking.releasing_lawful others)
        (stays claim (List.mem_cons_self ..)) (same claim (List.mem_cons_self ..)) resembles
        fun after there alike unchanged elsewhere => ⟨alike, unchanged.trans kept, ?_⟩)
        (fun _ _ _ _ => id) fun _ _ left => left.1)
      intro next known
      -- The claims still to come have other keys.
      have other : Resource.key next ≠ Resource.key claim :=
        fun same => apart (same ▸ List.mem_map_of_mem known)
      rw [(elsewhere _ other).1, (elsewhere _ other).2]
      exact same next (List.mem_cons_of_mem _ known)
    -- A failure ends both sides with the same marks.
    refine Pairs.bind first (fun _ _ _ left => .error left) ?_
    rintro _ after _ there ⟨alike, unchanged, still⟩
    exact ih distinct (fun next known => stays next (List.mem_cons_of_mem _ known)) still alike
      unchanged

end Attempt

end VolumeGroups
