import VolumeGroups.Proofs.Solo.Replanning
import VolumeGroups.Proofs.Store.Spared

/-! A store from which some claims are removed: all other objects are found and written as before, and a
group plans the same for the claims that are left. -/

namespace VolumeGroups

/-- Setting an entry that a filter keeps comes to the same before and after the filter. -/
theorem setEntry_filter {α : Type} {key : String} {value : α} (keep : String → Bool)
    (kept : keep key = true) (entries : List (String × α)) :
    setEntry key value (entries.filter fun entry => keep entry.1) =
      (setEntry key value entries).filter fun entry => keep entry.1 := by
  -- The induction follows the walk to the key's place, which is not filtered out.
  induction entries with
  | nil => simp [setEntry, kept]
  | cons entry rest ih =>
    by_cases here : entry.1 = key
    · simp [setEntry, here, kept]
    · by_cases stays : keep entry.1 = true
      · simp [setEntry, here, stays, ih]
      · simp [setEntry, here, stays, ih]

namespace Table

variable {α : Type}

/-- The table without some keys. -/
def without (gone : List String) (table : Table α) : Table α :=
  ⟨table.entries.filter fun entry => !gone.contains entry.1,
    table.distinct.sublist (List.filter_sublist.map Prod.fst)⟩

/-- Tables with the same entries are equal. -/
theorem eq_of_entries {table other : Table α} (same : table.entries = other.entries) :
    table = other := by
  cases table; cases other; simpa using same

variable {gone : List String} {key : String}

/-- The keys that are gone have no value, and every other key has what it had. -/
theorem get?_without (table : Table α) :
    (table.without gone).get? key = if key ∈ gone then none else table.get? key := by
  simp only [without, get?, List.find?_filter]
  by_cases removed : key ∈ gone
  · -- The key is gone, and none of its entries is left.
    rw [if_pos removed, Option.map_eq_none_iff, List.find?_eq_none]
    rintro entry -
    by_cases found : entry.1 = key
    · simp [found, removed]
    · simp [found]
  · -- A search for a key that stays never meets what is left out.
    have wanted : (fun entry : String × α =>
        decide ((!gone.contains entry.1) = true ∧ (entry.1 == key) = true)) =
          fun entry => entry.1 == key := by
      funext entry
      by_cases found : entry.1 = key
      · simp [found, removed]
      · simp [found]
    rw [wanted, if_neg removed]

/-- A key that stays may be set before or after the others go. -/
theorem set_without (table : Table α) (stays : key ∉ gone) (value : α) :
    (table.without gone).set key value = (table.set key value).without gone :=
  have keeps : (!gone.contains key) = true := by simpa using stays
  eq_of_entries (setEntry_filter (fun name => !gone.contains name) keeps table.entries)

/-- A key may be erased before or after the others go. -/
theorem erase_without (table : Table α) (gone : List String) (key : String) :
    (table.without gone).erase key = (table.erase key).without gone :=
  eq_of_entries (by simp only [erase, without, List.filter_filter, Bool.and_comm])

end Table

/-- The keys of the claims that a plan refuses. -/
def MembershipPlan.refusedKeys (plan : MembershipPlan) : List String :=
  plan.rejected.map fun entry => Resource.key entry.1

/-- A claim under another key than all that a plan refuses is under none of their keys. -/
theorem MembershipPlan.not_mem_refusedKeys {plan : MembershipPlan} {claim : Claim}
    (apart : ∀ entry ∈ plan.rejected, Resource.key claim ≠ Resource.key entry.1) :
    Resource.key claim ∉ plan.refusedKeys := by
  intro refused
  obtain ⟨entry, rejected, same⟩ := List.mem_map.mp refused
  exact apart entry rejected same.symm

namespace Store

/-- The store without the claims under some keys. -/
def withoutClaims (gone : List String) (store : Store) : Store :=
  { store with claims := store.claims.without gone }

variable {gone : List String} (store : Store)

/-- The claims under the keys that are gone are not found, and all others are. -/
theorem find?_withoutClaims (key : String) :
    (store.withoutClaims gone).find? key =
      if key ∈ gone then none else (store.find? key : Option Claim) :=
  store.claims.get?_without

/-- A claim that stays is replaced in the same way. -/
theorem replace_withoutClaims {claim : Claim} (stays : Resource.key claim ∉ gone) :
    (store.withoutClaims gone).replace claim =
      ((store.replace claim).1, (store.replace claim).2.withoutClaims gone) := by
  have saved (object : Claim) (same : Resource.key object = Resource.key claim) :
      (store.withoutClaims gone).save object =
        ((store.save object).1, (store.save object).2.withoutClaims gone) := by
    have place : Resource.key (store.save object).1 ∉ gone := by
      rw [save_fst, key_stamped, same]
      exact stays
    have table : (store.claims.without gone).set _ (store.save object).1 = _ :=
      store.claims.set_without place (store.save object).1
    exact congrArg (fun claims : Table Claim => ((store.save object).1,
      { store with revision := store.revision + 1, claims })) table
  have overwritten (object : Claim) (same : Resource.key object = Resource.key claim) :
      (store.withoutClaims gone).overwrite object =
        ((store.overwrite object).1, (store.overwrite object).2.withoutClaims gone) := by
    simp only [overwrite, saved object same]
    split
    · have table := (store.save object).2.claims.erase_without gone
        (Resource.key (store.save object).1)
      exact congrArg (fun claims : Table Claim => (Except.ok (store.save object).1,
        { (store.save object).2 with claims })) table
    · rfl
  -- The stored version is the same, as the claim stays.
  have found : (store.withoutClaims gone).current claim = store.current claim := by
    rw [current, find?_withoutClaims, if_neg stays, current]
  simp only [replace, found]
  cases store.current claim with
  | error cause => rfl
  | ok stored => exact overwritten _ rfl

/-- The claims that are left are listed in their order. -/
theorem list_withoutClaims (orderly : store.Orderly Claim) (space : String) :
    (store.withoutClaims gone).list space =
      (store.list space : List Claim).filter fun claim => !gone.contains (Resource.key claim) := by
  -- Claims lie under their own keys, so leaving out keys is leaving out claims.
  have values : (store.claims.without gone).values =
      store.claims.values.filter fun claim => !gone.contains (Resource.key claim) := by
    simp only [Table.values, Table.without, List.filter_map]
    refine congrArg _ (List.filter_congr fun entry known => ?_)
    have place : Resource.key entry.2 = entry.1 := orderly.placed (Table.get?_of_mem known)
    rw [Function.comp, place]
  show (store.claims.without gone).values.filter _ = (store.claims.values.filter _).filter _
  rw [values, List.filter_filter, List.filter_filter]
  simp only [Bool.and_comm]

/-- A claim that is not refused stands in a plan as before once the refused ones are left out. -/
theorem learns_planFor_filter {group : Group} {groups : List Group} {keep : Claim → Bool}
    {claims : List Claim} {plan : MembershipPlan}
    (learnt : store.learns (group.planFor groups claims) = .ok plan)
    (kept : ∀ claim ∈ claims, keep claim = false ↔
      ∃ cause, store.learns (group.standing groups claim) = .ok (.rejected cause)) :
    store.learns (group.planFor groups (claims.filter keep)) =
      .ok { plan with rejected := [] } := by
  -- The induction goes along the claims, as the plan does.
  induction claims generalizing plan with
  | nil =>
    obtain rfl : ({} : MembershipPlan) = plan := Except.ok.inj learnt
    rfl
  | cons claim rest ih =>
    obtain ⟨here, later⟩ := List.forall_mem_cons.mp kept
    simp only [Group.planFor, learns_bind] at learnt
    cases first : store.learns (group.standing groups claim) with
    | error error => simp [first, Except.bind] at learnt
    | ok standing =>
      cases others : store.learns (group.planFor groups rest) with
      | error error => simp [first, others, Except.bind] at learnt
      | ok sofar =>
        obtain rfl : sofar.cons claim standing = plan := by
          simpa [first, others, Except.bind] using learnt
        have left := ih others later
        rw [first] at here
        cases standing with
        -- The refused claim is left out, and so is its place in the plan.
        | rejected cause =>
          rw [List.filter_cons, if_neg (by simp [here.mpr ⟨cause, rfl⟩]), left]
          rfl
        -- Any other claim is still there and stands as it did.
        | irrelevant | departed | waiting | member =>
          have stays : keep claim = true := by simpa using here
          rw [List.filter_cons, if_pos stays, Group.planFor, learns_bind, first]
          simp only [Except.bind, learns_bind, left]
          rfl

namespace Intends

variable {store} {group : Group} {space : String} {plan : MembershipPlan}

/-- Without the claims that it may not take a group plans the same for all others. -/
theorem withoutRefused (intends : store.Intends group space plan) :
    (store.withoutClaims plan.refusedKeys).learns (group.plan (store.list space)) =
      .ok { plan with rejected := [] } := by
  -- Where a claim stands does not depend on the claims of the store.
  have idle := (Attempt.asks_planFor group (store.list space)
    ((sortedByName (store.list space)).filter fun claim =>
      !plan.refusedKeys.contains (Resource.key claim))).idly
  have same : (store.withoutClaims plan.refusedKeys).learns _ = store.learns _ :=
    learns_of_asks idle rfl
  have planned := (learns_plan intends.inSpace).symm.trans intends.planned
  rw [learns_plan intends.inSpace, list_withoutClaims _ intends.tidy.claims, sortedByName_filter,
    same]
  refine learns_planFor_filter _ planned fun claim known => ?_
  obtain ⟨⟨key, found⟩, room⟩ := mem_list.mp (mem_sortedByName.mp known)
  -- What is left out are just the claims that are refused.
  simp only [Bool.not_eq_false', List.contains_iff_mem, MembershipPlan.refusedKeys, List.mem_map]
  constructor
  · rintro ⟨entry, refused, same⟩
    -- A claim under the key of a refused one is that one.
    have stands := intends.mem_rejected.mp refused
    have there := intends.found_of_stands stands
    rw [same, intends.tidy.claims.placed found, found] at there
    obtain rfl := Option.some.inj there
    exact ⟨entry.2, stands.2⟩
  · -- A claim that is refused is among those of the plan.
    rintro ⟨cause, learnt⟩
    exact ⟨(claim, cause), intends.mem_rejected.mpr ⟨⟨⟨key, found⟩, room⟩, learnt⟩, rfl⟩

end Intends

end Store

end VolumeGroups
