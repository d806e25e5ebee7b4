import VolumeGroups.Proofs.Operator.Live
import VolumeGroups.Proofs.Solo.Frame
import VolumeGroups.Proofs.Solo.Planning

/-! A group that takes up where a pass over it left off plans for the same members and the same
refusals, since a claim that the pass took is listed and everything else is as it was. -/

namespace VolumeGroups

namespace Table

variable {α : Type}

/-- Setting a key that is there replaces its entry in place. -/
theorem entries_set {table : Table α} {key : String} {value old : α}
    (there : table.get? key = some old) :
    (table.set key value).entries =
      table.entries.map fun entry => if entry.1 = key then (entry.1, value) else entry := by
  have present : key ∈ table.entries.map Prod.fst := List.mem_map_of_mem (mem_of_get? there)
  have distinct := table.distinct
  simp only [set]
  generalize table.entries = entries at present distinct
  -- The induction follows the walk to the key's place, behind which the key does not occur.
  induction entries with
  | nil => simp at present
  | cons entry rest ih =>
    rcases entry with ⟨other, stored⟩
    simp only [List.map_cons, List.nodup_cons] at distinct
    -- The key is here, or it is further behind.
    by_cases here : other = key
    · subst here
      have later : ∀ entry ∈ rest, entry.1 ≠ other := fun entry known same =>
        distinct.1 (same ▸ List.mem_map_of_mem known)
      have kept : rest.map (fun entry => if entry.1 = other then (entry.1, value) else entry) = rest := by
        rw [List.map_congr_left fun entry known => if_neg (later entry known), List.map_id']
      simp [setEntry, kept]
    · have behind : key ∈ rest.map Prod.fst := by
        simpa [Ne.symm here] using present
      simp [setEntry, here, ih behind distinct.2]

end Table

namespace Claim.Continues

variable {claim later : Claim} (continues : claim.Continues later)
include continues

/-- A later form of a claim has the same name. -/
theorem name : later.metadata.name = claim.metadata.name := by
  rw [continues.metadata]

/-- A later form of a claim is in the same namespace. -/
theorem «namespace» : later.metadata.namespace = claim.metadata.namespace := by
  rw [continues.metadata]

/-- A later form of a claim goes by the same name. -/
theorem displayName : Resource.displayName later = Resource.displayName claim := by
  change later.metadata.displayName = claim.metadata.displayName
  rw [continues.metadata]
  rfl

/-- A later form of a claim has the same key. -/
theorem key : Resource.key later = Resource.key claim := continues.metadata.key

/-- A later form of a claim is bound to the same volume. -/
theorem volumeName? : later.volumeName? = claim.volumeName? := by
  rw [Claim.volumeName?, Claim.volumeName?, continues.spec]

/-- A later form of a claim asks for the same class of volumes. -/
theorem storageClassName? : later.storageClassName? = claim.storageClassName? := by
  rw [Claim.storageClassName?, Claim.storageClassName?, continues.spec]

/-- A later form of a claim is listed by the same groups. -/
theorem lists (group : Group) : group.lists later = group.lists claim := by
  rw [Group.lists, Group.lists, continues.name, continues.namespace]

/-- A later form of a claim is selected by the same groups, and by their later forms. -/
theorem selects {group own : Group} (same : group.Continues own) :
    own.selects later = group.selects claim := by
  have labels : later.labels = claim.labels := by
    rw [Claim.labels, Claim.labels, continues.metadata]
  rw [Group.selects, Group.selects, continues.namespace, same.namespace, same.selector_eq, labels,
    same.name]

end Claim.Continues

namespace Store

variable {start now : Store}

/-- What is only read from tables that stay is told in the same way. -/
theorem tells_of_isIdle (grounds : now.grounds = start.grounds) {request : Call}
    (idle : request.IsIdle) : now.tells request = start.tells request := by
  -- Idle calls ask for classes, volumes, secrets and classes of volumes only.
  obtain ⟨classes, rest⟩ := Prod.mk.inj grounds
  obtain ⟨volumes, rest⟩ := Prod.mk.inj rest
  obtain ⟨secrets, storageClasses⟩ := Prod.mk.inj rest
  cases request <;> first
    | exact idle.elim
    | rfl
    | simp only [tells, Rehearsal.serve, get, find?, Stored.table, classes, volumes, secrets,
        storageClasses]

/-- Of what is only read from tables that stay, the same is learnt. -/
theorem learns_of_asks {ε α : Type} {gives : α → Prop} {attempt : Attempt ε α}
    (asks : attempt.Asks Call.IsIdle gives) (grounds : now.grounds = start.grounds) :
    now.learns attempt = start.learns attempt := by
  have same {β : Type} {gives : β → Prop} {program : Program β} (asks : program.Asks Call.IsIdle gives) :
      (program.run (fun (state : Unit) request => (now.tells request, state)) ()).1 =
        (program.run (fun (state : Unit) request => (start.tells request, state)) ()).1 := by
    -- The induction goes along the calls, each of which is answered in the same way.
    induction program with
    | done value => rfl
    | call request next ih =>
      simp only [Program.run, tells_of_isIdle grounds asks.1]
      exact ih _ (asks.2 _)
  exact same asks

/-- What is learnt is what an attempt gives. -/
theorem gives_of_learns {ε α : Type} {store : Store} {calls : Call → Prop} {gives : α → Prop}
    {attempt : Attempt ε α} (asks : attempt.Asks calls gives) {value : α}
    (learnt : store.learns attempt = .ok value) : gives value := by
  -- The induction goes along the program.
  have ends {β : Type} {gives : β → Prop} {program : Program β} (asks : program.Asks calls gives) :
      gives (program.run (fun (state : Unit) request => (store.tells request, state)) ()).1 := by
    induction program with
    | done value => exact asks
    | call request next ih => exact ih _ (asks.2 _)
  have given := ends asks
  have told : (attempt.run.run (fun (state : Unit) request => (store.tells request, state)) ()).1 =
      .ok value := learnt
  rw [told] at given
  exact given

variable {claim later : Claim}

/-- A claim that is admitted as a member is one as soon as it is listed. -/
theorem settles_of_admits {store : Store} {groups : List Group} {volumeName volumeId : String}
    (admitted : store.admits groups claim = .ok (.member volumeName volumeId)) :
    store.settles claim = .ok (.member volumeName volumeId) := by
  simp only [admits] at admitted
  -- A claim is admitted once no guard speaks against it.
  split at admitted
  · cases admitted
  · cases guarded : store.learns (storageClassGuard claim) with
    | error error => simp [guarded, Except.bind] at admitted
    | ok refusal =>
      cases refusal with
      | some cause => simp [guarded, Except.bind] at admitted
      | none => simpa [guarded, Except.bind] using admitted

/-- A later form of a claim is bound as before. -/
theorem settles_of_continues (grounds : now.grounds = start.grounds)
    (continues : claim.Continues later) : now.settles later = start.settles claim := by
  have same : boundVolume later = boundVolume claim := by
    rw [boundVolume, boundVolume, continues.volumeName?, continues.key]
  rw [settles, settles, same, learns_of_asks (Attempt.asks_boundVolume claim).idly grounds]

/-- A later form of a claim is refused for its class of volumes if it was before. -/
theorem guard_of_continues (grounds : now.grounds = start.grounds)
    (continues : claim.Continues later) :
    now.learns (storageClassGuard later) = start.learns (storageClassGuard claim) := by
  have same : storageClassGuard later = storageClassGuard claim := by
    rw [storageClassGuard, storageClassGuard, continues.storageClassName?, continues.key]
  rw [same, learns_of_asks (Attempt.asks_storageClassGuard claim).idly grounds]

/-- A later form of a claim is admitted as before if no other group came or went for it. -/
theorem admits_of_continues (grounds : now.grounds = start.grounds)
    (continues : claim.Continues later) {before after : List Group}
    (exclusive : checkExclusive later after = checkExclusive claim before) :
    now.admits after later = start.admits before claim := by
  rw [admits, admits, exclusive, settles_of_continues grounds continues,
    guard_of_continues grounds continues]

/-- The plan names the claims that the group has. -/
theorem Intends.mem_claimNames {store : Store} {group : Group} {space : String}
    {plan : MembershipPlan} (intends : store.Intends group space plan) {key : String} {claim : Claim}
    (found : store.find? key = some claim) (inSpace : claim.metadata.namespace = some space) :
    (∃ name ∈ plan.claimNames, some name = claim.metadata.name) ↔ ∃ volumeName volumeId,
      store.learns (group.standing (store.list space) claim) =
        .ok (.member volumeName volumeId) := by
  -- A name on the plan is that of a member, and a member is on the plan by its name.
  constructor
  · rintro ⟨name, planned, named⟩
    obtain ⟨member, known, goes⟩ := List.mem_map.mp planned
    obtain ⟨⟨⟨place, there⟩, room⟩, learnt⟩ := intends.mem_members.mp known
    -- The member of that name in the namespace is the claim.
    have itself : member.claim = claim := by
      refine intends.tidy.claim_eq there found (room.trans inSpace.symm) ?_
      exact (intends.tidy.claim_name there goes).trans named
    exact ⟨_, _, itself ▸ learnt⟩
  · rintro ⟨volumeName, volumeId, learnt⟩
    have known : (⟨claim, volumeName, volumeId⟩ : Member) ∈ plan.members :=
      intends.mem_members.mpr ⟨⟨⟨key, found⟩, inSpace⟩, learnt⟩
    exact ⟨_, List.mem_map_of_mem known, (intends.tidy.claim_name found rfl).symm⟩

/-- A group that is overwritten and stays is found in its place among the groups. -/
theorem groups_overwrite {own later : Group} {place : String}
    (held : later.metadata.isForsaken = false) (found : start.find? place = some own)
    (here : Resource.key later = place) :
    (start.overwrite later).2.groups.entries = start.groups.entries.map fun entry =>
      if entry.1 = place then (entry.1, start.stamped later) else entry := by
  -- The table sets the key in place.
  have table : Stored.table (α := Group) (start.overwrite later).2 =
      (Stored.table start).set (Resource.key later) (start.stamped later) := table_overwrite held
  have there : start.groups.get? place = some own := found
  rw [here] at table
  exact (congrArg Table.entries table).trans (Table.entries_set there)

/-- A store after calls of passes over a group, as far as what the group plans depends on it. -/
structure Reflects (group : Group) (plan : MembershipPlan) (start now : Store) (own : Group) :
    Prop where
  -- Only this group and its content may differ, and claims in their marks.
  beside : start.Beside (Resource.key group) group.contentKey now
  found : now.find? (Resource.key group) = some own
  continues : group.Continues own
  -- The group lists what it listed, or what is planned.
  members : own.members = group.members ∨ own.members = plan.claimNames
  /-- The groups are in the order that they had, with the new form of the group in its place. -/
  turned : now.groups.entries = start.groups.entries.map fun entry =>
    if entry.1 = Resource.key group then (entry.1, own) else entry
  -- Refused claims are not touched.
  refused : ∀ entry ∈ plan.rejected, now.find? (Resource.key entry.1) = some entry.1

namespace Reflects

variable {group own : Group} {plan : MembershipPlan} {space : String}

/-- A store reflects itself. -/
theorem refl (intends : start.Intends group space plan) :
    start.Reflects group plan start group where
  beside := .refl intends.tidy
  found := intends.found
  continues := .refl group
  members := .inl rfl
  turned := by
    -- Under the key of the group there is the group.
    have same : ∀ entry ∈ start.groups.entries,
        (if entry.1 = Resource.key group then (entry.1, group) else entry) = entry := by
      intro entry known
      split
      · rename_i here
        have there : start.find? entry.1 = some entry.2 := Table.get?_of_mem known
        rw [here, intends.found] at there
        rw [Option.some.inj there]
      · rfl
    rw [List.map_congr_left same, List.map_id']
  refused entry known := by
    obtain ⟨⟨⟨key, found⟩, _⟩, _⟩ := intends.mem_rejected.mp known
    exact (intends.tidy.claims.placed found).symm ▸ found

/-- A claim of the namespace was stored there at the start. -/
theorem origin (reflects : start.Reflects group plan now own) {key : String} {claim : Claim}
    (there : now.find? key = some claim)
    (inSpace : claim.metadata.namespace = some space) : ∃ first : Claim,
      start.find? key = some first ∧ first.Continues claim ∧
        first.metadata.namespace = some space := by
  obtain ⟨first, found, continues⟩ := reflects.beside.origin there
  exact ⟨first, found, continues, continues.namespace.symm.trans inSpace⟩

variable (intends : start.Intends group space plan) (reflects : start.Reflects group plan now own)
include intends reflects

/-- The groups of the namespace are found in the order that they had. -/
theorem list_eq : now.list space = (start.list space).map fun other =>
    if Resource.key other = Resource.key group then own else other := by
  have ownSpace := reflects.continues.namespace.trans intends.inSpace
  -- The table lists the same keys in the same order.
  have values : now.groups.values = start.groups.values.map fun other =>
      if Resource.key other = Resource.key group then own else other := by
    simp only [Table.values, reflects.turned, List.map_map]
    refine List.map_congr_left fun entry known => ?_
    have place : Resource.key entry.2 = entry.1 :=
      intends.tidy.groups.placed (Table.get?_of_mem known)
    simp only [Function.comp, place]
    split <;> rfl
  simp only [list, Stored.table, values, List.filter_map]
  congr 1
  refine List.filter_congr fun other known => ?_
  obtain ⟨key, there⟩ := Table.mem_values.mp known
  simp only [Function.comp]
  split
  · rename_i here
    -- The group itself lies under its key, and its later form is in the same namespace.
    have place : Resource.key other = key := intends.tidy.groups.placed there
    have there : start.find? key = some other := there
    rw [← place, here, intends.found] at there
    rw [← Option.some.inj there]
    simp [Resource.metadata, ownSpace, intends.inSpace]
  · rfl

/-- The groups of some sort have the names that they had if the group is of that sort as before. -/
theorem names_eq {keeps : Group → Bool} (same : keeps own = keeps group) :
    ((now.list space).filter keeps).map Group.name =
      ((start.list space).filter keeps).map Group.name := by
  -- Only the group itself lies under its key.
  have only : ∀ other ∈ start.list space, Resource.key other = Resource.key group →
      other = group := by
    intro other known here
    have there := intends.tidy.groups.found_of_mem_list known
    rw [here, intends.found] at there
    exact (Option.some.inj there).symm
  rw [reflects.list_eq intends, List.filter_map, List.map_map]
  -- Replacing the group does not change which groups are kept.
  have kept : ∀ other ∈ start.list space, (keeps ∘ fun other =>
      if Resource.key other = Resource.key group then own else other) other = keeps other := by
    intro other known
    simp only [Function.comp]
    split
    · rename_i here
      rw [only other known here, same]
    · rfl
  rw [List.filter_congr kept]
  refine List.map_congr_left fun other known => ?_
  simp only [Function.comp]
  split
  · rename_i here
    rw [only other (List.mem_filter.mp known).1 here, reflects.continues.name]
  · rfl

/-- Whether a claim may join depends on the group's list as far as the claim is on it. -/
theorem checkExclusive_eq {claim later : Claim} (continues : claim.Continues later)
    (listed : own.lists later = group.lists claim) :
    checkExclusive later (now.list space) = checkExclusive claim (start.list space) := by
  -- The snapshots differ in the group alone, which seeks and lists the claim as it did.
  have everywhere (other : Group) : other.seeks later = other.seeks claim := by
    rw [Group.seeks, Group.seeks, continues.lists, continues.selects (.refl other)]
  have here : own.lists claim = group.lists claim := (continues.lists own).symm.trans listed
  have listing : groupsListing later (now.list space) = groupsListing claim (start.list space) := by
    simp only [groupsListing, continues.lists]
    exact reflects.names_eq intends here
  have seeking : groupsSeeking later (now.list space) = groupsSeeking claim (start.list space) := by
    simp only [groupsSeeking, everywhere]
    refine reflects.names_eq intends ?_
    rw [Group.seeks, Group.seeks, here, reflects.continues.isTerminating,
      (Claim.Continues.refl claim).selects reflects.continues]
  rw [checkExclusive, checkExclusive, listing, seeking, continues.key]

/-- A group that lists what it listed plans the same as long as the claims stay. -/
theorem intends_of_members (same : own.members = group.members)
    (claims : now.claims = start.claims) : now.Intends own space plan := by
  have place : Resource.key own = Resource.key group := reflects.continues.metadata.key
  have ownSpace := reflects.continues.namespace.trans intends.inSpace
  -- Every claim stands where it stood, as the lists are the same.
  have stands (claim : Claim) :
      own.standing (now.list space) claim = group.standing (start.list space) claim := by
    have listed : own.lists claim = group.lists claim := by
      rw [Group.lists, Group.lists, same, reflects.continues.namespace]
    have selected := (Claim.Continues.refl claim).selects reflects.continues
    have exclusive := reflects.checkExclusive_eq intends (.refl claim) listed
    simp only [Group.standing, listed, selected, exclusive]
  -- The plan is made of where each claim stands, and the claims are the same.
  have plans (claims : List Claim) :
      own.planFor (now.list space) claims = group.planFor (start.list space) claims := by
    induction claims with
    | nil => rfl
    | cons claim rest ih => rw [Group.planFor, Group.planFor, stands, ih]
  have listed : (now.list space : List Claim) = start.list space := by
    simp only [list, Stored.table, claims]
  -- Only tables that nobody writes are looked at in making a plan.
  have idle := (Attempt.asks_planFor group (start.list space) (sortedByName (start.list space))).idly
  refine ⟨reflects.beside.tidy, place ▸ reflects.found, ownSpace, ?_⟩
  rw [learns_plan ownSpace, plans, listed, learns_of_asks idle reflects.beside.grounds,
    ← learns_plan intends.inSpace, intends.planned]

/-- A claim that the group now lists was listed before, or is a member of the plan. -/
theorem lists_cases {key : String} {claim : Claim} (found : start.find? key = some claim)
    (inSpace : claim.metadata.namespace = some space) :
    own.lists claim = group.lists claim ∨
      (own.lists claim = true ↔ ∃ volumeName volumeId,
        start.learns (group.standing (start.list space) claim) =
          .ok (.member volumeName volumeId)) := by
  -- The list is still the old one, or it is that of the plan.
  rcases reflects.members with same | same
  · left
    rw [Group.lists, Group.lists, same, reflects.continues.namespace]
  · right
    have room : claim.metadata.namespace = own.metadata.namespace :=
      inSpace.trans (reflects.continues.namespace.trans intends.inSpace).symm
    rw [Group.lists_iff, same, ← intends.mem_claimNames found inSpace]
    exact ⟨And.right, fun named => ⟨room, named⟩⟩

/-- A claim that the group does not want is none of its members, and departs at most if it is listed. -/
theorem standing_of_not_wants {key : String} {claim later : Claim}
    (found : start.find? key = some claim) (inSpace : claim.metadata.namespace = some space)
    (continues : claim.Continues later) (unwanted : ¬ group.Wants claim) :
    now.learns (own.standing (now.list space) later) = .ok (spurned own later) ∧
      start.learns (group.standing (start.list space) claim) = .ok (spurned group claim) := by
  -- The claim could be placed at the start, so its labels could be matched or did not matter.
  obtain ⟨standing, placed⟩ := intends.plans.placed claim
    (mem_sortedByName.mpr (mem_list.mpr ⟨⟨key, found⟩, inSpace⟩))
  have clear := clear_of_learns_standing placed
  refine ⟨learns_standing_of_not_wants (mt (reflects.continues.wants continues).mp unwanted) ?_,
    learns_standing_of_not_wants unwanted clear⟩
  have live : later.metadata.isTerminating = claim.metadata.isTerminating := by
    rw [continues.metadata]
    rfl
  rw [live, continues.selects reflects.continues]
  exact clear

/-- Nothing departs once the group's list is that of the plan. -/
theorem departed_eq_nil {later : MembershipPlan} (again : now.Intends own space later)
    (recorded : own.members = plan.claimNames) : later.departed = [] := by
  -- What is listed now is a member of the plan, and therefore wanted.
  refine List.eq_nil_iff_forall_not_mem.mpr fun claim known => ?_
  obtain ⟨⟨⟨key, there⟩, room⟩, learnt⟩ := again.mem_departed.mp known
  obtain ⟨unwanted, listed⟩ :=
    gives_of_learns (Attempt.asks_standing own (now.list space) claim) learnt
  obtain ⟨first, found, continues, inSpace⟩ := reflects.origin there room
  obtain ⟨_, name, planned, named⟩ := Group.lists_iff.mp listed
  obtain ⟨_, _, member⟩ := (intends.mem_claimNames found inSpace).mp
    ⟨name, recorded ▸ planned, named.trans continues.name⟩
  have wants := (gives_of_learns (Attempt.asks_standing group _ first) member).1
  exact unwanted ((reflects.continues.wants continues).mpr wants)

variable (bound : ∀ {key : String} {claim : Claim}, start.find? key = some claim →
  group.lists claim = true → group.Wants claim → claim.volumeName?.isSome = true)
include bound

/-- A claim that the group wants stands where it stood. -/
theorem standing_of_wants {key : String} {claim later : Claim}
    (found : start.find? key = some claim) (continues : claim.Continues later)
    (wants : group.Wants claim) :
    now.learns (own.standing (now.list space) later) =
      start.learns (group.standing (start.list space) claim) := by
  have inSpace : claim.metadata.namespace = some space := wants.namespace.trans intends.inSpace
  -- What the claim is bound to is told as it was.
  have settled := settles_of_continues reflects.beside.grounds continues
  obtain ⟨standing, placed⟩ := intends.plans.placed claim
    (mem_sortedByName.mpr (mem_list.mpr ⟨⟨key, found⟩, inSpace⟩))
  have stands := gives_of_learns (Attempt.asks_standing group (start.list space) claim) placed
  have before : start.learns (group.standing (start.list space) claim) =
      if group.lists claim then start.settles claim else start.admits (start.list space) claim :=
    learns_standing_of_wants wants
  rw [learns_standing_of_wants ((reflects.continues.wants continues).mpr wants), before,
    continues.lists]
  -- The list may have gained or lost the claim since.
  by_cases same : own.lists claim = group.lists claim
  · -- Listed or not as before, the claim is told of in the same way.
    have admitted := admits_of_continues reflects.beside.grounds continues
      (reflects.checkExclusive_eq intends continues ((continues.lists own).trans same))
    rw [same, settled, admitted]
  · have taken := (reflects.lists_cases intends found inSpace).resolve_left same
    cases listed : group.lists claim with
    | true =>
      -- A claim that was listed is bound, and then it is a member that the list names.
      rw [listed] at same
      refine absurd (taken.mpr ?_) same
      cases standing with
      | member volumeName volumeId => exact ⟨_, _, placed⟩
      | waiting =>
        have free : claim.volumeName? = none := stands.2
        simpa [free] using bound found listed wants
      | rejected cause =>
        have unlisted : group.lists claim = false := stands.2.1
        simp [listed] at unlisted
      | departed => exact absurd wants stands.1
      | irrelevant => exact absurd wants stands
    | false =>
      -- A claim that the list has by now was admitted as a member, and now only its volume is asked for.
      have now : own.lists claim = true := by simpa [listed] using same
      obtain ⟨volumeName, volumeId, learnt⟩ := taken.mp now
      rw [before, listed] at learnt
      have alike := settles_of_admits learnt
      rw [now, settled]
      simp only [if_true, Bool.false_eq_true, if_false] at learnt ⊢
      rw [alike, learnt]

/-- The group can plan again. -/
theorem exists_intends : ∃ later, now.Intends own space later := by
  have ownSpace := reflects.continues.namespace.trans intends.inSpace
  have place : Resource.key own = Resource.key group := reflects.continues.metadata.key
  obtain ⟨later, learnt⟩ : ∃ later,
      now.learns (own.planFor (now.list space) (sortedByName (now.list space))) = .ok later := by
    -- Each claim can be placed, since it could be at the start.
    refine exists_learns_planFor fun claim known => ?_
    obtain ⟨⟨key, there⟩, room⟩ := mem_list.mp (mem_sortedByName.mp known)
    obtain ⟨first, found, continues, inSpace⟩ := reflects.origin there room
    by_cases wants : group.Wants first
    · rw [reflects.standing_of_wants intends bound found continues wants]
      exact intends.plans.placed first
        (mem_sortedByName.mpr (mem_list.mpr ⟨⟨key, found⟩, inSpace⟩))
    · exact ⟨_, (reflects.standing_of_not_wants intends found inSpace continues wants).1⟩
  exact ⟨later, reflects.beside.tidy, place ▸ reflects.found, ownSpace,
    (learns_plan ownSpace).trans learnt⟩

/-- What stands now, unless it is spurned, stood so at the start. -/
theorem stood {key : String} {claim : Claim} {standing : Standing}
    (there : now.find? key = some claim) (inSpace : claim.metadata.namespace = some space)
    (learnt : now.learns (own.standing (now.list space) claim) = .ok standing)
    (wanted : standing ≠ spurned own claim) : ∃ first : Claim, start.find? key = some first ∧
      first.Continues claim ∧ first.metadata.namespace = some space ∧
      start.learns (group.standing (start.list space) first) = .ok standing := by
  -- The claim was there at the start.
  obtain ⟨first, found, continues, room⟩ := reflects.origin there inSpace
  refine ⟨first, found, continues, room, ?_⟩
  by_cases wants : group.Wants first
  · rw [← reflects.standing_of_wants intends bound found continues wants, learnt]
  · have spurns := (reflects.standing_of_not_wants intends found room continues wants).1
    exact absurd (Except.ok.inj (learnt.symm.trans spurns)) wanted

/-- What stood at the start, unless it was spurned, is stored now and stands as it stood. -/
theorem stands {key : String} {claim : Claim} {standing : Standing}
    (found : start.find? key = some claim) (inSpace : claim.metadata.namespace = some space)
    (learnt : start.learns (group.standing (start.list space) claim) = .ok standing)
    (wanted : standing ≠ spurned group claim) : ∃ last : Claim, now.find? key = some last ∧
      claim.Continues last ∧ last.metadata.namespace = some space ∧
      now.learns (own.standing (now.list space) last) = .ok standing := by
  -- A wanted claim does not end, so it is still there.
  by_cases wants : group.Wants claim
  · obtain ⟨last, there⟩ := reflects.beside.stays found wants.1
    obtain ⟨first, same, continues⟩ := reflects.beside.origin there
    obtain rfl : claim = first := Option.some.inj (found.symm.trans same)
    refine ⟨last, there, continues, continues.namespace.trans inSpace, ?_⟩
    rw [reflects.standing_of_wants intends bound found continues wants, learnt]
  · have spurns :=
      (reflects.standing_of_not_wants intends found inSpace (.refl claim) wants).2
    exact absurd (Except.ok.inj (learnt.symm.trans spurns)) wanted

/-- The group plans again for the same members with the same volumes. -/
theorem entries_eq {later : MembershipPlan} (again : now.Intends own space later) :
    later.members.map Member.entry = plan.members.map Member.entry := by
  -- Both lists are in the order of names, so their members decide.
  refine eq_of_named Prod.fst again.entries_ordered intends.entries_ordered ?_
  rintro ⟨name, volumeName, volumeId⟩
  constructor
  · intro known
    obtain ⟨member, planned, entry⟩ := List.mem_map.mp known
    obtain ⟨⟨⟨key, there⟩, room⟩, learnt⟩ := again.mem_members.mp planned
    obtain ⟨first, found, continues, inSpace, stood⟩ :=
      reflects.stood intends bound there room learnt (member_ne_spurned _ _ _ _)
    refine List.mem_map.mpr ⟨⟨first, _, _⟩,
      intends.mem_members.mpr ⟨⟨⟨key, found⟩, inSpace⟩, stood⟩, ?_⟩
    rw [← entry, Member.entry, Member.entry, continues.displayName]
  · intro known
    obtain ⟨member, planned, entry⟩ := List.mem_map.mp known
    obtain ⟨⟨⟨key, found⟩, inSpace⟩, learnt⟩ := intends.mem_members.mp planned
    obtain ⟨last, there, continues, room, stands⟩ :=
      reflects.stands intends bound found inSpace learnt (member_ne_spurned _ _ _ _)
    refine List.mem_map.mpr ⟨⟨last, _, _⟩,
      again.mem_members.mpr ⟨⟨⟨key, there⟩, room⟩, stands⟩, ?_⟩
    rw [← entry, Member.entry, Member.entry, continues.displayName]

/-- The group plans again for the same members with the same volumes and meets the same refusals. -/
theorem agrees {later : MembershipPlan} (again : now.Intends own space later) :
    plan.Agrees later := by
  -- Members agree as above; refused claims are in the order of names as well.
  refine ⟨reflects.entries_eq intends bound again,
    eq_of_named (fun entry : Claim × Rejection => Resource.displayName entry.1)
      again.rejected_ordered intends.rejected_ordered ?_⟩
  rintro ⟨claim, cause⟩
  -- A refused claim has not been touched.
  have kept {key : String} {first : Claim} (found : start.find? key = some first)
      (refused : (first, cause) ∈ plan.rejected) : now.find? key = some first := by
    have there := reflects.refused _ refused
    rwa [intends.tidy.claims.placed found] at there
  constructor
  · intro known
    obtain ⟨⟨⟨key, there⟩, room⟩, learnt⟩ := again.mem_rejected.mp known
    obtain ⟨first, found, _, inSpace, stood⟩ :=
      reflects.stood intends bound there room learnt (rejected_ne_spurned _ _ _)
    have refused := intends.mem_rejected.mpr ⟨⟨⟨key, found⟩, inSpace⟩, stood⟩
    obtain rfl := Option.some.inj (there.symm.trans (kept found refused))
    exact refused
  · intro known
    obtain ⟨⟨⟨key, found⟩, inSpace⟩, learnt⟩ := intends.mem_rejected.mp known
    obtain ⟨last, there, _, room, stands⟩ :=
      reflects.stands intends bound found inSpace learnt (rejected_ne_spurned _ _ _)
    obtain rfl := Option.some.inj (there.symm.trans (kept found known))
    exact again.mem_rejected.mpr ⟨⟨⟨key, there⟩, room⟩, stands⟩

end Reflects

end Store

end VolumeGroups
