import VolumeGroups.Proofs.Membership.Placing
import VolumeGroups.Proofs.Operator.Common
import VolumeGroups.Proofs.Records.Frame
import VolumeGroups.Proofs.Solo.Writing

/-! What a pass reads and marks before it goes to the driver, in a cluster that it has to itself and in
which any call may fail in any way. -/

namespace VolumeGroups

namespace Conditions

/-- A single pass that has the cluster to itself, and any of whose calls may fail in any way. -/
def brittle (driver : String) : Conditions where
  driver := driver
  visits _ := False
  fails := Call.FailsWith

/-- Nobody else writes. -/
theorem brittle_still (driver : String) : (brittle driver).Still := fun _ _ => id

end Conditions

namespace Scene

/-- Neither a group nor a claim was written in between, nor a volume. -/
structure Spares (before after : Scene) : Prop where
  groups : after.store.groups = before.store.groups
  claims : after.store.claims = before.store.claims
  volumes : after.store.volumes = before.store.volumes
  log : Extends Call.IsPlain before.exchanges after.exchanges

/-- A group is stored in some form, and no claim was written in between, nor a volume. -/
structure Renews (before after : Scene) (place : String) (own : Group) : Prop where
  found : after.store.find? place = some own
  claims : after.store.claims = before.store.claims
  volumes : after.store.volumes = before.store.volumes
  log : Extends (fun request => ∀ claim, request ≠ .replaceClaim claim) before.exchanges
    after.exchanges

/-- Nothing was written at all, and what was answered about volumes is what is stored. -/
structure OnlyLooks (before after : Scene) : Prop where
  store : after.store = before.store
  log : ∃ made, after.exchanges = made ++ before.exchanges ∧
    ∀ exchange ∈ made, exchange.request.IsPeek ∧ ∀ name volume,
      exchange = ⟨.getVolume name, .ok volume⟩ → before.store.get name "" = .ok volume

/-- Nothing was written up to now. -/
theorem Spares.refl (scene : Scene) : scene.Spares scene := ⟨rfl, rfl, rfl, .refl _⟩

/-- What was left alone twice was left alone over both. -/
theorem Spares.trans {first second third : Scene} (before : first.Spares second)
    (after : second.Spares third) : first.Spares third where
  groups := after.groups.trans before.groups
  claims := after.claims.trans before.claims
  volumes := after.volumes.trans before.volumes
  log := before.log.trans after.log

/-- A stored group is stored in its own form. -/
theorem Renews.refl {scene : Scene} {place : String} {own : Group}
    (found : scene.store.find? place = some own) : scene.Renews scene place own :=
  ⟨found, rfl, rfl, .refl _⟩

/-- A stored group that was not written is still stored in the same form. -/
theorem Spares.renews {before after : Scene} {place : String} {own : Group}
    (spares : before.Spares after) (found : before.store.find? place = some own) :
    before.Renews after place own where
  -- The table of groups is the same.
  found := (congrArg (Table.get? · place) spares.groups).trans found
  claims := spares.claims
  volumes := spares.volumes
  -- No plain call writes a claim.
  log := spares.log.mono fun request plain claim same => by
    rw [same] at plain
    exact plain.elim

/-- Where nothing was written, neither a group nor a claim was. -/
theorem OnlyLooks.spares {before after : Scene} (onlyLooks : before.OnlyLooks after) :
    before.Spares after where
  groups := by rw [onlyLooks.store]
  claims := by rw [onlyLooks.store]
  volumes := by rw [onlyLooks.store]
  -- Looks are plain calls.
  log := by
    obtain ⟨made, log, known⟩ := onlyLooks.log
    exact ⟨made, log, fun exchange member => (known exchange member).1.isIdle.isApart.isPlain⟩

end Scene

/-- A group has a plan that rests on a store: the claims of the plan are stored, each is placed once, and
members are wanted and bound to volumes that the driver knows by the names in the plan. -/
structure Store.Supports (store : Store) (group : Group) (plan : MembershipPlan) : Prop where
  found : ∀ claim ∈ plan.concerned, store.find? (Resource.key claim) = some claim
  distinct : (plan.concerned.map Resource.key).Nodup
  wants : ∀ member ∈ plan.members,
    group.Wants member.claim ∧ member.claim.volumeName? = some member.volumeName
  served : ∀ member ∈ plan.members, ∃ volume : Volume,
    store.get member.volumeName "" = .ok volume ∧ volume.handle? = some member.volumeId

/-- A plan rests on a store as long as neither claims nor volumes are written. -/
theorem Store.Supports.later {before after : Scene} {group : Group} {plan : MembershipPlan}
    (supports : before.store.Supports group plan) (spares : before.Spares after) :
    after.store.Supports group plan where
  -- Claims are those that were listed.
  found claim known :=
    (congrArg (Table.get? · _) spares.claims).trans (supports.found claim known)
  distinct := supports.distinct
  wants := supports.wants
  -- Volumes are those that were read.
  served member planned := by
    obtain ⟨volume, read, named⟩ := supports.served member planned
    refine ⟨volume, ?_, named⟩
    rw [Store.get_eq_ok] at read ⊢
    exact (congrArg (Table.get? · _) spares.volumes).trans read

/-- Some claims carry their marks after a stretch in which nothing else was written. -/
structure Store.Marks (claims : List Claim) (before after : Store) : Prop where
  groups : after.groups = before.groups
  volumes : after.volumes = before.volumes
  others : ∀ key, key ∉ claims.map Resource.key →
    after.find? key = (before.find? key : Option Claim)
  marked : ∀ claim ∈ claims, ∃ now, after.find? (Resource.key claim) = some now ∧
    claim.Continues now ∧ now.isMarked = true

/-- A call that writes claims under some keys only. -/
def Call.WritesOnly (keys : List String) (request : Call) : Prop :=
  ∀ later, request = .replaceClaim later → Resource.key later ∈ keys

/-- One claim is marked, and then others that lie under other keys. -/
theorem Store.Marks.cons {claim : Claim} {rest : List Claim} {before middle after : Store}
    (first : Store.Marks [claim] before middle) (later : Store.Marks rest middle after)
    (apart : Resource.key claim ∉ rest.map Resource.key) :
    Store.Marks (claim :: rest) before after where
  groups := later.groups.trans first.groups
  volumes := later.volumes.trans first.volumes
  -- Neither of the two writes reaches any other key.
  others key away := by
    have split := List.mem_cons.not.mp away
    rw [later.others key fun known => split (.inr known),
      first.others key fun known => split (.inl (List.mem_singleton.mp known))]
  marked other known := by
    rcases List.mem_cons.mp known with rfl | known
    · -- The others lie elsewhere, so the mark of the first is still there.
      rw [later.others _ apart]
      exact first.marked other (List.mem_singleton_self _)
    · exact later.marked other known

section Rules

variable {driver : String} {scene : Scene} {α ε : Type}

/-- A call that is answered in a cluster without anybody else is carried out, or fails without effect. -/
theorem Program.honours_alone {request : Call} {goal : request.Answer → Scene → Prop}
    (answered : ∀ answer after, (Conditions.brittle driver).Answers scene request answer after →
      goal answer after) :
    (Program.ask request).Honours (.brittle driver) .any goal scene := by
  -- Nobody else is there, so the call meets the store as it was.
  refine .ask ?_
  intro met waits answer after answers
  obtain rfl := (Conditions.brittle_still driver).meets waits
  exact ⟨trivial, answered answer after answers⟩

/-- A plain call writes neither groups nor claims. -/
theorem Conditions.Answers.spares {request : Call} {answer : request.Answer} {after : Scene}
    (answers : (Conditions.brittle driver).Answers scene request answer after)
    (plain : request.IsPlain) : scene.Spares after := by
  -- Either the call was carried out, and plain calls leave these tables, or it failed.
  obtain ⟨log, serves | ⟨-, same⟩⟩ := answers
  · have tables := (serves.tables plain).2
    have rest := serves.sparesRest
    simp only [Prod.mk.injEq] at tables
    exact ⟨tables.1, tables.2.1, rest.2.1, log ▸ .single plain⟩
  · exact ⟨by rw [same], by rw [same], by rw [same], log ▸ .single plain⟩

namespace Attempt

/-- An attempt that makes plain calls writes neither groups nor claims. -/
theorem honours_sparing {gives : α → Prop} {attempt : Attempt ε α}
    (asks : Asks Call.IsPlain gives attempt) :
    Honours (.brittle driver) .any
      (fun result after => Gives gives result ∧ scene.Spares after) attempt scene := by
  -- The invariant of the run is that nothing was written yet.
  refine Program.Asks.honours asks scene.Spares ?_ ?_ (.refl scene)
  · intro before met spares waits
    obtain rfl := (Conditions.brittle_still driver).meets waits
    exact spares
  · intro met request answer after plain spares answers
    exact ⟨trivial, spares.trans (answers.spares plain)⟩

/-- An attempt that only peeks writes nothing, and is told of volumes as they are stored. -/
theorem honours_peeking {gives : α → Prop} {attempt : Attempt ε α}
    (asks : Asks Call.IsPeek gives attempt) :
    Honours (.brittle driver) .any
      (fun result after => Gives gives result ∧ scene.OnlyLooks after) attempt scene := by
  -- The invariant of the run is that the store is the same and that what was read is stored.
  refine Program.Asks.honours asks scene.OnlyLooks ?_ ?_ ⟨rfl, [], rfl, by simp⟩
  · intro before met onlyLooks waits
    obtain rfl := (Conditions.brittle_still driver).meets waits
    exact onlyLooks
  · intro met request answer after peek ⟨store, made, log, known⟩ answers
    obtain ⟨added, outcome⟩ := answers
    have same : after.store = met.store := by
      rcases outcome with serves | ⟨-, same⟩
      · cases request <;> first | exact peek.elim | exact serves.2
      · exact same
    refine ⟨trivial, same.trans store, ⟨request, answer⟩ :: made, by rw [added, log]; rfl, ?_⟩
    -- A volume that was read was not told of by a failure, hence it is the stored one.
    intro exchange member
    rcases List.mem_cons.mp member with rfl | member
    · refine ⟨peek, ?_⟩
      rintro name volume same
      cases same
      rcases outcome with ⟨read, -⟩ | ⟨failed, -⟩
      · rw [← store]
        exact read.symm
      · cases failed
    · exact known exchange member

/-- A stored group that is written back with its mark is stored so from then on, and nothing else was
written. -/
theorem honours_rewritesGroup {place : String} {group later : Group}
    (found : scene.store.find? place = some group) (here : Resource.key group = place)
    (continues : group.Continues later) (marked : later.isMarked = true) :
    Honours (.brittle driver) .any
      (Ends fun own after => scene.Renews after place own ∧ own.isMarked = true ∧
        group.Continues own ∧ own.status = group.status)
      (of (.ask (.replaceGroup later)) : Attempt ClusterError Group) scene := by
  refine .of (Program.honours_alone ?_)
  -- The store takes the write, or the call fails.
  rintro answer after ⟨log, serves | ⟨failed, -⟩⟩
  · rcases Store.replace_answers serves with ⟨_, rfl, -⟩ | ⟨stored, there, -, rfl, wrote⟩
    · trivial
    · -- The write goes over the group that was read, and keeps its state.
      have same : Resource.key later = place := continues.metadata.key.trans here
      rw [same, found] at there
      obtain rfl := Option.some.inj there
      have held : (Resource.metadata (Stored.withStatusOf later group : Group)).isForsaken = false :=
        Metadata.isForsaken_of_hasFinalizer marked
      have apart := Store.apart_of_groups.overwrite scene.store
        (Stored.withStatusOf later group : Group)
      simp only [Prod.mk.injEq, Store.grounds] at apart
      refine ⟨⟨?_, wrote ▸ apart.1, wrote ▸ apart.2.2.2.1, ?_⟩, marked, ?_, rfl⟩
      · rw [wrote, ← same]
        exact Store.find?_overwrite_self held
      · rw [log]
        exact .single fun _ same => nomatch same
      · exact continues.trans ⟨rfl, rfl, rfl⟩
  · cases answer with
    | error cause => trivial
    | ok stored => cases failed

/-- A group that is stored gets its mark, or has it already. -/
theorem honours_marksGroup {place : String} {group : Group}
    (found : scene.store.find? place = some group) (here : Resource.key group = place) :
    Honours (.brittle driver) .any
      (Ends fun own after => scene.Renews after place own ∧ own.isMarked = true ∧
        group.Continues own ∧ own.status = group.status)
      group.protect scene := by
  unfold Group.protect
  -- A group with the mark is not written.
  split
  · rename_i kept
    exact .pure ⟨.refl found, Metadata.addFinalizer?_eq_none kept, .refl group, rfl⟩
  · rename_i metadata added
    obtain ⟨continues, -, marked⟩ := Metadata.addFinalizer?_eq_some added
    exact honours_rewritesGroup found here ⟨continues, rfl, rfl⟩ marked

/-- The name of its content is recorded in a marked group, or is recorded there already. -/
theorem honours_remembersContent {place : String} {group : Group}
    (found : scene.store.find? place = some group) (here : Resource.key group = place)
    (marked : group.isMarked = true) (contentName : String) :
    Honours (.brittle driver) .any
      (Ends fun own after => scene.Renews after place own ∧ own.isMarked = true ∧
        group.Continues own ∧ own.status = group.status)
      (group.rememberContent contentName) scene := by
  unfold Group.rememberContent
  -- A group that goes by this name already is not written.
  split
  · exact .pure ⟨.refl found, marked, .refl group, rfl⟩
  · exact .told (honours_rewritesGroup found here ⟨rfl, rfl, rfl⟩ marked)

/-- The claims of a namespace are listed as they are stored. -/
theorem honours_countsClaims {wider : ClusterError → ε} (space : String) :
    Honours (.brittle driver) .any
      (Ends fun claims after => scene.Spares after ∧ claims = scene.store.list space)
      (within wider (of (.ask (.listClaims space)))) scene := by
  -- The list comes from the store, since a failure gives none.
  refine .within (.of (Program.honours_alone ?_))
  intro answer after answers
  have spares := answers.spares trivial
  cases answer with
  | error cause => trivial
  | ok claims =>
    rcases answers.2 with ⟨listed, -⟩ | ⟨failed, -⟩
    · exact ⟨spares, Except.ok.inj listed⟩
    · cases failed

/-- A plan rests on the store in which it is made. -/
theorem honours_plans (group : Group) (groups : List Group)
    (placed : scene.store.Placed Claim) :
    Honours (.brittle driver) .any
      (Ends fun plan after => scene.Spares after ∧ scene.store.Supports group plan)
      (group.plan groups) scene := by
  unfold Group.plan
  -- The claims of the namespace are counted first.
  refine .then (honours_namespace group) ?_
  rintro space scene ⟨rfl, -⟩
  refine .then (honours_countsClaims space) ?_
  rintro claims counted ⟨counts, rfl⟩
  -- What the claims are bound to is peeked at, and each claim is placed once.
  refine ((honours_peeking (asks_planFor ..)).both
    ((honours_peeking (asks_concerned ..)).both (honours_yields ..))).mono ?_
  rintro result after ⟨⟨sorts, onlyLooks⟩, ⟨concerned, -⟩, trace⟩
  -- Only a plan that was made says something.
  cases result with
  | error cause => trivial
  | ok plan =>
    obtain ⟨trace, log, yields⟩ := trace
    have claims : counted.store.claims = scene.store.claims := counts.claims
    have volumes : counted.store.volumes = scene.store.volumes := counts.volumes
    have listed (claim : Claim) (known : claim ∈ plan.concerned) :
        claim ∈ scene.store.list space :=
      mem_sortedByName.mp ((concerned : plan.concerned.Subperm _).subset known)
    refine ⟨counts.trans onlyLooks.spares, ?_, ?_, ?_, ?_⟩
    · -- Whom the plan is about was listed, hence is stored.
      exact fun claim known => placed.found_of_mem_list (listed claim known)
    · -- Sorting the claims by name leaves their keys distinct.
      have sorted : ((sortedByName (scene.store.list space)).map
          (Resource.key (α := Claim))).Nodup :=
        ((List.mergeSort_perm ..).map _).nodup_iff.mpr (placed.nodup_list space)
      obtain ⟨others, perm, sublist⟩ := concerned
      exact (perm.map _).nodup_iff.mp (sorted.sublist (sublist.map _))
    · -- A member is wanted and bound, as the plan was sorted.
      intro member planned
      obtain ⟨-, wants, bound, -⟩ := Group.Sorts.member sorts member planned
      exact ⟨wants, bound⟩
    · -- A member has a volume that was read.
      intro member planned
      obtain ⟨volume, read, named⟩ := yields.served_of_planFor member planned
      obtain ⟨made, same, known⟩ := onlyLooks.log
      -- The calls that the plan was made of are those that were only peeks.
      obtain rfl : trace.reverse = made := List.append_cancel_right (log.symm.trans same)
      have stored := (known _ (List.mem_reverse.mpr read)).2 _ volume rfl
      refine ⟨volume, ?_, named⟩
      rw [Store.get_eq_ok] at stored ⊢
      exact (congrArg (Table.get? · _) volumes).symm.trans stored

/-- A stored claim gets its mark, or has it already. -/
theorem honours_marksClaim {claim : Claim}
    (found : scene.store.find? (Resource.key claim) = some claim) :
    Honours (.brittle driver) .any
      (Ends fun _ after => Store.Marks [claim] scene.store after.store ∧
        Extends (Call.WritesOnly [Resource.key claim]) scene.exchanges after.exchanges)
      claim.protect scene := by
  unfold Claim.protect
  -- A claim with the mark is not written.
  split
  · rename_i kept
    refine .pure ⟨⟨rfl, rfl, fun _ _ => rfl, ?_⟩, .refl _⟩
    rintro other known
    obtain rfl := List.mem_singleton.mp known
    exact ⟨other, found, .refl other, Metadata.addFinalizer?_eq_none kept⟩
  · rename_i metadata added
    obtain ⟨continues, -, marked⟩ := Metadata.addFinalizer?_eq_some added
    have key : Resource.key (α := Claim) { claim with metadata } = Resource.key claim :=
      continues.key
    -- Otherwise the claim is written back with it.
    refine .dropped (.of (Program.honours_alone ?_))
    rintro answer after ⟨log, serves | ⟨failed, -⟩⟩
    · rcases Store.replace_answers serves with ⟨_, rfl, -⟩ | ⟨stored, -, -, rfl, wrote⟩
      · trivial
      · -- Whatever version was stored, the claim with its mark is stored from now on.
        have apart := Store.apart_of_claims.overwrite scene.store
          (Stored.withStatusOf { claim with metadata } stored : Claim)
        simp only [Prod.mk.injEq, Store.grounds] at apart
        have others (other : String) : after.store.find? other =
            if other = Resource.key claim then
              if metadata.isForsaken then none
              else some (scene.store.stamped { claim with metadata })
            else scene.store.find? other := by
          rw [wrote, ← key]
          exact Store.find?_overwrite scene.store ({ claim with metadata } : Claim) other
        refine ⟨⟨wrote ▸ apart.1, wrote ▸ apart.2.2.2.1, ?_, ?_⟩, ?_⟩
        · intro other away
          rw [others, if_neg fun same => away (List.mem_singleton.mpr same)]
        · rintro other known
          obtain rfl := List.mem_singleton.mp known
          refine ⟨scene.store.stamped { other with metadata }, ?_, ⟨?_, rfl⟩, marked⟩
          · rw [others, if_pos rfl, Metadata.isForsaken_of_hasFinalizer marked]
            rfl
          · exact continues.trans rfl
        · rw [log]
          refine .single ?_
          rintro later same
          cases same
          exact List.mem_singleton.mpr key
    · cases answer with
      | error cause => trivial
      | ok stored => cases failed

/-- Stored claims under distinct keys get their marks one after another. -/
theorem honours_marksMembers {wider : ClusterError → ε} {members : List Member}
    (found : ∀ member ∈ members,
      scene.store.find? (Resource.key member.claim) = some member.claim)
    (distinct : ((members.map Member.claim).map Resource.key).Nodup) :
    Honours (.brittle driver) .any
      (Ends fun _ after => Store.Marks (members.map Member.claim) scene.store after.store ∧
        Extends (Call.WritesOnly ((members.map Member.claim).map Resource.key)) scene.exchanges
          after.exchanges)
      (members.forM fun member => within wider member.claim.protect) scene := by
  -- The induction goes along the members, each of which leaves the claims of the rest alone.
  induction members generalizing scene with
  | nil => exact .pure ⟨⟨rfl, rfl, fun _ _ => rfl, by simp⟩, .refl _⟩
  | cons member rest ih =>
    obtain ⟨apart, others⟩ := List.nodup_cons.mp distinct
    refine .then (.told (honours_marksClaim (found member (List.mem_cons_self ..)))) ?_
    rintro _ middle ⟨first, written⟩
    -- The rest is marked in a store that differs in the first claim only.
    refine (ih ?_ others).imp ?_
    · intro other known
      rw [first.others]
      · exact found other (List.mem_cons_of_mem _ known)
      · intro same
        exact apart (List.mem_singleton.mp same ▸ List.mem_map_of_mem (List.mem_map_of_mem known))
    · rintro _ after ⟨later, further⟩
      refine ⟨first.cons later apart, ?_⟩
      -- Only claims from the list were written.
      refine (written.mono ?_).trans (further.mono ?_)
      · exact fun request only claim same => List.mem_cons.mpr
          (.inl (List.mem_singleton.mp (only claim same)))
      · exact fun request only claim same => List.mem_cons_of_mem _ (only claim same)

end Attempt

end Rules

end VolumeGroups
