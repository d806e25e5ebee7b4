import VolumeGroups.Proofs.Solo.Furnishing

/-! The end of a pass over a live group when nobody else writes: the group's state is written, claims
that departed are released, and group, content, claims and driver are in line with the plan. -/

namespace VolumeGroups

namespace Venture

variable {driver : String} (venture : Venture driver) {conditions : Conditions}

/-- The state of the group once everything is in line with the plan. -/
def status (time : Time) : GroupStatus where
  contentName := some venture.group.contentName
  creationTime := some time
  ready := some true
  error := venture.plan.rejectionMessage.map fun message => { message := some message }
  claimNames := venture.plan.claimNames

/-- Group, content and claims are in line with the plan. -/
structure InLine (now : Store) (log : List Exchange) (own : Group) (content : Content)
    (handle : String) (time : Time) : Prop extends venture.Underway now log own where
  -- The marks are those that a pass puts on.
  marks : own.metadata.finalizers = venture.finalizers
  source : own.spec = venture.spec
  state : own.status = some (venture.status time)
  -- The content records what the plan says.
  there : now.find? venture.group.contentKey = some content
  handled : content.handle? = some handle
  owned : ∃ uid, venture.group.metadata.uid = some uid ∧ content.ownerUid? = some uid
  record : content.status = some ⟨some time, some true, venture.plan.volumeNames⟩
  -- Every listed claim is marked.
  marked : ∀ (key : String) (claim : Claim), now.find? key = some claim →
    own.lists claim = true → claim.isMarked = true

/-- A pass brought everything in line with the plan, the driver included. -/
structure Concluded (before after : Scene) (own : Group) (content : Content) (handle : String)
    (time : Time) (calls : List Exchange) : Prop where
  inLine : venture.InLine after.store after.exchanges own content handle time
  goes : GrowsByCalls calls venture.plan.notices.reverse before.exchanges after.exchanges
  proper : ∀ exchange ∈ calls, venture.Calls exchange
  members : membersAt? handle calls = some venture.plan.volumeIds

/-- The driver's group has the volumes of the plan. -/
theorem Concluded.membersAt {venture : Venture driver} {before after : Scene} {own : Group}
    {content : Content} {handle : String} {time : Time} {calls : List Exchange}
    (concluded : venture.Concluded before after own content handle time calls) :
    membersAt? handle after.exchanges = some venture.plan.volumeIds := by
  -- The members were told last in the calls of this pass, and nothing later tells the driver.
  have members := concluded.members
  rw [membersAt?] at members
  rw [← membersAt?_driven, concluded.goes.driven, membersAt?, List.findSome?_append]
  simp [members]

/-- How a pass over the group ends: as the plan says, with everything in line with it, or cut short. -/
def Concludes (conditions : Conditions) (before : Scene) (result : Except PassError Action)
    (after : Scene) : Prop :=
  (result = venture.plan.verdict ∧ ∃ own content handle time calls,
    venture.Concluded before after own content handle time calls) ∨
  ∃ error, result = .error error ∧ venture.Fails conditions before error after

end Venture

namespace Store.Intends

variable {store after : Store} {group : Group} {space : String} {plan : MembershipPlan}
  (intends : store.Intends group space plan)
include intends

/-- Claims that depart lie where they lay once the members are marked. -/
theorem departed_of_marked
    (marked : store.Marked .protecting (plan.members.map Member.claim) after) {claim : Claim}
    (departs : claim ∈ plan.departed) : after.find? (Resource.key claim) = some claim := by
  rcases marked.claims (Resource.key claim) with kept | ⟨other, written, here, _⟩
  · exact kept.trans (intends.found_departed departs)
  · exact absurd here (intends.member_apart_departed written departs)

/-- A group with the members of a plan lists marked claims only, once those are marked and the claims that
depart are released. -/
theorem marked_of_lists {last : Store} {others : List Group} {later : Group}
    (held : ∀ member ∈ plan.members, ∃ claim : Claim,
      after.find? (Resource.key member.claim) = some claim ∧ claim.isMarked = true)
    (freed : after.Marked (.releasing others) plan.departed last)
    (inSpace : later.metadata.namespace = some space) (members : later.members = plan.claimNames)
    {key : String} {claim : Claim} (there : last.find? key = some claim)
    (listed : later.lists claim = true) : claim.isMarked = true := by
  -- The list names claims by the names of members.
  obtain ⟨room, name, named, same⟩ := Group.lists_iff.mp listed
  rw [members] at named
  obtain ⟨member, planned, goesBy⟩ := List.mem_map.mp named
  have stands := intends.mem_members.mp planned
  have own := intends.tidy.claim_name (intends.found_of_stands stands) goesBy
  -- The claim that the list names is the member that was marked, and no claim that departs.
  have place : Resource.key claim = Resource.key member.claim :=
    Metadata.key_eq (room.trans (inSpace.trans stands.1.2.symm)) (same.symm.trans own.symm)
  obtain rfl : key = Resource.key claim := (freed.tidy.claims.placed there).symm
  rw [place] at there
  rcases freed.claims (Resource.key member.claim) with unwritten | ⟨other, departs, here, _⟩
  · -- The claim was marked and not written since.
    obtain ⟨protected', found, isMarked⟩ := held member planned
    obtain rfl := Option.some.inj (there.symm.trans (unwritten.trans found))
    exact isMarked
  · -- A claim that departs is no member.
    exact absurd here.symm (intends.member_apart_departed (List.mem_map_of_mem planned) departs)

end Store.Intends

namespace Attempt

variable {driver : String} {venture : Venture driver} {conditions : Conditions}
  (solo : conditions.Solo) {scene : Scene}
include solo

/-- The state of the group is written, unless the call fails. -/
theorem ensures_syncStatus {own : Group} {status : GroupStatus}
    (underway : venture.Underway scene.store scene.exchanges own)
    (members : status.claimNames = venture.plan.claimNames) :
    Ensures conditions
      (EndsEither
        (fun later after => venture.Underway after.store after.exchanges later ∧
          later.spec = own.spec ∧ later.metadata.finalizers = own.metadata.finalizers ∧
          later.status = some status ∧
          (after.store.claims, after.store.contents) =
            (scene.store.claims, scene.store.contents) ∧
          Extends Call.IsSilent scene.exchanges after.exchanges)
        (venture.Fails conditions scene))
      (own.syncStatus status) scene := by
  unfold Group.syncStatus
  split
  · -- The group has that state already.
    rename_i same
    exact .pure ⟨underway, rfl, rfl, same, rfl, .refl _⟩
  · refine .within ((ensures_replaceGroupStatus solo (some status) underway.found_own).mono ?_)
    -- The write fails without effect, or the group is a step further.
    rintro (cause | stored) after ended
    · obtain ⟨letsFail, _, same, log⟩ := ended
      exact .of_quiet id (fun _ => letsFail) underway same log
    · obtain ⟨rfl, wrote, log⟩ := ended
      have further := underway.status (some status) (.inr members)
      obtain ⟨claims, rest⟩ := Prod.mk.inj
        (Store.apart_of_groups.overwrite scene.store { own with status := some status })
      exact ⟨further.of_quiet wrote log, rfl, rfl, rfl, by rw [wrote, claims, (Prod.mk.inj rest).1], log⟩

/-- An event for any reason but a refusal is recorded, or it is let go. -/
theorem ensures_note (regarding : ObjectReference) (type : EventType) {reason : Reason}
    (message : String) (other : reason ≠ .membershipRejected) :
    Ensures conditions
      (EndsEither (fun _ after => after.store = scene.store ∧
        Extends Call.IsSilent scene.exchanges after.exchanges) fun _ _ => False)
      (liftM (note regarding type reason message) : Attempt PassError Unit) scene :=
  Program.Honours.bind (honours_note solo regarding type message other) fun _ _ ended => ended

/-- A pass that may record an event goes on from the same store. -/
theorem ensures_noteIf {α : Type} {goal : Except PassError α → Scene → Prop} (wanted : Prop)
    [Decidable wanted] (regarding : ObjectReference) (type : EventType) {reason : Reason}
    (message : String) (other : reason ≠ .membershipRejected) {rest : Attempt PassError α}
    (goes : ∀ after, after.store = scene.store →
      Extends Call.IsSilent scene.exchanges after.exchanges → rest.Ensures conditions goal after) :
    Ensures conditions goal
      (if wanted then liftM (note regarding type reason message) >>= fun _ => rest else rest)
      scene := by
  split
  · -- The event is recorded, and the store stays.
    refine .bind (ensures_note solo _ _ _ other) (fun _ _ never => never.elim) ?_
    rintro _ after ⟨same, log⟩
    exact goes after same log
  · -- There is nothing to tell.
    exact goes scene rfl (.refl _)

/-- Events tell what is new, and the pass ends as the plan says. -/
theorem ensures_announce (furnished : Group.Furnished) (plan : MembershipPlan) (later : Group) :
    Ensures conditions
      (fun result after => result = plan.verdict ∧ after.store = scene.store ∧
        Extends Call.IsSilent scene.exchanges after.exchanges)
      (furnished.announce plan later) scene := by
  unfold Group.Furnished.announce
  -- There are two events at most, and then the verdict.
  refine ensures_noteIf solo _ _ _ _ (by decide) fun first same log => ?_
  refine ensures_noteIf solo _ _ _ _ (by decide) fun last kept more => ?_
  cases refused : plan.rejectionMessage with
  | some message =>
    exact .throw ⟨by rw [MembershipPlan.verdict, refused], kept.trans same, log.trans more⟩
  | none => exact .pure ⟨by rw [MembershipPlan.verdict, refused], kept.trans same, log.trans more⟩

/-- Claims that a plan lets go are released, unless a call fails. -/
theorem ensures_releaseDeparted {own : Group} {claims : List Claim} {others : List Group}
    (underway : venture.Underway scene.store scene.exchanges own)
    (distinct : (claims.map Resource.key).Nodup)
    (found : ∀ claim ∈ claims, scene.store.find? (Resource.key claim) = some claim)
    (apart : ∀ claim ∈ claims, ∀ entry ∈ venture.plan.rejected,
      Resource.key claim ≠ Resource.key entry.1) :
    Ensures conditions
      (EndsEither
        (fun _ after => venture.Underway after.store after.exchanges own ∧
          scene.store.Marked (.releasing others) claims after.store ∧
          Extends Call.IsSilent scene.exchanges after.exchanges)
        (venture.Fails conditions scene))
      (releaseClaims claims others) scene := by
  refine (ensures_releases solo others underway.beside.tidy distinct found).mono ?_
  -- However far it gets, a release changes marks only.
  rintro (error | value) after ended
  · obtain ⟨letsFail, ⟨cause, rfl⟩, marked, log⟩ := ended
    exact .of_growsByCalls id (fun _ => letsFail)
      ((underway.marked marked (Marking.releasing_lawful others) apart).of_quiet rfl log)
      (GrowsByCalls.of_quiet log)
  · obtain ⟨marked, _, log⟩ := ended
    exact ⟨(underway.marked marked (Marking.releasing_lawful others) apart).of_quiet rfl log, marked,
      log⟩

/-- A marked group that enacts a plan ends as the plan says, with everything in line with it, unless a
call fails. -/
theorem ensures_enact {own : Group} {plan : MembershipPlan} (groups : List Group)
    (underway : venture.Underway scene.store scene.exchanges own)
    (marks : own.metadata.finalizers = venture.finalizers)
    (intends : scene.store.Intends own venture.space plan) (agrees : venture.plan.Agrees plan) :
    Ensures conditions (venture.Concludes conditions scene)
      (own.enact groups plan venture.groupClass venture.parameters venture.secrets) scene := by
  have cut {first last : Scene} {error : PassError} {calls : List Exchange} {told : List Event}
      (goes : GrowsByCalls calls told scene.exchanges first.exchanges)
      (proper : ∀ exchange ∈ calls, venture.Calls exchange)
      (fails : venture.Fails conditions first error last) :
      venture.Concludes conditions scene (.error error) last :=
    .inr ⟨error, rfl, fails.after goes proper⟩
  have members : plan.claimNames = venture.plan.claimNames := agrees.claimNames
  unfold Group.enact
  -- Refusals are told.
  refine .bind (ensures_notices solo plan.rejected) (fun _ _ never => never.elim) ?_
  rintro _ first ⟨same, telling, _⟩
  have started : venture.Underway first.store first.exchanges own := by
    rw [same]
    exact underway.later telling.longer
  -- Members are marked.
  refine .bind (started.ensures_protectMembers solo (same ▸ intends) agrees) ?_ ?_
  · exact fun error after fails => cut telling (by simp) fails
  rintro _ second ⟨protected', marked, held, quiet⟩
  rw [same] at marked
  have telling := telling.quiet quiet
  -- Content and driver are brought in line.
  refine .bind (ensures_furnish solo protected') ?_ ?_
  · exact fun error after fails => cut telling (by simp) fails
  rintro furnished third stocked
  obtain ⟨calls, goes, proper, driven⟩ := stocked.calls
  have telling := telling.trans goes
  rw [List.append_nil] at telling
  -- The group's state is written.
  refine .bind (ensures_syncStatus solo stocked.underway members) ?_ ?_
  · exact fun error after fails => cut telling proper fails
  rintro later fourth ⟨stated, spec, finalizers, status, tables, more⟩
  have telling := telling.quiet more
  obtain ⟨claims, contents⟩ := Prod.mk.inj tables
  have unclaimed : fourth.store.claims = second.store.claims := claims.trans stocked.claims
  -- Claims that departed are released, and they are neither members nor refused.
  have found : ∀ claim ∈ plan.departed,
      fourth.store.find? (Resource.key claim) = some claim := by
    intro claim departs
    rw [Store.find?_of_claims unclaimed]
    exact intends.departed_of_marked marked departs
  have apart : ∀ claim ∈ plan.departed, ∀ entry ∈ venture.plan.rejected,
      Resource.key claim ≠ Resource.key entry.1 :=
    fun _ departs _ refused => intends.departed_apart_rejected departs (agrees.rejected ▸ refused)
  refine .bind (ensures_releaseDeparted solo stated intends.departed_distinct found apart) ?_ ?_
  · exact fun error after fails => cut telling proper fails
  rintro _ fifth ⟨released, freed, quietly⟩
  have telling := telling.quiet quietly
  -- What is new is told.
  refine (ensures_announce solo furnished plan later).mono ?_
  rintro result last ⟨rfl, kept, log⟩
  have telling := telling.quiet log
  have last' := released.of_quiet kept log
  obtain ⟨time, record⟩ := stocked.status
  refine .inl ⟨agrees.verdict, later, furnished.content, furnished.handle, time, calls, ⟨⟨last', ?_,
    spec.trans stocked.spec, ?_, ?_, stocked.handle, stocked.owned, ?_, ?_⟩, ?_, proper, ?_⟩⟩
  · exact finalizers.trans (stocked.finalizers.trans marks)
  · rw [status, Group.Furnished.status, Venture.status, stocked.contentName, record, members,
      agrees.rejectionMessage]
    rfl
  · rw [kept, freed.content]
    simp only [Store.find?, Stored.table, contents]
    exact stocked.found
  · rw [record, agrees.volumeNames]
  · intro key claim there listed
    rw [kept] at there
    have recorded : later.members = plan.claimNames := by
      rw [Group.members, status]
      rfl
    refine intends.marked_of_lists ?_ freed last'.inSpace recorded there listed
    intro member planned
    rw [Store.find?_of_claims unclaimed]
    exact held member planned
  · have notices : MembershipPlan.notices { rejected := plan.rejected } = venture.plan.notices :=
      agrees.notices
    simpa [notices] using telling
  · rw [driven, agrees.volumeIds]

end Attempt

end VolumeGroups
