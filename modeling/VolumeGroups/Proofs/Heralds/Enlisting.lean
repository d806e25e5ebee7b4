import VolumeGroups.Proofs.Heralds.Marking
import VolumeGroups.Proofs.Operator.Rehearsed

/-! Before the driver hears of a group or of its members, the group and all members carry the marks that
make sure of their cleanup. -/

namespace VolumeGroups

/-- A call by which the driver makes a group or gives it members. -/
def Call.Enlists : Call → Prop
  | .createDriverGroup .. | .modifyMembership .. => True
  | _ => False

/-- What is common enlists nothing. -/
theorem Call.IsCommon.not_enlists {request : Call} (common : request.IsCommon) :
    ¬ request.Enlists := by
  cases request <;> first | exact common.elim | exact id

/-- A pass has put all marks on that a group and its plan call for, and has written no other claims. -/
structure Heralded (place : String) (group own : Group) (plan : MembershipPlan) (scene : Scene) :
    Prop where
  -- The plan is the one that the log shows being made.
  devised : Devised group plan scene.exchanges
  /-- The stored group is the one that the plan was made for, with its mark. -/
  found : scene.store.find? place = some own
  marked : own.isMarked = true
  live : own.isTerminating = false
  continues : group.Continues own
  status : own.status = group.status
  /-- Every member is stored and selected, is not being deleted, and carries its mark. -/
  members : ∀ member ∈ plan.members, ∃ claim : Claim,
    scene.store.find? (Resource.key member.claim) = some claim ∧ member.claim.Continues claim ∧
      own.Wants claim ∧ claim.isMarked = true ∧ claim.volumeName? = some member.volumeName
  /-- The plan has the driver's name for the volume that a member is bound to. -/
  served : ∀ member ∈ plan.members, ∃ volume : Volume,
    scene.store.get member.volumeName "" = .ok volume ∧ volume.handle? = some member.volumeId
  /-- What the plan turns away or lets go is no member, and was not written. -/
  untouched : ∀ claim, claim ∈ plan.rejected.map Prod.fst ∨ claim ∈ plan.departed →
    (∀ member ∈ plan.members, Resource.key claim ≠ Resource.key member.claim) ∧
      ∀ exchange ∈ scene.exchanges, ∀ later, exchange.request = .replaceClaim later →
        Resource.key later ≠ Resource.key claim

namespace Heralded

variable {place : String} {group own renewed : Group} {plan : MembershipPlan} {scene after : Scene}

/-- The marks are still on after a stretch in which only the group itself was written. -/
theorem renew (heralded : Heralded place group own plan scene)
    (renews : scene.Renews after place renewed) (marked : renewed.isMarked = true)
    (continues : own.Continues renewed) (status : renewed.status = own.status) :
    Heralded place group renewed plan after where
  -- The plan was made before, and its calls are in the log still.
  devised := heralded.devised.later renews.log
  found := renews.found
  marked := marked
  live := continues.isTerminating.trans heralded.live
  continues := heralded.continues.trans continues
  status := status.trans heralded.status
  -- Claims were not written, so they carry their marks.
  members member planned := by
    obtain ⟨claim, found, same, wants, held, bound⟩ := heralded.members member planned
    have wanted : renewed.Wants claim := (continues.wants (.refl claim)).mpr wants
    exact ⟨claim, (congrArg (Table.get? · _) renews.claims).trans found, same, wanted, held, bound⟩
  -- Volumes were not written either.
  served member planned := by
    obtain ⟨volume, read, named⟩ := heralded.served member planned
    refine ⟨volume, ?_, named⟩
    rw [Store.get_eq_ok] at read ⊢
    exact (congrArg (Table.get? · _) renews.volumes).trans read
  -- What was written since is none of the claims.
  untouched claim other := by
    obtain ⟨apart, unwritten⟩ := heralded.untouched claim other
    refine ⟨apart, fun exchange known later same => ?_⟩
    rcases renews.log.mem_or known with before | spared
    · exact unwritten exchange before later same
    · exact absurd same (spared later)

/-- The marks are still on after a stretch in which neither groups nor claims were written. -/
theorem later (heralded : Heralded place group own plan scene) (spares : scene.Spares after) :
    Heralded place group own plan after :=
  heralded.renew (spares.renews heralded.found) heralded.marked (.refl own) rfl

/-- All marks are on once the members of a plan are marked that rests on the store. -/
theorem of_marks (devised : Devised group plan scene.exchanges)
    (supports : scene.store.Supports group plan) (found : scene.store.find? place = some group)
    (marked : group.isMarked = true) (live : group.isTerminating = false)
    (unwritten : ∀ exchange ∈ scene.exchanges, ∀ claim, exchange.request ≠ .replaceClaim claim)
    (marks : Store.Marks (plan.members.map Member.claim) scene.store after.store)
    (written : Extends (Call.WritesOnly ((plan.members.map Member.claim).map Resource.key))
      scene.exchanges after.exchanges) : Heralded place group group plan after where
  -- The plan was made before the marks were put on.
  devised := devised.later written
  found := (congrArg (Table.get? · place) marks.groups).trans found
  marked := marked
  live := live
  continues := .refl group
  status := rfl
  -- Each member was marked and otherwise stays as it was planned.
  members member planned := by
    obtain ⟨claim, stored, same, held⟩ := marks.marked _ (List.mem_map_of_mem planned)
    obtain ⟨wants, bound⟩ := supports.wants member planned
    refine ⟨claim, stored, same, ((Group.Continues.refl group).wants same).mpr wants, held, ?_⟩
    rw [← bound, Claim.volumeName?, Claim.volumeName?, same.spec]
  -- Volumes are as they were when they were read.
  served member planned := by
    obtain ⟨volume, read, named⟩ := supports.served member planned
    refine ⟨volume, ?_, named⟩
    rw [Store.get_eq_ok] at read ⊢
    exact (congrArg (Table.get? · _) marks.volumes).trans read
  untouched claim other := by
    have apart : ∀ member ∈ plan.members, Resource.key claim ≠ Resource.key member.claim :=
      fun member planned => MembershipPlan.apart_of_nodup supports.distinct planned other
    refine ⟨apart, fun exchange known later request same => ?_⟩
    -- Only members were written, and none of them lies under the key of the claim.
    rcases written.mem_or known with before | only
    · exact unwritten exchange before later request
    · obtain ⟨_, known, key⟩ := List.mem_map.mp (only later request)
      obtain ⟨member, planned, rfl⟩ := List.mem_map.mp known
      exact apart member planned (same.symm.trans key.symm)

end Heralded

/-- When the driver is to make a group or to give it members, the marks are on, and the members are those
of the plan. -/
def Promise.heralding (place : String) : Promise := fun met request _ _ => request.Enlists →
  ∃ group own plan, Heralded place group own plan met ∧ ∀ handle ids secrets,
    request = .modifyMembership handle ids secrets → ids = plan.volumeIds

namespace Attempt

variable {driver place : String} {scene : Scene} {ε α : Type}

/-- An attempt by which the driver neither makes a group nor gives it members. -/
def EnlistsNobody (attempt : Attempt ε α) : Prop :=
  attempt.Asks (fun request => ¬ request.Enlists) fun _ => True

/-- A common attempt enlists nobody. -/
theorem IsCommon.enlistsNobody {attempt : Attempt ε α} (common : attempt.IsCommon) :
    attempt.EnlistsNobody :=
  common.mono (fun _ sort => sort.not_enlists) fun _ => id

/-- An eventless attempt enlists nobody. -/
theorem IsEventless.enlistsNobody {attempt : Attempt ε α} (eventless : attempt.IsEventless) :
    attempt.EnlistsNobody := eventless.isCommon.enlistsNobody

/-- Telling a failure enlists nobody. -/
theorem EnlistsNobody.telling {attempt : Attempt PassError α} {group : Group} {reason : Reason}
    {ready : Option Bool} (nobody : attempt.EnlistsNobody) :
    (attempt.tellingOn group reason ready).EnlistsNobody :=
  .tellingOn nobody fun error => (group.common_tell reason ready error).mono
    (fun _ sort => sort.not_enlists) fun _ => id

/-- An attempt that enlists nobody has no marks to wait for. -/
theorem Honours.unhurried {goal : Except ε α → Scene → Prop} {attempt : Attempt ε α}
    (honours : Honours (.brittle driver) .any goal attempt scene)
    (nobody : attempt.EnlistsNobody) :
    Honours (.brittle driver) (.heralding place) goal attempt scene :=
  honours.watched nobody fun _ _ _ _ spares enlists => absurd enlists spares

/-- An attempt that enlists nobody may be made at any time. -/
theorem EnlistsNobody.honours {attempt : Attempt ε α} (nobody : attempt.EnlistsNobody)
    (scene : Scene) :
    Honours (.brittle driver) (.heralding place) (Ends fun _ _ => True) attempt scene :=
  ((honours_yields attempt scene).imp fun _ _ _ => trivial).unhurried nobody

/-- What writes neither groups nor claims leaves the marks on. -/
theorem honours_awaiting {group own : Group} {plan : MembershipPlan} {gives : α → Prop}
    {attempt : Attempt ε α} (asks : Asks Call.IsPlain gives attempt)
    (nobody : attempt.EnlistsNobody)
    (heralded : Heralded place group own plan scene) :
    Honours (.brittle driver) (.heralding place)
      (Ends fun _ after => Heralded place group own plan after) attempt scene := by
  -- Calls that ask for no members are promised anything.
  refine ((honours_sparing asks).unhurried nobody).mono ?_
  rintro result after ⟨-, spares⟩
  cases result with
  | ok value => exact heralded.later spares
  | error error => trivial

/-- A failure is told without any marks to wait for. -/
theorem Honours.telling {goal : α → Scene → Prop} {attempt : Attempt PassError α} {group : Group}
    {reason : Reason} {ready : Option Bool}
    (honours : Honours (.brittle driver) (.heralding place) (Ends goal) attempt scene) :
    Honours (.brittle driver) (.heralding place) (Ends goal)
      (attempt.tellingOn group reason ready) scene := by
  refine .tellingOn honours (fun _ _ => id) fun error failed _ => ?_
  -- Whatever becomes of the telling, all its calls are common.
  refine Program.Honours.mono (fun _ _ _ => trivial) <|
    Program.Honours.carried (Program.honours_yields _ failed)
      (group.common_tell reason ready error) (fun _ _ => id) ?_
  exact fun met request answer after sort answers =>
    ⟨answers, fun _ enlists => absurd enlists sort.not_enlists⟩

/-- The driver may be asked once the marks are on, and they stay on. -/
theorem honours_enlisting {group own : Group} {plan : MembershipPlan} {request : Call}
    (heralded : Heralded place group own plan scene) (plain : request.IsPlain)
    (planned : ∀ handle ids secrets, request = .modifyMembership handle ids secrets →
      ids = plan.volumeIds) :
    (Program.ask request).Honours (.brittle driver) (.heralding place)
      (fun _ after => Heralded place group own plan after) scene := by
  -- Nobody else is there, so the marks are as they were when the call is made.
  refine .ask ?_
  intro met waits answer after answers
  obtain rfl := (Conditions.brittle_still driver).meets waits
  exact ⟨fun _ => ⟨group, own, plan, heralded, planned⟩, heralded.later (answers.spares plain)⟩

/-- The groups of a namespace are listed without a write. -/
theorem honours_listsGroups {wider : ClusterError → ε} (space : String) :
    Honours (.brittle driver) .any
      (Ends fun groups after => after.store = scene.store ∧
        after.exchanges = ⟨.listGroups space, .ok groups⟩ :: scene.exchanges)
      (within wider (of (.ask (.listGroups space)))) scene := by
  -- The answer is the list, whether it came from the store or not.
  refine .within (.of (Program.honours_alone ?_))
  rintro answer after ⟨log, outcome⟩
  cases answer with
  | error cause => trivial
  | ok groups =>
    rcases outcome with ⟨-, same⟩ | ⟨-, same⟩
    · exact ⟨same, log⟩
    · exact ⟨same, log⟩

/-- Before a live group is furnished all marks are on. -/
theorem honours_heralds {group : Group} (placed : scene.store.Placed Claim)
    (found : scene.store.find? place = some group) (marked : group.isMarked = true)
    (live : group.isTerminating = false)
    (unwritten : ∀ exchange ∈ scene.exchanges, ∀ claim, exchange.request ≠ .replaceClaim claim) :
    Honours (.brittle driver) (.heralding place)
      (Ends fun prepared after => Heralded place group group prepared.2 after) group.prepare scene := by
  -- Preparing asks nothing of the driver, so only what it does to the store is looked at.
  refine Honours.unhurried ?_ (common_prepare group).enlistsNobody
  unfold Group.prepare
  refine .then (honours_namespace group) ?_
  rintro space scene ⟨rfl, -⟩
  refine .then (honours_listsGroups space) ?_
  rintro groups listed ⟨same, log⟩
  -- The plan is made of what is stored, and its calls follow the listing of the groups.
  have plans : Honours (.brittle driver) .any
      (Ends fun plan after => (listed.Spares after ∧ listed.store.Supports group plan) ∧
        Devised group plan after.exchanges) (group.plan groups) listed := by
    refine ((honours_plans group groups (same ▸ placed)).both (honours_yields ..)).mono ?_
    rintro result after ⟨supports, devised⟩
    cases result with
    | error error => trivial
    | ok plan =>
      obtain ⟨trace, made, yields⟩ := devised
      exact ⟨supports, space, groups, trace, [], scene.exchanges, by rw [made, log]; rfl, yields⟩
  -- A failed plan ends the pass, so what follows has a plan.
  refine .then (.tellingOn (.told plans) (fun _ _ => id) fun _ _ _ =>
    (Program.honours_yields _ _).mono fun _ _ _ => trivial) ?_
  rintro plan planned ⟨⟨spares, supports⟩, devised⟩
  -- Refusals are told by events, which write nothing.
  have notes : Asks Call.IsPlain (fun _ => True) (plan.rejected.forM fun refusal =>
      (note (Resource.reference refusal.1) .warning .membershipRejected refusal.2.message :
        Attempt PassError PUnit)) :=
    .forM fun _ _ => .lift ((asks_note ..).mono (fun _ idle => idle.isApart.isPlain) fun _ => id)
  refine .then (honours_sparing notes) ?_
  rintro _ noted ⟨-, silent⟩
  have spared := spares.trans silent
  have rests := supports.later spared
  -- At last the members are marked, all of which are stored under keys of their own.
  refine .then (honours_marksMembers ?_ ?_) ?_
  · intro member planned
    exact rests.found _ (List.mem_append_left _ (List.mem_map_of_mem planned))
  · have distinct := rests.distinct
    rw [MembershipPlan.concerned, List.map_append] at distinct
    exact (List.nodup_append.mp distinct).1
  -- The marks are on, and nothing but members was written.
  rintro _ after ⟨marks, written⟩
  refine .pure (.of_marks (devised.later silent.log) rests ?_ marked live ?_ marks written)
  · rw [← found, ← same]
    exact congrArg (Table.get? · place) spared.groups
  · intro exchange known claim request
    rcases spared.log.mem_or known with before | plain
    · rw [log] at before
      rcases List.mem_cons.mp before with rfl | before
      · cases request
      · exact unwritten exchange before claim request
    · rw [request] at plain
      exact plain.elim

/-- A content is found or made with the marks on. -/
theorem honours_obtainsContent {group own : Group} {plan : MembershipPlan}
    (groupClass : GroupClass) (parameters : ClassParameters) (secrets : KeyMap String)
    (heralded : Heralded place group own plan scene) :
    Honours (.brittle driver) (.heralding place)
      (Ends fun _ after => Heralded place group own plan after)
      (own.obtainContent groupClass parameters secrets) scene := by
  unfold Group.obtainContent
  -- Looking for the content writes nothing.
  have looks : Asks Call.IsPlain (fun _ => True) own.lookupContent :=
    asks_lookupContent own fun _ _ => trivial
  refine .then (.told (honours_awaiting looks (eventless_lookupContent own).enlistsNobody
    heralded)) ?_
  intro found scene heralded
  -- A content that is found is taken as it is.
  cases found with
  | some content => exact .pure heralded
  | none =>
    refine .then (honours_knowing _) ?_
    rintro name named ⟨rfl, -⟩
    -- No content is found, so the driver is asked to make a group.
    have makes : (Program.ask (.createDriverGroup name secrets parameters.driver)).Honours
        (.brittle driver) (.heralding place) (fun _ after => Heralded place group own plan after)
        named :=
      honours_enlisting heralded trivial fun _ _ _ same => nomatch same
    refine .then (Honours.telling (.told (Honours.ends (.of makes)))) ?_
    intro created scene heralded
    refine .then (honours_knowing _) ?_
    rintro content recorded ⟨rfl, -⟩
    -- The new content is stored, which touches neither groups nor claims.
    have creates : Asks Call.IsPlain (fun _ => True) content.create :=
      asks_createContent content trivial fun _ _ => trivial
    refine .then (.told (honours_awaiting creates (eventless_createContent content).enlistsNobody
      heralded)) ?_
    exact fun _ _ heralded => .pure heralded

/-- A live group is furnished with the marks on. -/
theorem honours_furnishes {group own : Group} {plan : MembershipPlan} (here : Resource.key own = place)
    (groupClass : GroupClass) (parameters : ClassParameters) (secrets : KeyMap String)
    (heralded : Heralded place group own plan scene) :
    Honours (.brittle driver) (.heralding place) (Ends fun _ _ => True)
      (own.furnish groupClass parameters secrets plan) scene := by
  unfold Group.furnish
  -- The driver may be asked to make a group here.
  refine .then (honours_obtainsContent groupClass parameters secrets heralded) ?_
  rintro ⟨content, created⟩ scene heralded
  dsimp only
  -- Without a handle the pass ends.
  split
  · rename_i handle named
    refine .then ((honours_remembersContent heralded.found here heralded.marked _).unhurried
      (eventless_rememberContent own _).enlistsNobody) ?_
    rintro later scene ⟨renews, marked, continues, status⟩
    have heralded := heralded.renew renews marked continues status
    -- Whether or not the driver is told of the members, nothing but common calls comes after it.
    have finishes : Attempt.IsCommon (do
        let contentStatus ← content.readyStatus plan.volumeNames
        let stored ← Attempt.within PassError.content (content.syncStatus contentStatus)
        return (⟨later, stored, Resource.displayName content, handle, created⟩ : Group.Furnished)) :=
      .bind (.lift (eventless_readyStatus ..).isCommon) fun _ _ =>
        .bind (.within (eventless_syncContent ..).isCommon) fun _ _ => .pure trivial
    -- The driver is told of the members, or there is nothing to tell.
    split
    · have takes : (Program.ask (.modifyMembership handle plan.volumeIds secrets)).Honours
          (.brittle driver) (.heralding place) (fun _ after => Heralded place group later plan after)
          scene :=
        honours_enlisting heralded trivial fun _ _ _ same => by cases same; rfl
      refine .then (Honours.telling (.told (Honours.ends (.of takes)))) ?_
      exact fun _ scene _ => finishes.enlistsNobody.honours scene
    · exact finishes.enlistsNobody.honours scene
  · exact .throw trivial

/-- A live group is synced with the marks on whenever the driver is to make it or to change it. -/
theorem honours_syncs {group : Group} (placed : scene.store.Placed Claim)
    (found : scene.store.find? place = some group) (here : Resource.key group = place)
    (marked : group.isMarked = true) (live : group.isTerminating = false)
    (unwritten : ∀ exchange ∈ scene.exchanges, ∀ claim, exchange.request ≠ .replaceClaim claim)
    (groupClass : GroupClass) (parameters : ClassParameters) (secrets : KeyMap String) :
    Honours (.brittle driver) (.heralding place) (Ends fun _ _ => True)
      (group.sync groupClass parameters secrets) scene := by
  -- The pass has three stages, and only the second asks for members.
  rw [Group.sync_eq]
  refine .then (honours_heralds placed found marked live unwritten) ?_
  rintro ⟨groups, plan⟩ prepared heralded
  refine .then (honours_furnishes here groupClass parameters secrets heralded) ?_
  intro furnished scene _
  -- The driver is not asked again after the group has been furnished.
  have finishes : Attempt.IsCommon (do
      let later ← furnished.group.syncStatus (furnished.status plan)
      releaseClaims plan.departed (later.others groups)
      furnished.announce plan later) :=
    .bind (eventless_syncGroup ..).isCommon fun _ _ =>
      .bind (eventless_releaseClaims ..).isCommon fun _ _ => common_announce ..
  exact finishes.enlistsNobody.honours scene

/-- The driver is never asked to make or change a group that is being deleted. -/
theorem finalize_enlistsNobody (group : Group) (secrets : KeyMap String) :
    (group.finalize secrets).EnlistsNobody := by
  -- The driver is only told to delete a group.
  have deletes (handle : String) : (group.deleteAtDriver handle secrets).EnlistsNobody := by
    refine .telling (.bind (.outcome (.only ⟨id, fun _ => trivial⟩)) fun answer _ => ?_)
    split
    · exact .pure trivial
    · split
      · exact .pure trivial
      · exact .throw
  -- Nor does the first stage make or change a group.
  have dissolves : (group.dissolve secrets).EnlistsNobody := by
    unfold Group.dissolve
    refine .bind (EnlistsNobody.telling (.within (eventless_lookupContent group).enlistsNobody))
      fun content _ => ?_
    extract_lets finish
    split
    · exact .bind (deletes _) fun _ _ => .pure trivial
    · exact .pure trivial
  -- The other stages speak to the store only.
  rw [Group.finalize_eq]
  split
  · refine .bind (.within (.known (gives_any _))) fun space _ => ?_
    refine .bind dissolves fun content _ => ?_
    refine .bind (eventless_disband group space content).enlistsNobody fun later _ => ?_
    exact (eventless_depart later content).enlistsNobody
  · exact .pure trivial

/-- Credentials are read without enlisting anybody. -/
theorem credentials_enlistsNobody (location : SecretLocation) :
    location.credentials.EnlistsNobody := by
  refine (asks_credentials location).mono ?_ fun _ => id
  intro request idle
  cases request <;> first | exact idle.elim | exact id

/-- What a pass looks up before it goes on leaves groups and claims alone. -/
theorem honours_consulting {gives : α → Prop} {attempt : Attempt PassError α} {group : Group}
    {reason : Reason} {ready : Option Bool} (asks : Asks Call.IsPlain gives attempt)
    (nobody : attempt.EnlistsNobody) :
    Honours (.brittle driver) (.heralding place) (Ends fun _ after => scene.Spares after)
      (attempt.tellingOn group reason ready) scene :=
  Honours.telling (.unhurried (.imp (Honours.ends (honours_sparing asks)) fun _ _ => And.right) nobody)

/-- A pass over a stored group keeps the order of marks and driver calls. -/
theorem honours_advances {group : Group} (placed : scene.store.Placed Claim)
    (found : scene.store.find? place = some group) (here : Resource.key group = place)
    (unwritten : ∀ exchange ∈ scene.exchanges, ∀ claim, exchange.request ≠ .replaceClaim claim) :
    Honours (.brittle driver) (.heralding place) (Ends fun _ _ => True)
      (group.advance driver) scene := by
  unfold Group.advance
  -- The class, its parameters and the credentials are read first.
  refine .then (honours_consulting ((asks_resolveClass group).mono
    (fun _ idle => idle.isApart.isPlain) fun _ => id) (eventless_resolveClass group).enlistsNobody) ?_
  intro groupClass classed classSpares
  split
  · exact .pure trivial
  refine .then (honours_consulting (.within (.known (gives_any _)))
    (.within (.known (gives_any _)))) ?_
  intro parameters resolved parametersSpare
  refine .then (honours_consulting (.within ((asks_credentials _).mono
    (fun _ idle => idle.isApart.isPlain) fun _ => id)) (.within (credentials_enlistsNobody _))) ?_
  intro secrets read secretsSpare
  have spares : scene.Spares read := classSpares.trans (parametersSpare.trans secretsSpare)
  -- What follows depends on whether the group is being deleted.
  split
  · exact (finalize_enlistsNobody group secrets).honours read
  -- A live group gets its mark before it is synced.
  · rename_i live
    have stored : read.store.find? place = some group :=
      (congrArg (Table.get? · place) spares.groups).trans found
    refine .then (.told ((honours_marksGroup stored here).unhurried
      (eventless_protectGroup group).enlistsNobody)) ?_
    rintro own after ⟨renews, marked, continues, -⟩
    refine honours_syncs ?_ renews.found (continues.metadata.key.trans here) marked
      (continues.isTerminating.trans (Bool.not_eq_true _ ▸ live)) ?_ groupClass parameters secrets
    · have claims : after.store.claims = scene.store.claims := renews.claims.trans spares.claims
      exact fun key claim known =>
        placed key claim ((congrArg (Table.get? · key) claims).symm.trans known)
    · intro exchange known claim request
      -- No claim was written before the members are marked.
      rcases renews.log.mem_or known with before | spared
      · rcases spares.log.mem_or before with before | plain
        · exact unwritten exchange before claim request
        · rw [request] at plain
          exact plain.elim
      · exact spared claim request

/-- A group that is read is the stored one. -/
theorem honours_readsGroup (name space : String) :
    Honours (.brittle driver) (.heralding place)
      (Ends fun answer after => scene.Spares after ∧ ∀ group, answer = .ok group →
        scene.store.find? (space ++ "/" ++ name) = some group)
      (outcome (of (.ask (.getGroup name space))) : Attempt ε (Except ClusterError Group)) scene := by
  refine .outcome (.of (.ask ?_))
  intro met waits answer after answers
  obtain rfl := (Conditions.brittle_still driver).meets waits
  refine ⟨False.elim, answers.spares trivial, ?_⟩
  -- A call that fails tells so, hence the group was read.
  rintro group rfl
  rcases answers.2 with ⟨read, -⟩ | ⟨failed, -⟩
  · exact Store.get_eq_ok.mp read.symm
  · cases failed

/-- A pass keeps the order of marks and driver calls. -/
theorem honours_reconciles (seen : Group) (groups : scene.store.Placed Group)
    (claims : scene.store.Placed Claim)
    (unwritten : ∀ exchange ∈ scene.exchanges, ∀ claim, exchange.request ≠ .replaceClaim claim) :
    Honours (.brittle driver) (.heralding seen.place) (Ends fun _ _ => True)
      (seen.reconcile driver) scene := by
  unfold Group.reconcile
  -- A pass without a namespace makes no call.
  refine .then (honours_namespace seen) ?_
  rintro space scene ⟨rfl, inSpace⟩
  have place : space ++ "/" ++ seen.name = seen.place := by
    rw [Group.place, (inSpace : seen.metadata.namespace = some space)]
    rfl
  refine .then (honours_readsGroup seen.name space) ?_
  rintro answer read ⟨spares, found⟩
  -- The group is there, gone, or cannot be read.
  split
  · rename_i group
    have there : scene.store.find? seen.place = some group := place ▸ found group rfl
    refine honours_advances ?_ ?_ (groups _ _ there) ?_
    · exact fun key claim known =>
        claims key claim ((congrArg (Table.get? · key) spares.claims).symm.trans known)
    · exact (congrArg (Table.get? · seen.place) spares.groups).trans there
    · intro exchange known claim request
      rcases spares.log.mem_or known with before | plain
      · exact unwritten exchange before claim request
      · rw [request] at plain
        exact plain.elim
  · split
    · exact .pure trivial
    · exact .throw trivial

end Attempt

/-- Whichever calls fail, and in whatever ways, before a pass asks the driver to make a group or to give
it members, it has made a plan and put all marks on that are due: the stored group is the live one that
the plan was made for, and it carries its mark; every member of the plan is stored, is wanted by the
group, which implies that it is not being deleted, carries its mark, and is bound to a volume that the
driver knows by the name in the plan. No claim that the plan turns away or lets go is among the members,
and none was written. The members that the driver is told of are those of the plan. -/
theorem heralded_before_enlisting (driver : String) {seen : Group} {start : Store} {now : Scene}
    {request : Call} {next : request.Answer → Program (Except PassError Action)}
    (groups : start.Placed Group) (claims : start.Placed Claim)
    (run : (Conditions.brittle driver).Reaches ⟨⟨start, []⟩, some (seen.reconcile driver).run⟩
      ⟨now, some (.call request next)⟩)
    (enlists : request.Enlists) :
    ∃ group own plan, Heralded seen.place group own plan now ∧ ∀ handle ids secrets,
      request = .modifyMembership handle ids secrets → ids = plan.volumeIds := by
  -- The promise holds for the program as a whole.
  have honours : Program.Honours (Conditions.brittle driver) (.heralding seen.place)
      (fun _ _ => True) (seen.reconcile driver).run ⟨start, []⟩ :=
    (Attempt.honours_reconciles seen groups claims (by simp)).mono fun _ _ _ => trivial
  -- So it holds where the run has got to.
  have rest := Conditions.honours_of_reaches (fun _ => id) honours run _ rfl
  -- Every call gets some answer, so the promise is due.
  have serves := Rehearsal.serve_serves { store := now.store } request
  exact (rest now (Conditions.waits_refl _ _) _ ⟨_, _⟩ ⟨rfl, .inl serves⟩).1 enlists

/-- The first pass over a group has put all marks on when it tells the driver of the group's only member,
by the name that the plan has for its volume. -/
theorem heralded_before_first_member : ∃ next group own plan,
    Sample.stocked.Placed Group ∧ Sample.stocked.Placed Claim ∧
    (Conditions.brittle "driver").Reaches
      ⟨⟨Sample.stocked, []⟩, some (Sample.group.reconcile "driver").run⟩
      ⟨(Sample.underway 11 ⟨Sample.stocked, []⟩).toScene,
        some (.call (.modifyMembership "handle-volumegroup-uid" ["disk"] ∅) next)⟩ ∧
    Heralded Sample.group.place group own plan (Sample.underway 11 ⟨Sample.stocked, []⟩).toScene ∧
    plan.volumeIds = ["disk"] := by
  -- The tables of the sample are in order.
  have groups : Sample.stocked.Placed Group := Sample.regular_stocked.groups.isPlaced
  have claims : Sample.stocked.Placed Claim := Sample.regular_stocked.claims.isPlaced
  -- After eleven calls the driver is about to be told of the member.
  have waiting : (Sample.underway 11 ⟨Sample.stocked, []⟩).request? =
      some (.modifyMembership "handle-volumegroup-uid" ["disk"] ∅) := by decide +kernel
  obtain ⟨next, same⟩ := Moment.eq_of_request? waiting
  have run : (Conditions.brittle "driver").Reaches
      ⟨⟨Sample.stocked, []⟩, some (Sample.group.reconcile "driver").run⟩
      ⟨(Sample.underway 11 ⟨Sample.stocked, []⟩).toScene,
        some (.call (.modifyMembership "handle-volumegroup-uid" ["disk"] ∅) next)⟩ :=
    same ▸ Moment.reaches_follow _ _ fun _ _ known => by simp at known
  obtain ⟨group, own, plan, heralded, ids⟩ :=
    heralded_before_enlisting "driver" groups claims run trivial
  exact ⟨next, group, own, plan, groups, claims, run, heralded, (ids _ _ _ rfl).symm⟩

end VolumeGroups
