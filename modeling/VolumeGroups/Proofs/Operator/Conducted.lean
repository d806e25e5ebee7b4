import VolumeGroups.Proofs.Handles.Quiet
import VolumeGroups.Proofs.Operator.Conduct
import VolumeGroups.Proofs.Operator.Passes

/-! Every call of a pass, over a live group or a terminating one, is conducted in the light of the calls
before it. -/

namespace VolumeGroups

/-- A pass has a group and has settled nothing yet. -/
structure InHand (group : Group) (log : List Exchange) : Prop where
  latest : latest? log = some group
  unsettled : Unsettled log

/-- Claims are not counted by calls that are apart from groups and claims. -/
theorem Extends.uncounted {before after : List Exchange}
    (goes : Extends Call.IsApart before after)
    (uncounted : ∀ exchange ∈ before, exchange.request.method ≠ .listClaims) :
    ∀ exchange ∈ after, exchange.request.method ≠ .listClaims := by
  -- A listing of claims is one of the calls that are not apart.
  intro exchange known
  rcases goes.mem_or known with old | apart
  · exact uncounted exchange old
  · obtain ⟨request, answer⟩ := exchange
    rintro same
    cases request <;> first | exact apart.elim | cases same

namespace InHand

variable {group own : Group} {before after log : List Exchange}

/-- The group stays in hand during calls that bring no other. -/
theorem later (inHand : InHand group before) (goes : Extends Call.LeavesHand before after) :
    InHand group after where
  latest := (goes.findSome? fun _ leaves => leaves.silent.1).trans inHand.latest
  unsettled := inHand.unsettled.later goes fun _ leaves =>
    ⟨leaves.silent.2.1, fun key => by simp [leaves.silent.2.2 key]⟩

/-- The group stays in hand during calls that are apart from groups and claims. -/
theorem apart (inHand : InHand group before) (goes : Extends Call.IsApart before after) :
    InHand group after :=
  inHand.later (goes.mono fun _ => Call.IsApart.leavesHand)

/-- A written group is in hand. -/
theorem bring (unsettled : Unsettled log) (later own : Group) :
    InHand own (⟨.replaceGroup later, .ok own⟩ :: log) where
  latest := rfl
  unsettled := by
    refine unsettled.later (.cons _ _) ?_
    rintro ⟨_, answer⟩ rfl
    exact ⟨rfl, fun key => by simp [Exchange.marks?]⟩

/-- The group stays in hand while claims are marked. -/
theorem marking (inHand : InHand group before) (goes : Extends Call.MarksClaim before after) :
    InHand group after where
  latest := (goes.findSome? fun _ marks => marks.writesClaim.silent.1).trans inHand.latest
  unsettled := inHand.unsettled.later goes fun _ marks => ⟨marks.writesClaim.silent.2, marks.marks?⟩

end InHand

section Rules

variable {driver place : String} {scene : Scene} {α ε : Type}

/-- Calls that are apart from groups and claims are conducted. -/
theorem Program.honours_apart {gives : α → Prop} {program : Program α}
    (asks : program.Asks Call.IsApart gives) :
    program.Honours (.unruly driver) (Conduct place).promise
      (fun value after => gives value ∧
        Extends Call.IsApart scene.exchanges after.exchanges) scene :=
  honours_along asks fun apart _ => .of_apart apart

/-- Telling a failure on the group in hand is conducted. -/
theorem Group.honours_tell {group : Group} {reason : Reason} {ready : Option Bool}
    {error : PassError} (inHand : InHand group scene.exchanges) :
    (group.tell reason ready error).Honours (.unruly driver) (Conduct place).promise
      (fun _ _ => True) scene := by
  -- An event is apart from groups and claims, so it is conducted at any time.
  have noted (scene : Scene) : (note (Resource.reference group) .warning reason
      error.statusMessage).Honours (.unruly driver) (Conduct place).promise (fun _ _ => True) scene :=
    (Program.honours_apart ((Attempt.asks_note ..).mono (fun _ idle => idle.isApart)
      fun _ => id)).mono fun _ _ _ => trivial
  unfold tell
  extract_lets status
  split
  · -- The state keeps the members, since a failed pass learned nothing about them.
    refine Program.Honours.bind (Program.honours_next ⟨inHand.unsettled, group, inHand.latest, rfl,
      .inl ?_⟩) fun _ after _ => noted after
    cases recorded : group.status <;> simp [Group.members, status, GroupStatus.failed, recorded]
  · exact noted scene

namespace Attempt

/-- An attempt of calls apart from groups and claims is conducted. -/
theorem honours_apart {gives : α → Prop} {attempt : Attempt ε α}
    (asks : Asks Call.IsApart gives attempt) :
    Honours (.unruly driver) (Conduct place).promise
      (fun result after => Gives gives result ∧
        Extends Call.IsApart scene.exchanges after.exchanges) attempt scene :=
  Program.honours_apart asks

/-- An idle attempt is conducted. -/
theorem honours_idle {gives : α → Prop} {attempt : Attempt ε α}
    (asks : Asks Call.IsIdle gives attempt) :
    Honours (.unruly driver) (Conduct place).promise
      (fun result after => Gives gives result ∧
        Extends Call.IsApart scene.exchanges after.exchanges) attempt scene :=
  honours_apart (asks.mono (fun _ idle => idle.isApart) fun _ => id)

/-- An attempt whose failure is told on the group in hand succeeds as it does by itself. -/
theorem honours_telling {goal : α → Scene → Prop} {attempt : Attempt PassError α} {group : Group}
    {reason : Reason} {ready : Option Bool}
    (honours : Honours (.unruly driver) (Conduct place).promise
      (fun result after => InHand group after.exchanges ∧ Ends goal result after) attempt scene) :
    Honours (.unruly driver) (Conduct place).promise
      (Ends fun value after => InHand group after.exchanges ∧ goal value after)
      (tellingOn group reason ready attempt) scene :=
  -- The attempt leaves the group in hand even where it fails, which is when the telling needs it.
  honours.tellingOn (fun _ _ reached => reached) fun _ _ reached =>
    (Group.honours_tell reached.1).mono fun _ _ _ => trivial

/-- An attempt of calls apart from groups and claims is conducted also where its failure is told on the
group in hand. -/
theorem honours_tellingApart {gives : α → Prop} {attempt : Attempt PassError α} {group : Group}
    {reason : Reason} {ready : Option Bool} (inHand : InHand group scene.exchanges)
    (asks : Asks Call.IsApart gives attempt) :
    Honours (.unruly driver) (Conduct place).promise
      (Ends fun _ after => InHand group after.exchanges ∧
        Extends Call.IsApart scene.exchanges after.exchanges)
      (tellingOn group reason ready attempt) scene := by
  -- Calls that are apart leave the group in hand, whatever comes of them.
  refine honours_telling (honours_apart asks |>.mono ?_)
  rintro result after ⟨_, goes⟩
  exact ⟨inHand.apart goes, by cases result <;> first | exact goes | trivial⟩

/-- A plan sorts the claims that the pass counted in the namespace of its group. -/
theorem honours_planning {group : Group} {groups : List Group}
    (inHand : InHand group scene.exchanges)
    (uncounted : ∀ exchange ∈ scene.exchanges, exchange.request.method ≠ .listClaims) :
    Honours (.unruly driver) (Conduct place).promise
      (fun result after => InHand group after.exchanges ∧ Ends (fun plan after =>
        ∃ space claims, group.metadata.namespace = some space ∧
          Extends Call.IsApart (⟨.listClaims space, .ok claims⟩ :: scene.exchanges) after.exchanges ∧
          group.Sorts groups (sortedByName claims) plan) result after)
      (group.plan groups) scene := by
  -- The namespace is known, the claims are counted in it, and the rest is about volumes.
  unfold Group.plan
  refine .bind (honours_namespace group) ?_ ?_
  · rintro _ _ ⟨rfl, _⟩
    exact ⟨inHand, trivial⟩
  rintro space scene ⟨rfl, inSpace⟩
  -- Counting is allowed here, as nothing was counted before and the group in hand names the
  -- namespace.
  have counting : Honours (.unruly driver) (Conduct place).promise
      (fun result after => InHand group after.exchanges ∧ Ends (fun claims after =>
        after.exchanges = ⟨.listClaims space, .ok claims⟩ :: scene.exchanges) result after)
      (within MembershipError.cluster (of (.ask (.listClaims space)))) scene := by
    refine .retold (.of (Program.Honours.mono ?_
      (Program.honours_next ⟨uncounted, group, inHand.latest, inSpace⟩)))
    rintro answer after ⟨log, _⟩
    refine ⟨log ▸ inHand.later (.single trivial), ?_⟩
    cases answer with
    | ok claims => exact log
    | error cause => trivial
  refine .bind counting (fun _ _ reached => ⟨reached.1, trivial⟩) ?_
  rintro claims counted ⟨inHand, log⟩
  -- What each claim is bound to is only read.
  refine (honours_idle (asks_planFor group groups (sortedByName claims)).idly).mono ?_
  rintro result after ⟨sorts, goes⟩
  refine ⟨inHand.apart goes, ?_⟩
  cases result with
  | ok plan => exact ⟨space, claims, inSpace, log ▸ goes, sorts⟩
  | error error => trivial

/-- A member that was counted is marked, unless it carries its mark. -/
theorem honours_markingOne {wider : ClusterError → ε} {space : String} {claims : List Claim}
    {member : Member} (counted : ⟨.listClaims space, .ok claims⟩ ∈ scene.exchanges)
    (known : member.claim ∈ claims) (unsettled : Unsettled scene.exchanges) :
    Honours (.unruly driver) (Conduct place).promise
      (Ends fun _ after => ∃ made, after.exchanges = made ++ scene.exchanges ∧
        (∀ exchange ∈ made, exchange.request.MarksClaim) ∧ (member.claim.isMarked = true ∨
          ∃ exchange ∈ made, exchange.marks? (Resource.key member.claim) = some true))
      (within wider member.claim.protect) scene := by
  -- A claim with its mark is left alone, and any other is written once.
  refine .told ?_
  unfold Claim.protect
  split
  · rename_i none
    exact .pure ⟨[], rfl, by simp, .inl (Metadata.addFinalizer?_eq_none none)⟩
  -- The write goes to the claim as it was counted, and nothing is settled before it.
  · rename_i metadata added
    obtain ⟨continues, version, marked⟩ := Metadata.addFinalizer?_eq_some added
    have marks : Claim.isMarked { member.claim with metadata } = true := marked
    have allowed : Conduct place scene.exchanges
        (.replaceClaim { member.claim with metadata }) :=
      ⟨space, claims, member.claim, counted, known,
        ⟨continues, rfl⟩, version, .inl ⟨marks, unsettled⟩⟩
    refine .dropped (.of (Program.Honours.mono ?_ (Program.honours_next allowed)))
    rintro answer after ⟨log, _⟩
    cases answer with
    | error cause => trivial
    | ok stored =>
      -- The one call that was added is the write of the mark.
      refine ⟨[_], log, ?_, .inr ⟨_, List.mem_singleton_self _, ?_⟩⟩
      · rintro exchange known
        exact List.mem_singleton.mp known ▸ marks
      · have place : Resource.key (α := Claim) { member.claim with metadata } =
            Resource.key member.claim := continues.key
        simp [Exchange.marks?, place, marks]

/-- Members that were counted are marked, unless they carry their marks. -/
theorem honours_marking {wider : ClusterError → ε} {space : String} {claims : List Claim}
    {members : List Member} (counted : ⟨.listClaims space, .ok claims⟩ ∈ scene.exchanges)
    (known : ∀ member ∈ members, member.claim ∈ claims) (unsettled : Unsettled scene.exchanges) :
    Honours (.unruly driver) (Conduct place).promise
      (Ends fun _ after => ∃ made, after.exchanges = made ++ scene.exchanges ∧
        (∀ exchange ∈ made, exchange.request.MarksClaim) ∧
        ∀ member ∈ members, member.claim.isMarked = true ∨
          ∃ exchange ∈ made, exchange.marks? (Resource.key member.claim) = some true)
      (members.forM fun member => within wider member.claim.protect) scene := by
  -- The induction goes along the members, and each write of a mark leaves the pass unsettled.
  induction members generalizing scene with
  | nil => exact .pure ⟨[], rfl, by simp, by simp⟩
  -- The first member is marked, and the others after it as if the pass had begun there.
  | cons member rest ih =>
    refine .then (honours_markingOne counted (known member (List.mem_cons_self ..)) unsettled) ?_
    rintro _ middle ⟨made, log, sort, marked⟩
    have goes : Extends Call.MarksClaim scene.exchanges middle.exchanges := ⟨made, log, sort⟩
    refine .imp (ih (goes.mem counted) (fun other more => known other (List.mem_cons_of_mem _ more))
      (unsettled.later goes fun _ marks => ⟨marks.writesClaim.silent.2, marks.marks?⟩)) ?_
    rintro _ after ⟨more, later, further, others⟩
    refine ⟨more ++ made, by simp [later, log], fun exchange known => ?_, fun other member => ?_⟩
    · exact (List.mem_append.mp known).elim (further exchange) (sort exchange)
    -- What is said of each member is kept as further calls are added in front or behind.
    · rcases List.mem_cons.mp member with rfl | member
      · refine marked.imp_right ?_
        rintro ⟨exchange, known, marks⟩
        exact ⟨exchange, List.mem_append_right _ known, marks⟩
      · refine (others other member).imp_right ?_
        rintro ⟨exchange, known, marks⟩
        exact ⟨exchange, List.mem_append_left _ known, marks⟩

/-- After its first stage a live group has surveyed the claims of its namespace. -/
theorem honours_surveying {group : Group} (inHand : InHand group scene.exchanges)
    (uncounted : ∀ exchange ∈ scene.exchanges, exchange.request.method ≠ .listClaims)
    (live : group.isTerminating = false) :
    Honours (.unruly driver) (Conduct place).promise
      (Ends fun prepared after => InHand group after.exchanges ∧ ∃ space claims,
        Surveyed group space prepared.1 claims prepared.2 after.exchanges)
      group.prepare scene := by
  -- The stage looks at the groups, makes its plan, tells of refusals and marks the members.
  unfold Group.prepare
  refine .then (honours_namespace group) ?_
  rintro space scene ⟨rfl, inSpace⟩
  refine .then (.told (.ends (.of (Program.honours_next trivial)))) ?_
  rintro groups seen ⟨looked, _⟩
  have latest := inHand.latest
  replace inHand : InHand group seen.exchanges := looked ▸ inHand.later (.single trivial)
  have uncounted : ∀ exchange ∈ seen.exchanges, exchange.request.method ≠ .listClaims := by
    rw [looked]
    simpa using ⟨by simp [Call.method], uncounted⟩
  -- The plan is made of the claims that are counted in the namespace of the group in hand.
  refine .then (honours_telling (.retold (honours_planning inHand uncounted))) ?_
  rintro plan planned ⟨inHand, own, claims, same, goes, sorts⟩
  obtain rfl : space = own := Option.some.inj (inSpace.symm.trans same)
  -- The events of refusals are apart from groups and claims.
  refine .then (honours_idle (.forM fun _ _ => .lift (asks_note ..))) ?_
  rintro _ noted ⟨_, noting⟩
  replace goes := goes.trans noting
  -- Whatever is marked was counted, and is marked after that.
  refine .then (honours_marking (goes.mem (List.mem_cons_self ..)) (fun member planned =>
    mem_sortedByName.mp (sorts.member member planned).1) (inHand.apart noting).unsettled) ?_
  rintro _ after ⟨made, log, sort, marked⟩
  refine .pure ⟨(inHand.apart noting).marking ⟨made, log, sort⟩, space, claims, live, inSpace, sorts,
    ?_⟩
  obtain ⟨between, same, _⟩ := goes
  refine ⟨made ++ between, scene.exchanges, by simp [log, same, looked], latest, ?_⟩
  intro member planned
  refine (marked member planned).imp_right ?_
  rintro ⟨exchange, known, marks⟩
  exact ⟨exchange, List.mem_append_left _ known, marks⟩

/-- The content of a group is found or made while the group stays in hand. -/
theorem honours_obtaining {group : Group} {groupClass : GroupClass} {parameters : ClassParameters}
    {secrets : KeyMap String} (inHand : InHand group scene.exchanges) :
    Honours (.unruly driver) (Conduct place).promise
      (Ends fun _ after => InHand group after.exchanges ∧
        Extends Call.IsApart scene.exchanges after.exchanges)
      (group.obtainContent groupClass parameters secrets) scene := by
  -- The content is looked up first, and only if none is found the driver and the store are asked.
  unfold Group.obtainContent
  refine .then (honours_apart (.within (asks_lookupContent group fun _ _ => trivial))) ?_
  rintro found looked ⟨_, looking⟩
  replace inHand := inHand.apart looking
  split
  · exact .pure ⟨inHand, looking⟩
  -- A new content takes the driver's group, which may fail and is then told of.
  · refine .then (honours_apart (.within (.known (gives_any _)))) ?_
    rintro name named ⟨_, naming⟩
    replace inHand := inHand.apart naming
    refine .then (honours_tellingApart inHand (.within (.only ⟨trivial, fun _ => trivial⟩))) ?_
    rintro created made ⟨inHand, making⟩
    refine .then (honours_apart (.within (.known (gives_any _)))) ?_
    rintro content written ⟨_, writing⟩
    replace inHand := inHand.apart writing
    refine .then (honours_apart (.within (asks_createContent content trivial fun _ _ => trivial))) ?_
    rintro stored after ⟨_, storing⟩
    exact .pure ⟨inHand.apart storing,
      looking.trans (naming.trans (making.trans (writing.trans storing)))⟩

/-- Recording the name of the content puts the written group in hand. -/
theorem honours_remembering {group : Group} (contentName : String)
    (inHand : InHand group scene.exchanges) :
    Honours (.unruly driver) (Conduct place).promise
      (Ends fun own after => InHand own after.exchanges ∧
        Extends (fun _ => True) scene.exchanges after.exchanges)
      (group.rememberContent contentName) scene := by
  -- A group that names its content already is not written at all.
  unfold Group.rememberContent
  split
  · exact .pure ⟨inHand, .refl _⟩
  -- The group is written as it is in hand but for the name of its content.
  · refine .told (.of (Program.Honours.mono ?_ (Program.honours_next
      ⟨group, inHand.latest, ⟨rfl, rfl, rfl⟩, rfl⟩)))
    rintro answer after ⟨log, _⟩
    cases answer with
    | error cause => trivial
    | ok own =>
      show InHand own after.exchanges ∧ Extends (fun _ => True) scene.exchanges after.exchanges
      rw [log]
      exact ⟨.bring inHand.unsettled _ own, .single trivial⟩

/-- The second stage of a live group tells the driver of the plan's volumes only. -/
theorem honours_furnishing {group : Group} {groupClass : GroupClass} {parameters : ClassParameters}
    {secrets : KeyMap String} {space : String} {groups : List Group} {claims : List Claim}
    {plan : MembershipPlan} (inHand : InHand group scene.exchanges)
    (surveyed : Surveyed group space groups claims plan scene.exchanges) :
    Honours (.unruly driver) (Conduct place).promise
      (Ends fun furnished after => InHand furnished.group after.exchanges ∧
        Surveyed group space groups claims plan after.exchanges)
      (group.furnish groupClass parameters secrets plan) scene := by
  -- The survey outlives each call here, since none of them takes back what was read before.
  unfold Group.furnish
  refine .then (honours_obtaining inHand) ?_
  rintro ⟨content, created⟩ obtained ⟨inHand, obtaining⟩
  replace surveyed := surveyed.later obtaining
  dsimp -zeta only
  extract_lets contentName
  -- A content without a handle ends the stage.
  split
  case h_2 => exact .throw trivial
  case h_1 handle _ =>
  refine .then (honours_remembering contentName inHand) ?_
  rintro own remembered ⟨inHand, remembering⟩
  replace surveyed := surveyed.later remembering
  extract_lets rest
  -- What follows the driver's call concerns the content only.
  have furnishes (told : Scene) (inHand : InHand own told.exchanges)
      (surveyed : Surveyed group space groups claims plan told.exchanges) :
      Honours (.unruly driver) (Conduct place).promise
        (Ends fun furnished after => InHand furnished.group after.exchanges ∧
          Surveyed group space groups claims plan after.exchanges) (rest ()) told := by
    refine .then (honours_idle (.lift
      (asks_readyStatus content plan.volumeNames trivial))) ?_
    rintro status read ⟨_, reading⟩
    refine .then (honours_apart (.within (asks_syncStatus _ _ trivial))) ?_
    rintro later written ⟨_, writing⟩
    have goes := reading.trans writing
    exact .pure ⟨inHand.apart goes, surveyed.later goes⟩
  split
  -- The volumes that the driver is told of are those of the plan, which the survey backs.
  · have telling : Honours (.unruly driver) (Conduct place).promise
        (fun result after => InHand own after.exchanges ∧
          Ends (fun _ after => Surveyed group space groups claims plan after.exchanges) result after)
        (within PassError.driver (of (.ask (.modifyMembership handle plan.volumeIds secrets))))
        remembered := by
      refine .retold (.of (Program.Honours.mono ?_ (Program.honours_next
        ⟨group, space, groups, claims, plan, surveyed, rfl⟩)))
      rintro answer after ⟨log, _⟩
      have goes : Extends Call.LeavesHand remembered.exchanges after.exchanges :=
        log ▸ .single trivial
      exact ⟨inHand.later goes, by cases answer <;> first | exact surveyed.later goes | trivial⟩
    refine .then (honours_telling telling) ?_
    exact fun _ told reached => furnishes told reached.1 reached.2
  · exact furnishes remembered inHand surveyed

/-- Writing the state of a live group records the members of its plan. -/
theorem honours_recording {group own : Group} {space : String} {groups : List Group}
    {claims : List Claim} {plan : MembershipPlan} {status : GroupStatus}
    (inHand : InHand own scene.exchanges)
    (surveyed : Surveyed group space groups claims plan scene.exchanges)
    (names : status.claimNames = plan.claimNames) :
    Honours (.unruly driver) (Conduct place).promise
      (Ends fun later after => latest? after.exchanges = some later ∧
        later.members = plan.claimNames ∧
        Surveyed group space groups claims plan after.exchanges)
      (own.syncStatus status) scene := by
  -- The list of members is recorded either by a write or by being there already.
  unfold Group.syncStatus
  split
  · rename_i same
    exact .pure ⟨inHand.latest, by simp [Group.members, same, names], surveyed⟩
  -- What is written has the members of a plan that was surveyed, so it is allowed.
  · refine .told (.of (Program.Honours.mono ?_ (Program.honours_next ⟨inHand.unsettled, own,
      inHand.latest, rfl, .inr (.inr ⟨group, space, groups, claims, plan, surveyed, names⟩)⟩)))
    rintro answer after ⟨log, possible⟩
    cases answer with
    | error cause => trivial
    | ok later =>
      refine ⟨by rw [log]; rfl, ?_, log ▸ surveyed.later (.cons _ _)⟩
      simp [Group.members, possible.status, names]

/-- Claims that may be released lose their marks by writes of those claims. -/
theorem honours_releasing {claims freed : List Claim} {others : List Group} {space : String}
    (counted : ⟨.listClaims space, .ok claims⟩ ∈ scene.exchanges)
    (known : ∀ claim ∈ freed, claim ∈ claims)
    (releasable : ∀ claim ∈ freed, (others.any fun group => group.lists claim) = false →
      Releasable scene.exchanges space claims claim) :
    Honours (.unruly driver) (Conduct place).promise
      (Ends fun _ after => Extends Call.WritesClaim scene.exchanges after.exchanges)
      (releaseClaims freed others) scene := by
  unfold releaseClaims
  -- The induction goes along the claims, and what may be released may be so after other writes.
  induction freed generalizing scene with
  | nil => exact .pure (.refl _)
  -- A claim that another group lists keeps its mark, and so does one that has none.
  | cons claim rest ih =>
    have releasing : Honours (.unruly driver) (Conduct place).promise
        (Ends fun _ after => Extends Call.WritesClaim scene.exchanges after.exchanges)
        (within PassError.cluster (claim.release others)) scene := by
      refine .told ?_
      unfold Claim.release
      split
      · exact .pure (.refl _)
      · rename_i unlisted
        split
        · exact .pure (.refl _)
        -- What remains is a claim that may be released, and it is written as it was counted.
        · rename_i metadata removed
          obtain ⟨continues, version, marked⟩ := Metadata.removeFinalizer?_eq_some removed
          have allowed : Conduct place scene.exchanges (.replaceClaim { claim with metadata }) :=
            ⟨space, claims, claim, counted, known claim (List.mem_cons_self ..), ⟨continues, rfl⟩,
              version, .inr ⟨Metadata.hasFinalizer_removeFinalizer? removed, marked,
                releasable claim (List.mem_cons_self ..) (by simpa using unlisted)⟩⟩
          refine .dropped (.of (Program.Honours.mono ?_ (Program.honours_next allowed)))
          rintro answer after ⟨log, _⟩
          cases answer with
          | error cause => trivial
          | ok stored => exact (log ▸ .single trivial :
              Extends Call.WritesClaim scene.exchanges after.exchanges)
    -- Later claims are released from where the earlier ones left off.
    refine .then releasing ?_
    rintro _ middle goes
    refine .imp (ih (goes.mem counted) (fun other more => known other (List.mem_cons_of_mem _ more))
      fun other more unlisted => ?_) fun _ after further => goes.trans further
    exact (releasable other (List.mem_cons_of_mem _ more) unlisted).later goes

/-- Every call of a pass over a live group is conducted. -/
theorem honours_syncing {group : Group} {groupClass : GroupClass} {parameters : ClassParameters}
    {secrets : KeyMap String} (inHand : InHand group scene.exchanges)
    (uncounted : ∀ exchange ∈ scene.exchanges, exchange.request.method ≠ .listClaims)
    (live : group.isTerminating = false) :
    Honours (.unruly driver) (Conduct place).promise (Ends fun _ _ => True)
      (group.sync groupClass parameters secrets) scene := by
  -- The stages follow one another, and each hands on the survey and the group.
  rw [Group.sync_eq]
  refine .then (honours_surveying inHand uncounted live) ?_
  rintro ⟨groups, plan⟩ prepared ⟨inHand, space, claims, surveyed⟩
  refine .then (honours_furnishing inHand surveyed) ?_
  rintro furnished done ⟨inHand, surveyed⟩
  -- From here on it is the written state that says which claims the group lists.
  refine .then (honours_recording inHand surveyed rfl) ?_
  rintro later written ⟨latest, members, surveyed⟩
  obtain ⟨counted, looked⟩ := surveyed.counted
  have sorts := surveyed.sorts
  refine .then (honours_releasing counted (fun claim departed =>
    mem_sortedByName.mp (sorts.departed claim departed).1) fun claim departed unlisted => ?_) ?_
  · -- The members are claims that the group wants, unlike what departs.
    refine ⟨later, groups, latest, looked, fun name recorded => ?_, fun other known apart => ?_⟩
    · rw [members] at recorded
      obtain ⟨member, planned, rfl⟩ := List.mem_map.mp recorded
      obtain ⟨listed, wants, _⟩ := sorts.member member planned
      refine ⟨member.claim, mem_sortedByName.mp listed, ?_, rfl⟩
      rintro rfl
      exact (sorts.departed _ departed).2.1 wants
    -- Other groups were seen at the beginning, and none of those lists what is released.
    · have another : other ∈ later.others groups :=
        List.mem_filter.mpr ⟨known, by simpa using apart⟩
      simpa using List.any_eq_false.mp unlisted other another
  · rintro _ released goes
    exact (honours_idle (asks_announce furnished plan later)).mono fun result _ _ => gives_any result

/-- A terminating group is dissolved while it stays in hand. -/
theorem honours_dissolving {group : Group} {secrets : KeyMap String}
    (inHand : InHand group scene.exchanges) :
    Honours (.unruly driver) (Conduct place).promise
      (Ends fun _ after => InHand group after.exchanges ∧
        Extends Call.IsApart scene.exchanges after.exchanges)
      (group.dissolve secrets) scene := by
  -- The content is looked up, and its driver's group is deleted if there is a handle to tell of.
  unfold Group.dissolve
  refine .then (honours_tellingApart inHand (.within (asks_lookupContent group fun _ _ => trivial))) ?_
  rintro content looked ⟨inHand, looking⟩
  extract_lets finish
  split
  · rename_i handle _
    refine .then (honours_tellingApart inHand (?_ : Asks Call.IsApart (fun _ => True) _)) ?_
    · -- Deleting the driver's group may also find that there is none.
      refine .bind (.outcome (.only ⟨trivial, fun _ => trivial⟩)) fun answer _ => ?_
      split
      · exact .pure trivial
      · split
        · exact .pure trivial
        · exact .throw
    · rintro _ deleted ⟨inHand, goes⟩
      exact .pure ⟨inHand, looking.trans goes⟩
  · exact .pure ⟨inHand, looking⟩

/-- A terminating group forgets its members before their marks go. -/
theorem honours_disbanding {group : Group} {space : String} {content : Option Content}
    (inHand : InHand group scene.exchanges)
    (uncounted : ∀ exchange ∈ scene.exchanges, exchange.request.method ≠ .listClaims)
    (inSpace : group.metadata.namespace = some space) :
    Honours (.unruly driver) (Conduct place).promise
      (Ends fun later after => latest? after.exchanges = some later)
      (group.disband space content) scene := by
  -- The claims are counted first, since the names to release are no longer recorded afterwards.
  unfold Group.disband
  extract_lets volumeNames
  refine .then (.told (.ends (.of (Program.honours_next
    ⟨uncounted, group, inHand.latest, inSpace⟩)))) ?_
  rintro claims counting ⟨log, _⟩
  replace inHand : InHand group counting.exchanges := log ▸ inHand.later (.single trivial)
  have counted : ⟨.listClaims space, .ok claims⟩ ∈ counting.exchanges := log ▸ List.mem_cons_self ..
  have forgetting : Honours (.unruly driver) (Conduct place).promise
      (Ends fun later after => latest? after.exchanges = some later ∧ later.members = [] ∧
        ⟨.listClaims space, .ok claims⟩ ∈ after.exchanges)
      group.forgetMembers counting := by
    -- A group without a state or without members has nothing to forget.
    unfold Group.forgetMembers
    split
    · rename_i none
      exact .pure ⟨inHand.latest, by simp [Group.members, none], counted⟩
    · rename_i status recorded
      split
      · rename_i nothing
        exact .pure ⟨inHand.latest, by simpa [Group.members, recorded] using nothing, counted⟩
      -- Writing an empty list is allowed to a terminating group at any time.
      · refine .told (.of (Program.Honours.mono ?_ (Program.honours_next
          ⟨inHand.unsettled, group, inHand.latest, rfl, .inr (.inl rfl)⟩)))
        rintro answer after ⟨log, possible⟩
        cases answer with
        | error cause => trivial
        | ok later =>
          refine ⟨by rw [log]; rfl, ?_, log ▸ List.mem_cons_of_mem _ counted⟩
          simp [Group.members, possible.status]
  refine .then forgetting ?_
  rintro later forgotten ⟨latest, nothing, counted⟩
  -- The other groups are looked at only after the members are forgotten.
  refine .then (.told (.ends (.of (Program.honours_next trivial)))) ?_
  rintro groups looked ⟨log, _⟩
  have goes : Extends Call.LeavesHand forgotten.exchanges looked.exchanges :=
    log ▸ .single trivial
  replace latest := (goes.findSome? fun _ leaves => leaves.silent.1).trans latest
  -- The group lists nothing any more, and what another group lists is not let go.
  refine .then (honours_releasing (goes.mem counted) (fun claim owed => (List.mem_filter.mp owed).1)
    fun claim _ unlisted => ⟨later, groups, latest, log ▸ List.mem_cons_self .., by simp [nothing],
      fun other known apart => ?_⟩) ?_
  · have another : other ∈ later.others groups :=
      List.mem_filter.mpr ⟨known, by simpa using apart⟩
    simpa using List.any_eq_false.mp unlisted other another
  · rintro _ released writing
    exact .pure ((writing.findSome? fun _ writes => writes.silent.1).trans latest)

/-- A terminating group loses its mark by a write of the group as the pass has it. -/
theorem honours_departing {group : Group} {content : Option Content}
    (latest : latest? scene.exchanges = some group) :
    Honours (.unruly driver) (Conduct place).promise (Ends fun _ _ => True)
      (group.depart content) scene := by
  -- The content goes first and the mark of the group last.
  unfold Group.depart
  extract_lets finish
  have finishes (gone : Scene) (latest : latest? gone.exchanges = some group) :
      Honours (.unruly driver) (Conduct place).promise (Ends fun _ _ => True) (finish ()) gone := by
    -- The mark is taken off the group as the pass has it, which is the only write left.
    have releasing : Honours (.unruly driver) (Conduct place).promise (Ends fun _ _ => True)
        group.release gone := by
      unfold Group.release
      split
      · exact .pure trivial
      · rename_i metadata freed
        obtain ⟨continues, version, _⟩ := Metadata.removeFinalizer?_eq_some freed
        have allowed : Conduct place gone.exchanges (.replaceGroup { group with metadata }) :=
          ⟨group, latest, ⟨continues, rfl, rfl⟩, version⟩
        refine .dropped (.of (Program.Honours.mono ?_ (Program.honours_next allowed)))
        exact fun answer _ _ => gives_any answer
    exact .then releasing.told fun _ _ _ => .pure trivial
  split
  -- Deleting a content is apart from groups, so the group is still the latest one.
  · refine .then (honours_apart (.within
      (asks_deleteContent _ (fun _ => trivial) fun _ _ => trivial))) ?_
    rintro _ gone ⟨_, goes⟩
    exact finishes gone ((goes.findSome? fun _ apart => apart.leavesHand.silent.1).trans latest)
  · exact finishes scene latest

/-- Every call of a pass over a terminating group is conducted. -/
theorem honours_finalizing {group : Group} {secrets : KeyMap String}
    (inHand : InHand group scene.exchanges)
    (uncounted : ∀ exchange ∈ scene.exchanges, exchange.request.method ≠ .listClaims) :
    Honours (.unruly driver) (Conduct place).promise (Ends fun _ _ => True)
      (group.finalize secrets) scene := by
  -- Without its mark nothing is owed, and the pass only waits.
  rw [Group.finalize_eq]
  split
  -- The three stages follow one another, each with the group as the one before left it.
  · refine .then (honours_namespace group) ?_
    rintro space scene ⟨rfl, inSpace⟩
    refine .then (honours_dissolving inHand) ?_
    rintro content dissolved ⟨inHand, goes⟩
    refine .then (honours_disbanding inHand (goes.uncounted uncounted) inSpace) ?_
    exact fun later disbanded latest => honours_departing latest
  · exact .pure trivial

/-- Every call of a pass over a group that was read is conducted. -/
theorem honours_advancing {group : Group} (inHand : InHand group scene.exchanges)
    (uncounted : ∀ exchange ∈ scene.exchanges, exchange.request.method ≠ .listClaims) :
    Honours (.unruly driver) (Conduct place).promise (Ends fun _ _ => True)
      (group.advance driver) scene := by
  -- Class, parameters and credentials are read without touching groups or claims.
  unfold Group.advance
  refine .then (honours_tellingApart inHand ((asks_resolveClass group).mono
    (fun _ idle => idle.isApart) fun _ => id)) ?_
  rintro groupClass resolved ⟨inHand, resolving⟩
  replace uncounted := resolving.uncounted uncounted
  split
  -- The group of another driver is left alone.
  · exact .pure trivial
  · refine .then (honours_tellingApart inHand (.within (.known (gives_any _)))) ?_
    rintro parameters checked ⟨inHand, checking⟩
    replace uncounted := checking.uncounted uncounted
    refine .then (honours_tellingApart inHand (.within ((asks_credentials parameters.secret).mono
      (fun _ idle => idle.isApart) fun _ => id))) ?_
    rintro secrets read ⟨inHand, reading⟩
    replace uncounted := reading.uncounted uncounted
    -- A terminating group is finalized, and a live one is marked first and then synchronized.
    split
    · exact honours_finalizing inHand uncounted
    · rename_i live
      replace live : group.isTerminating = false := by simpa using live
      have protecting : Honours (.unruly driver) (Conduct place).promise
          (Ends fun own after => InHand own after.exchanges ∧ own.isTerminating = false ∧
            ∀ exchange ∈ after.exchanges, exchange.request.method ≠ .listClaims)
          (within PassError.cluster group.protect) read := by
        refine .told ?_
        unfold Group.protect
        -- A group that has its mark is not written again.
        split
        · exact .pure ⟨inHand, live, uncounted⟩
        · rename_i metadata added
          obtain ⟨continues, version, _⟩ := Metadata.addFinalizer?_eq_some added
          have same : group.Continues { group with metadata } := ⟨continues, rfl, rfl⟩
          -- The group is written as it was read, which puts the written form in hand.
          refine .of (Program.Honours.mono ?_ (Program.honours_next
            ⟨group, inHand.latest, same, version⟩))
          rintro answer after ⟨log, possible⟩
          cases answer with
          | error cause => trivial
          | ok own =>
            refine ⟨log ▸ .bring inHand.unsettled _ own, ?_, ?_⟩
            · exact (same.trans possible.continues).isTerminating.trans live
            · rw [log]
              simpa using ⟨by simp [Call.method], uncounted⟩
      refine .then protecting ?_
      rintro own protected' ⟨inHand, live, uncounted⟩
      exact honours_syncing inHand uncounted live

/-- Every call of a pass is conducted. -/
theorem honours_conducting (seen : Group) (start : Store) :
    Honours (.unruly driver) (Conduct seen.place).promise (Ends fun _ _ => True)
      (seen.reconcile driver) ⟨start, []⟩ := by
  -- A pass begins by reading the group that was seen.
  unfold Group.reconcile
  refine .then (honours_namespace seen) ?_
  rintro space _ ⟨rfl, inSpace⟩
  have place : space ++ "/" ++ seen.name = seen.place := by
    rw [Group.place, (inSpace : seen.metadata.namespace = some space)]
    rfl
  have reading : Honours (.unruly driver) (Conduct seen.place).promise
      (Ends fun answer after => after.exchanges = [⟨.getGroup seen.name space, answer⟩])
      (outcome (of (.ask (.getGroup seen.name space))) :
        Attempt PassError (Except ClusterError Group)) ⟨start, []⟩ :=
    .outcome (.of (Program.Honours.mono (fun _ _ told => told.1) (Program.honours_next place)))
  refine .then reading ?_
  rintro answer read log
  -- Only a group that is found is dealt with, and it is the one in hand from here on.
  split
  · rename_i group
    have log : read.exchanges = [⟨.getGroup seen.name space, .ok group⟩] := log
    refine honours_advancing ⟨by rw [log]; rfl, by rw [log]; rfl, ?_⟩ ?_
    · rw [log]
      simp [Exchange.marks?]
    · rw [log]
      simp [Call.method]
  -- A group that is gone ends the pass quietly, and any other failure ends it as such.
  · split
    · exact .pure trivial
    · exact .throw trivial

end Attempt

end Rules

end VolumeGroups
