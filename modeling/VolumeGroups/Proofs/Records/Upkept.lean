import VolumeGroups.Proofs.Operator.Parts
import VolumeGroups.Proofs.Handles.Quiet
import VolumeGroups.Proofs.Records.Upkeep

/-! A pass over a live group, up to the plan that it makes: its calls are permitted by the group that it
began with. -/

namespace VolumeGroups

/-- A pass that began with a group has a form of it in hand. -/
structure HoldsForm (group held : Group) (log : List Exchange) : Prop where
  origin : origin? log = some group
  latest : latest? log = some held

/-- A pass that has a group in hand has written no state, and the driver has done all that it was
told. -/
structure Holding (group held : Group) (log : List Exchange) : Prop
    extends HoldsForm group held log where
  unstated : Unstated log
  unrefused : Unrefused log

/-- The group stays in hand after a call that brings none. -/
theorem HoldsForm.cons {group held : Group} {log : List Exchange}
    (holdsForm : HoldsForm group held log)
    {exchange : Exchange} (apart : exchange.group? = none) :
    HoldsForm group held (exchange :: log) where
  origin := (Extends.cons _ log).origin? holdsForm.origin
  latest := by
    rw [latest?, List.findSome?_cons, apart]
    exact holdsForm.latest

/-- The group stays in hand while calls are made aside. -/
theorem HoldsForm.aside {group held : Group} {before after : List Exchange}
    (holdsForm : HoldsForm group held before) (goes : Extends Call.IsAside before after) :
    HoldsForm group held after where
  origin := goes.origin? holdsForm.origin
  latest := (goes.findSome? fun _ aside => aside.silent.1).trans holdsForm.latest

namespace Holding

variable {group held own : Group} {before after log : List Exchange}

/-- Calls made aside change nothing about that. -/
theorem aside (holding : Holding group held before) (goes : Extends Call.IsAside before after) :
    Holding group held after where
  toHoldsForm := holding.toHoldsForm.aside goes
  unstated := holding.unstated.later goes fun _ aside => aside.stateless
  unrefused := holding.unrefused.later goes fun _ aside => aside.silent.2

/-- Passive calls change nothing about it either. -/
theorem passive (holding : Holding group held before)
    (goes : Extends Call.IsPassive before after) : Holding group held after :=
  holding.aside (goes.mono fun _ passive => passive.isAside)

/-- A group that was written is in hand from then on. -/
theorem bring (holding : Holding group held log) (later own : Group) :
    Holding group own (⟨.replaceGroup later, .ok own⟩ :: log) where
  -- A write of a group is neither a state nor a refusal of the driver.
  origin := (Extends.cons _ log).origin? holding.origin
  latest := rfl
  unstated := holding.unstated.later (.cons _ log) fun _ same => same ▸ id
  unrefused := by
    intro exchange known
    rcases List.mem_cons.mp known with rfl | known
    · exact id
    · exact holding.unrefused exchange known

/-- What the driver does as it is told changes nothing about it. -/
theorem drive (holding : Holding group held log) {exchange : Exchange}
    (apart : exchange.group? = none) (stateless : ¬ exchange.request.States)
    (done : ¬ exchange.IsRefusal) : Holding group held (exchange :: log) where
  toHoldsForm := holding.toHoldsForm.cons apart
  unstated := by simpa [Unstated] using ⟨stateless, holding.unstated⟩
  unrefused := by simpa [Unrefused] using ⟨done, holding.unrefused⟩

end Holding

namespace Upkeep

open Attempt

section Rules

variable {driver place : String} {group held : Group} {scene : Scene} {α γ ε : Type}

/-- Passive calls are permitted. -/
theorem honours_passively {gives : α → Prop} {program : Program α}
    (asks : program.Asks Call.IsPassive gives) (origin : origin? scene.exchanges = some group) :
    program.Honours (.unruly driver) (Upkeep place).promise
      (fun value after => gives value ∧
        Extends Call.IsPassive scene.exchanges after.exchanges) scene :=
  Program.honours_along asks fun passive goes =>
    .inr ⟨group, goes.origin? origin, .of_passive passive⟩

/-- An attempt of passive calls is permitted. -/
theorem honours_passive {gives : α → Prop} {attempt : Attempt ε α}
    (asks : Asks Call.IsPassive gives attempt) (origin : origin? scene.exchanges = some group) :
    Honours (.unruly driver) (Upkeep place).promise
      (fun result after => Gives gives result ∧
        Extends Call.IsPassive scene.exchanges after.exchanges) attempt scene :=
  honours_passively asks origin

/-- An idle attempt is permitted. -/
theorem honours_idle {gives : α → Prop} {attempt : Attempt ε α}
    (asks : Asks Call.IsIdle gives attempt) (origin : origin? scene.exchanges = some group) :
    Honours (.unruly driver) (Upkeep place).promise
      (fun result after => Gives gives result ∧
        Extends Call.IsPassive scene.exchanges after.exchanges) attempt scene :=
  honours_passive (asks.mono (fun _ idle => idle.isPassive) fun _ => id) origin

/-- Telling a failure on the group in hand leaves all but its readiness, which it does not grant. -/
theorem honours_tell {reason : Reason} {ready : Option Bool} {error : PassError}
    (holdsForm : HoldsForm group held scene.exchanges) (unready : ready ≠ some true) :
    (held.tell reason ready error).Honours (.unruly driver) (Upkeep place).promise
      (fun _ _ => True) scene := by
  -- The event goes out whether the state is written or not.
  have noted (scene : Scene) (origin : origin? scene.exchanges = some group) :
      (note (Resource.reference held) .warning reason error.statusMessage).Honours
        (.unruly driver) (Upkeep place).promise (fun _ _ => True) scene :=
    (honours_passively ((asks_note ..).mono (fun _ idle => idle.isPassive) fun _ => id)
      origin).mono fun _ _ _ => trivial
  unfold Group.tell
  extract_lets status
  -- The state is written only if it differs from the one that is there.
  split
  · have allowed : Upkeep place scene.exchanges
        (.replaceGroupStatus { held with status := some status }) :=
      .inr ⟨group, holdsForm.origin, held, status, holdsForm.latest, rfl,
        .inl ⟨_, _, rfl, unready⟩⟩
    -- A state that reports a failure is always permitted.
    refine Program.Honours.bind (Program.honours_next allowed) fun _ after reached =>
      noted after ?_
    exact reached.1 ▸ (Extends.cons _ _).origin? holdsForm.origin
  · exact noted scene holdsForm.origin

variable (group) in
/-- An attempt whose failure is told on the group in hand succeeds as it does by itself. -/
theorem honours_telling {goal : α → Scene → Prop} {attempt : Attempt PassError α}
    {reason : Reason} {ready : Option Bool} (unready : ready ≠ some true)
    (honours : Honours (.unruly driver) (Upkeep place).promise
      (fun result after => HoldsForm group held after.exchanges ∧ Ends goal result after) attempt
      scene) :
    Honours (.unruly driver) (Upkeep place).promise (Ends goal)
      (tellingOn held reason ready attempt) scene :=
  -- What is told of the failure has no effect on the result.
  honours.tellingOn (fun _ _ reached => reached.2) fun _ _ reached =>
    (honours_tell reached.1 unready).mono fun _ _ _ => trivial

/-- An attempt of passive calls whose failure is told on the group in hand leaves the group in hand. -/
theorem honours_tellingPassive {gives : α → Prop} {attempt : Attempt PassError α}
    {reason : Reason} {ready : Option Bool} (unready : ready ≠ some true)
    (holding : Holding group held scene.exchanges) (asks : Asks Call.IsPassive gives attempt) :
    Honours (.unruly driver) (Upkeep place).promise
      (Ends fun value after => gives value ∧
        Extends Call.IsPassive scene.exchanges after.exchanges)
      (tellingOn held reason ready attempt) scene := by
  -- Passive calls write nothing, so the same form of the group stays in hand.
  refine honours_telling group unready ((honours_passive asks holding.origin).mono ?_)
  rintro result after ⟨given, goes⟩
  refine ⟨(holding.passive goes).toHoldsForm, ?_⟩
  cases result with
  | ok value => exact ⟨given, goes⟩
  | error error => trivial

/-- What is done aside for each of some items one after another is done aside. -/
theorem honours_each {items : List γ} {body : γ → Attempt ε PUnit}
    (each : ∀ item ∈ items, ∀ middle : Scene,
      Extends Call.IsAside scene.exchanges middle.exchanges →
        Honours (.unruly driver) (Upkeep place).promise
          (Ends fun _ after => Extends Call.IsAside middle.exchanges after.exchanges)
          (body item) middle) :
    Honours (.unruly driver) (Upkeep place).promise
      (Ends fun _ after => Extends Call.IsAside scene.exchanges after.exchanges)
      (items.forM body) scene := by
  -- The induction goes along the items, each of which finds a log that has gone on.
  induction items generalizing scene with
  | nil => exact .pure (.refl _)
  | cons item rest ih =>
    refine .then (each item (List.mem_cons_self ..) scene (.refl _)) ?_
    intro _ middle goes
    refine .imp (ih fun other more later further =>
      each other (List.mem_cons_of_mem _ more) later (goes.trans further)) ?_
    exact fun _ after further => goes.trans further

/-- The volume that a claim is bound to is read, with the driver's name for it. -/
theorem honours_boundVolume (claim : Claim) (origin : origin? scene.exchanges = some group) :
    Honours (.unruly driver) (Upkeep place).promise
      (Ends fun bound after => ∀ volumeName volumeId, bound = some (volumeName, volumeId) →
        Served volumeName volumeId after.exchanges)
      (boundVolume claim) scene := by
  unfold boundVolume
  -- A claim that is not bound has no volume to be read.
  split
  · exact .pure nofun
  · rename_i name _
    have allowed : Upkeep place scene.exchanges (.getVolume name) :=
      .inr ⟨group, origin, trivial⟩
    refine .then (.told (.ends (.of (Program.honours_next allowed)))) ?_
    rintro volume read ⟨log, _⟩
    -- A volume of no driver stops the pass.
    split
    · rename_i handle named
      refine .pure ?_
      rintro _ _ ⟨⟩
      exact ⟨volume, log ▸ List.mem_cons_self .., named⟩
    · exact .throw trivial

/-- A claim stands as a member only if its volume was read. -/
theorem honours_standing (groups : List Group) (claim : Claim)
    (origin : origin? scene.exchanges = some group) :
    Honours (.unruly driver) (Upkeep place).promise
      (Ends fun standing after => ∀ volumeName volumeId, standing = .member volumeName volumeId →
        Served volumeName volumeId after.exchanges)
      (held.standing groups claim) scene := by
  unfold Group.standing
  -- The two local ends are named, since several branches lead to each of them.
  extract_lets listed take decide
  -- Taking a claim means to read its volume.
  have takes (scene : Scene) (origin : origin? scene.exchanges = some group) :
      Honours (.unruly driver) (Upkeep place).promise
        (Ends fun standing after => ∀ volumeName volumeId, standing = .member volumeName volumeId →
          Served volumeName volumeId after.exchanges) (take ()) scene := by
    refine .then (honours_boundVolume claim origin) ?_
    intro bound read served
    split
    · refine .pure ?_
      rintro _ _ ⟨⟩
      exact served _ _ rfl
    · exact .pure nofun
  -- Whatever keeps a claim from being a member, no volume has to be read for it.
  have decides (stays : Bool) (scene : Scene) (origin : origin? scene.exchanges = some group) :
      Honours (.unruly driver) (Upkeep place).promise
        (Ends fun standing after => ∀ volumeName volumeId, standing = .member volumeName volumeId →
          Served volumeName volumeId after.exchanges) (decide stays) scene := by
    simp only [decide]
    split
    · split <;> exact .pure nofun
    · split
      · split
        · exact .pure nofun
        · refine .then (honours_idle (asks_storageClassGuard claim).idly origin) ?_
          rintro refusal guarded ⟨_, goes⟩
          split
          · exact .pure nofun
          · exact takes guarded (goes.origin? origin)
      · exact takes scene origin
  -- A claim of another namespace or one that ends cannot stay, and no selector is asked.
  split
  · exact decides false scene origin
  · refine .then (honours_idle (.within (.known (gives_any _))) origin) ?_
    rintro stays selected ⟨_, goes⟩
    exact decides stays selected (goes.origin? origin)

/-- The volumes of all members of a plan were read. -/
theorem honours_planFor (groups : List Group) (claims : List Claim)
    (origin : origin? scene.exchanges = some group) :
    Honours (.unruly driver) (Upkeep place).promise
      (Ends fun plan after => ∀ member ∈ plan.members,
        Served member.volumeName member.volumeId after.exchanges)
      (held.planFor groups claims) scene := by
  -- The induction goes along the claims, and what was read for one of them is not read again.
  induction claims generalizing scene with
  | nil => exact .pure fun _ none => absurd none List.not_mem_nil
  | cons claim rest ih =>
    refine .then ((honours_standing groups claim origin).both
      (honours_idle (asks_standing held groups claim).idly origin)) ?_
    rintro standing placed ⟨served, _, placing⟩
    have origin := placing.origin? origin
    refine .then ((ih origin).both
      (honours_idle (asks_planFor held groups rest).idly origin)) ?_
    rintro plan planned ⟨others, _, planning⟩
    -- A member of the plan is this claim or one of the rest.
    refine .pure ?_
    intro member known
    cases standing with
    | member volumeName volumeId =>
      rcases List.mem_cons.mp known with rfl | known
      · exact (served _ _ rfl).later planning
      · exact others member known
    | _ => exact others member known

/-- A plan for the group in hand is one for the claims that the pass counts. -/
theorem honours_planning {groups : List Group} (holding : Holding group held scene.exchanges)
    (inSpace : held.metadata.namespace = group.metadata.namespace) :
    Honours (.unruly driver) (Upkeep place).promise
      (fun result after => HoldsForm group held after.exchanges ∧
        Ends (fun plan after => Extends Call.IsPassive scene.exchanges after.exchanges ∧
          ∃ claims, Planned group claims plan after.exchanges) result after)
      (held.plan groups) scene := by
  unfold Group.plan
  -- First the namespace has to be known, to count the claims in it.
  refine .bind (honours_namespace held) ?_ ?_
  · rintro _ _ ⟨rfl, _⟩
    exact ⟨holding.toHoldsForm, trivial⟩
  rintro space scene ⟨rfl, known⟩
  -- Counting is a look, so it leaves the group in hand.
  have counting : Honours (.unruly driver) (Upkeep place).promise
      (fun result after => Extends Call.IsPassive scene.exchanges after.exchanges ∧
        Ends (fun claims after => ⟨.listClaims space, .ok claims⟩ ∈ after.exchanges) result after)
      (within MembershipError.cluster (of (.ask (.listClaims space)))) scene := by
    have allowed : Upkeep place scene.exchanges (.listClaims space) :=
      .inr ⟨group, holding.origin, trivial⟩
    refine .retold (.of (Program.Honours.mono ?_ (Program.honours_next allowed)))
    rintro answer after ⟨log, _⟩
    refine ⟨log ▸ .single trivial, ?_⟩
    cases answer with
    | ok claims =>
      show _ ∈ after.exchanges
      rw [log]
      exact List.mem_cons_self ..
    | error cause => trivial
  refine .bind counting (fun _ _ reached => ⟨(holding.passive reached.1).toHoldsForm, trivial⟩) ?_
  rintro claims counted ⟨counting, listed⟩
  have origin := counting.origin? holding.origin
  -- What the plan says of the claims is known from how it is made, and what was read from the log.
  refine ((honours_idle (asks_planFor held groups (sortedByName claims)).idly origin).both
    (honours_planFor groups (sortedByName claims) origin)).mono ?_
  rintro result after ⟨⟨sorts, goes⟩, served⟩
  refine ⟨(holding.passive (counting.trans goes)).toHoldsForm, ?_⟩
  cases result with
  | error error => trivial
  | ok plan =>
    have sorts : held.Sorts groups (sortedByName claims) plan := sorts
    -- The plan sorts the claims that were listed, with volumes that were served.
    refine ⟨counting.trans goes, claims,
      ⟨space, inSpace.symm.trans known, goes.mem listed⟩, ?_, served, ?_⟩
    · intro member planned
      obtain ⟨listed, stands⟩ := sorts.member member planned
      exact ⟨mem_sortedByName.mp listed, stands.2.1⟩
    · exact fun claim departed => mem_sortedByName.mp (sorts.departed claim departed).1

/-- A counted claim gets or loses its mark by a write of the claim. -/
theorem honours_editing {space : String} {claims : List Claim} {claim : Claim}
    {metadata : Metadata} (origin : origin? scene.exchanges = some group)
    (inSpace : group.metadata.namespace = some space)
    (counted : ⟨.listClaims space, .ok claims⟩ ∈ scene.exchanges) (known : claim ∈ claims)
    (edited : claim.metadata.addFinalizer? claimFinalizer = some metadata ∨
      claim.metadata.removeFinalizer? claimFinalizer = some metadata) :
    Honours (.unruly driver) (Upkeep place).promise
      (Ends fun _ after => Extends Call.IsAside scene.exchanges after.exchanges)
      ((Attempt.of (.ask (.replaceClaim { claim with metadata }))) >>= fun _ => pure ()) scene := by
  have allowed : Upkeep place scene.exchanges (.replaceClaim { claim with metadata }) :=
    .inr ⟨group, origin, space, claims, claim, metadata, inSpace, counted, known, edited, rfl⟩
  -- The result is dropped, so only the log matters.
  refine .dropped (.of (Program.Honours.mono ?_ (Program.honours_next allowed)))
  rintro answer after ⟨log, _⟩
  cases answer with
  | error cause => trivial
  | ok stored =>
    exact (log ▸ .single trivial : Extends Call.IsAside scene.exchanges after.exchanges)

/-- Members that were counted are marked aside. -/
theorem honours_marking {wider : ClusterError → ε} {claims : List Claim} {plan : MembershipPlan}
    (origin : origin? scene.exchanges = some group)
    (planned : Planned group claims plan scene.exchanges) :
    Honours (.unruly driver) (Upkeep place).promise
      (Ends fun _ after => Extends Call.IsAside scene.exchanges after.exchanges)
      (plan.members.forM fun member => within wider member.claim.protect) scene := by
  obtain ⟨space, inSpace, counted⟩ := planned.counted
  -- Every member is marked by itself; one that has the mark is left alone.
  refine honours_each fun member known middle goes => .told ?_
  unfold Claim.protect
  split
  · exact .pure (.refl _)
  · rename_i metadata added
    exact honours_editing (goes.origin? origin) inSpace (goes.mem counted)
      (planned.bound member known).1 (.inl added)

/-- Claims that were counted are released aside. -/
theorem honours_releasing {space : String} {claims freed : List Claim} {others : List Group}
    (origin : origin? scene.exchanges = some group)
    (inSpace : group.metadata.namespace = some space)
    (counted : ⟨.listClaims space, .ok claims⟩ ∈ scene.exchanges)
    (known : ∀ claim ∈ freed, claim ∈ claims) :
    Honours (.unruly driver) (Upkeep place).promise
      (Ends fun _ after => Extends Call.IsAside scene.exchanges after.exchanges)
      (releaseClaims freed others) scene := by
  -- Every claim is released by itself.
  refine honours_each fun claim owed middle goes => .told ?_
  -- A claim that another group lists, and one without the mark, is left alone.
  unfold Claim.release
  split
  · exact .pure (.refl _)
  · split
    · exact .pure (.refl _)
    · rename_i metadata removed
      exact honours_editing (goes.origin? origin) inSpace (goes.mem counted) (known claim owed)
        (.inr removed)

/-- The first stage of a live group makes a plan of the claims that it counts. -/
theorem honours_preparing (holding : Holding group held scene.exchanges)
    (inSpace : held.metadata.namespace = group.metadata.namespace) :
    Honours (.unruly driver) (Upkeep place).promise
      (Ends fun prepared after => Extends Call.IsAside scene.exchanges after.exchanges ∧
        ∃ claims, Planned group claims prepared.2 after.exchanges)
      held.prepare scene := by
  unfold Group.prepare
  -- The plan is made of groups and claims that are read one after the other.
  refine .then (honours_namespace held) ?_
  rintro space scene ⟨rfl, _⟩
  have looking : Asks Call.IsPassive (fun _ => True)
      (within PassError.cluster (of (.ask (.listGroups space)))) :=
    .within (.only ⟨trivial, fun _ => trivial⟩)
  refine .then (honours_passive looking holding.origin) ?_
  rintro groups looked ⟨_, looking⟩
  replace holding := holding.passive looking
  refine .then (honours_telling group nofun (.retold (honours_planning holding inSpace))) ?_
  rintro plan made ⟨making, claims, planned⟩
  replace holding := holding.passive making
  -- Events of refusals are told before any claim is marked.
  refine .then (honours_idle (.forM fun _ _ => .lift (asks_note ..)) holding.origin) ?_
  rintro _ noted ⟨_, noting⟩
  refine .then (honours_marking (noting.origin? holding.origin) (planned.later noting)) ?_
  rintro _ after marking
  -- Nothing so far has touched the group or the driver.
  have goes := looking.trans (making.trans noting)
  refine .pure ⟨(goes.mono fun _ passive => passive.isAside).trans marking, claims, ?_⟩
  exact (planned.later noting).later marking

end Rules

end Upkeep

end VolumeGroups
