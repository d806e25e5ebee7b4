import VolumeGroups.Proofs.Membership.Plan

/-! Where a claim stands towards a group on a cluster that answers each lookup of a volume and of a
class of volumes in one way, whatever else happens to it. -/

namespace VolumeGroups

namespace Attempt

variable {σ ε ε' α β : Type} {respond : σ → (request : Call) → request.Answer × σ}

/-- What follows a success starts from its value, in the state that it leaves. -/
theorem run_bind_ok {attempt : Attempt ε α} {state : σ} {value : α}
    (first : (attempt.run.run respond state).1 = .ok value) (next : α → Attempt ε β) :
    ((attempt >>= next).run.run respond state).1 =
      ((next value).run.run respond (attempt.run.run respond state).2).1 := by
  refine (congrArg Prod.fst (Program.run_bind respond state attempt.run _)).trans ?_
  rw [first]
  rfl

/-- Nothing follows a failure. -/
theorem run_bind_error {attempt : Attempt ε α} {state : σ} {error : ε}
    (first : (attempt.run.run respond state).1 = .error error) (next : α → Attempt ε β) :
    ((attempt >>= next).run.run respond state).1 = .error error := by
  refine (congrArg Prod.fst (Program.run_bind respond state attempt.run _)).trans ?_
  rw [first]
  rfl

/-- An attempt has one result in whatever state it starts. -/
def ComesTo (respond : σ → (request : Call) → request.Answer × σ) (attempt : Attempt ε α)
    (result : Except ε α) : Prop :=
  ∀ state, (attempt.run.run respond state).1 = result

namespace ComesTo

/-- A value comes to itself. -/
theorem pure (value : α) : ComesTo respond (Pure.pure value : Attempt ε α) (.ok value) :=
  fun _ => rfl

/-- A failure comes to itself. -/
theorem throw (error : ε) :
    ComesTo respond (MonadExcept.throw error : Attempt ε α) (.error error) :=
  fun _ => rfl

/-- What is known without a call comes to itself. -/
theorem known (result : Except ε α) : ComesTo respond (Attempt.known result) result :=
  fun _ => rfl

/-- What follows a success decides what both come to. -/
theorem bind {attempt : Attempt ε α} {value : α} (first : ComesTo respond attempt (.ok value))
    {next : α → Attempt ε β} {result : Except ε β} (second : ComesTo respond (next value) result) :
    ComesTo respond (attempt >>= next) result :=
  fun state => (run_bind_ok (first state) next).trans (second _)

/-- A failure is what all comes to. -/
theorem stop {attempt : Attempt ε α} {error : ε} (first : ComesTo respond attempt (.error error))
    (next : α → Attempt ε β) : ComesTo respond (attempt >>= next) (.error error) :=
  fun state => run_bind_error (first state) next

/-- What is told in wider terms comes to the same in wider terms. -/
theorem within {attempt : Attempt ε α} {result : Except ε α}
    (comes : ComesTo respond attempt result) (wider : ε → ε') :
    ComesTo respond (Attempt.within wider attempt) (result.mapError wider) := by
  intro state
  -- What is told in wider terms goes on after the result, whichever of the two it is.
  refine (congrArg Prod.fst (Program.run_bind respond state attempt.run _)).trans ?_
  rw [comes state]
  rfl

/-- The outcome of what comes to a result is that result. -/
theorem outcome {attempt : Attempt ε α} {result : Except ε α}
    (comes : ComesTo respond attempt result) :
    ComesTo respond (Attempt.outcome attempt : Attempt ε' (Except ε α)) (.ok result) := by
  intro state
  refine (congrArg Prod.fst (Program.run_bind respond state attempt.run _)).trans ?_
  rw [comes state]
  rfl

end ComesTo

end Attempt

/-- What a cluster answers to lookups of volumes and of classes of volumes by their names. -/
structure Lookups where
  volume : String → Except ClusterError Volume
  storageClass : String → Except ClusterError StorageClass

namespace Lookups

/-- A cluster answers lookups in one way in whatever state it is. -/
structure Answers {σ : Type} (lookups : Lookups)
    (respond : σ → (request : Call) → request.Answer × σ) : Prop where
  volume : ∀ state name, (respond state (.getVolume name)).1 = lookups.volume name
  storageClass : ∀ state name,
    (respond state (.getStorageClass name)).1 = lookups.storageClass name

/-- A class of volumes groups its volumes by itself. -/
def Groups (lookups : Lookups) (name : String) : Prop :=
  ∃ storageClass, lookups.storageClass name = .ok storageClass ∧
    (storageClass.parameters.getD ∅).contains storageClassGroupParameter = true

/-- A class of volumes leaves grouping to the operator, as one that is not there does. -/
def Leaves (lookups : Lookups) (name : String) : Prop :=
  (∃ storageClass, lookups.storageClass name = .ok storageClass ∧
    (storageClass.parameters.getD ∅).contains storageClassGroupParameter = false) ∨
  ∃ cause, lookups.storageClass name = .error cause ∧ cause.isNotFound = true

/-- Why a claim may not join a group that selects it: other groups have or want it, or, where they
do not, its class of volumes groups them by itself. -/
inductive Refuses (lookups : Lookups) (groups : List Group) (claim : Claim) : Rejection → Prop where
  | contested {cause : Rejection} (exclusive : checkExclusive claim groups = .error cause) :
    lookups.Refuses groups claim cause
  | grouped {name : String} (exclusive : checkExclusive claim groups = .ok ())
    (classed : claim.storageClassName? = some name) (grouped : lookups.Groups name) :
    lookups.Refuses groups claim (.groupedByStorageClass (Resource.key claim) name)

/-- A claim may join a group that selects it. -/
structure Admits (lookups : Lookups) (groups : List Group) (claim : Claim) : Prop where
  exclusive : checkExclusive claim groups = .ok ()
  classed : ∀ name, claim.storageClassName? = some name → lookups.Leaves name

end Lookups

/-- A claim is being deleted, or its labels are none that the group selects. -/
def Group.Spurns (group : Group) (claim : Claim) : Prop :=
  claim.metadata.isTerminating = true ∨ group.selects claim = .ok false

/-- Where a claim that a group keeps stands, by the volume that it is bound to. -/
def Standing.ofBound : Option (String × String) → Standing
  | some (volumeName, volumeId) => .member volumeName volumeId
  | none => .waiting

namespace Lookups

/-- A group has a claim, or would have it, as soon as the claim is bound. -/
structure Keeps (lookups : Lookups) (group : Group) (groups : List Group) (claim : Claim) :
    Prop where
  wants : group.Wants claim
  free : group.lists claim = true ∨ lookups.Admits groups claim

/-- The one place at which a claim stands towards a group. -/
inductive Places (lookups : Lookups) (group : Group) (groups : List Group) (claim : Claim) :
    Standing → Prop where
  | departed (listed : group.lists claim = true) (spurned : group.Spurns claim) :
    lookups.Places group groups claim .departed
  | irrelevant (unlisted : group.lists claim = false) (spurned : group.Spurns claim) :
    lookups.Places group groups claim .irrelevant
  | rejected {cause : Rejection} (wants : group.Wants claim) (unlisted : group.lists claim = false)
    (refused : lookups.Refuses groups claim cause) :
    lookups.Places group groups claim (.rejected cause)
  | waiting (kept : lookups.Keeps group groups claim) (unbound : claim.volumeName? = none) :
    lookups.Places group groups claim .waiting
  | member {name handle : String} {volume : Volume} (kept : lookups.Keeps group groups claim)
    (bound : claim.volumeName? = some name) (found : lookups.volume name = .ok volume)
    (served : volume.handle? = some handle) :
    lookups.Places group groups claim (.member name handle)

/-- Why it cannot be told where a claim stands towards a group. -/
inductive Fails (lookups : Lookups) (group : Group) (groups : List Group) (claim : Claim) :
    MembershipError → Prop where
  | selector {cause : ObjectError} (live : claim.metadata.isTerminating = false)
    (selects : group.selects claim = .error cause) :
    lookups.Fails group groups claim (.object cause)
  | storageClass {name : String} {cause : ClusterError} (wants : group.Wants claim)
    (unlisted : group.lists claim = false) (exclusive : checkExclusive claim groups = .ok ())
    (classed : claim.storageClassName? = some name)
    (answer : lookups.storageClass name = .error cause) (present : cause.isNotFound = false) :
    lookups.Fails group groups claim (.cluster cause)
  | noVolume {name : String} {cause : ClusterError} (kept : lookups.Keeps group groups claim)
    (bound : claim.volumeName? = some name) (answer : lookups.volume name = .error cause)
    (absent : cause.isNotFound = true) :
    lookups.Fails group groups claim (.volumeNotFound (Resource.key claim) name)
  | volume {name : String} {cause : ClusterError} (kept : lookups.Keeps group groups claim)
    (bound : claim.volumeName? = some name) (answer : lookups.volume name = .error cause)
    (present : cause.isNotFound = false) : lookups.Fails group groups claim (.cluster cause)
  | notDriver {name : String} {volume : Volume} (kept : lookups.Keeps group groups claim)
    (bound : claim.volumeName? = some name) (found : lookups.volume name = .ok volume)
    (unserved : volume.handle? = none) :
    lookups.Fails group groups claim (.notDriverVolume (Resource.key claim) name)

variable {lookups : Lookups} {group : Group} {groups : List Group} {claim : Claim}

/-- A claim may join a group, may not, or its class of volumes cannot be read. -/
theorem admits_or_refuses (lookups : Lookups) (groups : List Group) (claim : Claim) :
    lookups.Admits groups claim ∨ (∃ cause, lookups.Refuses groups claim cause) ∨
      checkExclusive claim groups = .ok () ∧ ∃ name cause, claim.storageClassName? = some name ∧
        lookups.storageClass name = .error cause ∧ cause.isNotFound = false := by
  -- First the other groups are asked, and then the class of volumes.
  cases exclusive : checkExclusive claim groups with
  | error cause => exact .inr (.inl ⟨cause, .contested exclusive⟩)
  | ok =>
    cases classed : claim.storageClassName? with
    | none => exact .inl ⟨exclusive, by simp [classed]⟩
    | some name =>
      -- The claim names this one class of volumes, so nothing else can speak against it.
      have leaves (leaves : lookups.Leaves name) : lookups.Admits groups claim := by
        refine ⟨exclusive, ?_⟩
        rintro other same
        obtain rfl := Option.some.inj (classed.symm.trans same)
        exact leaves
      -- The class leaves the claim alone if it does not group volumes, or if it is gone.
      cases answer : lookups.storageClass name with
      | error cause =>
        cases absent : cause.isNotFound with
        | true => exact .inl (leaves (.inr ⟨cause, answer, absent⟩))
        | false => exact .inr (.inr ⟨rfl, name, cause, rfl, answer, absent⟩)
      | ok storageClass =>
        cases grouped : (storageClass.parameters.getD ∅).contains storageClassGroupParameter with
        | true => exact .inr (.inl ⟨_, .grouped exclusive classed ⟨storageClass, answer, grouped⟩⟩)
        | false => exact .inl (leaves (.inl ⟨storageClass, answer, grouped⟩))

/-- A claim that a group keeps is a member or waits, unless its volume cannot be told. -/
theorem Keeps.places_or_fails (kept : lookups.Keeps group groups claim) :
    (∃ standing, lookups.Places group groups claim standing) ∨
      ∃ error, lookups.Fails group groups claim error := by
  -- A claim that names no volume waits, and one that names a volume is as good as the volume.
  cases bound : claim.volumeName? with
  | none => exact .inl ⟨_, .waiting kept bound⟩
  | some name =>
    cases answer : lookups.volume name with
    | error cause =>
      cases absent : cause.isNotFound with
      | true => exact .inr ⟨_, .noVolume kept bound answer absent⟩
      | false => exact .inr ⟨_, .volume kept bound answer absent⟩
    | ok volume =>
      cases served : volume.handle? with
      | none => exact .inr ⟨_, .notDriver kept bound answer served⟩
      | some handle => exact .inl ⟨_, .member kept bound answer served⟩

/-- A claim stands somewhere, or there is a reason why that cannot be told. -/
theorem places_or_fails (lookups : Lookups) (group : Group) (groups : List Group) (claim : Claim) :
    (∃ standing, lookups.Places group groups claim standing) ∨
      ∃ error, lookups.Fails group groups claim error := by
  -- A claim that is being deleted or is not selected has no further question to answer.
  have spurned (spurns : group.Spurns claim) :
      ∃ standing, lookups.Places group groups claim standing := by
    cases listed : group.lists claim with
    | true => exact ⟨_, .departed listed spurns⟩
    | false => exact ⟨_, .irrelevant listed spurns⟩
  cases ending : claim.metadata.isTerminating with
  | true => exact .inl (spurned (.inl ending))
  | false =>
    cases selects : group.selects claim with
    | error cause => exact .inr ⟨_, .selector ending selects⟩
    | ok selected =>
      cases selected with
      | false => exact .inl (spurned (.inr selects))
      -- The claim is wanted, so it is kept or it may join.
      | true =>
        have wants : group.Wants claim := ⟨ending, selects⟩
        cases listed : group.lists claim with
        | true => exact Keeps.places_or_fails ⟨wants, .inl listed⟩
        | false =>
          rcases lookups.admits_or_refuses groups claim with admits | ⟨cause, refuses⟩ | unread
          · exact Keeps.places_or_fails ⟨wants, .inr admits⟩
          · exact .inl ⟨_, .rejected wants listed refuses⟩
          · obtain ⟨exclusive, name, cause, classed, answer, present⟩ := unread
            exact .inr ⟨_, .storageClass wants listed exclusive classed answer present⟩

section Runs

variable {σ : Type} {respond : σ → (request : Call) → request.Answer × σ}

/-- A claim that is being deleted or is not selected departs if it is listed. -/
theorem comesTo_spurned (spurned : group.Spurns claim) :
    Attempt.ComesTo respond (group.standing groups claim)
      (.ok (if group.lists claim then .departed else .irrelevant)) := by
  unfold Group.standing
  -- The labels of a claim that is being deleted are not looked at.
  cases ending : claim.metadata.isTerminating with
  | true => cases group.lists claim <;> exact .pure _
  | false =>
    have selects := spurned.resolve_left (by simp [ending])
    rw [selects]
    cases group.lists claim <;> exact .pure _

/-- A claim whose labels cannot be matched stands nowhere. -/
theorem comesTo_unmatched {cause : ObjectError} (live : claim.metadata.isTerminating = false)
    (selects : group.selects claim = .error cause) :
    Attempt.ComesTo respond (group.standing groups claim) (.error (.object cause)) := by
  unfold Group.standing
  rw [live, selects]
  exact fun _ => rfl

variable (answers : lookups.Answers respond)
include answers

/-- A lookup of a volume comes to its answer. -/
theorem Answers.getVolume (name : String) :
    Attempt.ComesTo respond (.of (.ask (.getVolume name))) (lookups.volume name) :=
  fun state => answers.volume state name

/-- A lookup of a class of volumes comes to its answer. -/
theorem Answers.getStorageClass (name : String) :
    Attempt.ComesTo respond (.of (.ask (.getStorageClass name))) (lookups.storageClass name) :=
  fun state => answers.storageClass state name

/-- The class of volumes of a claim that may join does not speak against it. -/
theorem Admits.comesTo (admits : lookups.Admits groups claim) :
    Attempt.ComesTo respond (storageClassGuard claim) (.ok none) := by
  unfold storageClassGuard
  split
  · exact .pure none
  · rename_i name classed
    refine .bind (answers.getStorageClass name).outcome ?_
    -- A class that is not there counts as one that leaves grouping to the operator.
    obtain ⟨storageClass, answer, single⟩ | ⟨cause, answer, absent⟩ := admits.classed name classed
    · simp only [answer, single, Bool.false_eq_true, if_false]
      exact .pure none
    · simp only [answer, absent, if_true]
      exact .pure none

/-- A class of volumes that groups by itself speaks against its claims. -/
theorem Groups.comesTo {name : String} (grouped : lookups.Groups name)
    (classed : claim.storageClassName? = some name) :
    Attempt.ComesTo respond (storageClassGuard claim)
      (.ok (some (.groupedByStorageClass (Resource.key claim) name))) := by
  -- The class is read, and it groups volumes by itself.
  obtain ⟨storageClass, answer, several⟩ := grouped
  unfold storageClassGuard
  rw [classed]
  refine .bind (answers.getStorageClass name).outcome ?_
  simp only [answer, several, if_true]
  exact .pure _

/-- A class of volumes that cannot be read leaves open whether it speaks against its claims. -/
theorem comesTo_unread {name : String} {cause : ClusterError}
    (classed : claim.storageClassName? = some name)
    (answer : lookups.storageClass name = .error cause) (present : cause.isNotFound = false) :
    Attempt.ComesTo respond (storageClassGuard claim) (.error (.cluster cause)) := by
  -- The class cannot be read, and it is not gone.
  unfold storageClassGuard
  rw [classed]
  refine .bind (answers.getStorageClass name).outcome ?_
  simp only [answer, present, Bool.false_eq_true, if_false]
  exact .throw _

/-- A volume that cannot be read leaves open what its claim is bound to. -/
theorem comesTo_unbound {name : String} {cause : ClusterError}
    (bound : claim.volumeName? = some name) (answer : lookups.volume name = .error cause) :
    Attempt.ComesTo respond (boundVolume claim) (.error (if cause.isNotFound then
      .volumeNotFound (Resource.key claim) name else .cluster cause)) := by
  unfold boundVolume
  rw [bound]
  -- A volume that is not there has an error of its own, and nothing follows either error.
  have read := (answers.getVolume name).within fun cause =>
    if cause.isNotFound then MembershipError.volumeNotFound (Resource.key claim) name
    else .cluster cause
  rw [answer] at read
  exact read.stop _

/-- A volume that is found names what its claim is bound to, if a driver serves it. -/
theorem comesTo_bound {name : String} {volume : Volume} (bound : claim.volumeName? = some name)
    (found : lookups.volume name = .ok volume) :
    Attempt.ComesTo respond (boundVolume claim) (match volume.handle? with
      | some handle => .ok (some (name, handle))
      | none => .error (.notDriverVolume (Resource.key claim) name)) := by
  unfold boundVolume
  rw [bound]
  -- A volume that is missing is told of in terms of the claim.
  have read := (answers.getVolume name).within fun cause =>
    if cause.isNotFound then MembershipError.volumeNotFound (Resource.key claim) name
    else .cluster cause
  rw [found] at read
  refine read.bind ?_
  -- A volume that no driver serves, or that has no name there, is an error.
  cases volume.handle? with
  | some handle => exact .pure _
  | none => exact .throw _

/-- A claim that a group keeps stands where its volume says. -/
theorem Keeps.comesTo (kept : lookups.Keeps group groups claim)
    {bound : Except MembershipError (Option (String × String))}
    (comes : Attempt.ComesTo respond (boundVolume claim) bound) :
    Attempt.ComesTo respond (group.standing groups claim) (bound.map Standing.ofBound) := by
  -- The claim is wanted, and it was listed or it may join.
  obtain ⟨⟨live, selected⟩, free⟩ := kept
  -- What remains once a claim is free to join depends on its volume alone.
  have settled : Attempt.ComesTo respond (do
      match ← boundVolume claim with
      | some (volumeName, volumeId) => return .member volumeName volumeId
      | none => return .waiting) (bound.map Standing.ofBound) := by
    cases bound with
    | error error => exact comes.stop _
    | ok bound => cases bound <;> exact comes.bind (.pure _)
  unfold Group.standing
  rw [live, selected]
  cases listed : group.lists claim with
  | true => exact settled
  | false =>
    have admits := free.resolve_left (by simp [listed])
    rw [admits.exclusive]
    exact (admits.comesTo answers).bind settled

/-- A newcomer that is refused stands aside. -/
theorem Refuses.comesTo {cause : Rejection} (refused : lookups.Refuses groups claim cause)
    (wants : group.Wants claim) (unlisted : group.lists claim = false) :
    Attempt.ComesTo respond (group.standing groups claim) (.ok (.rejected cause)) := by
  obtain ⟨live, selected⟩ := wants
  unfold Group.standing
  rw [live, selected, unlisted]
  -- The class of volumes is asked for only after the other groups.
  cases refused with
  | contested exclusive =>
    rw [exclusive]
    exact .pure _
  | grouped exclusive classed grouped =>
    rw [exclusive]
    exact (grouped.comesTo answers classed).bind (.pure _)

/-- The place at which a claim stands is what it comes to. -/
theorem Places.comesTo {standing : Standing} (places : lookups.Places group groups claim standing) :
    Attempt.ComesTo respond (group.standing groups claim) (.ok standing) := by
  -- There is one case for each of the five exits.
  cases places with
  | departed listed spurned => simpa [listed] using comesTo_spurned spurned
  | irrelevant unlisted spurned => simpa [unlisted] using comesTo_spurned spurned
  | rejected wants unlisted refused => exact refused.comesTo answers wants unlisted
  -- A claim without a volume is read for no volume.
  | waiting kept unbound =>
    have free : Attempt.ComesTo respond (boundVolume claim) (.ok none) := by
      unfold boundVolume
      rw [unbound]
      exact .pure none
    exact kept.comesTo answers free
  | member kept bound found served =>
    have settled := comesTo_bound answers bound found
    rw [served] at settled
    exact kept.comesTo answers settled

/-- The reason why it cannot be told where a claim stands is what that comes to. -/
theorem Fails.comesTo {error : MembershipError} (fails : lookups.Fails group groups claim error) :
    Attempt.ComesTo respond (group.standing groups claim) (.error error) := by
  -- The error of a selector comes first, then that of a class, and those of the volume last.
  cases fails with
  | selector live selects => exact comesTo_unmatched live selects
  | storageClass wants unlisted exclusive classed answer present =>
    obtain ⟨live, selected⟩ := wants
    unfold Group.standing
    rw [live, selected, unlisted, exclusive]
    exact (comesTo_unread answers classed answer present).stop _
  | noVolume kept bound answer absent =>
    -- The volume is not there.
    have unread := comesTo_unbound answers bound answer
    rw [absent] at unread
    exact kept.comesTo answers unread
  | volume kept bound answer present =>
    have unread := comesTo_unbound answers bound answer
    rw [present] at unread
    exact kept.comesTo answers unread
  | notDriver kept bound found unserved =>
    have settled := comesTo_bound answers bound found
    rw [unserved] at settled
    exact kept.comesTo answers settled

end Runs

end Lookups

end VolumeGroups
