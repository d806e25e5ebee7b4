import VolumeGroups.Rehearsal

/-! Which handles of the driver a log of calls leaves open, made but not yet deleted or recorded. -/

namespace VolumeGroups

namespace Exchange

/-- The handle of a group that the driver made by this call. -/
def makes? : Exchange → Option String
  | ⟨.createDriverGroup .., .ok created⟩ =>
    -- An empty handle names no group.
    if created.handle.isEmpty then none else some created.handle
  | _ => none

/-- The handle that a content stored by this call records. -/
def records? : Exchange → Option String
  | ⟨.createContent content, .ok _⟩ => content.handle?
  | _ => none

/-- The handle of a group that the driver does not have any more after this call. -/
def drops? : Exchange → Option String
  | ⟨.deleteDriverGroup handle _, .ok ()⟩ => some handle
  | ⟨.deleteDriverGroup handle _, .error cause⟩ => if cause.isNotFound then some handle else none
  | _ => none

/-- A call drops no handle but the one that it is about. -/
theorem drops?_eq_some {handle other : String} {secrets : KeyMap String}
    {answer : (Call.deleteDriverGroup handle secrets).Answer}
    (drops : (Exchange.mk (.deleteDriverGroup handle secrets) answer).drops? = some other) :
    other = handle := by
  -- A success drops the handle, and so does a failure that says the driver never had it.
  cases answer with
  | ok => exact (Option.some.inj drops).symm
  | error cause =>
    simp only [drops?] at drops
    split at drops
    · exact (Option.some.inj drops).symm
    · cases drops

/-- The call concerns no handle. -/
structure IsSilent (exchange : Exchange) : Prop where
  makes : exchange.makes? = none
  records : exchange.records? = none
  drops : exchange.drops? = none

/-- A call that neither makes nor deletes a group of the driver nor stores a content concerns no
handle. -/
theorem isSilent (request : Call) (answer : request.Answer)
    (apart : request.method ≠ .createDriverGroup ∧ request.method ≠ .createContent ∧
      request.method ≠ .deleteDriverGroup) : (Exchange.mk request answer).IsSilent := by
  -- Only those three calls are looked at, whatever the others answer.
  cases request <;> first | exact ⟨rfl, rfl, rfl⟩ | simp [Call.method] at apart

end Exchange

/-- The driver made a group of that handle, and nothing has settled it since. -/
def Pending (settles? : Exchange → Option String) (handle : String) : List Exchange → Prop
  | [] => False
  | exchange :: log =>
    exchange.makes? = some handle ∨ Pending settles? handle log ∧ settles? exchange ≠ some handle

namespace Pending

variable {settles? : Exchange → Option String} {handle : String} {exchange : Exchange}
  {log : List Exchange}

/-- Whether a handle is pending can be read off the log. -/
instance decide (settles? : Exchange → Option String) (handle : String) :
    (log : List Exchange) → Decidable (Pending settles? handle log)
  | [] => inferInstanceAs (Decidable False)
  | exchange :: log =>
    have := decide settles? handle log
    inferInstanceAs (Decidable
      (exchange.makes? = some handle ∨ Pending settles? handle log ∧
        settles? exchange ≠ some handle))

/-- A handle is pending if and only if it was made at some time and not settled after that. -/
theorem iff_exists : Pending settles? handle log ↔
    ∃ later event earlier, log = later ++ event :: earlier ∧ event.makes? = some handle ∧
      ∀ exchange ∈ later, settles? exchange ≠ some handle := by
  -- The induction goes along the log, from the latest call on.
  induction log with
  | nil => simp [Pending]
  | cons exchange log ih =>
    simp only [Pending, ih]
    constructor
    · -- The latest call made the handle, or an earlier one did and the latest one left it open.
      rintro (makes | ⟨⟨later, event, earlier, rfl, makes, none⟩, open'⟩)
      · exact ⟨[], exchange, log, rfl, makes, by simp⟩
      · exact ⟨exchange :: later, event, earlier, rfl, makes, by simpa using ⟨open', none⟩⟩
    · -- What comes after the making is nothing, or begins with the latest call.
      rintro ⟨later, event, earlier, split, makes, none⟩
      rcases List.cons_eq_append_iff.mp split with ⟨rfl, same⟩ | ⟨rest, rfl, rfl⟩
      · cases same
        exact Or.inl makes
      · exact Or.inr ⟨⟨rest, event, earlier, rfl, makes, fun other known =>
          none other (List.mem_cons_of_mem _ known)⟩, none exchange (List.mem_cons_self ..)⟩

/-- A call that makes and settles nothing leaves all handles as they are. -/
theorem cons_iff (makes : exchange.makes? = none) (settles : settles? exchange = none) :
    Pending settles? handle (exchange :: log) ↔ Pending settles? handle log := by
  simp [Pending, makes, settles]

/-- A log without the calls that neither make nor settle anything leaves the same handles open. -/
theorem filter_iff {keep : Exchange → Bool}
    (dropped : ∀ exchange, keep exchange = false → exchange.makes? = none ∧ settles? exchange = none)
    (log : List Exchange) :
    Pending settles? handle (log.filter keep) ↔ Pending settles? handle log := by
  -- A call that is kept counts in both logs, and one that is dropped counts in neither.
  induction log with
  | nil => exact Iff.rfl
  | cons exchange log ih =>
    cases kept : keep exchange with
    | true => simp only [List.filter_cons_of_pos kept, Pending, ih]
    | false =>
      obtain ⟨makes, settles⟩ := dropped exchange kept
      rw [List.filter_cons_of_neg (by simp [kept]), ih, cons_iff makes settles]

end Pending

/-- The driver made no group. -/
def Unmade (log : List Exchange) : Prop := ∀ exchange ∈ log, exchange.makes? = none

/-- Where the driver made no group, nothing is pending. -/
theorem Unmade.not_pending {log : List Exchange} (unmade : Unmade log)
    (settles? : Exchange → Option String) (handle : String) : ¬ Pending settles? handle log := by
  intro pending
  obtain ⟨later, event, earlier, rfl, makes, _⟩ := Pending.iff_exists.mp pending
  simp [unmade event (by simp)] at makes

/-- A call that makes no group makes no difference to that. -/
theorem Unmade.cons {exchange : Exchange} {log : List Exchange} (unmade : Unmade log)
    (makes : exchange.makes? = none) : Unmade (exchange :: log) := by
  intro other known
  rcases List.mem_cons.mp known with rfl | known
  · exact makes
  · exact unmade other known

/-- A stretch of calls in which no handle is made, recorded or deleted. -/
structure Quiescent (before after : List Exchange) : Prop where
  drops : ∀ {handle : String}, Pending Exchange.drops? handle after ↔
    Pending Exchange.drops? handle before
  records : ∀ {handle : String}, Pending Exchange.records? handle after ↔
    Pending Exchange.records? handle before
  unmade : Unmade before → Unmade after

namespace Quiescent

variable {first second third : List Exchange}

/-- Where no call is made, nothing happens to handles. -/
theorem refl (log : List Exchange) : Quiescent log log := ⟨Iff.rfl, Iff.rfl, id⟩

/-- Two stretches in which nothing happens to handles are one. -/
theorem trans (before : Quiescent first second) (after : Quiescent second third) :
    Quiescent first third :=
  ⟨after.drops.trans before.drops, after.records.trans before.records,
    fun unmade => after.unmade (before.unmade unmade)⟩

/-- A call that concerns no handle is such a stretch. -/
theorem of_silent {exchange : Exchange} (silent : exchange.IsSilent)
    (told : second = exchange :: first) : Quiescent first second := by
  subst told
  exact ⟨Pending.cons_iff silent.makes silent.drops, Pending.cons_iff silent.makes silent.records,
    fun unmade => unmade.cons silent.makes⟩

end Quiescent

/-- A handle is still to be deleted exactly if it is still to be recorded. -/
def Balanced (log : List Exchange) : Prop :=
  ∀ handle, Pending Exchange.drops? handle log ↔ Pending Exchange.records? handle log

/-- A ledger stays balanced while nothing happens to handles. -/
theorem Balanced.later {before after : List Exchange} (balanced : Balanced before)
    (log : Quiescent before after) : Balanced after :=
  fun handle => log.drops.trans ((balanced handle).trans log.records.symm)

end VolumeGroups
