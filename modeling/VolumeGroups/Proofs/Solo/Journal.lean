import VolumeGroups.Proofs.Solo.Writing

/-! What a log tells of the driver, of the claims that were refused and of all that was done. -/

namespace VolumeGroups

namespace Exchange

/-- The driver is called. -/
def drives : Exchange → Bool
  | ⟨.createDriverGroup .., _⟩ | ⟨.deleteDriverGroup .., _⟩ | ⟨.modifyMembership .., _⟩ => true
  | _ => false

/-- The refusal that a call records. -/
def refusal? : Exchange → Option Event
  | ⟨.record event, _⟩ =>
    if event.reason = Reason.membershipRejected.name then some event else none
  | _ => none

/-- The volumes that the driver's group of a handle has after this call, if the call decides that. -/
def membersAt? (handle : String) : Exchange → Option (List String)
  -- A group that was just made has no volumes, and neither has one that is gone.
  | ⟨.createDriverGroup .., .ok created⟩ => if created.handle = handle then some [] else none
  | ⟨.deleteDriverGroup other _, .ok ()⟩ => if other = handle then some [] else none
  | ⟨.modifyMembership other volumeIds _, .ok ()⟩ => if other = handle then some volumeIds else none
  | _ => none

/-- A call that leaves the driver alone decides no membership. -/
theorem membersAt?_of_drives {exchange : Exchange} (aside : exchange.drives = false)
    (handle : String) : exchange.membersAt? handle = none := by
  rcases exchange with ⟨request, answer⟩
  cases request <;> first | rfl | cases aside

end Exchange

/-- The calls of the driver, the latest first. -/
def driven (log : List Exchange) : List Exchange := log.filter Exchange.drives

/-- The refusals that were recorded, the latest first. -/
def refusals (log : List Exchange) : List Event := log.filterMap Exchange.refusal?

/-- The volumes that the driver's group of a handle has after some calls, if they decide that. -/
def membersAt? (handle : String) (log : List Exchange) : Option (List String) :=
  log.findSome? (Exchange.membersAt? handle)

/-- Only calls of the driver decide what its groups have. -/
theorem membersAt?_driven (handle : String) (log : List Exchange) :
    membersAt? handle (driven log) = membersAt? handle log := by
  -- The induction goes along the log; calls that do not reach the driver decide nothing.
  induction log with
  | nil => rfl
  | cons exchange log ih =>
    simp only [membersAt?, driven] at ih ⊢
    cases drives : exchange.drives with
    | true => simp [drives, List.findSome?_cons, ih]
    | false => simp [drives, ih, Exchange.membersAt?_of_drives drives handle]

/-- A log goes on in which the driver gets some calls and some refusals are recorded. -/
structure GrowsByCalls (calls : List Exchange) (told : List Event) (before after : List Exchange) :
    Prop where
  longer : ∀ exchange ∈ before, exchange ∈ after
  driven : driven after = calls ++ driven before
  refusals : refusals after = told ++ refusals before

namespace GrowsByCalls

variable {calls more : List Exchange} {told further : List Event}
  {first second third : List Exchange}

/-- A log goes on with no calls at all. -/
theorem refl (log : List Exchange) : GrowsByCalls [] [] log log := ⟨fun _ => id, rfl, rfl⟩

/-- A log that goes on twice goes on. -/
theorem trans (before : GrowsByCalls calls told first second)
    (after : GrowsByCalls more further second third) :
    GrowsByCalls (more ++ calls) (further ++ told) first third where
  longer exchange known := after.longer exchange (before.longer exchange known)
  -- The latest calls are in front, so what is done later is in front as well.
  driven := by rw [after.driven, before.driven, List.append_assoc]
  refusals := by rw [after.refusals, before.refusals, List.append_assoc]

/-- Calls that are quiet neither reach the driver nor tell of refusals. -/
theorem of_quiet (quiet : Extends Call.IsSilent first second) :
    GrowsByCalls [] [] first second := by
  obtain ⟨made, rfl, sort⟩ := quiet
  -- A silent call is on neither of the two lists.
  have aside : ∀ exchange ∈ made, exchange.drives = false ∧ exchange.refusal? = none := by
    rintro ⟨request, answer⟩ known
    have sort := sort _ known
    cases request <;> first
      | exact ⟨rfl, rfl⟩
      | exact ⟨rfl, if_neg sort⟩
      | exact sort.elim
  refine ⟨fun exchange known => List.mem_append_right made known, ?_, ?_⟩
  · -- None of the calls went to the driver.
    have none : made.filter Exchange.drives = [] :=
      List.filter_eq_nil_iff.mpr fun exchange known => by simp [aside exchange known]
    simp [VolumeGroups.driven, none]
  · -- None of them was a refusal.
    have none : made.filterMap Exchange.refusal? = [] :=
      List.filterMap_eq_nil_iff.mpr fun exchange known => (aside exchange known).2
    simp [VolumeGroups.refusals, none]

/-- A log goes on quietly after it went on. -/
theorem quiet (before : GrowsByCalls calls told first second)
    (after : Extends Call.IsSilent second third) : GrowsByCalls calls told first third := by
  simpa using before.trans (of_quiet after)

/-- A log goes on after it went on quietly. -/
theorem after_quiet (before : Extends Call.IsSilent first second)
    (after : GrowsByCalls calls told second third) : GrowsByCalls calls told first third := by
  simpa using (of_quiet before).trans after

/-- A call of the driver is added to a log. -/
theorem drive {exchange : Exchange} (drives : exchange.drives = true)
    (silent : exchange.refusal? = none) (log : List Exchange) :
    GrowsByCalls [exchange] [] log (exchange :: log) where
  longer _ known := List.mem_cons_of_mem _ known
  -- The call is one of the driver and no event, so only the first list grows.
  driven := by simp [VolumeGroups.driven, drives]
  refusals := by simp [VolumeGroups.refusals, silent]

/-- A refusal is added to a log. -/
theorem refuse {event : Event} (refusal : event.reason = Reason.membershipRejected.name)
    (answer : Except ClusterError Unit) (log : List Exchange) :
    GrowsByCalls [] [event] log (⟨.record event, answer⟩ :: log) where
  longer _ known := List.mem_cons_of_mem _ known
  -- The event goes to the cluster, so only the second list grows.
  driven := by simp [VolumeGroups.driven, Exchange.drives]
  refusals := by simp [VolumeGroups.refusals, Exchange.refusal?, refusal]

end GrowsByCalls

/-- A call is a look or it is not. -/
instance : DecidablePred Call.IsLook
  | .getGroup .. | .listGroups _ | .getClass _ | .getContent .. | .getSecret .. | .listClaims _
  | .getVolume _ | .getStorageClass _ => .isTrue trivial
  | .replaceGroup _ | .replaceGroupStatus _ | .createContent _ | .replaceContent _
  | .replaceContentStatus _ | .deleteContent .. | .replaceClaim _ | .record _
  | .createDriverGroup .. | .deleteDriverGroup .. | .modifyMembership .. | .readClock => .isFalse id

/-- The calls that were more than looks, the latest first. -/
def doings (log : List Exchange) : List Call :=
  (log.map Exchange.request).filter fun request => ¬ request.IsLook

/-- A log goes on in which nothing is done but some calls. -/
def GrowsByDoings (calls : List Call) (before after : List Exchange) : Prop :=
  ∃ made, after = made ++ before ∧ doings made = calls

namespace GrowsByDoings

variable {calls more : List Call} {first second third : List Exchange}

/-- Nothing is done without any call. -/
theorem refl (log : List Exchange) : GrowsByDoings [] log log := ⟨[], rfl, rfl⟩

/-- What is done in two parts is done. -/
theorem trans (before : GrowsByDoings calls first second)
    (after : GrowsByDoings more second third) : GrowsByDoings (more ++ calls) first third := by
  -- Each part adds calls of its own in front of the log.
  obtain ⟨made, rfl, did⟩ := before
  obtain ⟨further, rfl, next⟩ := after
  exact ⟨further ++ made, (List.append_assoc ..).symm, by
    rw [doings, List.map_append, List.filter_append, ← doings, ← doings, did, next]⟩

/-- Nothing is done by looks. -/
theorem of_looks (looks : Extends Call.IsLook first second) : GrowsByDoings [] first second := by
  obtain ⟨made, rfl, sort⟩ := looks
  -- A look is filtered out of what was made, so nothing is left.
  refine ⟨made, rfl, List.filter_eq_nil_iff.mpr fun request known => ?_⟩
  obtain ⟨exchange, there, rfl⟩ := List.mem_map.mp known
  simpa using sort exchange there

/-- A call that is no look is done. -/
theorem single {exchange : Exchange} (more : ¬ exchange.request.IsLook) (log : List Exchange) :
    GrowsByDoings [exchange.request] log (exchange :: log) :=
  ⟨[exchange], rfl, by simp [doings, more]⟩

end GrowsByDoings

end VolumeGroups
