import VolumeGroups.Proofs.Operator.Conduct

/-! The order in which a pass takes a terminating group down: the driver's group goes first, then the
marks of claims and content, and the mark of the group last. -/

namespace VolumeGroups

/-- What failed is that something is not there. -/
def CallFailure.isNotFound : CallFailure → Bool
  | .cluster cause => cause.isNotFound
  | .driver cause => cause.isNotFound

/-- A call succeeded, or it looked for or deleted something that is not there. -/
def Exchange.IsSmooth (exchange : Exchange) : Prop :=
  ∀ failure, exchange.failure? = some failure → failure.isNotFound = true ∧
    exchange.request.method ∈ [.getContent, .deleteContent, .deleteDriverGroup]

/-- A content is found by looking for it. -/
theorem Exchange.method_of_content? {exchange : Exchange} {content : Content}
    (found : exchange.content? = some content) : exchange.request.method = .getContent := by
  obtain ⟨request, answer⟩ := exchange
  cases request <;> first | rfl | cases found

/-- A call that succeeded is smooth. -/
theorem Exchange.IsSmooth.of_worked {exchange : Exchange} (worked : exchange.failure? = none) :
    exchange.IsSmooth := by
  intro failure failed
  rw [worked] at failed
  cases failed

/-- The content of a group was looked for under the name that the group goes by, and was given or is not
there. -/
def Sought (group : Group) (log : List Exchange) : Prop :=
  ∃ space answer, group.metadata.namespace = some space ∧
    ⟨.getContent group.contentName space, answer⟩ ∈ log ∧
      Exchange.IsSmooth ⟨.getContent group.contentName space, answer⟩

/-- By the end of the earlier calls the driver has no group any more of the handle of any content that is
found by any call of the log, be it earlier or later. -/
def Undone (log earlier : List Exchange) : Prop :=
  ∀ exchange ∈ log, ∀ content, exchange.content? = some content →
    ∀ handle, content.handle? = some handle → ∃ other ∈ earlier, other.drops? = some handle

/-- A call that may take the mark off a claim, a content or a group, or that deletes a content. -/
def Call.LetsGo (request : Call) : Prop :=
  request.method ∈ [.replaceClaim, .replaceContent, .deleteContent, .replaceGroup]

/-- The names of the volumes that a content records, if there is one. -/
def recordedVolumes (content : Option Content) : List String :=
  ((content.bind Content.status).map ContentStatus.volumeNames).getD []

/-- A terminating group, which the pass has in a later form, has let go of its claims. -/
structure Disbanded (group held : Group) (volumeNames : List String) (log : List Exchange) :
    Prop where
  -- The pass has this form of the group in hand.
  latest : latest? log = some held
  /-- The group has no members recorded any more. -/
  forgotten : group.members ≠ [] → ∃ exchange ∈ log, exchange.members? = some []
  /-- Every claim that the group had to release has lost its mark. -/
  released : ∃ space claims groups, group.metadata.namespace = some space ∧
    ⟨.listClaims space, .ok claims⟩ ∈ log ∧ ⟨.listGroups space, .ok groups⟩ ∈ log ∧
      ∀ claim ∈ claims, group.owes volumeNames claim = true → claim.isMarked = true →
        (∀ other ∈ groups, other.name ≠ held.name → other.lists claim = false) →
          ∃ exchange ∈ log, exchange.marks? (Resource.key claim) = some false

/-- A content is not there any more. -/
def Removed (content : Content) (log : List Exchange) : Prop :=
  ∃ exchange ∈ log, exchange.removes? =
    some (content.metadata.name.getD "", content.metadata.namespace.getD "")

/-- All that a terminating group still owed to others is done. -/
structure Cleared (group : Group) (log : List Exchange) : Prop where
  smooth : ∀ exchange ∈ log, exchange.IsSmooth
  disbanded : ∃ held, Disbanded group held (recordedVolumes (found? log)) log
  removed : ∀ content, found? log = some content → Removed content log

/-- What has come before a call of a pass over a terminating group. -/
structure Teardown (group : Group) (log : List Exchange) (request : Call) : Prop where
  /-- Nothing follows the write that takes the mark off the group. -/
  last : ∀ exchange ∈ log, exchange.request.method ≠ .replaceGroup
  /-- The driver neither makes a group nor changes the members of one. -/
  spares : request.method ∉ [.createDriverGroup, .modifyMembership]
  /-- The content is looked for once. -/
  once : request.method = .getContent → ∀ exchange ∈ log, exchange.request.method ≠ .getContent
  /-- The content is looked for before any mark and before the content itself goes. -/
  sought : request.LetsGo → Sought group log
  /-- The driver's group goes before any mark and before the content. -/
  undone : request.LetsGo → Undone log log
  /-- The mark of the group goes after all else. -/
  cleared : request.method = .replaceGroup → Cleared group log

/-- Every call of a pass that began with a terminating group is part of its teardown. -/
def Dismantling : Rule := fun log request =>
  (log = [] → request.method = .getGroup) ∧
    ∀ group, origin? log = some group → group.isTerminating = true → Teardown group log request

/-- A pass began with a group, and has not taken its mark off. -/
structure Underway (group : Group) (log : List Exchange) : Prop where
  origin : origin? log = some group
  unreleased : ∀ exchange ∈ log, exchange.request.method ≠ .replaceGroup

namespace Underway

variable {group : Group} {before after log : List Exchange} {calls : Call → Prop}

/-- A pass is still underway after calls that write no group. -/
theorem later (underway : Underway group before) (goes : Extends calls before after)
    (apart : ∀ request, calls request → request.method ≠ .replaceGroup) : Underway group after where
  origin := by
    obtain ⟨made, rfl, _⟩ := goes
    exact (origin?_append made (ne_nil_of_origin? underway.origin)).trans underway.origin
  unreleased exchange known :=
    (goes.mem_or known).elim (underway.unreleased exchange) (apart exchange.request)

/-- A pass is still underway after one such call. -/
theorem cons (underway : Underway group log) {exchange : Exchange}
    (apart : exchange.request.method ≠ .replaceGroup) : Underway group (exchange :: log) :=
  underway.later (.cons _ _) fun _ same => same ▸ apart

/-- A pass that is underway may make every call that makes, changes, releases or deletes nothing and does
not look for a content. -/
theorem allows (underway : Underway group log) {request : Call}
    (harmless : request.method ∉ [.createDriverGroup, .modifyMembership, .replaceClaim,
      .replaceContent, .deleteContent, .replaceGroup, .getContent]) : Dismantling log request := by
  simp only [List.mem_cons, List.not_mem_nil, or_false, not_or] at harmless
  obtain ⟨create, modify, claim, content, delete, own, look⟩ := harmless
  have keeps : ¬ request.LetsGo := by simp [Call.LetsGo, claim, content, delete, own]
  -- The call has none of the methods that a teardown asks anything of.
  exact ⟨fun none => absurd none (ne_nil_of_origin? underway.origin), fun first _ _ =>
    { last := underway.unreleased
      spares := by simp [create, modify]
      once := fun looks => absurd looks look
      sought := fun goes => absurd goes keeps
      undone := fun goes => absurd goes keeps
      cleared := fun writes => absurd writes own }⟩

end Underway

/-- A pass is underway without having failed, and has found a content or none. -/
structure Steady (group : Group) (content : Option Content) (log : List Exchange) : Prop
    extends Underway group log where
  smooth : ∀ exchange ∈ log, exchange.IsSmooth
  found : found? log = content
  /-- Nothing but that content was ever found. -/
  only : ∀ exchange ∈ log, exchange.content? = none ∨ exchange.content? = content

namespace Steady

variable {group : Group} {content : Option Content} {log : List Exchange} {exchange : Exchange}

/-- A pass is still steady after a smooth call that neither writes the group nor looks for a content. -/
theorem cons (steady : Steady group content log)
    (apart : exchange.request.method ≠ .replaceGroup ∧ exchange.request.method ≠ .getContent)
    (smooth : exchange.IsSmooth) : Steady group content (exchange :: log) := by
  -- A call that does not look for a content finds none.
  have silent : exchange.content? = none := by
    obtain ⟨request, answer⟩ := exchange
    cases request <;> first | rfl | exact absurd rfl apart.2
  refine ⟨steady.toUnderway.cons apart.1, ?_, ?_, ?_⟩
  · simpa using ⟨smooth, steady.smooth⟩
  · simpa [found?, silent] using steady.found
  · simpa [silent] using steady.only

/-- A pass is still steady after it has found a content or none. -/
theorem find (steady : Steady group none log) (apart : exchange.request.method ≠ .replaceGroup)
    (smooth : exchange.IsSmooth) (found : exchange.content? = content) :
    Steady group content (exchange :: log) := by
  -- Nothing was found so far.
  have nothing (other : Exchange) (known : other ∈ log) : other.content? = none := by
    simpa using steady.only other known
  refine ⟨steady.toUnderway.cons apart, ?_, ?_, ?_⟩
  · -- All calls so far worked.
    simpa using ⟨smooth, steady.smooth⟩
  · -- What is found first is what was found now.
    cases content with
    | none => simpa [found?, found] using nothing
    | some content => simp [found?, found]
  · -- Nobody else has found anything.
    simpa [found] using fun other known => .inl (nothing other known)

end Steady

/-- A pass is steady, and has neither written its group nor looked for a content. -/
structure Fresh (group : Group) (log : List Exchange) : Prop extends Steady group none log where
  latest : latest? log = some group
  unsought : ∀ exchange ∈ log, exchange.request.method ≠ .getContent

namespace Fresh

variable {group : Group} {log : List Exchange}

/-- A pass is still fresh after a call that succeeds and does not concern its group or a content. -/
theorem cons (fresh : Fresh group log) {exchange : Exchange} (worked : exchange.failure? = none)
    (apart : exchange.request.method ≠ .replaceGroup ∧ exchange.request.method ≠ .getContent)
    (silent : exchange.group? = none) : Fresh group (exchange :: log) where
  toSteady := fresh.toSteady.cons apart (.of_worked worked)
  latest := by simpa [latest?, silent] using fresh.latest
  unsought := List.forall_mem_cons.mpr ⟨apart.2, fresh.unsought⟩

/-- A pass that has not looked for a content may do so. -/
theorem allows_lookup (fresh : Fresh group log) (name space : String) :
    Dismantling log (.getContent name space) := by
  -- A look lets nothing go.
  have keeps : ¬ (Call.getContent name space).LetsGo := by simp [Call.LetsGo, Call.method]
  exact ⟨fun none => absurd none (ne_nil_of_origin? fresh.origin), fun first _ _ =>
    { last := fresh.unreleased
      spares := by simp [Call.method]
      once := fun _ => fresh.unsought
      sought := fun goes => absurd goes keeps
      undone := fun goes => absurd goes keeps
      cleared := by rintro ⟨⟩ }⟩

end Fresh

/-- A content that was looked for stays so after further calls. -/
theorem Sought.cons {group : Group} {log : List Exchange} (sought : Sought group log)
    (exchange : Exchange) : Sought group (exchange :: log) := by
  obtain ⟨space, answer, inSpace, looked, smooth⟩ := sought
  exact ⟨space, answer, inSpace, List.mem_cons_of_mem _ looked, smooth⟩

/-- What a pass over a terminating group has done by the time that the driver's group is gone. -/
structure Dismantled (group : Group) (content : Option Content) (log : List Exchange) : Prop
    extends Steady group content log where
  sought : Sought group log
  dropped : ∀ handle, content.bind Content.handle? = some handle →
    ∃ exchange ∈ log, exchange.drops? = some handle

namespace Dismantled

variable {group : Group} {content : Option Content} {log : List Exchange}

/-- What was done stays done after a smooth call that neither writes the group nor looks for a
content. -/
theorem cons (dismantled : Dismantled group content log) {exchange : Exchange}
    (apart : exchange.request.method ≠ .replaceGroup ∧ exchange.request.method ≠ .getContent)
    (smooth : exchange.IsSmooth) : Dismantled group content (exchange :: log) where
  toSteady := dismantled.toSteady.cons apart smooth
  sought := dismantled.sought.cons exchange
  dropped handle named :=
    (dismantled.dropped handle named).imp fun _ dropped => ⟨List.mem_cons_of_mem _ dropped.1, dropped.2⟩

/-- No group is left at the driver. -/
theorem undone (dismantled : Dismantled group content log) : Undone log log := by
  intro exchange known other found handle named
  refine dismantled.dropped handle ?_
  rcases dismantled.only exchange known with silent | same
  · simp [silent] at found
  · rw [← same, found]
    exact named

/-- Once the driver's group is gone, marks of claims and contents may go as well as the content. -/
theorem allows (dismantled : Dismantled group content log) {request : Call}
    (releases : request.method ∈ [.replaceClaim, .replaceContent, .deleteContent]) :
    Dismantling log request := by
  simp only [List.mem_cons, List.not_mem_nil, or_false] at releases
  refine ⟨fun none => absurd none (ne_nil_of_origin? dismantled.origin), fun first began _ => ?_⟩
  obtain rfl := Option.some.inj (dismantled.origin.symm.trans began)
  refine ⟨dismantled.unreleased, ?_, ?_, fun _ => dismantled.sought, fun _ => dismantled.undone, ?_⟩
  -- What is left concerns other methods than the three that let something go.
  all_goals rcases releases with same | same | same <;> simp [same]

end Dismantled

/-- What was let go stays so after calls that bring no group. -/
theorem Disbanded.later {group held : Group} {volumeNames : List String}
    {before after : List Exchange} (disbanded : Disbanded group held volumeNames before)
    (goes : Extends Call.IsApart before after) : Disbanded group held volumeNames after where
  -- No call that is apart brings a group.
  latest := (goes.findSome? fun _ apart => apart.leavesHand.silent.1).trans disbanded.latest
  forgotten some := (disbanded.forgotten some).imp fun _ recorded => recorded.imp_left goes.mem
  -- What was counted and freed stays in the log.
  released := by
    obtain ⟨space, claims, groups, inSpace, counted, looked, freed⟩ := disbanded.released
    refine ⟨space, claims, groups, inSpace, goes.mem counted, goes.mem looked, ?_⟩
    intro claim known owed marked free
    exact (freed claim known owed marked free).imp fun _ written => written.imp_left goes.mem

end VolumeGroups
